import Scaffold.Json.Value
import Scaffold.Proofs.Json.Numbers
import Scaffold.Proofs.Json.Telling

/-!
# Texts that mean a value

A text means a value if it spells it in any way, with any blanks between its parts. Every value is
read from the texts that mean it, as long as no more lists and objects are open at once than the
reader allows.
-/

namespace Scaffold.Json

/-- The members of an object of which several may have the same key: the last one of them counts. -/
def lastOnes (members : List (String × Value)) : List (String × Value) :=
  members.foldl (fun kept member => setMember member.1 member.2 kept) []

/-- The text means the value, with at most so many lists and objects open at once. -/
inductive Means : Nat → Value → List Char → Prop
  | null {depth : Nat} : Means depth .null "null".toList
  | true {depth : Nat} : Means depth (.bool true) "true".toList
  | false {depth : Nat} : Means depth (.bool false) "false".toList
  /-- A number that is in range. -/
  | number {depth : Nat} {n : Number} {text : List Char} (read : readNumber false text = .ok (n, [])) :
    Means depth (.number n) text
  | negative {depth : Nat} {n : Number} {text : List Char} (read : readNumber true text = .ok (n, [])) :
    Means depth (.number n) ('-' :: text)
  | string {depth : Nat} {s : String} {text : List Char} (spelled : Spells s text) :
    Means depth (.string s) text
  | list {depth : Nat} {items : List Value} {texts : List (List Char)} {text : List Char}
    (same : items.length = texts.length)
    (each : ∀ pair ∈ items.zip texts, Means depth pair.1 pair.2)
    (enclosed : Enclosed '[' ']' texts text) : Means (depth + 1) (.list items) text
  | object {depth : Nat} {members : List (String × Value)} {told : List Member} {text : List Char}
    (keys : List.Forall₂ (fun member m => Spells member.1 m.1) members told)
    (values : ∀ pair ∈ members.zip told, Means depth pair.1.2 pair.2.2)
    (isObject : IsObject told text) : Means (depth + 1) (.object (lastOnes members)) text

variable {depth fuel : Nat} {first : Bool} {v : Value} {n : Number} {negative : Bool}
  {text inner rest blanks : List Char} {items : List Value} {texts : List (List Char)}
  {members kept : List (String × Value)} {told : List Member}

/-! ## How values begin -/

theorem readNumber_cons (h : readNumber negative text = .ok (n, rest)) :
    ∃ c more, text = c :: more ∧ c.isDigit = true := by
  cases text with
  | nil => cases h
  | cons c more =>
    refine ⟨c, more, rfl, ?_⟩
    by_contra other
    have notZero : c ≠ '0' := by
      rintro rfl
      exact other rfl
    simp [readNumber, notZero, other] at h

theorem opens_meant (h : Means depth v text) : Opens text := by
  cases h with
  | null => exact ⟨'n', _, rfl, by decide, by decide, by decide, by decide⟩
  | true => exact ⟨'t', _, rfl, by decide, by decide, by decide, by decide⟩
  | false => exact ⟨'f', _, rfl, by decide, by decide, by decide, by decide⟩
  | number read =>
    obtain ⟨c, more, rfl, digit⟩ := readNumber_cons read
    exact ⟨c, more, rfl, opens_digit digit⟩
  | negative => exact ⟨'-', _, rfl, by decide, by decide, by decide, by decide⟩
  | string spelled => exact opens_spelled spelled
  | list _ _ enclosed =>
    cases enclosed
    exact ⟨'[', _, rfl, by decide, by decide, by decide, by decide⟩
  | object _ _ isObject =>
    cases isObject with
    | braces _ enclosed =>
      cases enclosed
      exact ⟨'\x7b', _, rfl, by decide, by decide, by decide, by decide⟩

/-! ## Reading -/

/-- The text is read as the value at a depth, whatever can follow it. -/
def ReadAs (depth : Nat) (v : Value) (text : List Char) : Prop :=
  ∀ fuel blanks rest, Blanks blanks → Ends rest → 2 * text.length ≤ fuel →
    readValue fuel (depth + 1) (blanks ++ (text ++ rest)) = some (v, rest)

theorem readAs_word {letter : Char} {word : List Char}
    (h : ∀ fuel blanks rest, Blanks blanks →
      readValue (fuel + 1) (depth + 1) (blanks ++ letter :: (word ++ rest)) = some (v, rest)) :
    ReadAs depth v (letter :: word) := by
  intro fuel blanks rest hb _ hf
  obtain ⟨fuel, rfl⟩ : ∃ n, fuel = n + 1 :=
    Nat.exists_eq_succ_of_ne_zero (by simp only [List.length_cons] at hf; omega)
  exact h fuel blanks rest hb

theorem readAs_string {s : String} (h : Spells s text) : ReadAs depth (.string s) text := by
  cases h with
  | quoted chars =>
    apply readAs_word
    intro fuel blanks rest hb
    rw [readValue, skipBlanks_append_cons hb rfl, List.append_assoc, List.singleton_append]
    simp only [readString_spelled chars rest]

theorem numberValue_append (ends : Ends rest) (h : readNumber negative text = .ok (n, [])) :
    numberValue negative (text ++ rest) = some (.number n, rest) := by
  rw [numberValue, readNumber_append ends h]
  rfl

theorem readAs_number (h : readNumber false text = .ok (n, [])) :
    ReadAs depth (.number n) text := by
  intro fuel blanks rest hb ends hf
  have read := numberValue_append ends h
  obtain ⟨c, more, rfl, digit⟩ := readNumber_cons h
  obtain ⟨fuel, rfl⟩ : ∃ n, fuel = n + 1 :=
    Nat.exists_eq_succ_of_ne_zero (by simp only [List.length_cons] at hf; omega)
  rw [List.cons_append] at read ⊢
  rw [readValue, skipBlanks_append_cons hb (opens_digit digit).1]
  split
  all_goals
    rename_i same
    cases same
  any_goals cases digit
  rw [if_pos digit]
  exact read

theorem readAs_negative (h : readNumber true text = .ok (n, [])) :
    ReadAs depth (.number n) ('-' :: text) := by
  intro fuel blanks rest hb ends hf
  obtain ⟨fuel, rfl⟩ : ∃ n, fuel = n + 1 :=
    Nat.exists_eq_succ_of_ne_zero (by simp only [List.length_cons] at hf; omega)
  rw [List.cons_append, readValue, skipBlanks_append_cons hb rfl]
  exact numberValue_append ends h

theorem readValues_parts (head : ReadAs depth v text) (parts : Parts false texts inner)
    (same : items.length = texts.length)
    (each : ∀ pair ∈ items.zip texts, ReadAs depth pair.1 pair.2) (hb : Blanks blanks)
    (rest : List Char) (hf : 2 * (text.length + inner.length) < fuel) :
    readValues fuel (depth + 1) (blanks ++ (text ++ (inner ++ ']' :: rest))) =
      some (v :: items, rest) := by
  generalize hfirst : false = first at parts
  induction parts generalizing v text blanks fuel items with
  | none gap =>
    obtain ⟨fuel, rfl⟩ := Nat.exists_eq_succ_of_ne_zero (Nat.ne_zero_of_lt hf)
    have closing := ends_blanks gap (ends_cons (c := ']') (by decide) rest)
    have none : items = [] := List.eq_nil_of_length_eq_zero same
    rw [readValues, head fuel blanks _ hb closing (by omega), none]
    simp only [Option.bind_eq_bind, Option.bind_some, skipBlanks_append_cons gap (c := ']') rfl]
  | @part _ _ next inner texts lead more ih =>
    subst hfirst
    obtain ⟨fuel, rfl⟩ := Nat.exists_eq_succ_of_ne_zero (Nat.ne_zero_of_lt hf)
    cases lead with
    | @next before after gap gap' =>
      obtain ⟨item, items, rfl⟩ : ∃ item more, items = item :: more :=
        List.exists_cons_of_length_eq_add_one same
      have comma := ends_blanks gap (ends_cons (c := ',') (by decide)
        (after ++ (next ++ (inner ++ ']' :: rest))))
      simp only [List.append_assoc, List.cons_append, List.length_append, List.length_cons] at hf ⊢
      have here : ReadAs depth item next := each (item, next) List.mem_cons_self
      have enough : 2 * (next.length + inner.length) < fuel := by omega
      have others := ih here (Nat.succ.inj same)
        (fun pair mem => each pair (List.mem_cons_of_mem _ mem)) gap' enough rfl
      rw [readValues, head fuel blanks _ hb comma (by omega)]
      simp only [Option.bind_eq_bind, Option.bind_some, skipBlanks_append_cons gap (c := ',') rfl,
        others]

theorem readAs_list (same : items.length = texts.length)
    (each : ∀ pair ∈ items.zip texts, ReadAs depth pair.1 pair.2) (opens : ∀ t ∈ texts, Opens t)
    (enclosed : Enclosed '[' ']' texts text) : ReadAs (depth + 1) (.list items) text := by
  intro fuel blanks rest hb ends hf
  cases enclosed with
  | brackets parts =>
    obtain ⟨fuel, rfl⟩ : ∃ n, fuel = n + 1 :=
      Nat.exists_eq_succ_of_ne_zero (by simp at hf; omega)
    simp only [List.cons_append, List.append_assoc, List.nil_append, List.length_cons,
      List.length_append, List.length_nil] at hf ⊢
    rw [readValue, skipBlanks_append_cons hb rfl]
    simp only [show ¬(depth + 1 + 1 ≤ 1) by omega, if_false, Nat.add_sub_cancel]
    cases parts with
    | none gap =>
      have none : items = [] := List.eq_nil_of_length_eq_zero same
      simp only [skipBlanks_append_cons gap (c := ']') rfl, none]
    | @part _ _ item inner texts lead more =>
      obtain ⟨v, items, rfl⟩ : ∃ item more, items = item :: more :=
        List.exists_cons_of_length_eq_add_one same
      have here : ReadAs depth v item := each (v, item) List.mem_cons_self
      have enough : 2 * (item.length + inner.length) < fuel := by
        simp only [List.length_append] at hf
        omega
      have read := readValues_parts here more (Nat.succ.inj same)
        (fun pair mem => each pair (List.mem_cons_of_mem _ mem)) blanks_nil rest enough
      obtain ⟨c, behind, rfl, opening⟩ := opens item List.mem_cons_self
      simp only [List.append_assoc, List.cons_append, List.nil_append,
        skipBlanks_lead lead opening] at read ⊢
      split
      · rename_i same
        cases same
        exact absurd rfl opening.2.1
      · rw [read]
        rfl

theorem readKey?_spelled {name : String} {key before : List Char} (spelled : Spells name key)
    (gap : Blanks before) (rest : List Char) :
    readKey? (key ++ (before ++ ':' :: rest)) = some (name, rest) := by
  cases spelled with
  | quoted chars =>
    simp only [List.cons_append, List.append_assoc, List.nil_append, readKey?,
      readString_spelled chars, skipBlanks_append_cons gap (c := ':') rfl]

theorem readObject_member {name : String} {key value pair tail : List Char}
    (spelled : Spells name key) (here : ReadAs depth v value) (isMember : IsMember (key, value) pair)
    (hb : Blanks blanks) (ends : Ends tail) (hf : 2 * value.length ≤ fuel) :
    (skipBlanks tail = ',' :: rest →
      readObject (fuel + 1) (depth + 1) kept (blanks ++ (pair ++ tail)) =
        readObject fuel (depth + 1) (setMember name v kept) rest) ∧
    (skipBlanks tail = '\x7d' :: rest →
      readObject (fuel + 1) (depth + 1) kept (blanks ++ (pair ++ tail)) =
        some (setMember name v kept, rest)) := by
  cases isMember with
  | @pair _ _ before after gap gap' =>
    obtain ⟨c, more, rfl, opening⟩ := opens_spelled spelled
    have read := readKey?_spelled spelled gap (after ++ (value ++ tail))
    simp only [List.cons_append, List.append_assoc] at read ⊢
    rw [readObject, skipBlanks_append_cons hb opening.1, read]
    simp only [Option.bind_eq_bind, Option.bind_some, here fuel after tail gap' ends hf]
    constructor
    · intro next
      rw [next]
      rfl
    · intro last
      rw [last]
      rfl

theorem readObject_parts (kept : List (String × Value)) {member : String × Value} {m : Member}
    (isMember : IsMember m text)
    (spelled : Spells member.1 m.1) (head : ReadAs depth member.2 m.2)
    (parts : Parts false texts inner) (pairs : List.Forall₂ IsMember told texts)
    (keys : List.Forall₂ (fun member m => Spells member.1 m.1) members told)
    (each : ∀ pair ∈ members.zip told, ReadAs depth pair.1.2 pair.2.2) (hb : Blanks blanks)
    (rest : List Char) (hf : 2 * (text.length + inner.length) < fuel) :
    readObject fuel (depth + 1) kept (blanks ++ (text ++ (inner ++ '\x7d' :: rest))) =
      some ((member :: members).foldl (fun kept member => setMember member.1 member.2 kept) kept,
        rest) := by
  have shorter := member_length isMember
  obtain ⟨fuel, rfl⟩ := Nat.exists_eq_succ_of_ne_zero (Nat.ne_zero_of_lt hf)
  -- the member in front is in hand already: the induction is on the parts behind it
  generalize hfirst : false = first at parts
  induction parts generalizing text blanks fuel m member members told kept with
  | none gap =>
    cases pairs
    cases keys
    have closing := ends_blanks gap (ends_cons (c := '\x7d') (by decide) rest)
    exact (readObject_member spelled head isMember hb closing (by omega)).2
      (skipBlanks_append_cons gap rfl _)
  | @part _ _ next inner _ lead more ih =>
    subst hfirst
    cases lead with
    | @next before after gap gap' =>
      have comma := ends_blanks gap (ends_cons (c := ',') (by decide)
        (after ++ (next ++ (inner ++ '\x7d' :: rest))))
      simp only [List.append_assoc, List.cons_append, List.length_append, List.length_cons] at hf ⊢
      rw [(readObject_member spelled head isMember hb comma (by omega)).1
        (skipBlanks_append_cons gap rfl _)]
      cases pairs with
      | @cons m' _ told _ isMember' pairs =>
        cases keys with
        | @cons member' _ members _ spelled' keys =>
          have here : ReadAs depth member'.2 m'.2 := each (member', m') List.mem_cons_self
          have shorter := member_length isMember'
          obtain ⟨fuel, rfl⟩ : ∃ n, fuel = n + 1 := Nat.exists_eq_succ_of_ne_zero (by omega)
          exact ih _ isMember' spelled' here pairs keys
            (fun pair mem => each pair (List.mem_cons_of_mem _ mem)) gap' shorter fuel (by omega) rfl

theorem readAs_object (keys : List.Forall₂ (fun member m => Spells member.1 m.1) members told)
    (each : ∀ pair ∈ members.zip told, ReadAs depth pair.1.2 pair.2.2)
    (isObject : IsObject told text) : ReadAs (depth + 1) (.object (lastOnes members)) text := by
  intro fuel blanks rest hb ends hf
  cases isObject with
  | braces pairs enclosed =>
    cases enclosed with
    | brackets parts =>
      obtain ⟨fuel, rfl⟩ : ∃ n, fuel = n + 1 :=
        Nat.exists_eq_succ_of_ne_zero (by simp at hf; omega)
      simp only [List.cons_append, List.append_assoc, List.nil_append, List.length_cons,
        List.length_append, List.length_nil] at hf ⊢
      rw [readValue, skipBlanks_append_cons hb rfl]
      simp only [show ¬(depth + 1 + 1 ≤ 1) by omega, if_false, Nat.add_sub_cancel]
      cases parts with
      | none gap =>
        cases pairs
        cases keys
        simp only [skipBlanks_append_cons gap (c := '\x7d') rfl]
        rfl
      | @part _ _ item inner _ lead more =>
        cases pairs with
        | @cons m _ told _ isMember pairs =>
          cases keys with
          | @cons member _ members _ spelled keys =>
            have here : ReadAs depth member.2 m.2 := each (member, m) List.mem_cons_self
            have enough : 2 * (item.length + inner.length) < fuel := by
              simp only [List.length_append] at hf
              omega
            have read := readObject_parts [] isMember spelled here more pairs keys
              (fun pair mem => each pair (List.mem_cons_of_mem _ mem)) blanks_nil rest enough
            obtain ⟨c, behind, rfl, opening⟩ := opens_member (opens_spelled spelled) isMember
            simp only [List.append_assoc, List.cons_append, List.nil_append,
              skipBlanks_lead lead opening] at read ⊢
            split
            · rename_i same
              cases same
              exact absurd rfl opening.2.2.1
            · rw [read]
              rfl

theorem readAs_meant (h : Means depth v text) : ReadAs depth v text := by
  induction h with
  | null =>
    apply readAs_word
    intro fuel blanks rest hb
    rw [readValue, skipBlanks_append_cons hb rfl]
    rfl
  | true =>
    apply readAs_word
    intro fuel blanks rest hb
    rw [readValue, skipBlanks_append_cons hb rfl]
    rfl
  | false =>
    apply readAs_word
    intro fuel blanks rest hb
    rw [readValue, skipBlanks_append_cons hb rfl]
    rfl
  | number read => exact readAs_number read
  | negative read => exact readAs_negative read
  | string spelled => exact readAs_string spelled
  | list same each enclosed ih =>
    refine readAs_list same ih ?_ enclosed
    intro t ht
    rw [← List.map_snd_zip (Nat.le_of_eq same.symm)] at ht
    obtain ⟨pair, mem, rfl⟩ := List.mem_map.mp ht
    exact opens_meant (each pair mem)
  | object keys _ isObject ih => exact readAs_object keys ih isObject

theorem ofText?_document {document : String}
    (h : Document (Means (depthLimit - 1) v) document) : Value.ofText? document.toList = some v := by
  cases h with
  | @blanks before text after hb means hb' =>
    have nothing : skipBlanks after = [] := by
      rw [← List.append_nil after, skipBlanks_append hb']
      rfl
    have ends : Ends after := by
      rw [← List.append_nil after]
      exact ends_blanks hb' fun c hc => nomatch hc
    have read := readAs_meant means (2 * (before ++ (text ++ after)).length + 2) before after hb ends (by
      simp only [List.length_append]
      omega)
    rw [String.toList_ofList, Value.ofText?, show depthLimit = depthLimit - 1 + 1 from rfl, read]
    simp only [nothing]
    rfl

/-! ## Values that are nested too deep -/

def nested : Nat → Value
  | 0 => .list []
  | n + 1 => .list [nested n]

def nestedText (n : Nat) : List Char := List.replicate (n + 1) '[' ++ List.replicate (n + 1) ']'

theorem nestedText_succ (n : Nat) : nestedText (n + 1) = '[' :: (nestedText n ++ [']']) := by
  have closing : List.replicate (n + 1 + 1) ']' = List.replicate (n + 1) ']' ++ [']'] :=
    List.replicate_succ'
  rw [nestedText, closing, List.replicate_succ, ← List.append_assoc]
  rfl

theorem means_nested (n : Nat) : Means (n + 1) (nested n) (nestedText n) := by
  induction n with
  | zero => exact .list rfl (List.forall_mem_nil _) (.brackets (.none blanks_nil))
  | succ n ih =>
    rw [nestedText_succ]
    have parts : Parts true [nestedText n] ([] ++ (nestedText n ++ [])) :=
      .part (.first blanks_nil) (.none blanks_nil)
    rw [List.nil_append, List.append_nil] at parts
    exact @Means.list _ [nested n] [nestedText n] _ rfl (by simpa using ih) (.brackets parts)

/-- As many brackets as are allowed at a depth, and any more of them, are refused. -/
theorem read_brackets {n : Nat} (hn : 0 < n) (deep : depth ≤ n) (rest : List Char) :
    readValue fuel depth (List.replicate n '[' ++ rest) = none ∧
      readValues fuel depth (List.replicate n '[' ++ rest) = none := by
  induction fuel generalizing n depth with
  | zero => exact ⟨by rw [readValue], by rw [readValues]⟩
  | succ fuel ih =>
    refine ⟨?_, ?_⟩
    · obtain ⟨n, rfl⟩ := Nat.exists_eq_succ_of_ne_zero (Nat.ne_of_gt hn)
      rw [List.replicate_succ, List.cons_append, readValue, skipBlanks_cons_of_not_blank rfl]
      simp only
      split
      · rfl
      · obtain ⟨n, rfl⟩ : ∃ m, n = m + 1 := Nat.exists_eq_succ_of_ne_zero (by omega)
        have inner := (ih (Nat.succ_pos n) (show depth - 1 ≤ n + 1 by omega)).2
        rw [List.replicate_succ, List.cons_append] at inner
        simp only [List.replicate_succ, List.cons_append, skipBlanks_cons_of_not_blank (c := '[') rfl]
        exact congrArg (Option.map _) inner
    · rw [readValues, (ih hn deep).1]
      rfl

def nestedMember (n : Nat) : List Char :=
  '\x7b' :: ("\"a\"".toList ++ ':' :: (nestedText n ++ ['\x7d']))

theorem isObject_pair (key value : List Char) :
    IsObject [(key, value)] ('\x7b' :: (key ++ ':' :: (value ++ ['\x7d']))) := by
  have object : IsObject [(key, value)] _ := .braces (.cons (.pair blanks_nil blanks_nil) .nil)
    (.brackets (.part (.first blanks_nil) (.none blanks_nil)))
  simpa using object

theorem means_nestedMember (n : Nat) :
    Means (n + 2) (.object [("a", nested n)]) (nestedMember n) := by
  have key : Spells "a" "\"a\"".toList :=
    @Spells.quoted "a" _ (.cons (.plain ⟨by decide, by decide, by decide⟩) .nil)
  exact @Means.object (n + 1) [("a", nested n)] _ _ (.cons key .nil)
    (by simpa using means_nested n) (isObject_pair _ _)

/-- A document is refused if its only member is nested as deep as the limit, or deeper. -/
theorem ofText?_nestedMember {n : Nat} (deep : depthLimit ≤ n + 2) :
    Value.ofText? (nestedMember n) = none := by
  have brackets : readValue (2 * (nestedMember n).length) (depthLimit - 1)
      (nestedText n ++ ['\x7d']) = none := by
    rw [nestedText, List.append_assoc]
    exact (read_brackets (Nat.succ_pos n) (by omega) _).1
  have object : readObject (2 * (nestedMember n).length + 1) (depthLimit - 1) []
      ("\"a\"".toList ++ ':' :: (nestedText n ++ ['\x7d'])) = none := by
    rw [readObject]
    change Option.bind (some ("a", nestedText n ++ ['\x7d'])) _ = none
    simp only [Option.bind_some, brackets]
    rfl
  have whole : readValue (2 * (nestedMember n).length + 1 + 1) depthLimit (nestedMember n) = none := by
    have begins : skipBlanks (nestedMember n) = nestedMember n := rfl
    have behind : skipBlanks ("\"a\"".toList ++ ':' :: (nestedText n ++ ['\x7d'])) =
      "\"a\"".toList ++ ':' :: (nestedText n ++ ['\x7d']) := rfl
    rw [readValue, begins]
    simp only [nestedMember, behind] at object ⊢
    exact congrArg (Option.map _) object
  rw [Value.ofText?, whole]

end Scaffold.Json
