import Scaffold.Names.Association
import Scaffold.Proofs.Json.Damage
import Scaffold.Proofs.Json.Extents
import Scaffold.Proofs.Json.Values

/-!
# What is read is what is meant

A value is read from a text just if the text means it. So every text that is read is written as JSON
is, and what is no JSON is not read.
-/

namespace Scaffold.Json

variable {fuel depth n : Nat} {c : Char} {v : Value} {cs rest text inner gap : List Char}
  {chars : List Char} {texts : List (List Char)} {members kept : List (String × Value)}
  {told : List Member}

/-! ## Strings -/

theorem readHex4_split (h : readHex4 cs = .ok (n, rest)) :
    ∃ digits, cs = digits ++ rest ∧ CodeUnit n digits := by
  unfold readHex4 at h
  split at h
  · split at h
    · rename_i first second third fourth
      cases h
      exact ⟨_, rfl, .digits first second third fourth⟩
    · cases h
  · cases h

theorem readCodeUnits_split (h : readCodeUnits cs = .ok (c, rest)) :
    ∃ text, cs = text ++ rest ∧ SpellsChar c ('\\' :: 'u' :: text) := by
  obtain ⟨⟨n, behind⟩, first, units⟩ := exists_ok_of_bind h
  obtain ⟨digits, rfl, unit⟩ := readHex4_split first
  dsimp only at units
  split at units
  · cases units
  rename_i notLow
  split at units
  · rename_i isHigh
    split at units
    · cases units
    · cases units
    · obtain ⟨⟨low, after⟩, second, joined⟩ := exists_ok_of_bind units
      obtain ⟨digits', rfl, unit'⟩ := readHex4_split second
      dsimp only at joined
      split at joined
      · rename_i isLow
        obtain ⟨rfl, rfl⟩ := Prod.mk.inj (Except.ok.inj joined)
        exact ⟨_, by simp, spellsChar_pair unit unit' isHigh isLow⟩
      · cases joined
    · cases units
    · cases units
  · rename_i notHigh
    cases units
    exact ⟨digits, rfl, spellsChar_unit unit (Bool.eq_false_iff.mpr notLow)
      (Bool.eq_false_iff.mpr notHigh)⟩

theorem readChars_split (h : readChars fuel cs = .ok (chars, rest)) :
    ∃ body, cs = body ++ '"' :: rest ∧ SpellsChars chars body := by
  induction fuel generalizing cs chars with
  | zero => cases h
  | succ fuel ih =>
    -- whatever spells the first character, the others are read as the rest of the string
    have later : ∀ {text behind : List Char} {c : Char}, SpellsChar c text →
        (readChars fuel behind >>= fun read => .ok (c :: read.1, read.2)) =
          (.ok (chars, rest) : Except Failure _) →
        ∃ body, text ++ behind = body ++ '"' :: rest ∧ SpellsChars chars body := by
      intro text behind c first h
      obtain ⟨⟨more, after⟩, others, same⟩ := exists_ok_of_bind h
      cases same
      obtain ⟨body, rfl, spelled⟩ := ih others
      exact ⟨text ++ body, (List.append_assoc ..).symm, .cons first spelled⟩
    unfold readChars at h
    split at h
    · cases h
    · cases h
      exact ⟨[], rfl, .nil⟩
    · cases h
    · obtain ⟨⟨c, behind⟩, units, others⟩ := exists_ok_of_bind h
      obtain ⟨text, rfl, first⟩ := readCodeUnits_split units
      exact later first others
    · split at h
      · rename_i escape
        exact later (.letter escape) h
      · cases h
    · rename_i c behind notQuote notAlone _ notEscape
      split at h
      · cases h
      · rename_i printable
        have notBackslash : c ≠ '\\' := by
          rintro rfl
          cases behind with
          | nil => exact notAlone rfl rfl
          | cons letter behind => exact notEscape letter behind rfl rfl
        exact later (.plain ⟨Nat.le_of_not_lt printable, notQuote, notBackslash⟩) h

theorem readString_split {s : String} (h : readString cs = .ok (s, rest)) :
    ∃ body, cs = body ++ '"' :: rest ∧ SpellsChars s.toList body := by
  obtain ⟨⟨chars, behind⟩, read, same⟩ := exists_ok_of_bind h
  cases same
  obtain ⟨body, rfl, spelled⟩ := readChars_split read
  exact ⟨body, rfl, by rwa [String.toList_ofList]⟩

/-! ## Blanks and words -/

theorem exists_blanks (cs : List Char) : ∃ gap, Blanks gap ∧ cs = gap ++ skipBlanks cs :=
  ⟨cs.takeWhile isBlank, fun _ => List.mem_takeWhile_imp, List.takeWhile_append_dropWhile.symm⟩

theorem exists_blanks_of_skip (h : skipBlanks cs = rest) : ∃ gap, Blanks gap ∧ cs = gap ++ rest :=
  h ▸ exists_blanks cs

theorem blanks_append {more : List Char} (h : Blanks gap) (h' : Blanks more) :
    Blanks (gap ++ more) := List.forall_mem_append.mpr ⟨h, h'⟩

theorem readWord_split {word : List Char} {done : Unit} (h : readWord word cs = .ok (done, rest)) :
    cs = word ++ rest := by
  induction word generalizing cs with
  | nil =>
    cases h
    rfl
  | cons letter word ih =>
    cases cs with
    | nil => cases h
    | cons c cs =>
      rw [readWord] at h
      split at h
      · rename_i same
        rw [beq_iff_eq.mp same, ih h]
        rfl
      · cases h

theorem wordValue_split {word : String} {w : Value} (h : wordValue word w cs = some (v, rest)) :
    v = w ∧ cs = word.toList ++ rest := by
  unfold wordValue at h
  split at h
  · rename_i read
    cases h
    exact ⟨rfl, readWord_split read⟩
  · cases h

theorem numberValue_split {negative : Bool} (h : numberValue negative cs = some (v, rest)) :
    ∃ n text, cs = text ++ rest ∧ v = .number n ∧ readNumber negative text = .ok (n, []) := by
  unfold numberValue at h
  split at h
  · rename_i n behind read
    cases h
    obtain ⟨text, rfl, -, alone⟩ := cuts_number _ _ _ read
    exact ⟨n, text, rfl, rfl, alone⟩
  · cases h

theorem readKey?_split {key : String} (h : readKey? cs = some (key, rest)) :
    ∃ text gap, cs = text ++ (gap ++ ':' :: rest) ∧ Spells key text ∧ Blanks gap := by
  unfold readKey? at h
  split at h
  · split at h
    · rename_i behind read
      split at h
      · rename_i colon
        cases h
        obtain ⟨body, rfl, spelled⟩ := readString_split read
        obtain ⟨gap, blanks, rfl⟩ := exists_blanks_of_skip colon
        exact ⟨_, gap, by simp, .quoted spelled, blanks⟩
      · cases h
    · cases h
  · cases h

/-! ## Lists and objects -/

theorem parts_of_blanks (h : Blanks gap) (parts : Parts true texts inner) :
    Parts true texts (gap ++ inner) := by
  generalize isFirst : true = first at parts
  cases parts with
  | none blanks => exact .none (blanks_append h blanks)
  | part isLead more =>
    subst isFirst
    cases isLead with
    | first blanks =>
      rw [← List.append_assoc]
      exact .part (.first (blanks_append h blanks)) more

/-- Parts stand behind a comma as they do at the front, if there are any. -/
theorem parts_of_comma (h : Blanks gap) (parts : Parts true (text :: texts) inner) :
    Parts false (text :: texts) (gap ++ ',' :: inner) := by
  generalize isFirst : true = first at parts
  cases parts with
  | part isLead more =>
    subst isFirst
    cases isLead with
    | first blanks =>
      rw [← List.cons_append, ← List.append_assoc]
      exact .part (.next h blanks) more

structure MeansItems (depth : Nat) (items : List Value) (texts : List (List Char))
    (inner : List Char) : Prop where
  same : items.length = texts.length
  each : ∀ pair ∈ items.zip texts, Means depth pair.1 pair.2
  parts : Parts true texts inner

structure MeansMembers (depth : Nat) (members : List (String × Value)) (told : List Member)
    (texts : List (List Char)) (inner : List Char) : Prop where
  keys : List.Forall₂ (fun member m => Spells member.1 m.1) members told
  values : ∀ pair ∈ members.zip told, Means depth pair.1.2 pair.2.2
  pairs : List.Forall₂ IsMember told texts
  parts : Parts true texts inner

/-! ## Values -/

/-- With so much fuel only values are read that are meant. -/
def ValuesMeant (fuel : Nat) : Prop :=
  ∀ depth cs v rest, readValue fuel depth cs = some (v, rest) →
    ∃ gap text, cs = gap ++ (text ++ rest) ∧ Blanks gap ∧ Means (depth - 1) v text

def ItemsMeant (fuel : Nat) : Prop :=
  ∀ depth cs items rest, readValues fuel depth cs = some (items, rest) →
    ∃ text texts inner, cs = inner ++ ']' :: rest ∧
      MeansItems (depth - 1) items (text :: texts) inner

def MembersMeant (fuel : Nat) : Prop :=
  ∀ depth kept cs members rest, readObject fuel depth kept cs = some (members, rest) →
    ∃ added told text texts inner, cs = inner ++ '\x7d' :: rest ∧
      members = added.foldl (fun kept member => setMember member.1 member.2 kept) kept ∧
      MeansMembers (depth - 1) added told (text :: texts) inner

theorem list_meant (items : ItemsMeant fuel)
    (h : (readValues fuel (depth + 1) cs).map (fun (items, rest) => (.list items, rest))
      = some (v, rest)) :
    ∃ inner, cs = inner ++ ']' :: rest ∧ ∀ gap, Blanks gap →
      Means (depth + 1) v ('[' :: (gap ++ inner ++ [']'])) := by
  obtain ⟨⟨read, behind⟩, found, same⟩ := Option.map_eq_some_iff.mp h
  cases same
  obtain ⟨text, texts, inner, rfl, meant⟩ := items _ _ _ _ found
  exact ⟨inner, rfl, fun gap blanks =>
    .list meant.same meant.each (.brackets (parts_of_blanks blanks meant.parts))⟩

theorem object_meant (members : MembersMeant fuel)
    (h : (readObject fuel (depth + 1) [] cs).map (fun (members, rest) => (.object members, rest))
      = some (v, rest)) :
    ∃ inner, cs = inner ++ '\x7d' :: rest ∧ ∀ gap, Blanks gap →
      Means (depth + 1) v ('\x7b' :: (gap ++ inner ++ ['\x7d'])) := by
  obtain ⟨⟨read, behind⟩, found, same⟩ := Option.map_eq_some_iff.mp h
  cases same
  obtain ⟨added, told, text, texts, inner, rfl, rfl, meant⟩ := members _ _ _ _ _ found
  exact ⟨inner, rfl, fun gap blanks =>
    .object meant.keys meant.values
      (.braces meant.pairs (.brackets (parts_of_blanks blanks meant.parts)))⟩

theorem values_step (items : ItemsMeant fuel) (members : MembersMeant fuel) :
    ValuesMeant (fuel + 1) := by
  intro depth cs v rest h
  rw [readValue] at h
  obtain ⟨gap, blanks, whole⟩ := exists_blanks cs
  generalize skipBlanks cs = begun at h whole
  -- the blanks are the same in every case; what stands behind them begins in one of nine ways
  suffices begins : ∃ text, begun = text ++ rest ∧ Means (depth - 1) v text by
    obtain ⟨text, rfl, meant⟩ := begins
    exact ⟨gap, text, whole, blanks, meant⟩
  split at h
  · cases h
  · obtain ⟨rfl, rfl⟩ := wordValue_split h
    exact ⟨"null".toList, rfl, .null⟩
  · obtain ⟨rfl, rfl⟩ := wordValue_split h
    exact ⟨"true".toList, rfl, .true⟩
  · obtain ⟨rfl, rfl⟩ := wordValue_split h
    exact ⟨"false".toList, rfl, .false⟩
  · obtain ⟨n, text, rfl, rfl, read⟩ := numberValue_split h
    exact ⟨'-' :: text, rfl, .negative read⟩
  · split at h
    · rename_i read
      cases h
      obtain ⟨body, rfl, spelled⟩ := readString_split read
      exact ⟨'"' :: (body ++ ['"']), by simp, .string (.quoted spelled)⟩
    · cases h
  · split at h
    · cases h
    rename_i behind deep
    obtain ⟨depth, rfl⟩ : ∃ n, depth = n + 2 := ⟨depth - 2, by omega⟩
    obtain ⟨gap, blanks, follows⟩ := exists_blanks behind
    split at h
    · rename_i closing
      cases h
      rw [closing] at follows
      exact ⟨'[' :: (gap ++ [']']), by simp [follows],
        .list rfl (List.forall_mem_nil _) (.brackets (.none blanks))⟩
    · obtain ⟨inner, same, meant⟩ := list_meant items h
      exact ⟨_, by rw [follows, same]; simp, meant gap blanks⟩
  · split at h
    · cases h
    rename_i behind deep
    obtain ⟨depth, rfl⟩ : ∃ n, depth = n + 2 := ⟨depth - 2, by omega⟩
    obtain ⟨gap, blanks, follows⟩ := exists_blanks behind
    split at h
    · rename_i closing
      cases h
      rw [closing] at follows
      exact ⟨'\x7b' :: (gap ++ ['\x7d']), by simp [follows],
        @Means.object _ [] [] _ .nil (List.forall_mem_nil _)
          (.braces .nil (.brackets (.none blanks)))⟩
    · obtain ⟨inner, same, meant⟩ := object_meant members h
      exact ⟨_, by rw [follows, same]; simp, meant gap blanks⟩
  · split at h
    · obtain ⟨n, text, same, rfl, read⟩ := numberValue_split h
      exact ⟨text, same, .number read⟩
    · cases h

theorem items_step (values : ValuesMeant fuel) (items : ItemsMeant fuel) :
    ItemsMeant (fuel + 1) := by
  intro depth cs read rest h
  rw [readValues] at h
  obtain ⟨⟨v, behind⟩, first, going⟩ := Option.bind_eq_some_iff.mp h
  obtain ⟨gap, text, rfl, blanks, meant⟩ := values _ _ _ _ first
  obtain ⟨gap', blanks', whole⟩ := exists_blanks behind
  dsimp only at going
  split at going
  · rename_i comma
    obtain ⟨⟨others, after⟩, later, same⟩ := Option.bind_eq_some_iff.mp going
    cases same
    obtain ⟨next, texts, inner, rfl, more⟩ := items _ _ _ _ later
    refine ⟨text, next :: texts, gap ++ (text ++ (gap' ++ ',' :: inner)), ?_, ?_, ?_, ?_⟩
    · rw [whole, comma]
      simp
    · simp [more.same]
    · exact List.forall_mem_cons.mpr ⟨meant, more.each⟩
    · exact .part (.first blanks) (parts_of_comma blanks' more.parts)
  · rename_i closing
    cases going
    refine ⟨text, [], gap ++ (text ++ gap'), ?_, rfl, ?_, ?_⟩
    · rw [whole, closing]
      simp
    · exact List.forall_mem_singleton.mpr meant
    · exact .part (.first blanks) (.none blanks')
  · cases going

theorem members_step (values : ValuesMeant fuel) (members : MembersMeant fuel) :
    MembersMeant (fuel + 1) := by
  intro depth kept cs read rest h
  rw [readObject] at h
  obtain ⟨⟨key, behind⟩, first, valued⟩ := Option.bind_eq_some_iff.mp h
  obtain ⟨⟨v, after⟩, second, going⟩ := Option.bind_eq_some_iff.mp valued
  obtain ⟨front, isFront, whole⟩ := exists_blanks cs
  obtain ⟨name, gap, start, spelled, isGap⟩ := readKey?_split first
  obtain ⟨gap', text, rfl, isGap', meant⟩ := values _ _ _ _ second
  obtain ⟨last, isLast, tail⟩ := exists_blanks after
  have isMember : IsMember (name, text) _ := .pair isGap isGap'
  dsimp only at going
  split at going
  · rename_i comma
    obtain ⟨added, told, next, texts, inner, rfl, rfl, more⟩ := members _ _ _ _ _ going
    refine ⟨(key, v) :: added, (name, text) :: told, _, next :: texts,
      front ++ (_ ++ (last ++ ',' :: inner)), ?_, rfl, .cons spelled more.keys,
      List.forall_mem_cons.mpr ⟨meant, more.values⟩, .cons isMember more.pairs,
      .part (.first isFront) (parts_of_comma isLast more.parts)⟩
    rw [whole, start, tail, comma]
    simp
  · rename_i closing
    cases going
    refine ⟨[(key, v)], [(name, text)], _, [], front ++ (_ ++ last), ?_, rfl, .cons spelled .nil,
      List.forall_mem_singleton.mpr meant, .cons isMember .nil,
      .part (.first isFront) (.none isLast)⟩
    rw [whole, start, tail, closing]
    simp
  · cases going

/-- The three readers go on in each other, so what holds of them is shown of all at once. -/
theorem all_meant (fuel : Nat) : ValuesMeant fuel ∧ ItemsMeant fuel ∧ MembersMeant fuel := by
  induction fuel with
  | zero =>
    refine ⟨fun depth cs v rest h => ?_, fun depth cs items rest h => ?_,
      fun depth kept cs members rest h => ?_⟩
    · rw [readValue] at h
      cases h
    · rw [readValues] at h
      cases h
    · rw [readObject] at h
      cases h
  | succ fuel ih =>
    obtain ⟨values, items, members⟩ := ih
    exact ⟨values_step items members, items_step values items, members_step values members⟩

/-- A document is read as a value just if it means the value. -/
theorem ofText?_eq_some_iff {document : String} : Value.ofText? document.toList = some v ↔
    Document (Means (depthLimit - 1) v) document := by
  refine ⟨fun h => ?_, ofText?_document⟩
  unfold Value.ofText? at h
  split at h
  · rename_i read
    split at h
    · rename_i nothing
      cases h
      obtain ⟨gap, text, whole, blanks, meant⟩ := (all_meant _).1 _ _ _ _ read
      obtain ⟨after, blanks', same⟩ := exists_blanks_of_skip (List.isEmpty_iff.mp nothing)
      rw [List.append_nil] at same
      rw [← String.ofList_toList (s := document), whole, same]
      exact .blanks blanks meant blanks'
    · cases h
  · cases h

theorem isValue_of_means (h : Means depth v text) : IsValue text := by
  induction h with
  | null => exact .null
  | true => exact .true
  | false => exact .false
  | @number _ _ text read =>
    obtain ⟨front, same, isUnsigned, -⟩ := cuts_number _ _ _ read
    rw [List.append_nil] at same
    exact .number (isNumber_of_unsigned (same ▸ isUnsigned)).1
  | @negative _ _ text read =>
    obtain ⟨front, same, isUnsigned, -⟩ := cuts_number _ _ _ read
    rw [List.append_nil] at same
    exact .number (isNumber_of_unsigned (same ▸ isUnsigned)).2
  | string spelled => exact isValue_of_spells spelled
  | list same _ enclosed ih =>
    refine .list (fun item mem => ?_) enclosed
    rw [← List.map_snd_zip (Nat.le_of_eq same.symm)] at mem
    obtain ⟨pair, inside, rfl⟩ := List.mem_map.mp mem
    exact ih pair inside
  | object keys _ isObject ih =>
    refine .object (fun m mem => ?_) (fun m mem => ?_) isObject
    · obtain ⟨member, -, spelled⟩ := exists_told keys m mem
      exact isString_of_spells spelled
    · rw [← List.map_snd_zip (Nat.le_of_eq keys.length_eq.symm)] at mem
      obtain ⟨pair, inside, rfl⟩ := List.mem_map.mp mem
      exact ih pair inside

/-! ## Members by their keys -/

variable {key : String} {member : String × Value} {front behind : List (String × Value)}

theorem lookup_setMember (x key : String) (v : Value) (members : List (String × Value)) :
    (setMember key v members).lookup x = if x = key then some v else members.lookup x := by
  induction members with
  | nil => exact lookup_pair_cons x key v []
  | cons member rest ih =>
    obtain ⟨k, old⟩ := member
    rw [setMember]
    by_cases same : k = key
    · rw [if_pos (beq_iff_eq.mpr same), lookup_pair_cons, lookup_pair_cons, same]
      by_cases here : x = key
      · rw [if_pos here, if_pos here]
      · rw [if_neg here, if_neg here, if_neg here]
    · rw [if_neg (by simpa using same), lookup_pair_cons, lookup_pair_cons, ih]
      by_cases here : x = k
      · rw [if_pos here, if_neg (here ▸ same), if_pos here]
      · rw [if_neg here, if_neg here]

theorem lookup_foldl_setMember (absent : ∀ member ∈ behind, member.1 ≠ key) :
    (behind.foldl (fun kept member => setMember member.1 member.2 kept) kept).lookup key =
      kept.lookup key := by
  induction behind generalizing kept with
  | nil => rfl
  | cons member rest ih =>
    obtain ⟨differ, absent⟩ := List.forall_mem_cons.mp absent
    rw [List.foldl_cons, ih absent, lookup_setMember, if_neg differ.symm]

theorem lookup_lastOnes_of_absent (absent : ∀ member ∈ members, member.1 ≠ key) :
    (lastOnes members).lookup key = none := lookup_foldl_setMember absent

theorem lookup_lastOnes_of_last (last : ∀ other ∈ behind, other.1 ≠ member.1) :
    (lastOnes (front ++ member :: behind)).lookup member.1 = some member.2 := by
  rw [lastOnes, List.foldl_append, List.foldl_cons, lookup_foldl_setMember last, lookup_setMember,
    if_pos rfl]

theorem setMember_of_not_mem (absent : ∀ member ∈ members, member.1 ≠ key) :
    setMember key v members = members ++ [(key, v)] := by
  induction members with
  | nil => rfl
  | cons member rest ih =>
    obtain ⟨differ, absent⟩ := List.forall_mem_cons.mp absent
    rw [setMember, if_neg (by simpa using differ), ih absent]
    rfl

theorem lastOnes_of_nodup (nodup : (members.map Prod.fst).Nodup) : lastOnes members = members := by
  have all : ∀ kept : List (String × Value), ((kept ++ members).map Prod.fst).Nodup →
      members.foldl (fun kept member => setMember member.1 member.2 kept) kept =
        kept ++ members := by
    clear nodup
    induction members with
    | nil => exact fun kept _ => (List.append_nil kept).symm
    | cons member rest ih =>
      intro kept nodup
      rw [List.map_append, List.nodup_append] at nodup
      obtain ⟨distinct, distinct', apart⟩ := nodup
      rw [List.foldl_cons, setMember_of_not_mem fun other mem =>
        apart other.1 (List.mem_map_of_mem mem) member.1 (by simp), ih, List.append_assoc]
      · rfl
      · rw [List.append_assoc, List.map_append, List.nodup_append]
        exact ⟨distinct, distinct', apart⟩
  exact all [] nodup

def printedObject (printed : List ((String × Value) × Printed)) : Printed :=
  .record (printed.map fun m => (m.1.1, m.2))

theorem means_printedObject (printed : List ((String × Value) × Printed)) (level : Nat)
    (nodup : ((printed.map Prod.fst).map Prod.fst).Nodup)
    (each : ∀ m ∈ printed, Means depth m.1.2 (m.2 (level + 1))) :
    Means (depth + 1) (.object (printed.map Prod.fst)) (printedObject printed level) := by
  have isObject := isObject_record (printed.map fun m => (m.1.1, m.2)) level
  rw [List.map_map] at isObject
  rw [← lastOnes_of_nodup nodup]
  refine .object ?_ ?_ isObject
  · rw [List.forall₂_map_left_iff, List.forall₂_map_right_iff, List.forall₂_same]
    exact fun m _ => spells_quoted m.1.1
  · rw [List.zip_map', List.forall_mem_map]
    exact each

theorem lookup_of_mem (nodup : (members.map Prod.fst).Nodup) (mem : member ∈ members) :
    members.lookup member.1 = some member.2 := by
  obtain ⟨front, behind, rfl⟩ := List.append_of_mem mem
  rw [List.map_append, List.map_cons, List.nodup_append] at nodup
  refine List.lookup_eq_some_iff.mpr ⟨front, behind, rfl, fun other mem => ?_⟩
  have differ := nodup.2.2 other.1 (List.mem_map_of_mem mem) member.1 List.mem_cons_self
  simpa using differ.symm

end Scaffold.Json
