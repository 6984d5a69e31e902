import Scaffold.Proofs.Json.Passing

/-!
# Reading lists and records

Lists, maps and records are taken by their readers if their parts are, whatever blanks stand
between the parts and in whatever order the members come. What a record becomes is followed member
by member: each fills one field that was not filled before, or is passed over.
-/

namespace Scaffold.Json

variable {first : Bool} {c : Char} {text inner lead rest : List Char} {texts : List (List Char)}
  {fuel : Nat}

/-! ## Lists -/

theorem nextItem_lead (h : Lead first lead) (hc : Opening c) (rest : List Char) :
    nextItem first (lead ++ c :: rest) = .ok (true, c :: rest) := by
  obtain ⟨notBlank, notEnd, -, notComma⟩ := hc
  cases h with
  | first blanks =>
    rw [nextItem, skipBlanks_append_cons blanks notBlank]
    split <;> simp_all
  | next blanks blanks' =>
    rw [List.append_assoc, List.cons_append, nextItem, skipBlanks_append_cons blanks rfl]
    simp only [Bool.false_eq_true, if_false]
    rw [skipBlanks_append_cons blanks' notBlank]
    split <;> simp_all

theorem nextItem_end {gap : List Char} (hg : Blanks gap) (first : Bool) (rest : List Char) :
    nextItem first (gap ++ ']' :: rest) = .ok (false, ']' :: rest) := by
  rw [nextItem, skipBlanks_append_cons hg rfl]
  rfl

theorem opens_spelled {s : String} (h : Spells s text) : Opens text := by
  cases h
  exact ⟨'"', _, rfl, by decide, by decide, by decide, by decide⟩

theorem opens_member {m : Member} (key : Opens m.1) (h : IsMember m text) : Opens text := by
  cases h
  obtain ⟨c, more, rfl, opening⟩ := key
  exact ⟨c, _, rfl, opening⟩

theorem ne_nil_of_opens (h : Opens text) : text ≠ [] := by
  obtain ⟨c, more, rfl, -⟩ := h
  exact List.cons_ne_nil c more

section Items

variable {α : Type} {item : Reader α}

/-- With a part before it the reader for the items of a list reads on with the item. -/
theorem readItems_part (isLead : Lead first lead) (opens : Opens text) (tail : List Char) :
    readItems item (fuel + 1) first (lead ++ (text ++ tail)) =
      item (text ++ tail) >>= fun read =>
        readItems item fuel false read.2 >>= fun others => .ok (read.1 :: others.1, others.2) := by
  obtain ⟨c, more, rfl, opening⟩ := opens
  rw [List.cons_append, readItems]
  exact bind_of_ok (nextItem_lead isLead opening _)

theorem readItems_parts {items : List α} (parts : Parts first texts inner)
    (taken : List.Forall₂ (fun a t => Takes item t a) items texts) (opens : ∀ t ∈ texts, Opens t)
    (rest : List Char) (hf : texts.length < fuel) :
    readItems item fuel first (inner ++ ']' :: rest) = .ok (items, ']' :: rest) := by
  induction parts generalizing items fuel with
  | none blanks =>
    obtain ⟨fuel, rfl⟩ := Nat.exists_eq_succ_of_ne_zero (Nat.ne_of_gt hf)
    cases taken
    exact bind_of_ok (nextItem_end blanks _ rest)
  | @part _ _ text _ _ isLead more ih =>
    obtain ⟨fuel, rfl⟩ := Nat.exists_eq_succ_of_ne_zero (Nat.ne_zero_of_lt hf)
    cases taken with
    | cons taken others =>
      rw [List.append_assoc, List.append_assoc,
        readItems_part isLead (opens text List.mem_cons_self)]
      refine (bind_of_ok (taken [] _ blanks_nil)).trans ?_
      exact bind_of_ok (ih others (fun t ht => opens t (List.mem_cons_of_mem _ ht))
        (Nat.lt_of_succ_lt_succ hf))

theorem takes_list {items : List α} (taken : List.Forall₂ (fun a t => Takes item t a) items texts)
    (opens : ∀ t ∈ texts, Opens t) (enclosed : Enclosed '[' ']' texts text) :
    Takes (readList item) text items := by
  intro blanks rest hb
  cases enclosed with
  | brackets parts =>
    have enough := length_le_of_parts parts fun t ht => ne_nil_of_opens (opens t ht)
    rw [List.cons_append, List.append_assoc, List.singleton_append, readList,
      skipBlanks_append_cons hb rfl]
    refine (bind_of_ok (readItems_parts parts taken opens rest ?_)).trans rfl
    rw [List.length_append]
    omega

end Items

/-! ## Members -/

theorem nextMember_lead (h : Lead first lead) (rest : List Char) :
    nextMember first (lead ++ '"' :: rest) = .ok (true, rest) := by
  cases h with
  | first blanks =>
    rw [nextMember, skipBlanks_append_cons blanks rfl]
    rfl
  | next blanks blanks' =>
    rw [List.append_assoc, List.cons_append, nextMember, skipBlanks_append_cons blanks rfl]
    simp only [Bool.false_eq_true, if_false]
    rw [skipBlanks_append_cons blanks' rfl]
    rfl

theorem nextMember_end {gap : List Char} (hg : Blanks gap) (first : Bool) (rest : List Char) :
    nextMember first (gap ++ '\x7d' :: rest) = .ok (false, '\x7d' :: rest) := by
  rw [nextMember, skipBlanks_append_cons hg rfl]
  rfl

theorem readColon_gap {gap : List Char} (hg : Blanks gap) (rest : List Char) :
    readColon (gap ++ ':' :: rest) = .ok ((), rest) := by
  rw [readColon, skipBlanks_append_cons hg rfl]
  rfl

section Map

variable {α : Type} {value : Reader α} {name : String} {key pair tail : List Char}

theorem readEntries_part (isLead : Lead first lead) (spelled : Spells name key)
    (isMember : IsMember (key, text) pair) : ∃ gap, Blanks gap ∧
      readEntries value (fuel + 1) first (lead ++ (pair ++ tail)) =
        value (gap ++ (text ++ tail)) >>= fun read =>
          readEntries value fuel false read.2 >>= fun others =>
            .ok ((name, read.1) :: others.1, others.2) := by
  cases isMember with
  | @pair _ _ before after gap gap' =>
    cases spelled with
    | quoted chars =>
      refine ⟨after, gap', ?_⟩
      simp only [List.cons_append, List.append_assoc, List.nil_append]
      rw [readEntries]
      refine (bind_of_ok (nextMember_lead isLead _)).trans ?_
      refine (bind_of_ok (readString_spelled chars _)).trans ?_
      exact bind_of_ok (readColon_gap gap _)

theorem readEntries_parts {members : List Member} {entries : List (String × α)}
    (parts : Parts first texts inner) (pairs : List.Forall₂ IsMember members texts)
    (taken : List.Forall₂ (fun e m => Spells e.1 m.1 ∧ Takes value m.2 e.2) entries members)
    (rest : List Char) (hf : texts.length < fuel) :
    readEntries value fuel first (inner ++ '\x7d' :: rest) = .ok (entries, rest) := by
  induction parts generalizing members entries fuel with
  | none blanks =>
    obtain ⟨fuel, rfl⟩ := Nat.exists_eq_succ_of_ne_zero (Nat.ne_of_gt hf)
    cases pairs
    cases taken
    exact bind_of_ok (nextMember_end blanks _ rest)
  | part isLead more ih =>
    obtain ⟨fuel, rfl⟩ := Nat.exists_eq_succ_of_ne_zero (Nat.ne_zero_of_lt hf)
    cases pairs with
    | cons isMember pairs =>
      cases taken with
      | cons first others =>
        rw [List.append_assoc, List.append_assoc]
        obtain ⟨gap, hg, step⟩ := readEntries_part isLead first.1 isMember
        rw [step, bind_of_ok (first.2 gap _ hg)]
        exact bind_of_ok (ih pairs others (Nat.lt_of_succ_lt_succ hf))

theorem length_le_of_members {members : List Member} (parts : Parts first texts inner)
    (pairs : List.Forall₂ IsMember members texts) : texts.length ≤ inner.length := by
  induction parts generalizing members with
  | none => exact Nat.zero_le _
  | part _ _ ih =>
    cases pairs with
    | cons isMember pairs =>
      have longer := member_length isMember
      have later := ih pairs
      simp only [List.length_cons, List.length_append]
      omega

theorem length_lt_behind {members : List Member} (parts : Parts first texts inner)
    (pairs : List.Forall₂ IsMember members texts) (rest : List Char) :
    texts.length < (inner ++ rest).length + 1 := by
  have enough := length_le_of_members parts pairs
  rw [List.length_append]
  omega

theorem takes_map {members : List Member} {entries : List (String × α)}
    (taken : List.Forall₂ (fun e m => Spells e.1 m.1 ∧ Takes value m.2 e.2) entries members)
    (isObject : IsObject members text) : Takes (readMap value) text entries := by
  intro blanks rest hb
  cases isObject with
  | braces pairs enclosed =>
    cases enclosed with
    | brackets parts =>
      rw [List.cons_append, List.append_assoc, List.singleton_append, readMap,
        skipBlanks_append_cons hb rfl]
      exact readEntries_parts parts pairs taken rest (length_lt_behind parts pairs _)

end Map

/-! ## Records -/

namespace RecordShape

variable {σ α : Type}

/-- Members fill a record that is being read: each key names a field that is not set, whose reader
takes the text, or no field at all. -/
inductive Fills (shape : RecordShape σ α) : σ → List Member → σ → Prop
  | done (part : σ) : Fills shape part [] part
  | known {name : String} {key text : List Char} {members : List Member} {part next final : σ}
    (field : Field σ) (spelled : Spells name key)
    (named : shape.fields.find? (·.name == name) = some field)
    (unset : field.isSet part = false) (taken : Takes (field.read part) text next)
    (more : Fills shape next members final) : Fills shape part ((key, text) :: members) final
  | passed {name : String} {key text : List Char} {members : List Member} {part final : σ}
    (spelled : Spells name key) (unnamed : shape.fields.find? (·.name == name) = none)
    (value : IsValue text) (more : Fills shape part members final) :
    Fills shape part ((key, text) :: members) final

variable {shape : RecordShape σ α} {name : String} {key pair tail : List Char} {part : σ}
  {field : Field σ}

theorem readMembers_known (isLead : Lead first lead) (spelled : Spells name key)
    (isMember : IsMember (key, text) pair)
    (named : shape.fields.find? (·.name == name) = some field)
    (unset : field.isSet part = false) : ∃ gap, Blanks gap ∧
      shape.readMembers (fuel + 1) first part (lead ++ (pair ++ tail)) =
        field.read part (gap ++ (text ++ tail)) >>= fun read =>
          shape.readMembers fuel false read.1 read.2 := by
  cases isMember with
  | @pair _ _ before after gap gap' =>
    cases spelled with
    | quoted chars =>
      refine ⟨after, gap', ?_⟩
      simp only [List.cons_append, List.append_assoc, List.nil_append]
      rw [readMembers]
      refine (bind_of_ok (nextMember_lead isLead _)).trans ?_
      refine (bind_of_ok (readString_spelled chars _)).trans ?_
      simp only [named, unset, Bool.false_eq_true, if_false]
      exact bind_of_ok (readColon_gap gap _)

theorem readMembers_passed (isLead : Lead first lead) (spelled : Spells name key)
    (isMember : IsMember (key, text) pair)
    (unnamed : shape.fields.find? (·.name == name) = none) (value : IsValue text)
    (ends : Ends tail) :
    shape.readMembers (fuel + 1) first part (lead ++ (pair ++ tail)) =
      shape.readMembers fuel false part tail := by
  cases isMember with
  | @pair _ _ before after gap gap' =>
    cases spelled with
    | quoted chars =>
      simp only [List.cons_append, List.append_assoc, List.nil_append]
      rw [readMembers]
      refine (bind_of_ok (nextMember_lead isLead _)).trans ?_
      refine (bind_of_ok (readString_spelled chars _)).trans ?_
      simp only [unnamed]
      refine (bind_of_ok (readColon_gap gap _)).trans ?_
      exact bind_of_ok (skip_value value gap' ends)

theorem readMembers_parts {members : List Member} {final : σ} (parts : Parts first texts inner)
    (pairs : List.Forall₂ IsMember members texts) (filled : shape.Fills part members final)
    (rest : List Char) (hf : texts.length < fuel) :
    shape.readMembers fuel first part (inner ++ '\x7d' :: rest) = .ok (final, '\x7d' :: rest) := by
  induction parts generalizing members part fuel with
  | none blanks =>
    obtain ⟨fuel, rfl⟩ := Nat.exists_eq_succ_of_ne_zero (Nat.ne_of_gt hf)
    cases pairs
    cases filled
    exact bind_of_ok (nextMember_end blanks _ rest)
  | part isLead more ih =>
    obtain ⟨fuel, rfl⟩ := Nat.exists_eq_succ_of_ne_zero (Nat.ne_zero_of_lt hf)
    cases pairs with
    | cons isMember pairs =>
      rw [List.append_assoc, List.append_assoc]
      cases filled with
      | known field spelled named unset taken filled =>
        obtain ⟨gap, hg, step⟩ := readMembers_known isLead spelled isMember named unset
        rw [step, bind_of_ok (taken gap _ hg)]
        exact ih pairs filled (Nat.lt_of_succ_lt_succ hf)
      | passed spelled unnamed value filled =>
        have ends := ends_parts more (ends_cons (c := '\x7d') (by decide) rest)
        rw [readMembers_passed isLead spelled isMember unnamed value ends]
        exact ih pairs filled (Nat.lt_of_succ_lt_succ hf)

theorem takes_object {members : List Member} {final : σ} {a : α} (isObject : IsObject members text)
    (filled : shape.Fills shape.blank members final) (finished : shape.finish final = .ok a) :
    Takes shape.read text a := by
  intro blanks rest hb
  cases isObject with
  | braces pairs enclosed =>
    cases enclosed with
    | brackets parts =>
      have read := readMembers_parts parts pairs filled rest
        (length_lt_behind parts pairs ('\x7d' :: rest))
      rw [List.cons_append, List.append_assoc, List.singleton_append, RecordShape.read,
        skipBlanks_append_cons hb rfl]
      refine (bind_of_ok read).trans ?_
      simp only [finished]
      rfl

end RecordShape

end Scaffold.Json
