import Scaffold.Proofs.Json.Settling

/-!
# Lists, maps and records settle

Lists, maps and records that are put together from parts are read part by part, or they fail. So
their readers settle if the readers for the parts do.
-/

namespace Scaffold.Json

variable {α : Type} {text inner : List Char} {texts : List (List Char)} {first : Bool} {c : Char}
  {more : List Char}

/-- What is refused without fuel, and with one more round of it, is refused. -/
theorem refused_of_succ {β : Type} {read : Nat → List Char → Except Failure β}
    (none : ∀ rest, ∃ failure, read 0 rest = .error failure)
    (more : ∀ fuel rest, ∃ failure, read (fuel + 1) rest = .error failure) :
    ∀ fuel rest, ∃ failure, read fuel rest = .error failure
  | 0, rest => none rest
  | fuel + 1, rest => more fuel rest

/-! ## Lists -/

theorem fails_list {item : Reader α} (notBlank : isBlank c = false) (notBracket : c ≠ '[') :
    Fails (readList item) (c :: more) := by
  apply fails_of_start notBlank
  intro cs rest starts
  rw [readList, starts]
  split
  · rename_i same
    exact absurd (List.cons.inj same).1 notBracket
  · exact unexpected_error _ _

theorem fails_null_list {item : Reader α} : Fails (readList item) "null".toList :=
  fails_list rfl (by decide)

theorem items_settle {item : Reader α} (h : Settles item) (parts : Parts first texts inner)
    (each : ∀ t ∈ texts, IsValue t) :
    (∃ items, List.Forall₂ (fun a t => Takes item t a) items texts) ∨
      ∀ fuel rest, ∃ failure, readItems item fuel first (inner ++ ']' :: rest) = .error failure := by
  induction parts with
  | none blanks => exact .inl ⟨[], .nil⟩
  | @part _ _ text _ _ isLead more ih =>
    obtain ⟨value, others⟩ := List.forall_mem_cons.mp each
    rcases h text value with ⟨a, taken⟩ | fails
    · rcases ih others with ⟨items, told⟩ | fails
      · exact .inl ⟨a :: items, .cons taken told⟩
      · refine .inr (refused_of_succ (fun _ => ⟨_, rfl⟩) fun fuel rest => ?_)
        rw [List.append_assoc, List.append_assoc, readItems_part isLead (opens_value value)]
        exact bind_of_ok_error (taken [] _ blanks_nil) (bind_of_error (fails fuel rest))
    · refine .inr (refused_of_succ (fun _ => ⟨_, rfl⟩) fun fuel rest => ?_)
      rw [List.append_assoc, List.append_assoc, readItems_part isLead (opens_value value)]
      exact bind_of_error (fails [] _ blanks_nil)

theorem list_settles {item : Reader α} (h : Settles item) (each : ∀ t ∈ texts, IsValue t)
    (enclosed : Enclosed '[' ']' texts text) :
    (∃ items, List.Forall₂ (fun a t => Takes item t a) items texts) ∨
      Fails (readList item) text := by
  cases enclosed with
  | brackets parts =>
    rcases items_settle h parts each with taken | fails
    · exact .inl taken
    · refine .inr fun blanks rest hb => ?_
      rw [List.cons_append, List.append_assoc, List.singleton_append, readList,
        skipBlanks_append_cons hb rfl]
      exact bind_of_error (fails _ rest)

theorem settles_list {item : Reader α} (h : Settles item) : Settles (readList item) := by
  intro text value
  cases kind_of_value value with
  | string isString =>
    cases isString
    exact .inr (fails_list rfl (by decide))
  | list each enclosed =>
    rcases list_settles h each enclosed with ⟨items, taken⟩ | fails
    · exact .inl ⟨items, takes_list taken (fun t ht => opens_value (each t ht)) enclosed⟩
    · exact .inr fails
  | object keys values isObject =>
    obtain ⟨_, ⟨_⟩⟩ := isObject
    exact .inr (fails_list rfl (by decide))
  | other starts notBlank _ notBracket _ =>
    subst starts
    exact .inr (fails_list notBlank notBracket)

/-! ## Maps -/

theorem fails_map {value : Reader α} (notBlank : isBlank c = false) (notBrace : c ≠ '\x7b') :
    Fails (readMap value) (c :: more) := by
  apply fails_of_start notBlank
  intro cs rest starts
  rw [readMap, starts]
  split
  · rename_i same
    exact absurd (List.cons.inj same).1 notBrace
  · exact unexpected_error _ _

theorem fails_null_map {value : Reader α} : Fails (readMap value) "null".toList :=
  fails_map rfl (by decide)

/-- A key that is not the spelling of a name. -/
inductive RefusedKey : List Char → Prop
  | quoted {body : List Char} (refused : Refused body) : RefusedKey ('"' :: (body ++ ['"']))

theorem spelled_or_refused_key {key : List Char} (h : IsString key) :
    (∃ name, Spells name key) ∨ RefusedKey key := by
  cases h with
  | quoted isBody =>
    rcases spelled_or_refused isBody with ⟨chars, spelled⟩ | refused
    · exact .inl ⟨_, spells_of_chars spelled⟩
    · exact .inr (.quoted refused)

theorem readEntries_refused {value : Reader α} {key pair lead : List Char} (isLead : Lead first lead)
    (refused : RefusedKey key) (isMember : IsMember (key, text) pair) (fuel : Nat)
    (tail : List Char) :
    ∃ failure, readEntries value (fuel + 1) first (lead ++ (pair ++ tail)) = .error failure := by
  cases isMember with
  | pair _ _ =>
    cases refused with
    | quoted refused =>
      simp only [List.cons_append, List.append_assoc, List.nil_append]
      rw [readEntries]
      exact bind_of_ok_error (nextMember_lead isLead _) (bind_of_error (readString_refused refused _))

theorem entries_settle {value : Reader α} {members : List Member} (h : Settles value)
    (parts : Parts first texts inner) (pairs : List.Forall₂ IsMember members texts)
    (keys : ∀ m ∈ members, IsString m.1) (values : ∀ m ∈ members, IsValue m.2) :
    (∃ entries : List (String × α),
        List.Forall₂ (fun e m => Spells e.1 m.1 ∧ Takes value m.2 e.2) entries members) ∨
      ∀ fuel rest, ∃ failure,
        readEntries value fuel first (inner ++ '\x7d' :: rest) = .error failure := by
  -- on the parts: the first key or value that is refused refuses the whole object
  induction parts generalizing members with
  | none blanks =>
    cases pairs
    exact .inl ⟨[], .nil⟩
  | part isLead more ih =>
    cases pairs with
    | @cons m _ members _ isMember pairs =>
      obtain ⟨key, keys⟩ := List.forall_mem_cons.mp keys
      obtain ⟨isValue, values⟩ := List.forall_mem_cons.mp values
      rcases spelled_or_refused_key key with ⟨name, spelled⟩ | refused
      · rcases h m.2 isValue with ⟨a, taken⟩ | fails
        · rcases ih pairs keys values with ⟨entries, told⟩ | fails
          · exact .inl ⟨(name, a) :: entries, .cons ⟨spelled, taken⟩ told⟩
          · refine .inr (refused_of_succ (fun _ => ⟨_, rfl⟩) fun fuel rest => ?_)
            rw [List.append_assoc, List.append_assoc]
            obtain ⟨gap, hg, step⟩ := readEntries_part isLead spelled isMember
            rw [step]
            exact bind_of_ok_error (taken gap _ hg) (bind_of_error (fails fuel rest))
        · refine .inr (refused_of_succ (fun _ => ⟨_, rfl⟩) fun fuel rest => ?_)
          rw [List.append_assoc, List.append_assoc]
          obtain ⟨gap, hg, step⟩ := readEntries_part isLead spelled isMember
          rw [step]
          exact bind_of_error (fails gap _ hg)
      · refine .inr (refused_of_succ (fun _ => ⟨_, rfl⟩) fun fuel rest => ?_)
        rw [List.append_assoc, List.append_assoc]
        exact readEntries_refused isLead refused isMember fuel _

theorem settles_map {value : Reader α} (h : Settles value) : Settles (readMap value) := by
  intro text isValue
  cases kind_of_value isValue with
  | string isString =>
    cases isString
    exact .inr (fails_map rfl (by decide))
  | list each enclosed =>
    cases enclosed
    exact .inr (fails_map rfl (by decide))
  | object keys values isObject =>
    cases isObject with
    | @braces texts _ pairs enclosed =>
      rcases enclosed with ⟨parts⟩
      rcases entries_settle h parts pairs keys values with ⟨entries, taken⟩ | fails
      · exact .inl ⟨entries, takes_map taken (.braces pairs (.brackets parts))⟩
      · refine .inr fun blanks rest hb => ?_
        rw [List.cons_append, List.append_assoc, List.singleton_append, readMap,
          skipBlanks_append_cons hb rfl]
        exact fails _ rest
  | other starts notBlank _ _ notBrace =>
    subst starts
    exact .inr (fails_map notBlank notBrace)

/-! ## Records -/

namespace RecordShape

variable {σ : Type} {shape : RecordShape σ α} {part : σ} {key pair lead : List Char}

theorem fails_other (notBlank : isBlank c = false) (notBrace : c ≠ '\x7b') (notBracket : c ≠ '[') :
    Fails shape.read (c :: more) := by
  apply fails_of_start notBlank
  intro cs rest starts
  rw [RecordShape.read, starts]
  split
  · rename_i same
    exact absurd (List.cons.inj same).1 notBrace
  · rename_i same
    exact absurd (List.cons.inj same).1 notBracket
  · exact unexpected_error _ _

theorem readMembers_refused (isLead : Lead first lead) (refused : RefusedKey key)
    (isMember : IsMember (key, text) pair) (fuel : Nat) (tail : List Char) :
    ∃ failure, shape.readMembers (fuel + 1) first part (lead ++ (pair ++ tail)) =
      .error failure := by
  cases isMember with
  | pair _ _ =>
    cases refused with
    | quoted refused =>
      simp only [List.cons_append, List.append_assoc, List.nil_append]
      rw [readMembers]
      exact bind_of_ok_error (nextMember_lead isLead _) (bind_of_error (readString_refused refused _))

theorem readMembers_repeated {name : String} {field : Field σ} (isLead : Lead first lead)
    (spelled : Spells name key) (isMember : IsMember (key, text) pair)
    (named : shape.fields.find? (·.name == name) = some field) (set : field.isSet part = true)
    (fuel : Nat) (tail : List Char) :
    ∃ failure, shape.readMembers (fuel + 1) first part (lead ++ (pair ++ tail)) =
      .error failure := by
  cases isMember with
  | pair _ _ =>
    cases spelled with
    | quoted chars =>
      simp only [List.cons_append, List.append_assoc, List.nil_append]
      rw [readMembers]
      refine bind_of_ok_error (nextMember_lead isLead _) ?_
      refine bind_of_ok_error (readString_spelled chars _) ?_
      simp only [named, set, if_true]
      exact ⟨_, rfl⟩

theorem members_settle (settles : ∀ field ∈ shape.fields, ∀ part, Settles (field.read part))
    {members : List Member} (parts : Parts first texts inner)
    (pairs : List.Forall₂ IsMember members texts) (keys : ∀ m ∈ members, IsString m.1)
    (values : ∀ m ∈ members, IsValue m.2) (part : σ) :
    (∃ final, shape.Fills part members final) ∨
      ∀ fuel rest, ∃ failure,
        shape.readMembers fuel first part (inner ++ '\x7d' :: rest) = .error failure := by
  -- on the members, with `part` free: what was set before decides what counts as repeated
  induction parts generalizing members part with
  | none blanks =>
    cases pairs
    exact .inl ⟨part, .done part⟩
  | part isLead more ih =>
    cases pairs with
    | @cons m _ members _ isMember pairs =>
      obtain ⟨key, keys⟩ := List.forall_mem_cons.mp keys
      obtain ⟨isValue, values⟩ := List.forall_mem_cons.mp values
      have ends := fun rest => ends_parts more (ends_cons (c := '\x7d') (by decide) rest)
      rcases spelled_or_refused_key key with ⟨name, spelled⟩ | refused
      · cases named : shape.fields.find? (·.name == name) with
        | none =>
          rcases ih pairs keys values part with ⟨final, filled⟩ | fails
          · exact .inl ⟨final, .passed spelled named isValue filled⟩
          · refine .inr (refused_of_succ (fun _ => ⟨_, rfl⟩) fun fuel rest => ?_)
            rw [List.append_assoc, List.append_assoc,
              readMembers_passed isLead spelled isMember named isValue (ends rest)]
            exact fails fuel rest
        | some field =>
          cases set : field.isSet part with
          | true =>
            refine .inr (refused_of_succ (fun _ => ⟨_, rfl⟩) fun fuel rest => ?_)
            rw [List.append_assoc, List.append_assoc]
            exact readMembers_repeated isLead spelled isMember named set fuel _
          | false =>
            rcases settles field (List.mem_of_find?_eq_some named) part m.2 isValue with
              ⟨next, taken⟩ | fails
            · rcases ih pairs keys values next with ⟨final, filled⟩ | fails
              · exact .inl ⟨final, .known field spelled named set taken filled⟩
              · refine .inr (refused_of_succ (fun _ => ⟨_, rfl⟩) fun fuel rest => ?_)
                rw [List.append_assoc, List.append_assoc]
                obtain ⟨gap, hg, step⟩ := readMembers_known isLead spelled isMember named set
                rw [step]
                exact bind_of_ok_error (taken gap _ hg) (fails fuel rest)
            · refine .inr (refused_of_succ (fun _ => ⟨_, rfl⟩) fun fuel rest => ?_)
              rw [List.append_assoc, List.append_assoc]
              obtain ⟨gap, hg, step⟩ := readMembers_known isLead spelled isMember named set
              rw [step]
              exact bind_of_error (fails gap _ hg)
      · refine .inr (refused_of_succ (fun _ => ⟨_, rfl⟩) fun fuel rest => ?_)
        rw [List.append_assoc, List.append_assoc]
        exact readMembers_refused isLead refused isMember fuel _

theorem object_settles (settles : ∀ field ∈ shape.fields, ∀ part, Settles (field.read part))
    {members : List Member} (isObject : IsObject members text) (keys : ∀ m ∈ members, IsString m.1)
    (values : ∀ m ∈ members, IsValue m.2) :
    (∃ final a, shape.Fills shape.blank members final ∧ shape.finish final = .ok a) ∨
      Fails shape.read text := by
  cases isObject with
  | @braces texts _ pairs enclosed =>
    rcases enclosed with ⟨parts⟩
    rcases members_settle settles parts pairs keys values shape.blank with ⟨final, filled⟩ | fails
    · cases finished : shape.finish final with
      | ok a => exact .inl ⟨final, a, filled, finished⟩
      | error name =>
        refine .inr fun blanks rest hb => ?_
        have read := readMembers_parts parts pairs filled rest
          (length_lt_behind parts pairs ('\x7d' :: rest))
        rw [List.cons_append, List.append_assoc, List.singleton_append, RecordShape.read,
          skipBlanks_append_cons hb rfl]
        refine bind_of_ok_error read ?_
        simp only [finished]
        exact ⟨_, rfl⟩
    · refine .inr fun blanks rest hb => ?_
      rw [List.cons_append, List.append_assoc, List.singleton_append, RecordShape.read,
        skipBlanks_append_cons hb rfl]
      exact bind_of_error (fails _ rest)

theorem endList_gap {gap : List Char} (hg : Blanks gap) (rest : List Char) :
    endList (gap ++ ']' :: rest) = .ok ((), rest) := by
  rw [endList, skipBlanks_append_cons hg rfl]
  rfl

theorem endList_part (isLead : Lead first lead) (opens : Opens text) (tail : List Char) :
    ∃ failure, endList (lead ++ (text ++ tail)) = .error failure := by
  obtain ⟨c, more, rfl, notBlank, notEnd, -, notComma⟩ := opens
  cases isLead with
  | first blanks =>
    rw [endList, List.cons_append, skipBlanks_append_cons blanks notBlank]
    split <;> simp_all
  | next blanks blanks' =>
    rw [endList, List.append_assoc, List.cons_append, skipBlanks_append_cons blanks rfl]
    simp only
    rw [List.cons_append, skipBlanks_append_cons blanks' notBlank]
    split <;> simp_all

/-- With an item before it the reader for fields reads on with the first one. -/
theorem readFields_part {count : Nat} {field : Field σ} {fields : List (Field σ)}
    (isLead : Lead first lead) (opens : Opens text) (tail : List Char) :
    shape.readFields count (field :: fields) first part (lead ++ (text ++ tail)) =
      field.read part (text ++ tail) >>= fun read =>
        shape.readFields (count + 1) fields false read.1 read.2 := by
  obtain ⟨c, more, rfl, opening⟩ := opens
  rw [List.cons_append, readFields]
  exact bind_of_ok (nextItem_lead isLead opening _)

theorem items_fill {fields : List (Field σ)}
    (settles : ∀ field ∈ fields, ∀ part, Settles (field.read part)) (count : Nat)
    (parts : Parts first texts inner) (each : ∀ t ∈ texts, IsValue t) (part : σ) :
    (∃ final, ∀ rest, ∃ cs, shape.readFields count fields first part (inner ++ ']' :: rest) =
        .ok (final, cs) ∧ endList cs = .ok ((), rest)) ∨
      ∀ rest, ∃ failure, (shape.readFields count fields first part (inner ++ ']' :: rest) >>=
        fun read => endList read.2) = .error failure := by
  -- on the fields, not on the items: either may run out first
  induction fields generalizing count first texts inner part with
  | nil =>
    cases parts with
    | none blanks => exact .inl ⟨part, fun rest => ⟨_, rfl, endList_gap blanks rest⟩⟩
    | @part _ _ text _ _ isLead _ =>
      refine .inr fun rest => ?_
      rw [List.append_assoc, List.append_assoc]
      exact endList_part isLead (opens_value (each text List.mem_cons_self)) _
  | cons field fields ih =>
    obtain ⟨here, later⟩ := List.forall_mem_cons.mp settles
    cases parts with
    | none blanks =>
      have nothing : ∀ rest, shape.readFields count (field :: fields) first part
          (_ ++ ']' :: rest) = _ := fun rest => bind_of_ok (nextItem_end blanks first rest)
      simp only [nothing, Bool.false_eq_true, if_false]
      cases required : field.required with
      | true => exact .inr fun rest => ⟨_, rfl⟩
      | false => exact ih later (count + 1) (.none blanks_nil) each part
    | @part _ _ text _ _ isLead more =>
      obtain ⟨value, others⟩ := List.forall_mem_cons.mp each
      rcases here part text value with ⟨next, taken⟩ | fails
      · have read : ∀ tail, shape.readFields count (field :: fields) first part
            (_ ++ (text ++ tail)) = _ := fun tail =>
          (readFields_part isLead (opens_value value) tail).trans
            (bind_of_ok (taken [] tail blanks_nil))
        simp only [List.append_assoc, read]
        exact ih later (count + 1) more others next
      · refine .inr fun rest => ?_
        rw [List.append_assoc, List.append_assoc, readFields_part isLead (opens_value value)]
        exact bind_of_error (bind_of_error (fails [] _ blanks_nil))

theorem items_settle (settles : ∀ field ∈ shape.fields, ∀ part, Settles (field.read part))
    (each : ∀ t ∈ texts, IsValue t) (enclosed : Enclosed '[' ']' texts text) :
    (∃ a, Takes shape.read text a) ∨ Fails shape.read text := by
  cases enclosed with
  | brackets parts =>
    rcases items_fill settles 0 parts each shape.blank with ⟨final, filled⟩ | fails
    · cases finished : shape.finish final with
      | ok a =>
        refine .inl ⟨a, fun blanks rest hb => ?_⟩
        obtain ⟨cs, read, ended⟩ := filled rest
        rw [List.cons_append, List.append_assoc, List.singleton_append, RecordShape.read,
          skipBlanks_append_cons hb rfl]
        refine (bind_of_ok read).trans ((bind_of_ok ended).trans ?_)
        simp only [finished]
      | error name =>
        refine .inr fun blanks rest hb => ?_
        obtain ⟨cs, read, ended⟩ := filled rest
        rw [List.cons_append, List.append_assoc, List.singleton_append, RecordShape.read,
          skipBlanks_append_cons hb rfl]
        refine bind_of_ok_error read (bind_of_ok_error ended ?_)
        simp only [finished]
        exact ⟨_, rfl⟩
    · refine .inr fun blanks rest hb => ?_
      rw [List.cons_append, List.append_assoc, List.singleton_append, RecordShape.read,
        skipBlanks_append_cons hb rfl]
      have failed := fails rest
      simp only
      cases read : shape.readFields 0 shape.fields true shape.blank _ with
      | error failure => exact ⟨failure, rfl⟩
      | ok result =>
        rw [read] at failed
        exact bind_of_ok_error rfl (bind_of_error failed)

theorem settles_read (settles : ∀ field ∈ shape.fields, ∀ part, Settles (field.read part)) :
    Settles shape.read := by
  intro text value
  cases kind_of_value value with
  | string isString =>
    cases isString
    exact .inr (fails_other rfl (by decide) (by decide))
  | list each enclosed => exact items_settle settles each enclosed
  | object keys values isObject =>
    rcases object_settles settles isObject keys values with ⟨final, a, filled, finished⟩ | fails
    · exact .inl ⟨a, takes_object isObject filled finished⟩
    · exact .inr fails
  | other starts notBlank _ notBracket notBrace =>
    subst starts
    exact .inr (fails_other notBlank notBrace notBracket)

end RecordShape

end Scaffold.Json
