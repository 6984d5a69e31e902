import Scaffold.Proofs.Json.Collections
import Scaffold.Proofs.Json.Printing

/-!
# Records that are damaged

A text that told a record is damaged at one place: a member that is needed is gone, there is one
more member with the key of an entry, or the value of an entry is null or spoiled. The record is
not read from it, whatever else stands there.
-/

namespace Scaffold.Json

/-! ## Damage -/

/-- What becomes of members that tell a record when they are damaged at one place. -/
inductive DamagedMembers (entries : List Entry) (needed : List String)
    (Spoiled : String → List Char → Prop) : List Member → Prop
  | removed {before after : List Member} {m : Member} {name : String}
    (tells : TellsMembers entries (before ++ m :: after)) (isNeeded : name ∈ needed)
    (spelled : Spells name m.1) : DamagedMembers entries needed Spoiled (before ++ after)
  | repeated {before after : List Member} {m old : Member} {e : Entry}
    (tells : TellsMembers entries (before ++ after)) (known : e ∈ entries)
    (present : old ∈ before ++ after) (spelled : Spells e.name old.1) (again : Spells e.name m.1)
    (value : IsValue m.2) : DamagedMembers entries needed Spoiled (before ++ m :: after)
  | null {before after : List Member} {key text : List Char} {e : Entry}
    (tells : TellsMembers entries (before ++ (key, text) :: after)) (known : e ∈ entries)
    (spelled : Spells e.name key) :
    DamagedMembers entries needed Spoiled (before ++ (key, "null".toList) :: after)
  | spoiled {before after : List Member} {key text bad : List Char} {e : Entry}
    (tells : TellsMembers entries (before ++ (key, text) :: after)) (known : e ∈ entries)
    (spelled : Spells e.name key) (spoiled : Spoiled e.name bad) :
    DamagedMembers entries needed Spoiled (before ++ (key, bad) :: after)

def DamagedRecord (entries : List Entry) (needed : List String)
    (Spoiled : String → List Char → Prop) (text : List Char) : Prop :=
  ∃ members, DamagedMembers entries needed Spoiled members ∧ IsObject members text

/-- One item of a list is damaged, the others are told. -/
inductive DamagedList {α : Type} (Tells Damaged : α → List Char → Prop) :
    List α → List Char → Prop
  | item {before after : List α} {a : α} {texts texts' : List (List Char)} {bad text : List Char}
    (told : List.Forall₂ Tells before texts) (damaged : Damaged a bad)
    (told' : List.Forall₂ Tells after texts')
    (enclosed : Enclosed '[' ']' (texts ++ bad :: texts') text) :
    DamagedList Tells Damaged (before ++ a :: after) text

/-! ## What tells is a value -/

variable {text : List Char}

theorem isBody_append_of_spellsChar {c : Char} {body : List Char} (h : SpellsChar c text)
    (more : IsBody body) : IsBody (text ++ body) := by
  cases h with
  | plain isPlain => exact .plain isPlain more
  | letter escape => exact .letter (Option.isSome_iff_exists.mpr ⟨c, escape⟩) more
  | unit unit => exact .unit unit more
  | pair first second _ _ _ =>
    have pair := IsBody.unit first (.unit second more)
    simpa using pair

theorem isBody_of_spelled {chars body : List Char} (h : SpellsChars chars body) : IsBody body := by
  induction h with
  | nil => exact .nil
  | cons first _ ih => exact isBody_append_of_spellsChar first ih

theorem isString_of_spells {s : String} (h : Spells s text) : IsString text := by
  cases h with
  | quoted chars => exact .quoted (isBody_of_spelled chars)

theorem isValue_of_spells {s : String} (h : Spells s text) : IsValue text :=
  .string (isString_of_spells h)

theorem isValue_of_told_list {α : Type} {Tells : α → List Char → Prop} {items : List α}
    (h : TellsList Tells items text) (each : ∀ a text, Tells a text → IsValue text) :
    IsValue text := by
  obtain ⟨texts, told, enclosed⟩ := h
  refine .list ?_ enclosed
  intro t ht
  obtain ⟨a, -, tells⟩ := exists_told told t ht
  exact each a t tells

theorem isValue_of_told_pairs {pairs : List (String × String)} (h : TellsPairs pairs text) :
    IsValue text := by
  obtain ⟨members, told, isObject⟩ := h
  refine .object ?_ ?_ isObject
  · intro m hm
    obtain ⟨p, -, spelled, -⟩ := exists_told told m hm
    exact isString_of_spells spelled
  · intro m hm
    obtain ⟨p, -, -, spelled⟩ := exists_told told m hm
    exact isValue_of_spells spelled

/-- An entry that is told by a text or by a list of texts. -/
inductive Entry.IsPlain : Entry → Prop
  | text {name : String} {mayLack : Prop} (s : String) : IsPlain ⟨name, mayLack, Spells s⟩
  | texts {name : String} {mayLack : Prop} (items : List String) :
    IsPlain ⟨name, mayLack, TellsList Spells items⟩

theorem isValue_of_plain {entries : List Entry} (plain : ∀ e ∈ entries, e.IsPlain) :
    ∀ e ∈ entries, ∀ t, e.Tells t → IsValue t := by
  intro e mem t tells
  cases plain e mem with
  | text => exact isValue_of_spells tells
  | texts => exact isValue_of_told_list tells fun _ _ => isValue_of_spells

def IsPair (m : Member) : Prop := IsString m.1 ∧ IsValue m.2

theorem isValue_of_pairs {members : List Member} (pairs : ∀ m ∈ members, IsPair m)
    (isObject : IsObject members text) : IsValue text :=
  .object (fun m hm => (pairs m hm).1) (fun m hm => (pairs m hm).2) isObject

section Entries

variable {entries : List Entry} {members : List Member} {needed : List String}
  {Spoiled : String → List Char → Prop}

theorem pairs_of_told (h : TellsMembers entries members)
    (values : ∀ e ∈ entries, ∀ t, e.Tells t → IsValue t) : ∀ m ∈ members, IsPair m := by
  intro m hm
  rcases h.each m hm with ⟨name, spelled, -, value⟩ | ⟨e, he, spelled, tells⟩
  · exact ⟨isString_of_spells spelled, value⟩
  · exact ⟨isString_of_spells spelled, values e he m.2 tells⟩

theorem isValue_of_told_record (h : TellsRecord entries text)
    (values : ∀ e ∈ entries, ∀ t, e.Tells t → IsValue t) : IsValue text := by
  obtain ⟨members, tells, isObject⟩ := h
  exact isValue_of_pairs (pairs_of_told tells values) isObject

theorem pairs_of_damaged (h : DamagedMembers entries needed Spoiled members)
    (values : ∀ e ∈ entries, ∀ t, e.Tells t → IsValue t)
    (spoiledValues : ∀ name t, Spoiled name t → IsValue t) : ∀ m ∈ members, IsPair m := by
  cases h with
  | removed tells _ _ =>
    have pairs := pairs_of_told tells values
    simp only [List.forall_mem_append, List.forall_mem_cons] at pairs ⊢
    exact ⟨pairs.1, pairs.2.2⟩
  | repeated tells _ _ _ again value =>
    have pairs := pairs_of_told tells values
    simp only [List.forall_mem_append, List.forall_mem_cons] at pairs ⊢
    exact ⟨pairs.1, ⟨isString_of_spells again, value⟩, pairs.2⟩
  | null tells _ spelled =>
    have pairs := pairs_of_told tells values
    simp only [List.forall_mem_append, List.forall_mem_cons] at pairs ⊢
    exact ⟨pairs.1, ⟨isString_of_spells spelled, .null⟩, pairs.2.2⟩
  | spoiled tells _ spelled spoiled =>
    have pairs := pairs_of_told tells values
    simp only [List.forall_mem_append, List.forall_mem_cons] at pairs ⊢
    exact ⟨pairs.1, ⟨isString_of_spells spelled, spoiledValues _ _ spoiled⟩, pairs.2.2⟩

end Entries

theorem isValue_of_damaged_record {entries : List Entry} {needed : List String}
    {Spoiled : String → List Char → Prop} (h : DamagedRecord entries needed Spoiled text)
    (values : ∀ e ∈ entries, ∀ t, e.Tells t → IsValue t)
    (spoiledValues : ∀ name t, Spoiled name t → IsValue t) : IsValue text := by
  obtain ⟨members, damaged, isObject⟩ := h
  exact isValue_of_pairs (pairs_of_damaged damaged values spoiledValues) isObject

theorem values_of_damaged_list {α : Type} {Tells Damaged : α → List Char → Prop}
    {before after : List α} {a : α} {texts texts' : List (List Char)} {bad : List Char}
    (told : List.Forall₂ Tells before texts) (damaged : Damaged a bad)
    (told' : List.Forall₂ Tells after texts') (values : ∀ a t, Tells a t → IsValue t)
    (damagedValues : ∀ a t, Damaged a t → IsValue t) :
    ∀ t ∈ texts ++ bad :: texts', IsValue t := by
  simp only [List.forall_mem_append, List.forall_mem_cons]
  refine ⟨?_, damagedValues a bad damaged, ?_⟩
  · intro t ht
    obtain ⟨a, -, tells⟩ := exists_told told t ht
    exact values a t tells
  · intro t ht
    obtain ⟨a, -, tells⟩ := exists_told told' t ht
    exact values a t tells

theorem isValue_of_damaged_list {α : Type} {Tells Damaged : α → List Char → Prop} {items : List α}
    (h : DamagedList Tells Damaged items text) (values : ∀ a t, Tells a t → IsValue t)
    (damagedValues : ∀ a t, Damaged a t → IsValue t) : IsValue text := by
  cases h with
  | item told damaged told' enclosed =>
    exact .list (values_of_damaged_list told damaged told' values damagedValues) enclosed

/-! ## Reading what is damaged -/

namespace RecordShape

variable {σ α : Type} {shape : RecordShape σ α} {part next final : σ} {members : List Member}
  {name : String} {field : Field σ}

/-- A field that keeps what its reader reads and leaves the other fields. -/
inductive IsSlot (shape : RecordShape σ α) : Field σ → Prop
  | keeps {β : Type} {name : String} {required : Bool} {isSet : σ → Bool} {reader : Reader β}
    (put : σ → β → σ) (settles : Settles reader) (null : Fails reader "null".toList)
    (sets : ∀ part v, ∀ other ∈ shape.fields,
      other.isSet (put part v) = (other.name == name || other.isSet part)) :
    IsSlot shape ⟨name, required, isSet,
      fun part cs => do let (v, cs) ← reader cs; .ok (put part v, cs)⟩

/-- A record of slots, empty at first, that is finished only if all that is required is set. -/
structure Slotted (shape : RecordShape σ α) : Prop where
  slots : ∀ field ∈ shape.fields, IsSlot shape field
  blank : ∀ field ∈ shape.fields, field.isSet shape.blank = false
  needs : ∀ field ∈ shape.fields, field.required = true → ∀ part a,
    shape.finish part = .ok a → field.isSet part = true

/-- A field as its parts, with a reader that takes a value or refuses it, and refuses null. -/
structure Slot (σ : Type) where
  {β : Type}
  name : String
  required : Bool
  get : σ → Option β
  put : σ → β → σ
  reader : Reader β
  settles : Settles reader
  null : Fails reader "null".toList

def Slot.toField (slot : Slot σ) : Field σ :=
  ⟨slot.name, slot.required, fun part => (slot.get part).isSome,
    fun part cs => do let (v, cs) ← slot.reader cs; .ok (slot.put part v, cs)⟩

/-- A shape whose fields are told by slots that leave each other alone. -/
theorem slotted_of_slots {slots : List (Slot σ)} (fields : shape.fields = slots.map Slot.toField)
    (puts : ∀ slot ∈ slots, ∀ other ∈ slots, ∀ part v,
      (other.get (slot.put part v)).isSome = (other.name == slot.name || (other.get part).isSome))
    (blank : ∀ slot ∈ slots, (slot.get shape.blank).isSome = false)
    (needs : ∀ part a, shape.finish part = .ok a →
      ∀ slot ∈ slots, slot.required = true → (slot.get part).isSome = true) : Slotted shape where
  slots := by
    rw [fields, List.forall_mem_map]
    intro slot mem
    refine .keeps slot.put slot.settles slot.null fun part v other listed => ?_
    rw [fields] at listed
    obtain ⟨other, known, rfl⟩ := List.mem_map.mp listed
    exact puts slot mem other known part v
  blank := by
    rw [fields, List.forall_mem_map]
    exact blank
  needs := by
    rw [fields, List.forall_mem_map]
    exact fun slot mem required part a finished => needs part a finished slot mem required

theorem settles_of_slot (h : IsSlot shape field) (part : σ) : Settles (field.read part) := by
  cases h with
  | keeps put settles _ _ => exact settles.map (put part)

theorem fails_null_of_slot (h : IsSlot shape field) (part : σ) :
    Fails (field.read part) "null".toList := by
  cases h with
  | keeps put _ null _ => exact fun blanks rest hb => bind_of_error (null blanks rest hb)

theorem isSet_of_taken (h : IsSlot shape field) (taken : Takes (field.read part) text next) :
    ∀ other ∈ shape.fields, other.isSet next = (other.name == field.name || other.isSet part) := by
  cases h with
  | @keeps _ _ _ _ reader put _ _ sets =>
    -- what is put does not depend on the text around it, so the empty one will do
    have read := taken [] [] blanks_nil
    simp only at read
    cases result : reader ([] ++ (text ++ [])) with
    | error failure =>
      rw [result] at read
      cases read
    | ok value =>
      obtain ⟨v, rest⟩ := value
      rw [result] at read
      cases read
      exact sets part v

theorem name_of_named (named : shape.fields.find? (·.name == name) = some field) :
    field.name = name := by
  simpa using List.find?_some named

variable (slotted : Slotted shape)

include slotted

theorem settles_of_slotted : Settles shape.read :=
  settles_read fun field hf part => settles_of_slot (slotted.slots field hf) part

theorem unspelled_of_set (filled : shape.Fills part members final)
    (named : shape.fields.find? (·.name == name) = some field) (set : field.isSet part = true) :
    ∀ m ∈ members, ¬Spells name m.1 := by
  induction filled with
  | done => exact List.forall_mem_nil _
  | known other spelled named' unset taken _ ih =>
    rw [List.forall_mem_cons]
    constructor
    · intro spelled'
      rw [spells_unique spelled spelled', named] at named'
      cases named'
      rw [set] at unset
      cases unset
    · apply ih
      have slot := slotted.slots other (List.mem_of_find?_eq_some named')
      rw [isSet_of_taken slot taken field (List.mem_of_find?_eq_some named), set, Bool.or_true]
  | passed spelled unnamed _ _ ih =>
    rw [List.forall_mem_cons]
    constructor
    · intro spelled'
      rw [spells_unique spelled spelled', named] at unnamed
      cases unnamed
    · exact ih set

theorem once_of_filled (filled : shape.Fills part members final)
    (named : shape.fields.find? (·.name == name) = some field) :
    members.Pairwise fun m m' => ¬(Spells name m.1 ∧ Spells name m'.1) := by
  induction filled with
  | done => exact .nil
  | known other spelled named' unset taken filled ih =>
    refine List.pairwise_cons.mpr ⟨?_, ih⟩
    rintro m hm ⟨here, there⟩
    rw [spells_unique spelled here, named] at named'
    cases named'
    have slot := slotted.slots field (List.mem_of_find?_eq_some named)
    have set := isSet_of_taken slot taken field (List.mem_of_find?_eq_some named)
    rw [beq_self_eq_true, Bool.true_or] at set
    exact unspelled_of_set slotted filled named set m hm there
  | passed spelled unnamed _ _ ih =>
    refine List.pairwise_cons.mpr ⟨?_, ih⟩
    rintro m hm ⟨here, there⟩
    rw [spells_unique spelled here, named] at unnamed
    cases unnamed

/-- A field is set in the end if it was at first or its key came. -/
theorem spelled_of_set (filled : shape.Fills part members final)
    (named : shape.fields.find? (·.name == name) = some field) (set : field.isSet final = true) :
    field.isSet part = true ∨ ∃ m ∈ members, Spells name m.1 := by
  induction filled with
  | done => exact .inl set
  | @known name' key text _ _ _ _ other spelled named' unset taken _ ih =>
    rcases ih set with set | ⟨m, hm, here⟩
    · have slot := slotted.slots other (List.mem_of_find?_eq_some named')
      rw [isSet_of_taken slot taken field (List.mem_of_find?_eq_some named), Bool.or_eq_true,
        beq_iff_eq] at set
      rcases set with same | set
      · have here : name' = name := by
          rw [← name_of_named named', ← same, name_of_named named]
        exact .inr ⟨_, List.mem_cons_self, here ▸ spelled⟩
      · exact .inl set
    · exact .inr ⟨m, List.mem_cons_of_mem _ hm, here⟩
  | passed _ _ _ _ ih =>
    rcases ih set with set | ⟨m, hm, here⟩
    · exact .inl set
    · exact .inr ⟨m, List.mem_cons_of_mem _ hm, here⟩

omit slotted in
theorem taken_of_filled (filled : shape.Fills part members final)
    (named : shape.fields.find? (·.name == name) = some field) {m : Member} (mem : m ∈ members)
    (spelled : Spells name m.1) : ∃ part next, Takes (field.read part) m.2 next := by
  induction filled with
  | done => cases mem
  | known other spelled' named' _ taken _ ih =>
    rcases List.mem_cons.mp mem with rfl | mem
    · rw [spells_unique spelled' spelled, named] at named'
      cases named'
      exact ⟨_, _, taken⟩
    · exact ih mem
  | passed spelled' unnamed _ _ ih =>
    rcases List.mem_cons.mp mem with rfl | mem
    · rw [spells_unique spelled' spelled, named] at unnamed
      cases unnamed
    · exact ih mem

omit slotted in
/-- Members that no record is read from: the key of a required field lacks, the key of a field comes
twice, or a value is refused by its field. -/
inductive Flawed (shape : RecordShape σ α) (members : List Member) : Prop
  | lacks {name : String} {field : Field σ}
    (named : shape.fields.find? (·.name == name) = some field) (required : field.required = true)
    (absent : ∀ m ∈ members, ¬Spells name m.1)
  | repeats {name : String} {field : Field σ}
    (named : shape.fields.find? (·.name == name) = some field)
    (twice : ¬members.Pairwise fun m m' => ¬(Spells name m.1 ∧ Spells name m'.1))
  | refused {name : String} {field : Field σ} {m : Member}
    (named : shape.fields.find? (·.name == name) = some field) (mem : m ∈ members)
    (spelled : Spells name m.1) (fails : ∀ part, Fails (field.read part) m.2)

/-- A flawed object is refused wherever its flaw is. -/
theorem fails_flawed (flawed : shape.Flawed members) (pairs : ∀ m ∈ members, IsPair m)
    (isObject : IsObject members text) : Fails shape.read text := by
  have settles : ∀ field ∈ shape.fields, ∀ part, Settles (field.read part) := fun field hf part =>
    settles_of_slot (slotted.slots field hf) part
  -- the object settles, so it is enough that no flawed members fill a finished record
  rcases object_settles settles isObject (fun m hm => (pairs m hm).1) (fun m hm => (pairs m hm).2)
    with ⟨final, a, filled, finished⟩ | fails
  · cases flawed with
    | lacks named required absent =>
      have mem := List.mem_of_find?_eq_some named
      have set := slotted.needs _ mem required final a finished
      rcases spelled_of_set slotted filled named set with set | ⟨m, hm, spelled⟩
      · rw [slotted.blank _ mem] at set
        cases set
      · exact absurd spelled (absent m hm)
    | repeats named twice => exact absurd (once_of_filled slotted filled named) twice
    | refused named mem spelled fails =>
      obtain ⟨part, next, taken⟩ := taken_of_filled filled named mem spelled
      exact absurd taken (not_takes_of_fails (fails part) next)
  · exact fails

variable {entries : List Entry} {needed : List String} {Spoiled : String → List Char → Prop}

omit slotted in
theorem field_of_entry (names : shape.fields.map Field.name = entries.map Entry.name) {e : Entry}
    (he : e ∈ entries) : ∃ field, shape.fields.find? (·.name == e.name) = some field := by
  have mem : e.name ∈ shape.fields.map Field.name := names ▸ List.mem_map_of_mem he
  obtain ⟨field, hf, named⟩ := List.mem_map.mp mem
  rw [← Option.isSome_iff_exists, List.find?_isSome]
  exact ⟨field, hf, by simpa using named⟩

omit slotted in
theorem entry_of_field (names : shape.fields.map Field.name = entries.map Entry.name)
    (named : shape.fields.find? (·.name == name) = some field) : ∃ e ∈ entries, e.name = name := by
  have mem := List.mem_map_of_mem (f := Field.name) (List.mem_of_find?_eq_some named)
  rw [names, name_of_named named] at mem
  exact List.mem_map.mp mem

theorem flawed_of_damaged (names : shape.fields.map Field.name = entries.map Entry.name)
    (needs : ∀ name ∈ needed, ∃ field, shape.fields.find? (·.name == name) = some field ∧
      field.required = true)
    (refuses : ∀ name field text, shape.fields.find? (·.name == name) = some field →
      Spoiled name text → ∀ part, Fails (field.read part) text)
    (damaged : DamagedMembers entries needed Spoiled members) : shape.Flawed members := by
  -- each kind of damage is a flaw of its own, since an undamaged record has each key once
  cases damaged with
  | @removed before after m name tells isNeeded spelled =>
    obtain ⟨field, named, required⟩ := needs name isNeeded
    obtain ⟨e, he, rfl⟩ := entry_of_field names named
    refine .lacks named required ?_
    have once := tells.once
    simp only [List.pairwise_append, List.pairwise_cons, List.forall_mem_cons] at once
    intro m' hm' spelled'
    rcases List.mem_append.mp hm' with hm' | hm'
    · exact (once.2.2 m' hm').1 e he ⟨spelled', spelled⟩
    · exact once.2.1.1 m' hm' e he ⟨spelled, spelled'⟩
  | @repeated before after m old e tells known present spelled again value =>
    obtain ⟨field, named⟩ := field_of_entry names known
    refine .repeats named fun once => ?_
    simp only [List.pairwise_append, List.pairwise_cons, List.forall_mem_cons] at once
    rcases List.mem_append.mp present with here | here
    · exact (once.2.2 old here).1 ⟨spelled, again⟩
    · exact once.2.1.1 old here ⟨again, spelled⟩
  | @null before after key text e tells known spelled =>
    obtain ⟨field, named⟩ := field_of_entry names known
    refine .refused named (List.mem_append_right before List.mem_cons_self) spelled fun part => ?_
    exact fails_null_of_slot (slotted.slots field (List.mem_of_find?_eq_some named)) part
  | @spoiled before after key text bad e tells known spelled spoiled =>
    obtain ⟨field, named⟩ := field_of_entry names known
    exact .refused named (List.mem_append_right before List.mem_cons_self) spelled
      (refuses e.name field bad named spoiled)

theorem fails_damaged (names : shape.fields.map Field.name = entries.map Entry.name)
    (needs : ∀ name ∈ needed, ∃ field, shape.fields.find? (·.name == name) = some field ∧
      field.required = true)
    (refuses : ∀ name field text, shape.fields.find? (·.name == name) = some field →
      Spoiled name text → ∀ part, Fails (field.read part) text)
    (values : ∀ e ∈ entries, ∀ t, e.Tells t → IsValue t)
    (spoiledValues : ∀ name t, Spoiled name t → IsValue t)
    (h : DamagedRecord entries needed Spoiled text) : Fails shape.read text := by
  obtain ⟨members, damaged, isObject⟩ := h
  have flawed := flawed_of_damaged slotted names needs refuses damaged
  exact fails_flawed slotted flawed (pairs_of_damaged damaged values spoiledValues) isObject

end RecordShape

theorem fails_damaged_list {α β : Type} {Tells Damaged : α → List Char → Prop} {item : Reader β}
    {items : List α} (settles : Settles item) (values : ∀ a t, Tells a t → IsValue t)
    (damagedValues : ∀ a t, Damaged a t → IsValue t) (fails : ∀ a t, Damaged a t → Fails item t)
    (damaged : DamagedList Tells Damaged items text) : Fails (readList item) text := by
  cases damaged with
  | @item before after a texts texts' bad _ told damaged told' enclosed =>
    have each := values_of_damaged_list told damaged told' values damagedValues
    rcases list_settles settles each enclosed with ⟨read, taken⟩ | fails
    · obtain ⟨b, -, taken⟩ := exists_told taken bad (List.mem_append_right texts List.mem_cons_self)
      exact absurd taken (not_takes_of_fails (fails a bad damaged) b)
    · exact fails

end Scaffold.Json
