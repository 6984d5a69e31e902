import Scaffold.Proofs.Json.Layout

/-!
# Texts that tell a record

An object tells a record if each entry of the record stands in it once, spelled in any way and at
any place among members that are no entries. Entries that may be lacking may be left out. A record
is read from every text that tells it.
-/

namespace Scaffold.Json

/-- An entry of a record: its name, whether it may be lacking, and the texts of its value. -/
structure Entry where
  name : String
  mayLack : Prop
  Tells : List Char → Prop

/-- A member whose key is not the name of an entry, with any value. -/
def IsForeign (entries : List Entry) (m : Member) : Prop :=
  ∃ name, Spells name m.1 ∧ name ∉ entries.map Entry.name ∧ IsValue m.2

structure TellsMembers (entries : List Entry) (members : List Member) : Prop where
  each : ∀ m ∈ members, IsForeign entries m ∨ ∃ e ∈ entries, Spells e.name m.1 ∧ e.Tells m.2
  once : members.Pairwise fun m m' => ∀ e ∈ entries, ¬(Spells e.name m.1 ∧ Spells e.name m'.1)
  complete : ∀ e ∈ entries, e.mayLack ∨ ∃ m ∈ members, Spells e.name m.1

def TellsRecord (entries : List Entry) (text : List Char) : Prop :=
  ∃ members, TellsMembers entries members ∧ IsObject members text

def TellsList {α : Type} (Tells : α → List Char → Prop) (items : List α) (text : List Char) :
    Prop :=
  ∃ texts, List.Forall₂ Tells items texts ∧ Enclosed '[' ']' texts text

/-- The text is an object with the pairs of names and strings in their order. -/
def TellsPairs (pairs : List (String × String)) (text : List Char) : Prop :=
  ∃ members : List Member,
    List.Forall₂ (fun p m => Spells p.1 m.1 ∧ Spells p.2 m.2) pairs members ∧ IsObject members text

/-- The whole text tells something, with blanks before it and behind it. -/
inductive Document (Tells : List Char → Prop) : String → Prop
  | blanks {before text after : List Char} (blanks : Blanks before) (tells : Tells text)
    (blanks' : Blanks after) : Document Tells (String.ofList (before ++ (text ++ after)))

theorem document_of_tells {Tells : List Char → Prop} {text : List Char} (h : Tells text) :
    Document Tells (String.ofList text) := by
  have document := Document.blanks blanks_nil h blanks_nil
  rw [List.nil_append, List.append_nil] at document
  exact document

theorem exists_told {α β : Type} {R : α → β → Prop} {items : List α} {texts : List β}
    (h : List.Forall₂ R items texts) : ∀ t ∈ texts, ∃ a ∈ items, R a t := by
  induction h with
  | nil => simp
  | cons first _ ih =>
    intro t ht
    rcases List.mem_cons.mp ht with rfl | ht
    · exact ⟨_, List.mem_cons_self, first⟩
    · obtain ⟨a, ha, told⟩ := ih t ht
      exact ⟨a, List.mem_cons_of_mem _ ha, told⟩

section Arrangement

variable {entries kept left : List Entry} {known foreign members : List Member}

theorem not_spells_of_foreign {m : Member} (h : IsForeign entries m) :
    ∀ e ∈ entries, ¬Spells e.name m.1 := by
  obtain ⟨name, spelled, other, -⟩ := h
  intro e he spelled'
  rw [spells_unique spelled spelled'] at other
  exact other (List.mem_map_of_mem he)

theorem once_of_spelled {names : List String}
    (spelled : List.Forall₂ (fun name m => Spells name m.1) names members) (apart : names.Nodup) :
    members.Pairwise fun m m' => ∀ e ∈ entries, ¬(Spells e.name m.1 ∧ Spells e.name m'.1) := by
  induction spelled with
  | nil => exact .nil
  | @cons name m names members here later ih =>
    obtain ⟨differ, apart⟩ := List.nodup_cons.mp apart
    refine List.pairwise_cons.mpr ⟨?_, ih apart⟩
    rintro m' hm' e - ⟨first, second⟩
    obtain ⟨other, mem, there⟩ := exists_told later m' hm'
    apply differ
    rw [← spells_unique first here, spells_unique second there]
    exact mem

/-- Members tell a record if they are its entries and foreign members, in any order, with the
entries that are left out allowed to be. -/
theorem tellsMembers_of_perm (names : (entries.map Entry.name).Nodup)
    (parted : entries.Perm (kept ++ left)) (lacking : ∀ e ∈ left, e.mayLack)
    (told : List.Forall₂ (fun e m => Spells e.name m.1 ∧ e.Tells m.2) kept known)
    (others : ∀ m ∈ foreign, IsForeign entries m) (mixed : members.Perm (known ++ foreign)) :
    TellsMembers entries members where
  each := by
    intro m hm
    rcases List.mem_append.mp (mixed.mem_iff.mp hm) with hm | hm
    · obtain ⟨e, he, here⟩ := exists_told told m hm
      exact .inr ⟨e, parted.mem_iff.mpr (List.mem_append_left left he), here⟩
    · exact .inl (others m hm)
  once := by
    have kinds : (kept.map Entry.name).Nodup := by
      have all := (parted.map Entry.name).nodup_iff.mp names
      rw [List.map_append] at all
      exact (List.nodup_append.mp all).1
    have symm : ∀ {m m' : Member}, (∀ e ∈ entries, ¬(Spells e.name m.1 ∧ Spells e.name m'.1)) →
        ∀ e ∈ entries, ¬(Spells e.name m'.1 ∧ Spells e.name m.1) :=
      fun apart e he both => apart e he both.symm
    -- once in any order is once in the order of the entries with the foreign members behind
    rw [mixed.pairwise_iff symm, List.pairwise_append]
    refine ⟨once_of_spelled ?_ kinds, ?_, ?_⟩
    · rw [List.forall₂_map_left_iff]
      exact told.imp fun _ _ h => h.1
    · rw [List.pairwise_iff_forall_sublist]
      intro m m' sub e he both
      have mem : m ∈ foreign := sub.subset List.mem_cons_self
      exact not_spells_of_foreign (others m mem) e he both.1
    · intro m _ m' hm' e he both
      exact not_spells_of_foreign (others m' hm') e he both.2
  complete := by
    intro e he
    rcases List.mem_append.mp (parted.mem_iff.mp he) with he | he
    · obtain ⟨m, hm, here⟩ := exists_told told.flip e he
      exact .inr ⟨m, mixed.mem_iff.mpr (List.mem_append_left foreign hm), here.1⟩
    · exact .inl (lacking e he)

end Arrangement

/-! ## Reading what is told -/

variable {text : List Char}

theorem takes_told_list {α : Type} {Tells : α → List Char → Prop} {item : Reader α}
    {items : List α} (h : TellsList Tells items text)
    (each : ∀ a text, Tells a text → Takes item text a ∧ Opens text) :
    Takes (readList item) text items := by
  obtain ⟨texts, told, enclosed⟩ := h
  apply takes_list _ _ enclosed
  · exact told.imp fun a t h => (each a t h).1
  · intro t ht
    obtain ⟨a, -, tells⟩ := exists_told told t ht
    exact (each a t tells).2

theorem takes_texts {texts : List String} (h : TellsList Spells texts text) :
    Takes (readList readText) text texts :=
  takes_told_list h fun _ _ spelled => ⟨takes_text spelled, opens_spelled spelled⟩

theorem takes_pairs {pairs : List (String × String)} (h : TellsPairs pairs text) :
    Takes (readMap readText) text pairs := by
  obtain ⟨members, told, isObject⟩ := h
  exact takes_map (told.imp fun _ _ h => ⟨h.1, takes_text h.2⟩) isObject

theorem opens_record {entries : List Entry} (h : TellsRecord entries text) : Opens text := by
  obtain ⟨members, -, isObject⟩ := h
  cases isObject with
  | braces _ enclosed =>
    cases enclosed
    exact ⟨'\x7b', _, rfl, by decide, by decide, by decide, by decide⟩

def told {α : Type} (keys : List String) (key : String) (a : α) : Option α :=
  if key ∈ keys then some a else none

section Told

variable {α : Type} {keys : List String} {key other : String} {a : α}

@[simp] theorem told_nil : told [] key a = none := if_neg List.not_mem_nil

@[simp] theorem told_cons_self : told (key :: keys) key a = some a := if_pos List.mem_cons_self

theorem told_of_not_mem (h : key ∉ keys) : told keys key a = none := if_neg h

theorem told_of_mem (h : key ∈ keys) : told keys key a = some a := if_pos h

theorem told_cons_of_ne (h : key ≠ other) : told (other :: keys) key a = told keys key a := by
  simp [told, h]

theorem getD_told {empty : α} (h : a = empty ∨ key ∈ keys) : (told keys key a).getD empty = a := by
  by_cases mem : key ∈ keys
  · rw [told_of_mem mem, Option.getD_some]
  · rw [told_of_not_mem mem, Option.getD_none, h.resolve_right mem]

end Told

section Record

variable {σ α : Type} {shape : RecordShape σ α} {entries : List Entry} {held : List String → σ}
  {a : α} {keys : List String} {members : List Member}

/-- How far a record is read depends on the keys that were met alone, not on their order. -/
structure Follows (shape : RecordShape σ α) (entries : List Entry) (held : List String → σ)
    (a : α) : Prop where
  names : shape.fields.map Field.name = entries.map Entry.name
  blank : held [] = shape.blank
  step : ∀ e ∈ entries, ∀ keys text, e.name ∉ keys → e.Tells text →
    ∃ field, shape.fields.find? (·.name == e.name) = some field ∧
      field.isSet (held keys) = false ∧ Takes (field.read (held keys)) text (held (e.name :: keys))
  finish : ∀ keys, (∀ e ∈ entries, e.mayLack ∨ e.name ∈ keys) → shape.finish (held keys) = .ok a

theorem step_field {β : Type} {reader : Reader β} {b : β} {name : String} {required : Bool}
    {isSet : σ → Bool} {part next : σ} (put : σ → β → σ)
    (named : shape.fields.find? (·.name == name) = some ⟨name, required, isSet,
      fun part cs => do let (v, cs) ← reader cs; .ok (put part v, cs)⟩)
    (taken : Takes reader text b) (unset : isSet part = false) (kept : put part b = next) :
    ∃ field, shape.fields.find? (·.name == name) = some field ∧ field.isSet part = false ∧
      Takes (field.read part) text next :=
  ⟨_, named, unset, kept ▸ taken.map (put part)⟩

namespace Follows

theorem foreign (h : Follows shape entries held a) {name : String}
    (other : name ∉ entries.map Entry.name) : shape.fields.find? (·.name == name) = none := by
  rw [← h.names] at other
  simp only [List.find?_eq_none, beq_iff_eq]
  rintro field mem rfl
  exact other (List.mem_map_of_mem mem)

/-- Members are read into whatever place is left for them. -/
theorem fills (h : Follows shape entries held a)
    (each : ∀ m ∈ members, IsForeign entries m ∨ ∃ e ∈ entries, Spells e.name m.1 ∧ e.Tells m.2)
    (once : members.Pairwise fun m m' => ∀ e ∈ entries, ¬(Spells e.name m.1 ∧ Spells e.name m'.1))
    (fresh : ∀ e ∈ entries, ∀ m ∈ members, Spells e.name m.1 → e.name ∉ keys) :
    ∃ met, shape.Fills (held keys) members (held met) ∧ keys ⊆ met ∧
      ∀ e ∈ entries, ∀ m ∈ members, Spells e.name m.1 → e.name ∈ met := by
  -- `keys` grows with each known member, so the hypothesis is needed for all of them
  induction members generalizing keys with
  | nil => exact ⟨keys, .done _, List.Subset.refl keys, fun _ _ _ hm => absurd hm List.not_mem_nil⟩
  | cons m members ih =>
    obtain ⟨apart, once⟩ := List.pairwise_cons.mp once
    have later := fun m' hm' => each m' (List.mem_cons_of_mem m hm')
    rcases each m List.mem_cons_self with ⟨name, spelled, other, value⟩ | ⟨e, he, spelled, tells⟩
    · obtain ⟨met, filled, more, all⟩ :=
        ih later once fun e he m' hm' => fresh e he m' (List.mem_cons_of_mem m hm')
      refine ⟨met, .passed spelled (h.foreign other) value filled, more, ?_⟩
      intro e he m' hm' spelled'
      rcases List.mem_cons.mp hm' with rfl | hm'
      · exact absurd spelled' (not_spells_of_foreign ⟨name, spelled, other, value⟩ e he)
      · exact all e he m' hm' spelled'
    · have unmet := fresh e he m List.mem_cons_self spelled
      obtain ⟨field, named, unset, taken⟩ := h.step e he keys m.2 unmet tells
      have fresh' : ∀ e' ∈ entries, ∀ m' ∈ members, Spells e'.name m'.1 →
          e'.name ∉ e.name :: keys := by
        intro e' he' m' hm' spelled' mem
        rcases List.mem_cons.mp mem with same | mem
        · exact apart m' hm' e he ⟨spelled, same ▸ spelled'⟩
        · exact fresh e' he' m' (List.mem_cons_of_mem m hm') spelled' mem
      obtain ⟨met, filled, more, all⟩ := ih later once fresh'
      refine ⟨met, .known field spelled named unset taken filled, ?_, ?_⟩
      · exact List.Subset.trans (List.subset_cons_self e.name keys) more
      · intro e' he' m' hm' spelled'
        rcases List.mem_cons.mp hm' with rfl | hm'
        · rw [← spells_unique spelled spelled']
          exact more List.mem_cons_self
        · exact all e' he' m' hm' spelled'

theorem takes (h : Follows shape entries held a) (tells : TellsRecord entries text) :
    Takes shape.read text a := by
  obtain ⟨members, ⟨each, once, complete⟩, isObject⟩ := tells
  obtain ⟨met, filled, -, all⟩ := h.fills each once fun _ _ _ _ _ => List.not_mem_nil
  rw [h.blank] at filled
  apply RecordShape.takes_object isObject filled
  apply h.finish
  intro e he
  rcases complete e he with lacking | ⟨m, hm, spelled⟩
  · exact .inl lacking
  · exact .inr (all e he m hm spelled)

end Follows

end Record

end Scaffold.Json
