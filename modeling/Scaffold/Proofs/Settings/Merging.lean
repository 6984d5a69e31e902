import Mathlib.Data.List.TakeWhile
import Scaffold.Names.Association
import Scaffold.Settings.Setting

/-!
# Putting settings together

A value in the place of an older one keeps what it says, unless both are tables, and a table that
is put together has the entries of all its parts. The names at the top of a file that are plain are
taken as they stand.
-/

namespace Scaffold.Setting

open Settings (KeyPath)

variable {key name : String} {change : Setting → Setting} {v w old : Setting}
  {entries new older : List (String × Setting)}

/-! ## Altered entries -/

theorem lookup_alter_self (key : String) (change : Setting → Setting)
    (entries : List (String × Setting)) :
    (alter key change entries).lookup key =
      some (change ((entries.lookup key).getD (nothing false))) := by
  induction entries with
  | nil => rw [alter, lookup_pair_cons, if_pos rfl, List.lookup_nil, Option.getD_none]
  | cons entry rest ih =>
    obtain ⟨k, v⟩ := entry
    rw [alter]
    by_cases same : k = key
    · rw [if_pos (beq_iff_eq.mpr same), lookup_pair_cons, lookup_pair_cons, if_pos same.symm,
        if_pos same.symm, Option.getD_some]
    · rw [if_neg (by simpa using same), lookup_pair_cons, lookup_pair_cons,
        if_neg (Ne.symm same), if_neg (Ne.symm same), ih]

theorem lookup_alter_of_ne (differ : name ≠ key) (change : Setting → Setting)
    (entries : List (String × Setting)) :
    (alter key change entries).lookup name = entries.lookup name := by
  induction entries with
  | nil => rw [alter, lookup_pair_cons, if_neg differ]
  | cons entry rest ih =>
    obtain ⟨k, v⟩ := entry
    rw [alter]
    by_cases same : k = key
    · subst same
      rw [if_pos (beq_self_eq_true k), lookup_pair_cons, lookup_pair_cons, if_neg differ,
        if_neg differ]
    · rw [if_neg (by simpa using same), lookup_pair_cons, lookup_pair_cons, ih]

theorem mem_keys_alter : name ∈ (alter key change entries).map Prod.fst ↔
    name = key ∨ name ∈ entries.map Prod.fst := by
  induction entries with
  | nil => simp [alter]
  | cons entry rest ih =>
    obtain ⟨k, v⟩ := entry
    rw [alter]
    by_cases same : k = key
    · subst same
      simp
    · rw [if_neg (by simpa using same), List.map_cons, List.mem_cons, ih, List.map_cons,
        List.mem_cons]
      exact or_left_comm

theorem mem_alter (h : (name, v) ∈ alter key change entries) :
    (name, v) ∈ entries ∨ name = key ∧ ∃ old, v = change old := by
  induction entries with
  | nil =>
    obtain ⟨rfl, rfl⟩ := Prod.mk.inj (List.mem_singleton.mp h)
    exact .inr ⟨rfl, _, rfl⟩
  | cons entry rest ih =>
    obtain ⟨k, old⟩ := entry
    rw [alter] at h
    by_cases same : k = key
    · rw [if_pos (beq_iff_eq.mpr same)] at h
      rcases List.mem_cons.mp h with here | later
      · obtain ⟨rfl, rfl⟩ := Prod.mk.inj here
        exact .inr ⟨same, old, rfl⟩
      · exact .inl (List.mem_cons_of_mem _ later)
    · rw [if_neg (by simpa using same)] at h
      rcases List.mem_cons.mp h with here | later
      · exact .inl (List.mem_cons.mpr (.inl here))
      · exact (ih later).imp_left (List.mem_cons_of_mem _)

/-! ## Merged tables -/

def IsTable : Setting → Prop
  | table _ _ => True
  | _ => False

theorem merge_of_not_table (h : ¬v.IsTable) (old : Setting) : merge v old = v := by
  cases v with
  | table located entries => exact absurd trivial h
  | _ => rw [merge]; simp

/-- A table that is put together has the entries of its parts, each put in the place of one that
stood there. -/
theorem mem_mergeEntries (h : (name, v) ∈ mergeEntries new older) :
    (name, v) ∈ older ∨ ∃ w old, (name, w) ∈ new ∧ v = merge w old := by
  induction new generalizing older with
  | nil =>
    rw [mergeEntries] at h
    exact .inl h
  | cons entry rest ih =>
    obtain ⟨key, w⟩ := entry
    rw [mergeEntries] at h
    rcases ih h with before | ⟨w', old, mem, rfl⟩
    · rcases mem_alter before with before | ⟨rfl, old, rfl⟩
      · exact .inl before
      · exact .inr ⟨w, old, List.mem_cons_self, rfl⟩
    · exact .inr ⟨w', old, List.mem_cons_of_mem _ mem, rfl⟩

theorem mem_keys_mergeEntries : name ∈ (mergeEntries new older).map Prod.fst ↔
    name ∈ new.map Prod.fst ∨ name ∈ older.map Prod.fst := by
  induction new generalizing older with
  | nil => simp [mergeEntries]
  | cons entry rest ih =>
    obtain ⟨key, w⟩ := entry
    rw [mergeEntries, ih, mem_keys_alter, List.map_cons, List.mem_cons, or_assoc]
    exact or_left_comm

/-! ## The names at the top -/

/-- Letters, digits, underscores and hyphens, one at least. -/
def IsPlainName (name : String) : Prop :=
  name.toList ≠ [] ∧ ∀ c ∈ name.toList, KeyPath.isKeyChar c = true

theorem ofName_plain (h : IsPlainName name) : KeyPath.ofName name = ⟨name, []⟩ := by
  have whole : name.toList.takeWhile KeyPath.isKeyChar = name.toList :=
    List.takeWhile_eq_self_iff.mpr h.2
  have read : KeyPath.readKey name.toList = some (name, []) := by
    simp [KeyPath.readKey, whole, h.1]
  simp [KeyPath.ofName, KeyPath.read?, read, KeyPath.readSteps]

def place (whole : List (String × Setting)) (entry : String × Setting) : List (String × Setting) :=
  let path := KeyPath.ofName entry.1
  alter path.first (alterBelow path.steps (merge entry.2)) whole

theorem ofEntries_eq_foldl (entries : List (String × Setting)) :
    ofEntries entries = entries.foldl place [] := rfl

theorem lookup_place_of_ne (entry : String × Setting)
    (elsewhere : (KeyPath.ofName entry.1).first ≠ name) (whole : List (String × Setting)) :
    (place whole entry).lookup name = whole.lookup name :=
  lookup_alter_of_ne elsewhere.symm _ whole

theorem lookup_place_plain (plain : IsPlainName name) (v : Setting)
    (whole : List (String × Setting)) :
    (place whole (name, v)).lookup name =
      some (merge v ((whole.lookup name).getD (nothing false))) := by
  simp only [place, ofName_plain plain, lookup_alter_self, alterBelow]

/-- The names that lead to a plain one are that one itself. -/
def LeadsAlone (name : String) (entries : List (String × Setting)) : Prop :=
  ∀ entry ∈ entries, (KeyPath.ofName entry.1).first = name → entry.1 = name

theorem lookup_foldl_place_of_not_mem (alone : LeadsAlone name entries)
    (h : name ∉ entries.map Prod.fst) (whole : List (String × Setting)) :
    (entries.foldl place whole).lookup name = whole.lookup name := by
  induction entries generalizing whole with
  | nil => rfl
  | cons entry rest ih =>
    obtain ⟨differ, others⟩ := List.ne_and_not_mem_of_not_mem_cons h
    have elsewhere : (KeyPath.ofName entry.1).first ≠ name := by
      intro leads
      exact differ (alone entry List.mem_cons_self leads).symm
    rw [List.foldl_cons, ih (fun e mem => alone e (List.mem_cons_of_mem entry mem)) others,
      lookup_place_of_ne entry elsewhere]

/-- Where no name is repeated, what is at a plain name is what the file has under it, put in the
place of nothing. -/
theorem lookup_foldl_place (plain : IsPlainName name) (alone : LeadsAlone name entries)
    (apart : (entries.map Prod.fst).Nodup) {whole : List (String × Setting)}
    (fresh : whole.lookup name = none) :
    (entries.foldl place whole).lookup name =
      (entries.lookup name).map fun v => merge v (nothing false) := by
  -- before the entry under `name` nothing leads to it, and behind it nothing does either
  induction entries generalizing whole with
  | nil => rw [List.foldl_nil, fresh, List.lookup_nil, Option.map_none]
  | cons entry rest ih =>
    obtain ⟨key, v⟩ := entry
    rw [List.map_cons] at apart
    obtain ⟨differ, apart⟩ := List.nodup_cons.mp apart
    have alone' : LeadsAlone name rest := fun e mem => alone e (List.mem_cons_of_mem _ mem)
    rw [List.foldl_cons, lookup_pair_cons]
    by_cases same : name = key
    · subst same
      rw [lookup_foldl_place_of_not_mem alone' differ, lookup_place_plain plain, fresh, if_pos rfl,
        Option.getD_none, Option.map_some]
    · have elsewhere : (KeyPath.ofName key).first ≠ name := by
        intro leads
        exact same (alone (key, v) List.mem_cons_self leads).symm
      rw [if_neg same]
      exact ih alone' apart ((lookup_place_of_ne (key, v) elsewhere whole).trans fresh)

theorem lookup_ofEntries (plain : IsPlainName name) (alone : LeadsAlone name entries)
    (apart : (entries.map Prod.fst).Nodup) :
    (ofEntries entries).lookup name =
      (entries.lookup name).map fun v => merge v (nothing false) := by
  rw [ofEntries_eq_foldl]
  exact lookup_foldl_place plain alone apart List.lookup_nil

end Scaffold.Setting
