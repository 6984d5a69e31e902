import Scaffold.Names.Association

/-!
# Maps from names

A map is kept as a list of entries whose names increase, so equal maps are equal values and
listing a map gives its entries in the order of their names.
-/

namespace Scaffold

structure NameMap (α : Type) where
  entries : List (String × α)
  increasing : (entries.map Prod.fst).Pairwise (· < ·)
  deriving DecidableEq

namespace NameMap

variable {α : Type}

def insertInto (name : String) (value : α) : List (String × α) → List (String × α)
  | [] => [(name, value)]
  | other :: rest =>
    if name < other.1 then (name, value) :: other :: rest
    else if other.1 < name then other :: insertInto name value rest
    else (name, value) :: rest

theorem mem_names_insertInto {name : String} {value : α} {entries : List (String × α)} {x : String}
    (h : x ∈ (insertInto name value entries).map Prod.fst) :
    x = name ∨ x ∈ entries.map Prod.fst := by
  induction entries with
  | nil => simpa [insertInto] using h
  | cons other rest ih =>
    rw [insertInto] at h
    split at h
    · simpa using h
    · split at h
      · rcases List.mem_cons.mp (List.map_cons ▸ h) with h | h
        · exact .inr (by simp [h])
        · rcases ih h with h | h
          · exact .inl h
          · exact .inr (List.map_cons ▸ List.mem_cons_of_mem _ h)
      · rcases List.mem_cons.mp (List.map_cons ▸ h) with h | h
        · exact .inl h
        · exact .inr (List.map_cons ▸ List.mem_cons_of_mem _ h)

theorem pairwise_insertInto (name : String) (value : α) {entries : List (String × α)}
    (h : (entries.map Prod.fst).Pairwise (· < ·)) :
    ((insertInto name value entries).map Prod.fst).Pairwise (· < ·) := by
  induction entries with
  | nil => simp [insertInto]
  | cons other rest ih =>
    obtain ⟨first, later⟩ := List.pairwise_cons.mp (List.map_cons ▸ h)
    rw [insertInto]
    split
    · rename_i less
      refine List.pairwise_cons.mpr ⟨fun x hx => ?_, h⟩
      rcases List.mem_cons.mp (List.map_cons ▸ hx) with rfl | hx
      · exact less
      · exact String.lt_trans less (first x hx)
    · rename_i notLess
      split
      · rename_i less
        refine List.pairwise_cons.mpr ⟨fun x hx => ?_, ih later⟩
        rcases mem_names_insertInto hx with rfl | hx
        · exact less
        · exact first x hx
      · rename_i notMore
        have same : name = other.1 :=
          String.le_antisymm (String.not_lt.mp notMore) (String.not_lt.mp notLess)
        refine List.pairwise_cons.mpr ⟨fun x hx => ?_, later⟩
        exact same ▸ first x hx

def empty : NameMap α := ⟨[], List.Pairwise.nil⟩

instance : EmptyCollection (NameMap α) := ⟨empty⟩

instance : Inhabited (NameMap α) := ⟨empty⟩

def insert (name : String) (value : α) (m : NameMap α) : NameMap α :=
  ⟨insertInto name value m.entries, pairwise_insertInto name value m.increasing⟩

/-- Of several entries for a name the last one counts. -/
def ofList (entries : List (String × α)) : NameMap α :=
  entries.foldl (fun m entry => m.insert entry.1 entry.2) empty

def get? (m : NameMap α) (name : String) : Option α := m.entries.lookup name

def isEmpty (m : NameMap α) : Bool := m.entries.isEmpty

theorem lookup_insertInto (name x : String) (value : α) (entries : List (String × α)) :
    (insertInto name value entries).lookup x =
      if x = name then some value else entries.lookup x := by
  induction entries with
  | nil => exact lookup_pair_cons x name value []
  | cons other rest ih =>
    obtain ⟨key, old⟩ := other
    rw [insertInto]
    split
    · exact lookup_pair_cons x name value _
    · split
      · rename_i less
        rw [lookup_pair_cons, lookup_pair_cons, ih]
        by_cases h : x = key
        · have differ : x ≠ name := by
            rintro rfl
            exact String.lt_irrefl key (h ▸ less)
          simp [h, h ▸ differ]
        · simp [h]
      · rename_i notLess notMore
        have same : name = key :=
          String.le_antisymm (String.not_lt.mp notMore) (String.not_lt.mp notLess)
        rw [lookup_pair_cons, lookup_pair_cons, same]
        by_cases h : x = key <;> simp [h]

theorem get?_insert (name x : String) (value : α) (m : NameMap α) :
    (m.insert name value).get? x = if x = name then some value else m.get? x :=
  lookup_insertInto name x value m.entries

theorem eq_of_entries {m n : NameMap α} (h : m.entries = n.entries) : m = n := by
  cases m
  cases n
  cases h
  rfl

theorem perm_insertInto {name : String} (value : α) {entries : List (String × α)}
    (h : name ∉ entries.map Prod.fst) :
    (insertInto name value entries).Perm ((name, value) :: entries) := by
  induction entries with
  | nil => exact List.Perm.refl _
  | cons other rest ih =>
    rw [List.map_cons, List.mem_cons, not_or] at h
    obtain ⟨differ, later⟩ := h
    rw [insertInto]
    split
    · exact List.Perm.refl _
    · split
      · exact ((ih later).cons other).trans (List.Perm.swap _ _ rest)
      · rename_i notLess notMore
        exact absurd (String.le_antisymm (String.not_lt.mp notMore) (String.not_lt.mp notLess))
          differ

theorem perm_foldl_insert (m : NameMap α) (entries : List (String × α))
    (h : ((m.entries ++ entries).map Prod.fst).Nodup) :
    (entries.foldl (fun m entry => m.insert entry.1 entry.2) m).entries.Perm
      (m.entries ++ entries) := by
  induction entries generalizing m with
  | nil => simp
  | cons entry rest ih =>
    have unused : entry.1 ∉ m.entries.map Prod.fst := by
      rw [List.map_append, List.nodup_append] at h
      intro mem
      exact h.2.2 entry.1 mem entry.1 (by simp) rfl
    have inserted : (m.insert entry.1 entry.2).entries.Perm (entry :: m.entries) :=
      perm_insertInto entry.2 unused
    have moved : ((m.insert entry.1 entry.2).entries ++ rest).Perm (m.entries ++ entry :: rest) :=
      (inserted.append_right rest).trans List.perm_middle.symm
    have nodup := ((moved.map Prod.fst).nodup_iff).mpr h
    exact (ih _ nodup).trans moved

/-- The order of the entries a map is made of does not count. -/
theorem ofList_of_perm {m : NameMap α} {entries : List (String × α)}
    (h : entries.Perm m.entries) : ofList entries = m := by
  have nodup : (entries.map Prod.fst).Nodup := by
    rw [(h.map Prod.fst).nodup_iff]
    refine List.Pairwise.imp ?_ m.increasing
    rintro a b less rfl
    exact String.lt_irrefl a less
  have perm : (ofList entries).entries.Perm m.entries :=
    (perm_foldl_insert empty entries nodup).trans h
  apply eq_of_entries
  refine List.Perm.eq_of_pairwise ?_ (List.pairwise_map.mp (ofList entries).increasing)
    (List.pairwise_map.mp m.increasing) perm
  intro a b _ _ less more
  exact absurd (String.lt_trans less more) (String.lt_irrefl a.1)

@[simp] theorem ofList_entries (m : NameMap α) : ofList m.entries = m :=
  ofList_of_perm (List.Perm.refl m.entries)

end NameMap

end Scaffold
