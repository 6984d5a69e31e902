/-!
# Sets of names

A set of names is kept as an increasing list, so equal sets are equal values and listing a set
gives its members in order. The order is that of the code points, which is also that of the
UTF-8 bytes.
-/

namespace Scaffold

structure NameSet where
  toList : List String
  increasing : toList.Pairwise (· < ·)
  deriving DecidableEq

namespace NameSet

def insertInto (name : String) : List String → List String
  | [] => [name]
  | other :: rest =>
    if name < other then name :: other :: rest
    else if other < name then other :: insertInto name rest
    else other :: rest

theorem mem_insertInto_iff (name x : String) (names : List String) :
    x ∈ insertInto name names ↔ x = name ∨ x ∈ names := by
  induction names with
  | nil => simp [insertInto]
  | cons other rest ih =>
    rw [insertInto]
    split
    · simp
    · rename_i h
      split
      · simp only [List.mem_cons, ih]
        exact ⟨fun h => by rcases h with h | h | h <;> simp [h],
          fun h => by rcases h with h | h | h <;> simp [h]⟩
      · rename_i h'
        have same : name = other :=
          String.le_antisymm (String.not_lt.mp h') (String.not_lt.mp h)
        simp [same]

theorem pairwise_insertInto (name : String) {names : List String}
    (h : names.Pairwise (· < ·)) : (insertInto name names).Pairwise (· < ·) := by
  induction names with
  | nil => simp [insertInto]
  | cons other rest ih =>
    obtain ⟨first, later⟩ := List.pairwise_cons.mp h
    rw [insertInto]
    split
    · rename_i less
      refine List.pairwise_cons.mpr ⟨fun x hx => ?_, h⟩
      rcases List.mem_cons.mp hx with rfl | hx
      · exact less
      · exact String.lt_trans less (first x hx)
    · split
      · rename_i less
        refine List.pairwise_cons.mpr ⟨fun x hx => ?_, ih later⟩
        rcases (mem_insertInto_iff name x rest).mp hx with rfl | hx
        · exact less
        · exact first x hx
      · exact h

theorem increasing_nil : ([] : List String).Pairwise (· < ·) := List.Pairwise.nil

def empty : NameSet := ⟨[], increasing_nil⟩

def insert (name : String) (s : NameSet) : NameSet :=
  ⟨insertInto name s.toList, pairwise_insertInto name s.increasing⟩

def ofList (names : List String) : NameSet := names.foldr insert empty

def union (s t : NameSet) : NameSet := s.toList.foldr insert t

def isEmpty (s : NameSet) : Bool := s.toList.isEmpty

def size (s : NameSet) : Nat := s.toList.length

instance : EmptyCollection NameSet := ⟨empty⟩

instance : Inhabited NameSet := ⟨empty⟩

instance : Membership String NameSet := ⟨fun s name => name ∈ s.toList⟩

theorem mem_def {name : String} {s : NameSet} : name ∈ s ↔ name ∈ s.toList := Iff.rfl

theorem mem_insert_iff (name x : String) (s : NameSet) : x ∈ s.insert name ↔ x = name ∨ x ∈ s :=
  mem_insertInto_iff name x s.toList

theorem mem_ofList_iff (x : String) (names : List String) : x ∈ ofList names ↔ x ∈ names := by
  induction names with
  | nil => exact Iff.rfl
  | cons name rest ih =>
    rw [ofList, List.foldr_cons, mem_insert_iff, List.mem_cons]
    exact or_congr Iff.rfl ih

theorem mem_union_iff (x : String) (s t : NameSet) : x ∈ s.union t ↔ x ∈ s ∨ x ∈ t := by
  unfold union
  rw [mem_def (s := s)]
  induction s.toList with
  | nil => simp
  | cons name rest ih => rw [List.foldr_cons, mem_insert_iff, ih, List.mem_cons, or_assoc]

theorem ne_of_less {a b : String} (h : a < b) : a ≠ b := by
  rintro rfl
  exact String.lt_irrefl a h

/-- Two increasing lists with the same members are the same list. -/
theorem ext {s t : NameSet} (h : ∀ x, x ∈ s ↔ x ∈ t) : s = t := by
  obtain ⟨xs, hx⟩ := s
  obtain ⟨ys, hy⟩ := t
  have lists : xs = ys := by
    have hxs : xs.Nodup := List.Pairwise.imp ne_of_less hx
    have hys : ys.Nodup := List.Pairwise.imp ne_of_less hy
    have perm : xs.Perm ys := (List.perm_ext_iff_of_nodup hxs hys).mpr h
    exact List.Perm.eq_of_pairwise
      (fun a _ _ _ hab hba => absurd (String.lt_trans hab hba) (String.lt_irrefl a)) hx hy perm
  subst lists
  rfl

@[simp] theorem ofList_toList (s : NameSet) : ofList s.toList = s :=
  ext fun x => mem_ofList_iff x s.toList

end NameSet

end Scaffold
