import Scaffold.Model.Basic

/-!
# Counting routes

Routes per method, and the pairs of method and path that are registered more than once.
-/

namespace Scaffold

/-- The members of a list that come again later in it. -/
def repeatedMembers {α : Type} [BEq α] : List α → List α
  | [] => []
  | a :: rest => if rest.contains a then a :: repeatedMembers rest else repeatedMembers rest

theorem mem_repeatedMembers_iff {α : Type} [BEq α] [LawfulBEq α] (a : α) (l : List α) :
    a ∈ repeatedMembers l ↔ 2 ≤ l.count a := by
  induction l with
  | nil => simp [repeatedMembers]
  | cons b rest ih =>
    rw [repeatedMembers, List.count_cons]
    by_cases same : b = a
    · subst same
      by_cases again : rest.contains b = true
      · have pos := List.count_pos_iff.mpr (List.contains_iff_mem.mp again)
        simp only [again, ↓reduceIte, List.mem_cons, true_or, beq_self_eq_true, true_iff]
        omega
      · have none : rest.count b = 0 := List.count_eq_zero.mpr fun h =>
          again (List.contains_iff_mem.mpr h)
        simp only [again, Bool.false_eq_true, ↓reduceIte, ih, beq_self_eq_true, none]
        omega
    · have unequal : (b == a) = false := beq_eq_false_iff_ne.mpr same
      split <;> simp [ih, unequal, Ne.symm same]

namespace Model

def countOf (m : Model) (method : Method) : Nat :=
  (m.routes.filter (·.method == method)).length

def routesByMethod (m : Model) : List (Method × Nat) :=
  (Method.all.map fun method => (method, m.countOf method)).filter (·.2 != 0)

def pathsOf (m : Model) (method : Method) : List String :=
  (m.routes.filter (·.method == method)).map (·.path)

/-- The pairs of method and path that several routes share, ordered by method and path. -/
def duplicates (m : Model) : List (Method × String) :=
  Method.all.flatMap fun method =>
    (NameSet.ofList (repeatedMembers (m.pathsOf method))).toList.map (method, ·)

def isDuplicate (m : Model) (route : Route) : Bool :=
  m.duplicates.contains (route.method, route.path)

theorem mem_duplicates_iff (m : Model) (method : Method) (path : String) :
    (method, path) ∈ m.duplicates ↔ 2 ≤ (m.pathsOf method).count path := by
  simp only [duplicates, List.mem_flatMap, List.mem_map, Prod.mk.injEq, ← NameSet.mem_def,
    NameSet.mem_ofList_iff, mem_repeatedMembers_iff]
  constructor
  · rintro ⟨_, _, _, h, rfl, rfl⟩
    exact h
  · intro h
    exact ⟨method, Method.mem_all method, path, h, rfl, rfl⟩

end Model

end Scaffold
