import Mathlib.Data.List.Infix
import Mathlib.Data.List.Nodup
import Mathlib.Data.List.Perm.Subperm
import Scaffold.Proofs.Project.Pending

/-!
# Routes that are left out

A route is left out of the pending ones only if a baseline handler serves it and no other route has
its method and path. A route file may be mounted below a prefix, so a baseline path is also met by
each of its ends that begins at a slash. There are ten such methods and paths in all, and no two
routes that are left out share one.
-/

namespace Scaffold

namespace Route

/-- The ends of a path that begin at a slash and go on behind it. -/
def endsOf (full : String) : List String :=
  (full.toList.tails.filter fun s => s.head? == some '/' && decide (1 < s.length)).map String.ofList

/-- The methods and paths of the routes that baseline handlers serve. -/
def served : List (Method × String) := [
  (.get, "/health"),
  (.get, "/api/auth/verify"),
  (.get, "/auth/verify"),
  (.get, "/verify"),
  (.post, "/api/auth/login"),
  (.post, "/auth/login"),
  (.post, "/login"),
  (.post, "/api/auth/logout"),
  (.post, "/auth/logout"),
  (.post, "/logout")]

variable {path full : String}

theorem mem_endsOf_iff : path ∈ endsOf full ↔
    path.toList <:+ full.toList ∧ path.toList.head? = some '/' ∧ 1 < path.toList.length := by
  simp only [endsOf, List.mem_map, List.mem_filter, List.mem_tails, Bool.and_eq_true, beq_iff_eq,
    decide_eq_true_eq]
  constructor
  · rintro ⟨s, conditions, rfl⟩
    rwa [String.toList_ofList]
  · intro conditions
    exact ⟨path.toList, conditions, String.ofList_toList⟩

theorem pathMatches_iff (whole : full ∈ endsOf full) :
    pathMatches path full = true ↔ path ∈ endsOf full := by
  rw [pathMatches, Bool.or_eq_true, beq_iff_eq]
  constructor
  · rintro (rfl | matched)
    · exact whole
    · simp only [Bool.and_eq_true, beq_iff_eq, decide_eq_true_eq] at matched
      obtain ⟨⟨begins, long⟩, ends⟩ := matched
      exact mem_endsOf_iff.mpr ⟨List.isSuffixOf_iff_suffix.mp ends, begins, long⟩
  · intro mem
    obtain ⟨ends, begins, long⟩ := mem_endsOf_iff.mp mem
    right
    simp only [Bool.and_eq_true, beq_iff_eq, decide_eq_true_eq]
    exact ⟨⟨begins, long⟩, List.isSuffixOf_iff_suffix.mpr ends⟩

theorem whole_of_baseline : ∀ b ∈ baselineRoutes, b.2 ∈ endsOf b.2 := by
  decide

theorem mem_served_iff (method : Method) (path : String) :
    (method, path) ∈ served ↔ ∃ b ∈ baselineRoutes, b.1 = method ∧ path ∈ endsOf b.2 := by
  have listed : (method, path) ∈ served ↔
      (method, path) ∈ baselineRoutes.flatMap fun b => (endsOf b.2).map (b.1, ·) := by
    have perm : served.Perm (baselineRoutes.flatMap fun b => (endsOf b.2).map (b.1, ·)) := by
      decide
    exact perm.mem_iff
  simp only [listed, List.mem_flatMap, List.mem_map, Prod.mk.injEq]
  constructor
  · rintro ⟨b, mem, _, ends, same, rfl⟩
    exact ⟨b, mem, same, ends⟩
  · rintro ⟨b, mem, same, ends⟩
    exact ⟨b, mem, path, ends, same, rfl⟩

theorem overlapsBaseline_iff (r : Route) :
    r.overlapsBaseline = true ↔ (r.method, r.path) ∈ served := by
  rw [mem_served_iff, overlapsBaseline, List.any_eq_true]
  refine exists_congr fun b => and_congr_right fun mem => ?_
  rw [Bool.and_eq_true, beq_iff_eq, pathMatches_iff (whole_of_baseline b mem)]

end Route

namespace Model

/-- The routes that no group lists: a baseline handler serves them, and their method and path are
registered once. -/
def leftOut (m : Model) : List Route :=
  m.routes.filter fun r => r.isCovered && decide (m.registrations r < 2)

variable (m : Model)

theorem length_keptRoutes_add_leftOut :
    m.keptRoutes.length + m.leftOut.length = m.routes.length := by
  have complement : m.leftOut =
      m.routes.filter fun r => !(!r.isCovered || decide (2 ≤ m.registrations r)) := by
    refine List.filter_congr fun r _ => ?_
    rw [Bool.not_or, Bool.not_not, ← decide_not]
    simp only [not_le]
  rw [complement, keptRoutes]
  exact (List.length_eq_length_filter_add _).symm

theorem served_of_leftOut {r : Route} (h : r ∈ m.leftOut) : (r.method, r.path) ∈ Route.served := by
  obtain ⟨-, covered⟩ := List.mem_filter.mp h
  rw [Route.isCovered, Bool.and_assoc, Bool.and_eq_true, Bool.and_eq_true] at covered
  exact (Route.overlapsBaseline_iff r).mp covered.2.1

theorem count_routes (r : Route) :
    (m.routes.map fun r => (r.method, r.path)).count (r.method, r.path) = m.registrations r := by
  rw [List.count, List.countP_map, registrations]
  congr 1
  funext other
  rw [Bool.eq_iff_iff, Function.comp_apply, beq_iff_eq, Prod.mk.injEq, decide_eq_true_iff]

/-- A method and path that come again are not left out. -/
theorem nodup_leftOut : (m.leftOut.map fun r => (r.method, r.path)).Nodup := by
  rw [List.nodup_iff_count_le_one]
  intro key
  by_cases mem : key ∈ m.leftOut.map fun r => (r.method, r.path)
  · obtain ⟨r, left, rfl⟩ := List.mem_map.mp mem
    obtain ⟨-, covered⟩ := List.mem_filter.mp left
    have once : m.registrations r < 2 := of_decide_eq_true (Bool.and_eq_true_iff.mp covered).2
    have sublist : m.leftOut.Sublist m.routes := List.filter_sublist
    calc
      _ ≤ (m.routes.map fun r => (r.method, r.path)).count (r.method, r.path) :=
        (sublist.map _).count_le _
      _ = m.registrations r := m.count_routes r
      _ ≤ 1 := Nat.le_of_lt_succ once
  · rw [List.count_eq_zero.mpr mem]
    exact Nat.zero_le 1

/-- At most ten routes are left out, all with a different method and path. -/
theorem length_routes_le :
    (∀ r : Route, r.overlapsBaseline = true ↔ (r.method, r.path) ∈ Route.served) ∧
      m.routes.length = PendingGroup.count m.pendingGroups + m.leftOut.length ∧
      (m.leftOut.map fun r => (r.method, r.path)).Nodup ∧
      m.routes.length ≤ PendingGroup.count m.pendingGroups + 10 := by
  have counted : PendingGroup.count m.pendingGroups = m.keptRoutes.length := by
    rw [pendingGroups_eq_foldl, PendingGroup.count_foldl_addLine, keptLines, List.length_map]
    exact Nat.zero_add _
  have parts := m.length_keptRoutes_add_leftOut
  have inside : (m.leftOut.map fun r => (r.method, r.path)) ⊆ Route.served := by
    intro key mem
    obtain ⟨r, left, rfl⟩ := List.mem_map.mp mem
    exact m.served_of_leftOut left
  have few : m.leftOut.length ≤ Route.served.length := by
    rw [← List.length_map fun r : Route => (r.method, r.path)]
    exact (m.nodup_leftOut.subperm inside).length_le
  have ten : Route.served.length = 10 := rfl
  refine ⟨Route.overlapsBaseline_iff, ?_, m.nodup_leftOut, ?_⟩
  · omega
  · omega

end Model

end Scaffold
