import Mathlib.Algebra.Ring.Nat
import Mathlib.Data.Finset.Insert
import Mathlib.Data.List.Nodup
import Scaffold.Model.Statistics

/-!
# Statistics of the routes

One pass over the routes finds the pairs of method and path that come again and counts the routes
of each method. What it has found after some routes depends on how often each pair and each method
was among them, and not on their order. This is also what the statistics of a model say.
-/

namespace Scaffold

/-- What a pass over a list keeps with each member holds of the members behind it as well, when the
pass has gone through them. -/
theorem foldl_of_step {α β : Type} {add : β → α → β} {Of : β → List α → Prop}
    (step : ∀ {b : β} {xs : List α}, Of b xs → ∀ x, Of (add b x) (xs ++ [x])) {b : β}
    {xs : List α} (h : Of b xs) (more : List α) : Of (more.foldl add b) (xs ++ more) := by
  induction more generalizing b xs with
  | nil => rwa [List.append_nil]
  | cons x more ih =>
    have later := ih (step h x)
    rwa [List.append_assoc, List.singleton_append] at later

namespace Route

def key (r : Route) : Method × String := (r.method, r.path)

end Route

/-! ## Pairs that come again -/

/-- The keys that a pass over the routes has met so far, and those that it has met again. -/
structure Encounters where
  met : Finset (Method × String)
  again : Finset (Method × String)

namespace Encounters

def add (e : Encounters) (r : Route) : Encounters :=
  if r.key ∈ e.met then { e with again := insert r.key e.again }
  else { e with met := insert r.key e.met }

def ofRoutes (routes : List Route) : Encounters := routes.foldl add ⟨∅, ∅⟩

theorem mem_met_add (e : Encounters) (r : Route) (key : Method × String) :
    key ∈ (e.add r).met ↔ key ∈ e.met ∨ r.key = key := by
  rw [add]
  split
  · rename_i old
    refine ⟨.inl, ?_⟩
    rintro (known | rfl)
    · exact known
    · exact old
  · rw [Finset.mem_insert, or_comm, eq_comm]

theorem mem_again_add (e : Encounters) (r : Route) (key : Method × String) :
    key ∈ (e.add r).again ↔ key ∈ e.again ∨ r.key = key ∧ key ∈ e.met := by
  rw [add]
  split
  · rename_i old
    rw [Finset.mem_insert, or_comm, eq_comm]
    refine or_congr_right ⟨?_, And.left⟩
    rintro rfl
    exact ⟨rfl, old⟩
  · rename_i new
    refine ⟨.inl, ?_⟩
    rintro (known | ⟨rfl, old⟩)
    · exact known
    · exact absurd old new

/-- A key was met if a route has it, and met again if several routes have it. -/
structure Of (e : Encounters) (routes : List Route) : Prop where
  met : ∀ key, key ∈ e.met ↔ 1 ≤ (routes.map Route.key).count key
  again : ∀ key, key ∈ e.again ↔ 2 ≤ (routes.map Route.key).count key

theorem of_nil : Of ⟨∅, ∅⟩ [] where
  met key := by simp
  again key := by simp

theorem Of.add {e : Encounters} {routes : List Route} (h : e.Of routes) (r : Route) :
    (e.add r).Of (routes ++ [r]) := by
  have counted : ∀ key, ((routes ++ [r]).map Route.key).count key =
      (routes.map Route.key).count key + if r.key = key then 1 else 0 := fun key => by
    rw [List.map_append, List.count_append, List.map_singleton, List.count_singleton]
    simp only [beq_iff_eq]
  constructor
  · intro key
    rw [mem_met_add, h.met, counted]
    by_cases same : r.key = key
    · simp [same]
    · simp [same]
  · intro key
    rw [mem_again_add, h.again, h.met, counted]
    by_cases same : r.key = key
    · simp only [same, true_and, if_true]
      omega
    · simp [same]

theorem of_ofRoutes (routes : List Route) : (ofRoutes routes).Of routes :=
  foldl_of_step Of.add of_nil routes

end Encounters

/-! ## Routes of a method -/

/-- How many routes of each method a pass has counted. A method has no number before its first
route. -/
abbrev MethodCounts := Method → Option Nat

namespace MethodCounts

def add (counts : MethodCounts) (r : Route) : MethodCounts :=
  Function.update counts r.method (some ((counts r.method).getD 0 + 1))

def ofRoutes (routes : List Route) : MethodCounts := routes.foldl add fun _ => none

def some? (n : Nat) : Option Nat := if n = 0 then none else some n

/-- Every method has the number of its routes. -/
def Of (counts : MethodCounts) (routes : List Route) : Prop :=
  ∀ method, counts method = some? ((routes.map (·.method)).count method)

theorem Of.add {counts : MethodCounts} {routes : List Route} (h : counts.Of routes) (r : Route) :
    (counts.add r).Of (routes ++ [r]) := by
  intro method
  rw [MethodCounts.add, List.map_append, List.count_append, List.map_singleton,
    List.count_singleton]
  by_cases same : r.method = method
  · subst same
    rw [Function.update_self, h, some?, some?]
    split
    · rename_i none
      simp [none]
    · simp
  · rw [Function.update_of_ne (Ne.symm same), h]
    simp [same]

theorem of_ofRoutes (routes : List Route) : Of (ofRoutes routes) routes := by
  have first : Of (fun _ => none) [] := fun _ => rfl
  exact foldl_of_step Of.add first routes

end MethodCounts

/-! ## The statistics of a model -/

namespace Model

variable (m : Model)

theorem count_pathsOf (method : Method) (path : String) : (m.pathsOf method).count path =
    m.routes.countP fun r => r.method = method ∧ r.path = path := by
  rw [pathsOf, List.count, List.countP_map, List.countP_filter]
  congr 1
  funext r
  rw [Bool.eq_iff_iff]
  simp [and_comm]

theorem count_key (routes : List Route) (method : Method) (path : String) :
    (routes.map Route.key).count (method, path) =
      routes.countP fun r => r.method = method ∧ r.path = path := by
  rw [List.count, List.countP_map]
  congr 1
  funext r
  rw [Bool.eq_iff_iff]
  simp [Route.key]

theorem countOf_eq (method : Method) : m.countOf method = m.routes.countP (·.method = method) := by
  rw [countOf, ← List.countP_eq_length_filter]
  rfl

theorem nodup_methods : Method.all.Nodup := by decide

theorem nodup_duplicates : m.duplicates.Nodup := by
  rw [duplicates, List.nodup_flatMap]
  constructor
  · intro method _
    have increasing := (NameSet.ofList (repeatedMembers (m.pathsOf method))).increasing
    exact List.Nodup.map (Prod.mk_right_injective method) (increasing.imp NameSet.ne_of_less)
  · refine nodup_methods.imp fun differ key first second => ?_
    obtain ⟨_, _, rfl⟩ := List.mem_map.mp first
    obtain ⟨_, _, same⟩ := List.mem_map.mp second
    exact differ (congrArg Prod.fst same).symm

theorem mem_routesByMethod_iff (method : Method) (n : Nat) :
    (method, n) ∈ m.routesByMethod ↔ 0 < n ∧ m.routes.countP (·.method = method) = n := by
  rw [routesByMethod, List.mem_filter, List.mem_map, ← countOf_eq]
  constructor
  · rintro ⟨⟨_, _, same⟩, some⟩
    cases same
    exact ⟨Nat.pos_of_ne_zero (by simpa using some), rfl⟩
  · rintro ⟨some, rfl⟩
    exact ⟨⟨method, Method.mem_all method, rfl⟩, by simpa using some.ne'⟩

theorem nodup_routesByMethod : (m.routesByMethod.map Prod.fst).Nodup := by
  have sublist : (m.routesByMethod.map Prod.fst).Sublist Method.all := by
    have kept := (List.filter_sublist (p := fun row : Method × Nat => row.2 != 0)
      (l := Method.all.map fun method => (method, m.countOf method))).map Prod.fst
    rwa [List.map_map, show Prod.fst ∘ (fun method => (method, m.countOf method)) = id from rfl,
      List.map_id] at kept
  exact nodup_methods.sublist sublist

theorem sum_countOf (routes : List Route) :
    (Method.all.map fun method => routes.countP (·.method = method)).sum = routes.length := by
  induction routes with
  | nil => rfl
  | cons r routes ih =>
    rw [List.length_cons, ← ih]
    simp only [Method.all, List.map_cons, List.map_nil, List.sum_cons, List.sum_nil,
      List.countP_cons]
    cases r.method <;> simp <;> omega

theorem sum_filter_ne_zero {α : Type} (rows : List (α × Nat)) :
    ((rows.filter (·.2 != 0)).map Prod.snd).sum = (rows.map Prod.snd).sum := by
  induction rows with
  | nil => rfl
  | cons row rows ih =>
    rw [List.filter_cons]
    split
    · rw [List.map_cons, List.sum_cons, ih, List.map_cons, List.sum_cons]
    · rename_i zero
      have none : row.2 = 0 := by simpa using zero
      rw [ih, List.map_cons, List.sum_cons, none, Nat.zero_add]

theorem sum_routesByMethod : (m.routesByMethod.map Prod.snd).sum = m.routes.length := by
  rw [routesByMethod, sum_filter_ne_zero, List.map_map, ← sum_countOf]
  congr 1
  exact List.map_congr_left fun method _ => m.countOf_eq method

theorem lookup_filter_rows {α : Type} [DecidableEq α] (count : α → Nat) (key : α) (keys : List α) :
    ((keys.map fun k => (k, count k)).filter (·.2 != 0)).lookup key =
      if key ∈ keys then MethodCounts.some? (count key) else none := by
  induction keys with
  | nil => rfl
  | cons k keys ih =>
    rw [List.map_cons, List.filter_cons]
    by_cases same : key = k
    · subst same
      by_cases zero : count key = 0
      · simp [zero, ih, MethodCounts.some?]
      · simp [zero, MethodCounts.some?]
    · split
      · rw [lookup_pair_cons, if_neg same, ih]
        simp [same]
      · rw [ih]
        simp [same]

theorem lookup_routesByMethod (method : Method) : m.routesByMethod.lookup method =
    MethodCounts.some? (m.routes.countP (·.method = method)) := by
  rw [routesByMethod, lookup_filter_rows, if_pos (Method.mem_all method), countOf_eq]

/-! ## Any order of the routes -/

theorem again_eq_duplicates (m : Model) {routes : List Route} (perm : routes.Perm m.routes) :
    (Encounters.ofRoutes routes).again = m.duplicates.toFinset := by
  ext ⟨method, path⟩
  rw [(Encounters.of_ofRoutes routes).again, (perm.map Route.key).count_eq, count_key,
    List.mem_toFinset, mem_duplicates_iff, count_pathsOf]

theorem counts_eq_lookup (m : Model) {routes : List Route} (perm : routes.Perm m.routes)
    (method : Method) : MethodCounts.ofRoutes routes method = m.routesByMethod.lookup method := by
  rw [MethodCounts.of_ofRoutes routes method, (perm.map (·.method)).count_eq,
    lookup_routesByMethod, List.count, List.countP_map]
  rfl

theorem duplicates_of_perm {m n : Model} (perm : n.routes.Perm m.routes) :
    n.duplicates = m.duplicates := by
  refine List.flatMap_congr fun method _ => ?_
  have same : NameSet.ofList (repeatedMembers (n.pathsOf method)) =
      NameSet.ofList (repeatedMembers (m.pathsOf method)) := NameSet.ext fun path => by
    rw [NameSet.mem_ofList_iff, NameSet.mem_ofList_iff, mem_repeatedMembers_iff,
      mem_repeatedMembers_iff, count_pathsOf, count_pathsOf, perm.countP_eq]
  rw [same]

theorem routesByMethod_of_perm {m n : Model} (perm : n.routes.Perm m.routes) :
    n.routesByMethod = m.routesByMethod := by
  have same : ∀ method, n.countOf method = m.countOf method := fun method => by
    rw [countOf_eq, countOf_eq, perm.countP_eq]
  simp only [routesByMethod, same]

/-- The statistics say of each pair of method and path whether several routes have it, and of each
method how many routes it has, which makes all routes together. A pass over the routes in any order
finds the same. -/
theorem statistics_anyOrder (m : Model) :
    (m.duplicates.Nodup ∧ ∀ method path, (method, path) ∈ m.duplicates ↔
        2 ≤ m.routes.countP fun r => r.method = method ∧ r.path = path) ∧
      ((m.routesByMethod.map Prod.fst).Nodup ∧ ∀ method n, (method, n) ∈ m.routesByMethod ↔
        0 < n ∧ m.routes.countP (·.method = method) = n) ∧
      (m.routesByMethod.map Prod.snd).sum = m.routes.length ∧
      ∀ routes, routes.Perm m.routes →
        { m with routes }.duplicates = m.duplicates ∧
        { m with routes }.routesByMethod = m.routesByMethod ∧
        (Encounters.ofRoutes routes).again = m.duplicates.toFinset ∧
        ∀ method, MethodCounts.ofRoutes routes method = m.routesByMethod.lookup method := by
  refine ⟨⟨m.nodup_duplicates, fun method path => ?_⟩,
    ⟨m.nodup_routesByMethod, m.mem_routesByMethod_iff⟩, m.sum_routesByMethod,
    fun routes perm => ⟨duplicates_of_perm perm, routesByMethod_of_perm perm,
      m.again_eq_duplicates perm, m.counts_eq_lookup perm⟩⟩
  rw [mem_duplicates_iff, count_pathsOf]

/-- Three routes share method and path, and two others have one of the two. -/
def sharedRoutes : List Route := [
  ⟨.get, "/a", "list", [], "first"⟩,
  ⟨.post, "/a", "add", [], "first"⟩,
  ⟨.get, "/a", "list", [], "second"⟩,
  ⟨.get, "/b", "list", [], "second"⟩,
  ⟨.get, "/a", "show", [], "first"⟩]

theorem statistics_anyOrder_shared :
    sharedRoutes.reverse.Perm sharedRoutes ∧
      ({ routes := sharedRoutes.reverse } : Model).duplicates = [(.get, "/a")] ∧
      ({ routes := sharedRoutes.reverse } : Model).routesByMethod = [(.get, 4), (.post, 1)] ∧
      (Encounters.ofRoutes sharedRoutes.reverse).again = {(.get, "/a")} ∧
      MethodCounts.ofRoutes sharedRoutes.reverse .get = some 4 ∧
      MethodCounts.ofRoutes sharedRoutes.reverse .delete = none := by
  have perm : sharedRoutes.reverse.Perm sharedRoutes := List.reverse_perm sharedRoutes
  obtain ⟨-, -, -, anyOrder⟩ := statistics_anyOrder { routes := sharedRoutes }
  obtain ⟨duplicates, counts, again, counted⟩ := anyOrder sharedRoutes.reverse perm
  have shared : ({ routes := sharedRoutes } : Model).duplicates = [(.get, "/a")] := by decide
  have rows : ({ routes := sharedRoutes } : Model).routesByMethod = [(.get, 4), (.post, 1)] := by
    decide
  refine ⟨perm, duplicates.trans shared, counts.trans rows, ?_, ?_, ?_⟩
  · rw [again, shared]
    rfl
  · rw [counted, rows]
    rfl
  · rw [counted, rows]
    rfl

end Model

end Scaffold
