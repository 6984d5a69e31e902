import Scaffold.Project.Pending
import Scaffold.Proofs.Model.Statistics

/-!
# The groups of pending routes

Adding lines one after the other groups them by controller: every controller has one group, in the
order in which the controllers first came, with its lines in the order in which they came. For a
model these are the lines of the routes that are kept.
-/

namespace Scaffold

namespace PendingGroup

/-- The groups hold exactly these lines, each given with its controller, in order. -/
structure Holds (groups : List PendingGroup) (entries : List (String × String)) : Prop where
  controllers : groups.map (·.controller) = (entries.map Prod.fst).eraseDups
  distinct : (groups.map (·.controller)).Nodup
  filled : ∀ g ∈ groups, g.lines ≠ []
  lines : ∀ g ∈ groups, g.lines = (entries.filter (·.1 == g.controller)).map Prod.snd

theorem holds_nil : Holds [] [] where
  controllers := rfl
  distinct := List.nodup_nil
  filled _ h := by cases h
  lines _ h := by cases h

theorem eraseDups_append_singleton (names : List String) (name : String) :
    (names ++ [name]).eraseDups =
      if name ∈ names then names.eraseDups else names.eraseDups ++ [name] := by
  rw [List.eraseDups_append, List.removeAll]
  split
  · rename_i known
    simp [known]
  · rename_i fresh
    rw [List.filter_cons_of_pos (by simpa using fresh)]
    rfl

theorem map_controller_addLine (controller line : String) (groups : List PendingGroup) :
    (addLine controller line groups).map (·.controller) =
      if controller ∈ groups.map (·.controller) then groups.map (·.controller)
      else groups.map (·.controller) ++ [controller] := by
  induction groups with
  | nil => rfl
  | cons g groups ih =>
    rw [addLine]
    by_cases same : g.controller = controller
    · simp [same]
    · rw [if_neg (by simpa using same), List.map_cons, List.map_cons, ih]
      have differ : controller ≠ g.controller := Ne.symm same
      simp only [List.mem_cons, differ, false_or]
      split <;> simp

/-- The groups after one more line: the others as they were, and that of the controller with the
line at its end. -/
theorem mem_addLine {controller line : String} {groups : List PendingGroup}
    (distinct : (groups.map (·.controller)).Nodup) {g : PendingGroup}
    (h : g ∈ addLine controller line groups) :
    (g ∈ groups ∧ g.controller ≠ controller) ∨
      (∃ old ∈ groups, old.controller = controller ∧ g = ⟨controller, old.lines ++ [line]⟩) ∨
      (controller ∉ groups.map (·.controller) ∧ g = ⟨controller, [line]⟩) := by
  induction groups with
  | nil =>
    rw [addLine, List.mem_singleton] at h
    exact .inr (.inr ⟨by simp, h⟩)
  | cons first groups ih =>
    obtain ⟨notLater, distinct⟩ := List.nodup_cons.mp (List.map_cons ▸ distinct)
    rw [addLine] at h
    -- The line goes to the first group of its controller, and there is no second one.
    by_cases same : first.controller = controller
    · rw [if_pos (by simpa using same)] at h
      rcases List.mem_cons.mp h with rfl | h
      · exact .inr (.inl ⟨first, List.mem_cons_self, same, rfl⟩)
      · refine .inl ⟨List.mem_cons_of_mem first h, fun eq => notLater ?_⟩
        rw [same, ← eq]
        exact List.mem_map_of_mem h
    · rw [if_neg (by simpa using same)] at h
      rcases List.mem_cons.mp h with rfl | h
      · exact .inl ⟨List.mem_cons_self, same⟩
      · rcases ih distinct h with ⟨hg, other⟩ | ⟨old, hold, eq, rfl⟩ | ⟨fresh, rfl⟩
        · exact .inl ⟨List.mem_cons_of_mem first hg, other⟩
        · exact .inr (.inl ⟨old, List.mem_cons_of_mem first hold, eq, rfl⟩)
        · refine .inr (.inr ⟨fun known => ?_, rfl⟩)
          rcases List.mem_cons.mp (List.map_cons ▸ known) with eq | known
          · exact same eq.symm
          · exact fresh known

theorem Holds.addLine {groups : List PendingGroup} {entries : List (String × String)}
    (h : Holds groups entries) (controller line : String) :
    Holds (addLine controller line groups) (entries ++ [(controller, line)]) := by
  have known : controller ∈ groups.map (·.controller) ↔ controller ∈ entries.map Prod.fst := by
    rw [h.controllers, List.mem_eraseDups]
  constructor
  · rw [map_controller_addLine, List.map_append, List.map_singleton, eraseDups_append_singleton,
      ← h.controllers]
    simp only [known]
  · rw [map_controller_addLine]
    split
    · exact h.distinct
    · rename_i fresh
      exact List.nodup_append.mpr ⟨h.distinct, by simp, by
        rintro a ha b hb rfl
        exact fresh (List.mem_singleton.mp hb ▸ ha)⟩
  · intro g hg
    rcases mem_addLine h.distinct hg with ⟨hg, _⟩ | ⟨old, _, _, rfl⟩ | ⟨_, rfl⟩
    · exact h.filled g hg
    · simp
    · simp
  · intro g hg
    rw [List.filter_append, List.map_append]
    rcases mem_addLine h.distinct hg with ⟨hg, other⟩ | ⟨old, hold, rfl, rfl⟩ | ⟨fresh, rfl⟩
    · rw [h.lines g hg]
      simp [Ne.symm other]
    · rw [h.lines old hold]
      simp
    · have none : entries.filter (·.1 == controller) = [] := by
        rw [List.filter_eq_nil_iff]
        intro e he eq
        exact fresh (known.mpr (List.mem_map.mpr ⟨e, he, beq_iff_eq.mp eq⟩))
      simp [none]

theorem Holds.foldl {groups : List PendingGroup} {entries : List (String × String)}
    (h : Holds groups entries) (more : List (String × String)) :
    Holds (more.foldl (fun groups e => PendingGroup.addLine e.1 e.2 groups) groups)
      (entries ++ more) :=
  foldl_of_step (fun kept e => kept.addLine e.1 e.2) h more

theorem count_eq_length (groups : List PendingGroup) :
    count groups = (groups.flatMap (·.lines)).length := by
  induction groups with
  | nil => rfl
  | cons g groups ih => rw [count, ih, List.flatMap_cons, List.length_append]

theorem count_foldl_addLine (entries : List (String × String)) (groups : List PendingGroup) :
    count (entries.foldl (fun groups e => PendingGroup.addLine e.1 e.2 groups) groups)
      = count groups + entries.length := by
  induction entries generalizing groups with
  | nil => rfl
  | cons e entries ih =>
    rw [List.foldl_cons, ih, count_addLine, List.length_cons]
    omega

end PendingGroup

namespace Model

def registrations (m : Model) (r : Route) : Nat :=
  m.routes.countP fun other => other.method = r.method ∧ other.path = r.path

/-- The routes that are not covered, and the covered ones that are registered more than once. -/
def keptRoutes (m : Model) : List Route :=
  m.routes.filter fun r => !r.isCovered || decide (2 ≤ m.registrations r)

theorem isDuplicate_eq (m : Model) (r : Route) :
    m.isDuplicate r = decide (2 ≤ m.registrations r) := by
  rw [Bool.eq_iff_iff, decide_eq_true_iff, isDuplicate, List.contains_iff_mem,
    mem_duplicates_iff, count_pathsOf, registrations]

theorem keptRoutes_eq (m : Model) : keptRoutes m = m.routes.filter (Route.isPending m) := by
  unfold keptRoutes
  congr 1
  funext r
  rw [Route.isPending, isDuplicate_eq]

/-- What is listed of a model: for each kept route its controller and its line. -/
def keptLines (m : Model) : List (String × String) :=
  m.keptRoutes.map fun r => (singleLine r.controller, r.line (decide (2 ≤ m.registrations r)))

theorem pendingGroups_eq_foldl (m : Model) :
    m.pendingGroups =
      m.keptLines.foldl (fun groups e => PendingGroup.addLine e.1 e.2 groups) [] := by
  rw [pendingGroups, keptLines, keptRoutes_eq, List.foldl_map]
  simp only [isDuplicate_eq]

theorem holds_pendingGroups (m : Model) : PendingGroup.Holds m.pendingGroups m.keptLines := by
  rw [pendingGroups_eq_foldl]
  exact PendingGroup.holds_nil.foldl m.keptLines

/-- The groups list every kept route once, under its controller, and nothing else. -/
theorem pendingGroups_list_kept_routes (m : Model) :
    m.pendingGroups =
        ((m.keptRoutes.map fun r => singleLine r.controller).eraseDups.map fun controller =>
          ⟨controller, (m.keptRoutes.filter fun r => singleLine r.controller = controller).map
            fun r => r.line (decide (2 ≤ m.registrations r))⟩) ∧
      (m.pendingGroups.map (·.controller)).Nodup ∧
      [] ∉ m.pendingGroups.map (·.lines) ∧
      m.pendingCount = m.keptRoutes.length := by
  have h := holds_pendingGroups m
  have controllers : m.pendingGroups.map (·.controller) =
      (m.keptRoutes.map fun r => singleLine r.controller).eraseDups := by
    rw [h.controllers, keptLines, List.map_map]
    rfl
  refine ⟨?_, h.distinct, ?_, ?_⟩
  · rw [← controllers, List.map_map]
    refine (List.map_id _).symm.trans (List.map_congr_left fun g hg => ?_)
    have lines : g.lines =
        (m.keptRoutes.filter fun r => singleLine r.controller = g.controller).map
          fun r => r.line (decide (2 ≤ m.registrations r)) := by
      rw [h.lines g hg, keptLines, List.filter_map, List.map_map]
      refine congrArg _ (List.filter_congr fun r _ => ?_)
      rw [Function.comp_apply, Bool.eq_iff_iff, beq_iff_eq, decide_eq_true_iff]
    exact congrArg (PendingGroup.mk g.controller) lines
  · rw [List.mem_map]
    rintro ⟨g, hg, empty⟩
    exact h.filled g hg empty
  · rw [pendingCount, pendingGroups_eq_foldl, PendingGroup.count_foldl_addLine, keptLines,
      List.length_map]
    exact Nat.zero_add _

end Model

end Scaffold
