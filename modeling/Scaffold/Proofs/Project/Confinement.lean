import Scaffold.Proofs.Project.Listing

/-!
# Models stay within comments

The file of routes is fixed code around a list. Whatever a model contains, the code around the
list is that of any other model, and the list is made of comment lines that nothing in a model
can break.
-/

namespace Scaffold

namespace ProjectText.Routes

/-- The line that ends the list. -/
def endMark : String := "\t// <<< END EXTENSION POINT"

/-- A file of routes in three parts: the lines down to the comment that opens the list, where it
first stands, the lines of the list, and those from the last line that ends a list. -/
structure IsCut (text : String) (top listed bottom : List String) : Prop where
  whole : text = endLines (top ++ listed ++ bottom)
  lines : linesOf text = top ++ listed ++ bottom
  opened : ∃ code, mark ∉ code ∧ top = code ++ header
  ended : ∃ code, endMark ∉ code ∧ bottom = endMark :: code

/-- A line of the list as Go reads it: a comment, and nothing that starts a new line. -/
def IsComment (l : String) : Prop :=
  "\t//".toList <+: l.toList ∧ ∀ c, isLineBreak c = true → Lacks c l

theorem slashes_prefix (start s : String) (h : "\t//".toList <+: start.toList) :
    "\t//".toList <+: (start ++ s).toList := by
  rw [String.toList_append]
  exact h.trans (List.prefix_append start.toList s.toList)

theorem slashes_of_mem_groupLines {g : PendingGroup} {l : String} (h : l ∈ groupLines g) :
    "\t//".toList <+: l.toList := by
  rw [groupLines, List.mem_cons, List.mem_map] at h
  rcases h with rfl | ⟨line, _, rfl⟩
  · exact slashes_prefix "\t// " g.controller (by decide)
  · exact slashes_prefix "\t//   " line (by decide)

theorem slashes_of_mem_listing {groups : List PendingGroup} {l : String} (h : l ∈ listing groups) :
    "\t//".toList <+: l.toList := by
  cases groups with
  | nil =>
    have fixed : ∀ l ∈ nothing, "\t//".toList <+: l.toList := by decide
    exact fixed l h
  | cons g groups =>
    rw [listing_cons, List.flatMap_map, List.mem_flatMap] at h
    obtain ⟨group, _, h⟩ := h
    rcases List.mem_cons.mp h with rfl | h
    · exact List.prefix_rfl
    · exact slashes_of_mem_groupLines h

theorem isComment_of_mem_listing {m : Model} {l : String} (h : l ∈ listing m.pendingGroups) :
    IsComment l :=
  ⟨slashes_of_mem_listing h, fun _ hc => lacks_listing hc m l h⟩

theorem isCut_routes (m : Model) (name : ModuleName) :
    IsCut (routes name.text m.pendingGroups) (before name.text ++ header)
      (listing m.pendingGroups) closing where
  whole := by rw [routes_eq_endLines, ← List.append_assoc]
  lines := by rw [linesOf_routes, ← List.append_assoc]
  opened := ⟨before name.text, mark_not_mem_before name.text, rfl⟩
  ended := ⟨["\x7d"], by decide, rfl⟩

end ProjectText.Routes

open ProjectText.Routes

/-- The files of routes of two models differ in comment lines between the same code at most. -/
theorem Model.render_confines_routes (m n : Model) (name : ModuleName) :
    ∃ artifacts others text other top listed elsewhere bottom,
      m.render name.text = .ok artifacts ∧ n.render name.text = .ok others ∧
      contents? "internal/routes/routes.go" artifacts = some text ∧
      contents? "internal/routes/routes.go" others = some other ∧
      IsCut text top listed bottom ∧ IsCut other top elsewhere bottom ∧
      ∀ l ∈ listed ++ elsewhere, IsComment l := by
  refine ⟨_, _, _, _, _, _, _, _, m.render_text name, n.render_text name,
    (contents?_artifacts m name).1, (contents?_artifacts n name).1, isCut_routes m name,
    isCut_routes n name, ?_⟩
  intro l hl
  rcases List.mem_append.mp hl with hl | hl
  · exact isComment_of_mem_listing hl
  · exact isComment_of_mem_listing hl

end Scaffold
