import Scaffold.Command.Summary
import Scaffold.Proofs.Project.Fresh
import Scaffold.Proofs.Project.Listing

/-!
# What a generation reports

The summary of a generation has a line for each file that was written. What such a line shows is
the path of the artifact below the output directory, however the output directory is spelled.
-/

namespace Scaffold

namespace Summary

variable {m : Model} {name : String} {output : Path} {cleanOutput : Bool} {disk after : Disk}
  {report : GenerationReport} {a : Artifact} {line : String} {c : Char}

/-! ## The lines of a summary -/

def isFileLine (line : String) : Bool := "  ✓".toList.isPrefixOf line.toList

theorem isFileLine_of_first (first : line.toList.head? = some c) (other : c ≠ ' ') :
    isFileLine line = false := by
  rw [isFileLine, ← Bool.not_eq_true, List.isPrefixOf_iff_prefix]
  rintro ⟨rest, parts⟩
  rw [← parts] at first
  exact other (Option.some.inj first).symm

theorem isFileLine_fileLine (output : Path) (file : WrittenFile) :
    isFileLine (fileLine output file) = true := by
  rw [isFileLine, List.isPrefixOf_iff_prefix, fileLine, String.append_assoc, String.toList_append]
  exact List.IsPrefix.trans ⟨[' '], rfl⟩ (List.prefix_append _ _)

def opening (report : GenerationReport) : List String :=
  ["✅ Go project generated successfully!", "📁 Output directory: " ++ report.output.text, ""]

def closing (report : GenerationReport) : List String :=
  pendingLines report.pending ++ [""] ++ nextSteps report.output

theorem ofReport_eq (report : GenerationReport) : ofReport report = ProjectText.endLines
    (opening report ++ report.files.map (fileLine report.output) ++ closing report) := by
  rw [ofReport, closing, ← List.append_assoc, ← List.append_assoc]
  rfl

/-- A line that is none of a file. -/
structure IsRemark (line : String) : Prop where
  isLine : IsLine line
  notFile : isFileLine line = false

theorem isRemark_append {start rest : String} (first : start.toList.head? = some c)
    (other : c ≠ ' ') (isStart : IsLine start) (isRest : IsLine rest) : IsRemark (start ++ rest) where
  isLine := isStart.append isRest
  notFile := by
    refine isFileLine_of_first (c := c) ?_ other
    rw [String.toList_append, List.head?_append, first, Option.some_or]

theorem isRemark_opening (oneLine : IsLine report.output.text) :
    ∀ line ∈ opening report, IsRemark line := by
  intro line mem
  simp only [opening, List.mem_cons, List.not_mem_nil, or_false] at mem
  rcases mem with rfl | rfl | rfl
  · exact ⟨by decide, rfl⟩
  · exact isRemark_append (c := '📁') rfl (by decide) (by decide) oneLine
  · exact ⟨by decide, rfl⟩

theorem isRemark_pendingLines (pending : Nat) : ∀ line ∈ pendingLines pending, IsRemark line := by
  intro line mem
  unfold pendingLines at mem
  split at mem
  · rcases List.mem_cons.mp mem with rfl | mem
    · exact ⟨by decide, rfl⟩
    · rw [List.mem_singleton.mp mem, String.append_assoc]
      exact isRemark_append (c := '⚠') rfl (by decide) (by decide)
        ((ProjectText.Notes.isLine_toString pending).append (by decide))
  · cases mem

theorem isLine_shownDirectory (oneLine : IsLine output.text) : IsLine (shownDirectory output) := by
  unfold shownDirectory
  split
  · decide
  · exact oneLine

theorem isRemark_nextSteps (oneLine : IsLine output.text) :
    ∀ line ∈ nextSteps output, IsRemark line := by
  have entered : IsRemark ("1. cd " ++ shownDirectory output) :=
    isRemark_append (c := '1') rfl (by decide) (by decide) (isLine_shownDirectory oneLine)
  have drawn : IsRemark rule := ⟨isLine_ofList (by decide), rfl⟩
  intro line mem
  simp only [nextSteps, titled, List.cons_append, List.nil_append, List.mem_cons, List.not_mem_nil,
    or_false] at mem
  rcases mem with rfl | rfl | rfl | rfl | rfl | rfl | rfl | rfl | rfl | rfl | rfl | rfl | rfl
  all_goals first
    | exact entered
    | exact drawn
    | exact ⟨by decide, rfl⟩

theorem isRemark_closing (oneLine : IsLine report.output.text) :
    ∀ line ∈ closing report, IsRemark line := by
  intro line mem
  rcases List.mem_append.mp mem with mem | mem
  · rcases List.mem_append.mp mem with mem | mem
    · exact isRemark_pendingLines _ line mem
    · rw [List.mem_singleton.mp mem]
      exact ⟨by decide, rfl⟩
  · exact isRemark_nextSteps oneLine line mem

theorem filter_remarks {lines : List String} (h : ∀ line ∈ lines, IsRemark line) :
    lines.filter isFileLine = [] :=
  List.filter_eq_nil_iff.mpr fun line mem => by simp [(h line mem).notFile]

/-- Of the lines of a summary just those of the files show a check mark. -/
theorem filter_linesOf_ofReport (oneLine : IsLine report.output.text)
    (unbroken : ∀ file ∈ report.files, IsLine (fileLine report.output file)) :
    (linesOf (ofReport report)).filter isFileLine
      = report.files.map (fileLine report.output) := by
  have before := isRemark_opening oneLine
  have behind := isRemark_closing oneLine
  have lines : ∀ line ∈ opening report ++ report.files.map (fileLine report.output)
      ++ closing report, IsLine line := by
    intro line mem
    rcases List.mem_append.mp mem with mem | mem
    · rcases List.mem_append.mp mem with mem | mem
      · exact (before line mem).isLine
      · obtain ⟨file, listed, rfl⟩ := List.mem_map.mp mem
        exact unbroken file listed
    · exact (behind line mem).isLine
  have files : (report.files.map (fileLine report.output)).filter isFileLine
      = report.files.map (fileLine report.output) := by
    refine List.filter_eq_self.mpr fun line mem => ?_
    obtain ⟨file, -, rfl⟩ := List.mem_map.mp mem
    exact isFileLine_fileLine report.output file
  rw [ofReport_eq, ProjectText.linesOf_endLines lines, List.filter_append, List.filter_append,
    filter_remarks before, filter_remarks behind, files, List.nil_append, List.append_nil]

/-! ## The lines of the files -/

/-- The line of an artifact: its path, and the parts of the model that it declares, if any. -/
def artifactLine (a : Artifact) : String :=
  "  ✓ " ++ a.path ++ (if a.inputs = [] then ""
    else " (from " ++ ", ".intercalate (a.inputs.map ModelPart.name) ++ ")")

theorem fileLine_join (output : Path) (areNames : Path.AreNames (Project.names a.path)) :
    fileLine output ⟨output.join (.ofString a.path), a.inputs⟩ = artifactLine a := by
  have behind : Path.stripPrefix? output (output.join (.ofString a.path))
      = some (.ofString a.path) := Path.stripPrefix?_join output areNames
  rw [fileLine, behind, Option.getD_some, Path.text_ofString, artifactLine]
  simp only [List.isEmpty_iff]

theorem isLine_artifactLine (listed : a.path ∈ Project.paths) : IsLine (artifactLine a) := by
  have path : IsLine a.path := by
    have all : ∀ path ∈ Project.paths, IsLine path := by decide
    exact all _ listed
  have parts : ∀ name ∈ a.inputs.map ModelPart.name, IsLine name := by
    intro name mem
    obtain ⟨part, -, rfl⟩ := List.mem_map.mp mem
    cases part <;> decide
  unfold artifactLine
  split
  · exact (IsLine.append (by decide) path).append (by decide)
  · exact (IsLine.append (by decide) path).append
      ((IsLine.append (by decide) (lacks_intercalate (by decide) parts)).append (by decide))

theorem files_of_generate
    (ran : (Project.generate m name output cleanOutput).run disk = ⟨.ok report, after⟩) :
    ∃ artifacts, m.render name = .ok artifacts ∧ report.output = output ∧
      report.files = artifacts.map fun a => ⟨output.join (.ofString a.path), a.inputs⟩ := by
  obtain ⟨artifacts, files, _, _, rendered, _, _, wrote, rfl⟩ := Project.run_generate_iff.mp ran
  exact ⟨artifacts, rendered, rfl, (Project.written_of_each wrote).1⟩

/-- The summary of a successful generation has a line with a check mark for each artifact, in their
order, with its path below the output directory and the parts of the model that it declares. -/
theorem ofReport_lists_artifacts (oneLine : IsLine output.text)
    (ran : (Project.generate m name output cleanOutput).run disk = ⟨.ok report, after⟩) :
    ∃ artifacts, m.render name = .ok artifacts ∧
      (linesOf (ofReport report)).filter isFileLine = artifacts.map artifactLine := by
  obtain ⟨artifacts, rendered, rfl, files⟩ := files_of_generate ran
  obtain ⟨accepted, rfl⟩ := Project.artifacts_of_render rendered
  have shown : report.files.map (fileLine report.output)
      = (m.artifacts accepted).map artifactLine := by
    rw [files, List.map_map]
    exact List.map_congr_left fun a ha => fileLine_join _ (Project.areNames_artifact ha)
  refine ⟨_, rendered, ?_⟩
  rw [filter_linesOf_ofReport oneLine fun file mem => ?_, shown]
  have line : fileLine report.output file ∈ (m.artifacts accepted).map artifactLine :=
    shown ▸ List.mem_map_of_mem mem
  obtain ⟨a, ha, same⟩ := List.mem_map.mp line
  rw [← same]
  exact isLine_artifactLine (Project.listed_artifacts m accepted a ha)

/-- The output directory is behind a dot, a directory that is left again, and doubled slashes. -/
theorem ofReport_lists_artifacts_dotted : ∃ report after,
    (Project.generate {} "x" (.ofString "./new//../out/.") false).run
        { entries := [(["new"], .directory)] } = ⟨.ok report, after⟩ ∧
      (linesOf (ofReport report)).filter isFileLine
        = (({} : Model).artifacts ⟨"x", by decide⟩).map artifactLine := by
  have here : ({ entries := [(["new"], .directory)] } : Disk).nodeAt? true (.ofString "./new//..")
      = .ok ([], .directory) := rfl
  have fresh : Project.Fresh { entries := [(["new"], .directory)] } (.ofString "./new//../out/.") :=
    ⟨[], "out", [], ⟨.ofString "./new//..", ["out", "."], by decide, by decide,
      (Disk.nodeAt?_eq_directory_iff.mp here).2, by decide⟩, rfl⟩
  have tree : ({ entries := [(["new"], .directory)] } : Disk).IsTree :=
    Disk.isTree_of_entries (by simp [Disk.node?]) rfl
  have accepted : Disk.Accepts
      ((Path.ofString "./new//../out/.").join (.ofString Project.longest)) :=
    ⟨by decide, by decide, by decide⟩
  have fits : Project.Fits (.ofString "./new//../out/.")
      (({} : Model).artifacts ⟨"x", by decide⟩) :=
    Project.fits_of_longest (by decide) accepted
  obtain ⟨report, after, ran⟩ := Project.exists_run_generate ⟨_, tree⟩ fresh fits false
  obtain ⟨artifacts, rendered, lines⟩ := ofReport_lists_artifacts (by decide) ran
  cases (Model.render_text {} ⟨"x", by decide⟩).symm.trans rendered
  exact ⟨report, after, ran, lines⟩

end Summary

end Scaffold
