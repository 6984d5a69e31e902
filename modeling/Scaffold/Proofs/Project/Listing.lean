import Scaffold.Project.Generation
import Scaffold.Proofs.Project.Pending
import Scaffold.Proofs.Text.Lines

/-!
# Reading the listings back

The lines that list the pending routes can be read back, whatever the routes contain: a line that
opens a group is the start of no other line, and a group that is listed has at least one line. The
migration notes and the report of a generation give the number of these lines.
-/

namespace Scaffold

namespace ProjectText

namespace Routes

/-! ## The pending routes -/

def mark : String := "\t// >>> EXTENSION POINT: discovered routes without a Go handler yet."

def header : List String := [
    mark,
    "\t// Port each handler, then register it on a group, for example:",
    "\t//   cameras := api.Group(\"/cameras\", authMiddleware)",
    "\t//   cameras.Get(\"/\", cameraHandler.List)"]

def nothing : List String := ["\t//", "\t// No further routes were discovered."]

def readGroup : List String → Option PendingGroup
  | [] => none
  | name :: lines => do
    let controller ← behind? "\t// " name
    let lines ← lines.mapM (behind? "\t//   ")
    some ⟨controller, lines⟩

/-- Reads groups, each opened by an empty comment. -/
def readGroups (ls : List String) : Option (List PendingGroup) :=
  match ls.splitOn "\t//" with
  | [] :: groups => groups.mapM readGroup
  | _ => none

def readListing (ls : List String) : Option (List PendingGroup) :=
  if ls = nothing then some [] else readGroups ls

/-- The groups that are listed in a file, between the header and the last two lines. -/
def readFile (text : String) : Option (List PendingGroup) := do
  let rest ← behindMark? header (linesOf text)
  readListing (rest.take (rest.length - 2))

/-- The lines of a group behind the one that opens it. -/
def groupLines (g : PendingGroup) : List String :=
  ("\t// " ++ g.controller) :: g.lines.map ("\t//   " ++ ·)

theorem readGroup_groupLines (g : PendingGroup) : readGroup (groupLines g) = some g := by
  rw [groupLines, readGroup, behind?_append,
    mapM_map_of_inverse fun l _ => behind?_append "\t//   " l]
  rfl

theorem opening_ne_append {start : String} (s : String) (h : 3 < start.toList.length) :
    "\t//" ≠ start ++ s := by
  intro eq
  have lengths := congrArg (fun t => t.toList.length) eq
  rw [String.toList_append, List.length_append] at lengths
  have three : "\t//".toList.length = 3 := by decide
  omega

theorem opening_not_mem_groupLines (g : PendingGroup) : "\t//" ∉ groupLines g := by
  rw [groupLines, List.mem_cons, List.mem_map]
  rintro (eq | ⟨l, _, eq⟩)
  · exact opening_ne_append g.controller (by decide) eq
  · exact opening_ne_append l (by decide) eq.symm

theorem listing_cons (g : PendingGroup) (groups : List PendingGroup) :
    listing (g :: groups) = ((g :: groups).map groupLines).flatMap ("\t//" :: ·) := by
  rw [listing, if_neg (by simp), List.flatMap_map]
  rfl

theorem readGroups_blocks (groups : List PendingGroup) :
    readGroups ((groups.map groupLines).flatMap ("\t//" :: ·)) = some groups := by
  have blocks : ((groups.map groupLines).flatMap ("\t//" :: ·)).splitOn "\t//"
      = [] :: groups.map groupLines := by
    refine splitOn_blocks List.not_mem_nil fun b hb => ?_
    obtain ⟨g, _, rfl⟩ := List.mem_map.mp hb
    exact opening_not_mem_groupLines g
  rw [readGroups, blocks]
  exact mapM_map_of_inverse fun g _ => readGroup_groupLines g

/-- The lines of a group without lines could be those of an empty list. -/
theorem listing_ne_nothing {g : PendingGroup} (groups : List PendingGroup) (filled : g.lines ≠ []) :
    listing (g :: groups) ≠ nothing := by
  intro eq
  have lengths := congrArg List.length eq
  have line := List.length_pos_iff.mpr filled
  rw [listing_cons, List.map_cons, List.flatMap_cons, List.length_append, List.length_cons,
    groupLines, List.length_cons, List.length_map, nothing, List.length_cons,
    List.length_singleton] at lengths
  omega

theorem readListing_listing {groups : List PendingGroup} (filled : ∀ g ∈ groups, g.lines ≠ []) :
    readListing (listing groups) = some groups := by
  cases groups with
  | nil => rfl
  | cons g groups =>
    rw [readListing, if_neg (listing_ne_nothing groups (filled g List.mem_cons_self)),
      listing_cons, readGroups_blocks]

/-! ## The file around the list -/

def importLine (name package : String) : String := "\t\"" ++ name ++ package

def packages : List String :=
  ["/internal/config\"", "/internal/handlers\"", "/internal/middleware\""]

def head : List String := [
    "package routes",
    "",
    "import (",
    "\t\"database/sql\"",
    ""]

def code : List String := [
    "",
    "\t\"github.com/gofiber/fiber/v2\"",
    ")",
    "",
    "func Setup(app *fiber.App, db *sql.DB, cfg *config.Config) \x7b",
    "\t// Initialize handlers",
    "\tauthHandler := handlers.NewAuthHandler(db, cfg)",
    "",
    "\t// API routes",
    "\tapi := app.Group(\"/api\")",
    "",
    "\t// Auth routes (public)",
    "\tauth := api.Group(\"/auth\")",
    "\tauth.Post(\"/login\", authHandler.Login)",
    "\tauth.Post(\"/logout\", authHandler.Logout)",
    "",
    "\t// Protected routes",
    "\tauthMiddleware := middleware.AuthMiddleware(cfg.JWT.Secret)",
    "\tauth.Get(\"/verify\", authMiddleware, authHandler.Verify)",
    ""]

def before (name : String) : List String :=
  head ++ packages.map (importLine name) ++ code

theorem fill_opening (name : String) : opening.fill name = endLines (before name ++ header) := by
  simp only [opening, before, head, packages, code, header, mark, importLine, Template.fill,
    Piece.lines, Piece.fill, List.map_cons, List.map_nil, List.cons_append, List.nil_append,
    endLines_cons, endLines_nil, String.join_cons, String.join_nil, String.intercalate_cons_cons,
    String.intercalate_singleton, String.append_assoc, String.append_empty]

theorem isLine_name (name : ModuleName) : IsLine name.text := by
  intro h
  have accepted := name.accepted
  rw [isModuleName, Bool.and_eq_true, Bool.not_eq_true', Bool.not_eq_true',
    List.any_eq_false] at accepted
  exact accepted.2 '\n' h (by decide)

/-- The lines that are the same in every file, and the ends of those that are not. -/
def fixed : List String := head ++ packages ++ code ++ header ++ nothing ++ closing

theorem isLine_of_mem_fixed : ∀ l ∈ fixed, IsLine l := by
  simp only [fixed, head, packages, code, header, mark, nothing, closing, List.cons_append,
    List.nil_append, List.forall_mem_cons]
  and_intros
  all_goals first | exact List.forall_mem_nil _ | exact isLine_ofList (by decide)

theorem isLine_importLine (name : ModuleName) {package : String} (h : package ∈ packages) :
    IsLine (importLine name.text package) := by
  have start : IsLine ("\t\"" ++ name.text) := (isLine_ofList (by decide)).append (isLine_name name)
  exact start.append (isLine_of_mem_fixed package (by simp [fixed, h]))

theorem isLine_before (name : ModuleName) : ∀ l ∈ before name.text, IsLine l := by
  intro l hl
  rw [before, List.mem_append, List.mem_append] at hl
  rcases hl with (hl | hl) | hl
  · exact isLine_of_mem_fixed l (by simp [fixed, hl])
  · obtain ⟨package, hp, rfl⟩ := List.mem_map.mp hl
    exact isLine_importLine name hp
  · exact isLine_of_mem_fixed l (by simp [fixed, hl])

theorem mark_not_mem_before (name : String) : mark ∉ before name := by
  rw [before, List.mem_append, List.mem_append, List.mem_map]
  rintro ((h | ⟨package, _, eq⟩) | h)
  · simp [mark, head] at h
  · -- An import has a quote where the mark has its first slash.
    have second := congrArg (fun s => s.toList[1]?) eq
    simp [importLine, mark] at second
  · simp [mark, code] at h

/-! No line break of either kind comes into the list, whatever the routes contain. -/

section Unbroken

variable {c : Char} (hc : isLineBreak c = true)

include hc

theorem lacks_line (r : Route) (duplicate : Bool) : Lacks c (r.line duplicate) := by
  have method : Lacks c r.method.name := by
    cases r.method <;> exact lacks_of_isLineBreak hc (by decide)
  have middleware : Lacks c (", ".intercalate (r.middleware.map singleLine)) := by
    refine lacks_intercalate (lacks_of_isLineBreak hc (by decide)) fun l hl => ?_
    obtain ⟨s, _, rfl⟩ := List.mem_map.mp hl
    exact lacks_singleLine hc s
  have space : Lacks c " " := lacks_of_isLineBreak hc (by decide)
  have arrow : Lacks c " -> " := lacks_of_isLineBreak hc (by decide)
  simp only [Route.line, lacks_append_iff]
  refine ⟨⟨⟨⟨⟨⟨⟨method, space⟩, lacks_singleLine hc r.path⟩, arrow⟩,
    lacks_singleLine hc r.handler⟩, ?_⟩, ?_⟩, ?_⟩
  · split
    · exact lacks_empty c
    · simp only [lacks_append_iff]
      exact ⟨⟨lacks_of_isLineBreak hc (by decide), middleware⟩,
        lacks_of_isLineBreak hc (by decide)⟩
  · split <;> exact lacks_of_isLineBreak hc (by decide)
  · split <;> exact lacks_of_isLineBreak hc (by decide)

theorem lacks_groupLines {m : Model} {g : PendingGroup} (hg : g ∈ m.pendingGroups) :
    ∀ l ∈ groupLines g, Lacks c l := by
  have h := Model.holds_pendingGroups m
  intro l hl
  rw [groupLines, List.mem_cons, List.mem_map] at hl
  rcases hl with rfl | ⟨line, hline, rfl⟩
  · have known : g.controller ∈ m.keptLines.map Prod.fst := by
      rw [← List.mem_eraseDups, ← h.controllers]
      exact List.mem_map_of_mem hg
    obtain ⟨entry, hentry, eq⟩ := List.mem_map.mp known
    obtain ⟨r, _, rfl⟩ := List.mem_map.mp hentry
    rw [← eq]
    exact (lacks_of_isLineBreak hc (by decide)).append (lacks_singleLine hc r.controller)
  · rw [h.lines g hg] at hline
    obtain ⟨entry, hentry, rfl⟩ := List.mem_map.mp hline
    obtain ⟨r, _, rfl⟩ := List.mem_map.mp (List.mem_filter.mp hentry).1
    exact (lacks_of_isLineBreak hc (by decide)).append (lacks_line hc r _)

theorem lacks_listing (m : Model) : ∀ l ∈ listing m.pendingGroups, Lacks c l := by
  cases eq : m.pendingGroups with
  | nil =>
    rw [show listing [] = nothing from rfl, nothing]
    exact List.forall_mem_cons.mpr ⟨lacks_of_isLineBreak hc (by decide),
      List.forall_mem_singleton.mpr (lacks_of_isLineBreak hc (by decide))⟩
  | cons g groups =>
    intro l hl
    rw [listing_cons, ← eq, List.flatMap_map, List.mem_flatMap] at hl
    obtain ⟨group, hgroup, hl⟩ := hl
    rcases List.mem_cons.mp hl with rfl | hl
    · exact lacks_of_isLineBreak hc (by decide)
    · exact lacks_groupLines hc hgroup l hl

end Unbroken

theorem isLine_listing (m : Model) : ∀ l ∈ listing m.pendingGroups, IsLine l :=
  lacks_listing rfl m

theorem routes_eq_endLines (name : String) (groups : List PendingGroup) :
    routes name groups = endLines (before name ++ header ++ (listing groups ++ closing)) := by
  rw [routes, fill_opening, String.append_assoc, ← endLines_append, ← endLines_append]

theorem linesOf_routes (m : Model) (name : ModuleName) :
    linesOf (routes name.text m.pendingGroups) =
      before name.text ++ header ++ (listing m.pendingGroups ++ closing) := by
  rw [routes_eq_endLines]
  refine linesOf_endLines fun l hl => ?_
  simp only [List.mem_append] at hl
  rcases hl with (hl | hl) | hl | hl
  · exact isLine_before name l hl
  · exact isLine_of_mem_fixed l (by simp [fixed, hl])
  · exact isLine_listing m l hl
  · exact isLine_of_mem_fixed l (by simp [fixed, hl])

theorem readFile_routes (m : Model) (name : ModuleName) :
    readFile (routes name.text m.pendingGroups) = some m.pendingGroups := by
  have rest : behindMark? header (linesOf (routes name.text m.pendingGroups))
      = some (listing m.pendingGroups ++ closing) := by
    rw [linesOf_routes]
    exact behindMark?_append _ (mark_not_mem_before name.text)
  have filled := (Model.holds_pendingGroups m).filled
  rw [readFile, rest, Option.bind_eq_bind, Option.bind_some, List.length_append,
    show closing.length = 2 from rfl, Nat.add_sub_cancel, List.take_left, readListing_listing filled]

end Routes

namespace Notes

/-! ## The number of pending routes -/

def numberAtEnd? (cs : List Char) : Option Nat :=
  match (cs.reverse.takeWhile Char.isDigit).reverse with
  | [] => none
  | digits => some (Nat.ofDigitChars 10 digits 0)

/-- How many handlers are missing, if this is the line that says it. -/
def missing? (line : String) : Option Nat :=
  (" still need a Go handler.".toList.isSuffixOf? line.toList).bind numberAtEnd?

/-- The number of missing handlers that the notes give. -/
def readFile (text : String) : Option Nat := (linesOf text).findSome? missing?

def totals (m : Model) : String :=
  toString m.routes.length ++ " routes discovered, " ++ toString m.pendingCount
    ++ " still need a Go handler."

theorem numberAtEnd?_append (start : List Char) (n : Nat) :
    numberAtEnd? (start ++ ' ' :: Nat.toDigits 10 n) = some n := by
  have digits : ∀ c ∈ (Nat.toDigits 10 n).reverse, c.isDigit = true := by
    intro c hc
    exact Nat.isDigit_of_mem_toDigits (by decide) (by decide) (List.mem_reverse.mp hc)
  have read : ((start ++ ' ' :: Nat.toDigits 10 n).reverse.takeWhile Char.isDigit).reverse
      = Nat.toDigits 10 n := by
    rw [List.reverse_append, List.reverse_cons, List.append_assoc, List.singleton_append,
      List.takeWhile_append_of_pos digits, List.takeWhile_cons_of_neg (by decide),
      List.append_nil, List.reverse_reverse]
  rw [numberAtEnd?, read]
  split
  · rename_i empty
    exact absurd empty Nat.toDigits_ne_nil
  · exact congrArg some Nat.ofDigitChars_ten_toDigits

theorem missing?_totals (m : Model) : missing? (totals m) = some m.pendingCount := by
  have chars : (totals m).toList =
      ((toString m.routes.length ++ " routes discovered,").toList
        ++ ' ' :: Nat.toDigits 10 m.pendingCount) ++ " still need a Go handler.".toList := by
    rw [totals, ← Nat.toList_repr]
    simp
  rw [missing?, chars, List.isSuffixOf?_eq_some_iff_append_eq.mpr rfl, Option.bind_some,
    numberAtEnd?_append]

theorem missing?_ofList {cs : List Char} (h : cs.reverse.take 2 ≠ ['.', 'r']) :
    missing? (String.ofList cs) = none := by
  have chars : (String.ofList cs).toList = cs := String.toList_ofList
  rw [missing?, chars]
  cases eq : " still need a Go handler.".toList.isSuffixOf? cs with
  | none => rfl
  | some rest =>
    rw [List.isSuffixOf?_eq_some_iff_append_eq] at eq
    subst eq
    exact absurd (by simp) h

theorem missing?_of_mem_opening : ∀ l ∈ opening, missing? l = none := by
  simp only [opening, List.forall_mem_cons]
  and_intros
  all_goals first | exact List.forall_mem_nil _ | exact missing?_ofList (by decide)

theorem isLine_of_mem_opening : ∀ l ∈ opening, IsLine l := by
  simp only [opening, List.forall_mem_cons]
  and_intros
  all_goals first | exact List.forall_mem_nil _ | exact isLine_ofList (by decide)

theorem isLine_toString (n : Nat) : IsLine (toString n) := by
  intro h
  rw [Nat.toString_eq_ofList_toDigits, String.toList_ofList] at h
  exact absurd (Nat.isDigit_of_mem_toDigits (by decide) (by decide) h) (by decide)

theorem isLine_totals (m : Model) : IsLine (totals m) := by
  simp only [totals, isLine_append_iff]
  exact ⟨⟨⟨isLine_toString _, by decide⟩, isLine_toString _⟩, by decide⟩

theorem readFile_migrationNotes (m : Model) :
    readFile (migrationNotes m) = some m.pendingCount := by
  obtain ⟨more, notes⟩ : ∃ more, migrationNotes m = endLines (opening ++ ([totals m] ++ more)) := by
    simp only [migrationNotes, List.append_assoc]
    exact ⟨_, rfl⟩
  have first : opening.findSome? missing? = none :=
    List.findSome?_eq_none_iff.mpr missing?_of_mem_opening
  -- Names may break the lines behind the totals, so these are kept as a text.
  rw [readFile, notes, endLines_append, endLines_append,
    linesOf_endLines_append isLine_of_mem_opening,
    linesOf_endLines_append (by simpa using isLine_totals m), List.findSome?_append, first,
    Option.none_or, List.singleton_append, List.findSome?_cons, missing?_totals]

end Notes

end ProjectText

/-! ## The project -/

def contents? (path : String) (artifacts : List Artifact) : Option String :=
  (artifacts.find? (·.path == path)).map (·.contents)

theorem find?_records (m : Model) (name : ModuleName) {path : String}
    (other : ∀ k : RecordKind, k.file ≠ path) :
    (RecordKind.all.filterMap (·.artifact? m name)).find? (·.path == path) = none := by
  rw [List.find?_eq_none]
  intro a ha
  obtain ⟨k, _, eq⟩ := List.mem_filterMap.mp ha
  unfold RecordKind.artifact? at eq
  split at eq
  · cases eq
    simpa using other k
  · cases eq

theorem contents?_artifacts (m : Model) (name : ModuleName) :
    contents? "internal/routes/routes.go" (m.artifacts name)
        = some (ProjectText.routes name.text m.pendingGroups) ∧
      contents? "MIGRATION.md" (m.artifacts name) = some (ProjectText.migrationNotes m) := by
  constructor
  · simp [contents?, Model.artifacts, List.find?_append,
      @find?_records m name "internal/routes/routes.go"
        (by rintro (_ | _) <;> simp [RecordKind.file])]
  · simp [contents?, Model.artifacts, List.find?_append,
      @find?_records m name "MIGRATION.md" (by rintro (_ | _) <;> simp [RecordKind.file])]

theorem pending_of_generate {m : Model} {name : String} {output : Path} {cleanOutput : Bool}
    {disk after : Disk} {report : GenerationReport}
    (h : (Project.generate m name output cleanOutput).run disk = ⟨.ok report, after⟩) :
    report.pending = m.pendingCount := by
  have reported : ∀ artifacts between, (do
      Project.createLayout output
      let files ← Action.each (Project.writeArtifact output) artifacts
      pure ⟨output, files, m.pendingCount⟩ : Action GenerationError GenerationReport).run between
        = ⟨.ok report, after⟩ → report.pending = m.pendingCount := by
    intro artifacts between h
    obtain ⟨_, made, _, h⟩ := Action.ok_of_run_bind h
    obtain ⟨files, written, _, h⟩ := Action.ok_of_run_bind h
    cases h
    rfl
  unfold Project.generate at h
  obtain ⟨artifacts, rendered, _, h⟩ := Action.ok_of_run_bind h
  split at h
  · obtain ⟨_, cleaned, _, h⟩ := Action.ok_of_run_bind h
    exact reported artifacts cleaned h
  · exact reported artifacts rendered h

/-- Whoever reads the files of a project finds the pending routes in them, and as many of them as
the notes and a report say. -/
theorem Model.render_lists_pending (m : Model) (name : ModuleName) :
    ∃ artifacts routes notes, m.render name.text = .ok artifacts ∧
      contents? "internal/routes/routes.go" artifacts = some routes ∧
      contents? "MIGRATION.md" artifacts = some notes ∧
      ProjectText.Routes.readFile routes = some m.pendingGroups ∧
      ProjectText.Notes.readFile notes = some (m.pendingGroups.flatMap (·.lines)).length ∧
      ∀ output cleanOutput disk after report,
        (Project.generate m name.text output cleanOutput).run disk = ⟨.ok report, after⟩ →
          report.pending = (m.pendingGroups.flatMap (·.lines)).length := by
  obtain ⟨routes, notes⟩ := contents?_artifacts m name
  rw [← PendingGroup.count_eq_length]
  exact ⟨_, _, _, m.render_text name, routes, notes, ProjectText.Routes.readFile_routes m name,
    ProjectText.Notes.readFile_migrationNotes m, fun _ _ _ _ _ h => pending_of_generate h⟩

/-- Of these two routes one is served from the start. -/
def mixed : Model where
  routes := [⟨.get, "/cameras", "list", ["auth"], "camera"⟩, ⟨.post, "/login", "login", [], "auth"⟩]

theorem generate_mixed :
    ((Project.generate mixed "x" ⟨[""]⟩ false).run {}).result.toOption.isSome = true := by
  decide +kernel

theorem Model.render_lists_pending_mixed :
    mixed.pendingGroups = [⟨"camera", ["GET /cameras -> list [auth]"]⟩] ∧
      ∃ report after, (Project.generate mixed "x" ⟨[""]⟩ false).run {} = ⟨.ok report, after⟩ ∧
        report.pending = 1 := by
  have groups : mixed.pendingGroups = [⟨"camera", ["GET /cameras -> list [auth]"]⟩] := by
    decide +kernel
  refine ⟨groups, ?_⟩
  obtain ⟨_, _, _, _, _, _, _, _, pending⟩ := render_lists_pending mixed ⟨"x", by decide⟩
  cases run : (Project.generate mixed "x" ⟨[""]⟩ false).run {} with
  | mk result after =>
    cases result with
    | ok report =>
      have count := pending _ _ _ _ _ run
      rw [groups] at count
      exact ⟨report, after, rfl, count⟩
    | error e =>
      have succeeds := generate_mixed
      rw [run] at succeeds
      cases succeeds

end Scaffold
