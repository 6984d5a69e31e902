import Mathlib.Data.List.Nodup
import Scaffold.Proofs.Project.Engine
import Scaffold.Proofs.Text.Replacement

/-!
# Files with the name of the module

Most files of a project are a template with nothing open but the name of the module. Their text is
that of the template with the name in place of every marker, because no marker and no other markup
comes about by accident: the text between the markers is plain. So whatever the name looks like, an
engine that fills the source of the template comes to the same text.
-/

namespace Scaffold

open Markup

namespace ProjectText

/-- The files that only the name of the module goes into, with their templates. -/
def namedFiles : List (String × Template) := [
  ("go.mod", goMod),
  ("cmd/server/main.go", entryPoint),
  (RecordKind.account.file, RecordKind.account.template),
  (RecordKind.camera.file, RecordKind.camera.template),
  ("internal/middleware/auth.go", authMiddleware),
  ("internal/handlers/auth.go", authHandler),
  ("pkg/logger/logger.go", logger),
  ("Dockerfile", dockerfile),
  ("Makefile", makefile)]

def engineSettings : EngineSettings where
  keepsLastLineBreak := true
  trimsBlocks := true
  stripsBlocks := true
  isStrict := true
  escapesValues := false

end ProjectText

/-! ## Plain templates -/

namespace Template

inductive IsPlain : Template → Prop
  | nil : IsPlain []
  | text {s : String} {t : Template} : Markup.IsPlain s → IsPlain t → IsPlain (.text s :: t)
  | name {t : Template} : IsPlain t → IsPlain (.moduleName :: t)

variable {t : Template}

theorem source_text (s : String) (t : Template) : source (.text s :: t) = s ++ t.source := by
  rw [source, List.map_cons, String.join_cons]
  rfl

theorem source_name (t : Template) : source (.moduleName :: t) = Piece.marker ++ t.source := by
  rw [source, List.map_cons, String.join_cons]
  rfl

theorem fill_text (s : String) (t : Template) (name : String) :
    fill (.text s :: t) name = s ++ t.fill name := by
  rw [fill, List.map_cons, String.join_cons]
  rfl

theorem fill_name (t : Template) (name : String) :
    fill (.moduleName :: t) name = name ++ t.fill name := by
  rw [fill, List.map_cons, String.join_cons]
  rfl

theorem lacksBlocks_marker {s : String} (h : LacksBlocks s) : LacksBlocks (Piece.marker ++ s) := by
  have last : Piece.marker.toList.getLast? = some '\x7d' := by decide
  rw [LacksBlocks, String.toList_append, List.isChain_append, last]
  refine ⟨by decide, h, ?_⟩
  rintro _ ⟨⟩ d _
  exact opensBlock_of_ne d (by decide)

theorem lacksBlocks_source (plain : t.IsPlain) : LacksBlocks t.source := by
  induction plain with
  | nil => exact List.isChain_nil
  | text plain _ ih =>
    rw [source_text]
    exact .append plain ih
  | name _ ih =>
    rw [source_name]
    exact lacksBlocks_marker ih

/-- An engine that takes sources and values literally fills the open places. -/
theorem render_source {engine : TemplateEngine} (rules : engine.ObeysRules)
    {settings : EngineSettings} (literal : settings.isLiteral = true) (name : String)
    (plain : t.IsPlain) {front : String} (frontPlain : Markup.IsPlain front) :
    engine.render settings [("module_name", .text name)] (front ++ t.source) =
      .ok (front ++ t.fill name) := by
  induction plain generalizing front with
  | nil =>
    rw [show source [] = "" from String.join_nil, show fill [] name = "" from String.join_nil,
      String.append_empty]
    exact rules.text literal frontPlain
  | text plain _ ih =>
    rw [source_text, fill_text, ← String.append_assoc, ← String.append_assoc]
    exact ih (frontPlain.append plain)
  | name plain ih =>
    have isName : IsName "module_name" := by decide
    have written : Piece.marker = expression "module_name" := by decide
    -- The rule for values is about the rest alone, so nothing is in front of it.
    have rest := ih isPlain_empty
    rw [String.empty_append, String.empty_append] at rest
    rw [source_name, fill_name, written, ← String.append_assoc, ← String.append_assoc]
    exact rules.value literal frontPlain isName rfl (lacksBlocks_source plain) rest

theorem not_beginsIn_plain {s : String} (plain : Markup.IsPlain s) (rest : List Char) :
    ¬Text.BeginsIn Piece.marker.toList s.toList rest := by
  -- The two braces of a marker would open markup in the text or with a brace behind it.
  rintro ⟨start, some, inText, opened⟩
  obtain ⟨c, start, rfl⟩ := List.exists_cons_of_ne_nil some
  obtain ⟨before, whole⟩ := inText
  have chain : ((c :: start) ++ ['\x7b']).IsChain fun a b => opens a b = false := by
    have all := plain
    rw [Markup.IsPlain, ← whole, List.append_assoc] at all
    exact all.right_of_append
  obtain ⟨behind, marker⟩ := opened
  change '\x7b' :: '\x7b' :: _ = c :: (start ++ rest) at marker
  obtain ⟨rfl, same⟩ := List.cons.inj marker
  cases start with
  | nil => cases (List.isChain_cons_cons.mp chain).1
  | cons d start =>
    obtain ⟨rfl, -⟩ := List.cons.inj same
    cases (List.isChain_cons_cons.mp chain).1

/-- Replaces every marker of the source, in one pass. -/
def replaceMarkers (t : Template) (name : String) : String :=
  String.ofList (Text.replaceAll Piece.marker.toList name.toList t.source.toList)

theorem replaceAll_source (plain : t.IsPlain) (name : String) :
    Text.replaceAll Piece.marker.toList name.toList t.source.toList = (t.fill name).toList := by
  induction plain with
  | nil =>
    rw [show source [] = "" from String.join_nil, show fill [] name = "" from String.join_nil,
      String.toList_empty, Text.replaceAll]
  | text plain _ ih =>
    rw [source_text, fill_text, String.toList_append, String.toList_append,
      Text.replaceAll_past name.toList (not_beginsIn_plain plain _), ih]
  | name _ ih =>
    have some : Piece.marker.toList ≠ [] := by decide
    rw [source_name, fill_name, String.toList_append, String.toList_append,
      Text.replaceAll_mark some, ih]

theorem replaceMarkers_eq (plain : t.IsPlain) (name : String) :
    t.replaceMarkers name = t.fill name := by
  rw [replaceMarkers, replaceAll_source plain, String.ofList_toList]

end Template

/-! ## Lines of plain text -/

/-- Lines that make up plain text. A line may end with a brace, except for the last one, as no
markup goes on behind a line break. -/
inductive PlainLines : List String → Prop
  | last {cs : List Char} (plain : (cs ++ ['\x7b']).IsChain fun a b => opens a b = false) :
      PlainLines [String.ofList cs]
  | cons {cs : List Char} {l : String} {ls : List String}
      (free : cs.IsChain fun a b => opens a b = false) (later : PlainLines (l :: ls)) :
      PlainLines (String.ofList cs :: l :: ls)

theorem isPlain_ofList {cs : List Char}
    (plain : (cs ++ ['\x7b']).IsChain fun a b => opens a b = false) :
    Markup.IsPlain (String.ofList cs) := by
  rwa [Markup.IsPlain, String.toList_ofList]

theorem PlainLines.isPlain {ls : List String} (plain : PlainLines ls) :
    Markup.IsPlain ("\n".intercalate ls) := by
  induction plain with
  | last plain =>
    rw [String.intercalate_singleton]
    exact isPlain_ofList plain
  | @cons cs l ls free _ ih =>
    have opens_break : ∀ c, opens c '\n' = false := fun c => by
      rw [opens, show ('\n' == '\x7b' || '\n' == '%' || '\n' == '#') = false by decide,
        Bool.and_false]
    have front : Markup.IsPlain (String.ofList cs ++ "\n") := by
      rw [isPlain_iff, String.toList_append, String.toList_ofList,
        show "\n".toList = ['\n'] by decide, List.isChain_append, List.getLast?_concat]
      refine ⟨⟨free, List.isChain_singleton _, ?_⟩, ?_⟩
      · rintro c _ _ ⟨⟩
        exact opens_break c
      · rintro _ ⟨⟩
        decide
    rw [String.intercalate_cons_cons]
    exact front.append ih

theorem Template.IsPlain.lines {ls : List String} {t : Template} (plain : PlainLines ls)
    (later : t.IsPlain) : IsPlain (.lines ls :: t) := .text plain.isPlain later

/-! ## The last line -/

theorem getLast?_lines {ls : List String} (broken : 1 < ls.length) (ended : ls.getLast? = some "") :
    ("\n".intercalate ls).toList.getLast? = some '\n' := by
  induction ls with
  | nil => cases broken
  | cons first ls ih =>
    match ls with
    | [] => exact absurd broken (Nat.lt_irrefl 1)
    | [second] =>
      cases ended
      rw [String.intercalate_cons_cons, String.intercalate_singleton, String.append_empty,
        String.toList_append]
      exact List.getLast?_concat
    | second :: third :: ls =>
      have later := ih (Nat.le_add_left 2 _) ended
      rw [String.intercalate_cons_cons, String.toList_append, List.getLast?_append, later]
      rfl

namespace Template

def EndsLine (t : Template) : Prop :=
  ∃ s, t.getLast? = some (.text s) ∧ s.toList.getLast? = some '\n'

theorem EndsLine.getLast?_fill {t : Template} (ends : t.EndsLine) (name : String) :
    (t.fill name).toList.getLast? = some '\n' := by
  obtain ⟨s, last, ended⟩ := ends
  obtain ⟨front, rfl⟩ := List.getLast?_eq_some_iff.mp last
  rw [fill, List.map_append, String.join_append, List.map_singleton, String.join_cons,
    String.join_nil, String.append_empty, String.toList_append, Piece.fill, List.getLast?_append,
    ended]
  rfl

end Template

/-! ## The templates of a project -/

namespace ProjectText

theorem isPlain_of_mem_namedFiles : ∀ file ∈ namedFiles, file.2.IsPlain := by
  simp only [namedFiles, List.forall_mem_cons]
  refine ⟨.text (isPlain_ofList (by decide)) (.name (.lines ?_ .nil)),
    .lines ?_ (.name (.lines ?_ (.name (.lines ?_ (.name (.lines ?_ (.name (.lines ?_ .nil)))))))),
    .lines ?_ .nil, .lines ?_ .nil, .lines ?_ .nil,
    .lines ?_ (.name (.lines ?_ (.name (.lines ?_ .nil)))),
    .lines ?_ .nil, .lines ?_ .nil, .lines ?_ .nil, List.forall_mem_nil _⟩
  -- What is left is one stretch of lines each, and no line depends on the others.
  all_goals
    repeat refine .cons (by decide +kernel) ?_
    exact .last (by decide)

theorem endsLine_of_mem_namedFiles : ∀ file ∈ namedFiles, file.2.EndsLine := by
  simp only [namedFiles, List.forall_mem_cons]
  refine ⟨?_, ?_, ?_, ?_, ?_, ?_, ?_, ?_, ?_, List.forall_mem_nil _⟩
  all_goals exact ⟨_, rfl, getLast?_lines (by decide) rfl⟩

end ProjectText

namespace Model

open ProjectText

theorem exists_mem_artifacts (m : Model) (name : ModuleName) : ∀ file ∈ namedFiles,
    (file.1 = RecordKind.camera.file → RecordKind.camera.isEmitted m = true) →
      ∃ inputs, ⟨file.1, file.2.fill name.text, inputs⟩ ∈ m.artifacts name := by
  have record : ∀ k : RecordKind, k.isEmitted m = true →
      ∃ inputs, ⟨k.file, k.template.fill name.text, inputs⟩ ∈ m.artifacts name := by
    intro k emitted
    refine ⟨k.inputs, List.mem_append_left _ (List.mem_append_right _ ?_)⟩
    refine List.mem_filterMap.mpr ⟨k, ?_, if_pos emitted⟩
    cases k <;> decide
  simp only [namedFiles, List.forall_mem_cons]
  refine ⟨fun _ => ⟨[], ?_⟩, fun _ => ⟨[], ?_⟩, fun _ => record .account rfl,
    fun emitted => record .camera (emitted trivial), fun _ => ⟨[], ?_⟩, fun _ => ⟨[], ?_⟩,
    fun _ => ⟨[], ?_⟩, fun _ => ⟨[], ?_⟩, fun _ => ⟨[], ?_⟩, List.forall_mem_nil _⟩
  · exact List.mem_append_left _ (List.mem_append_left _ (.head _))
  · exact List.mem_append_left _ (List.mem_append_left _ (.tail _ (.head _)))
  all_goals refine List.mem_append_right _ ?_
  · exact .head _
  · exact .tail _ (.head _)
  · exact .tail _ (.tail _ (.tail _ (.tail _ (.head _))))
  · exact .tail _ (.tail _ (.tail _ (.tail _ (.tail _ (.head _)))))
  · exact .tail _ (.tail _ (.tail _ (.tail _ (.tail _ (.tail _ (.head _))))))

variable {m : Model} {name : ModuleName}

theorem isEmitted_of_path_eq {a : Artifact} (mem : a ∈ m.artifacts name)
    (path : a.path = RecordKind.camera.file) : RecordKind.camera.isEmitted m = true := by
  by_contra absent
  have listed := List.mem_map_of_mem (f := (·.path)) mem
  rw [paths_artifacts_eq, if_neg absent, path] at listed
  exact absurd listed (by decide)

theorem eq_of_path_eq {a b : Artifact} (ha : a ∈ m.artifacts name) (hb : b ∈ m.artifacts name)
    (path : a.path = b.path) : a = b :=
  List.inj_on_of_nodup_map (Project.nodup_paths.sublist (Project.paths_artifacts m name)) ha hb path

theorem contents_of_mem_namedFiles {file : String × Template} (mem : file ∈ namedFiles)
    {a : Artifact} (ha : a ∈ m.artifacts name) (path : a.path = file.1) :
    a.contents = file.2.fill name.text := by
  have emitted : file.1 = RecordKind.camera.file → RecordKind.camera.isEmitted m = true :=
    fun camera => isEmitted_of_path_eq ha (path.trans camera)
  obtain ⟨inputs, written⟩ := exists_mem_artifacts m name file mem emitted
  rw [eq_of_path_eq ha written path]

/-- The name of the module comes into its files as it is, in the place of the markers of their
templates and nowhere else, whatever it looks like. Every engine that obeys the rules fills the
source of a template to the same contents, however it deals with blocks. -/
theorem render_substitutes (m : Model) (name : ModuleName) :
    ∃ artifacts, m.render name.text = .ok artifacts ∧ ∀ file ∈ namedFiles,
      ((∃ a ∈ artifacts, a.path = file.1) ↔
        (file.1 = RecordKind.camera.file → RecordKind.camera.isEmitted m = true)) ∧
      ∀ a ∈ artifacts, a.path = file.1 →
        a.contents = file.2.replaceMarkers name.text ∧
        a.contents.toList.getLast? = some '\n' ∧
        ∀ engine : TemplateEngine, engine.ObeysRules → ∀ trimsBlocks stripsBlocks,
          engine.render { engineSettings with trimsBlocks, stripsBlocks }
            [("module_name", .text name.text)] file.2.source = .ok a.contents := by
  refine ⟨m.artifacts name, render_text m name, fun file mem => ⟨⟨?_, ?_⟩, ?_⟩⟩
  · rintro ⟨a, ha, path⟩ camera
    exact isEmitted_of_path_eq ha (path.trans camera)
  · intro emitted
    obtain ⟨inputs, written⟩ := exists_mem_artifacts m name file mem emitted
    exact ⟨_, written, rfl⟩
  · intro a ha path
    have plain := isPlain_of_mem_namedFiles file mem
    rw [contents_of_mem_namedFiles mem ha path, Template.replaceMarkers_eq plain]
    refine ⟨rfl, (endsLine_of_mem_namedFiles file mem).getLast?_fill name.text, ?_⟩
    intro engine rules trimsBlocks stripsBlocks
    have literal : { engineSettings with trimsBlocks, stripsBlocks }.isLiteral = true := rfl
    have rendered := Template.render_source rules literal name.text plain isPlain_empty
    rwa [String.empty_append, String.empty_append] at rendered

/-- Markup in the name is text as well. -/
def markedName : ModuleName := ⟨"\x7b\x7bx\x7d\x7d\x7b%\"&<", by decide⟩

theorem render_substitutes_markup :
    ∃ artifacts, ({} : Model).render markedName.text = .ok artifacts ∧
      ∃ a ∈ artifacts, a.path = "go.mod" ∧ a.contents = goMod.replaceMarkers markedName.text ∧
        ("module " ++ markedName.text).toList <+: a.contents.toList ∧
        TemplateEngine.ofSheets.render engineSettings [("module_name", .text markedName.text)]
          goMod.source = .ok a.contents := by
  have mem : ("go.mod", goMod) ∈ namedFiles := .head _
  obtain ⟨artifacts, rendered, files⟩ := render_substitutes {} markedName
  obtain ⟨written, contents⟩ := files ("go.mod", goMod) mem
  obtain ⟨a, ha, path⟩ := written.mpr (fun camera => absurd camera (by decide))
  obtain ⟨replaced, -, engines⟩ := contents a ha path
  refine ⟨artifacts, rendered, a, ha, path, replaced, ?_,
    engines .ofSheets TemplateEngine.ofSheets_obeysRules true true⟩
  rw [replaced, Template.replaceMarkers_eq (isPlain_of_mem_namedFiles _ mem), goMod,
    Template.fill_text, Template.fill_name, ← String.append_assoc]
  exact ⟨_, String.toList_append.symm⟩

end Model

end Scaffold
