import Scaffold.Project.Rendering
import Scaffold.Proofs.Project.Written

/-!
# Nothing in a model keeps it from being rendered

What a sheet gives is put together from what its items give, so that a sheet is filled once all
its slots are seen to be bound. With the views of any model that is so for every sheet, and the
texts that come out are those of the project. What is left to fail is the module name.
-/

namespace Scaffold

namespace Sheet

variable {bound : Bindings} {rest : Sheet} {slot : Slot} {t : String}

def Fills (bound : Bindings) (sheet : Sheet) (t : String) : Prop := fill bound sheet = .ok t

theorem Fills.nil : Fills bound [] "" := rfl

theorem Fills.cons {item : SheetItem} {s : String} (first : fillItem bound item = .ok s)
    (h : Fills bound rest t) : Fills bound (item :: rest) (s ++ t) := by
  rw [Fills, fill, first, show fill bound rest = .ok t from h]
  rfl

theorem Fills.text {s : String} (h : Fills bound rest t) :
    Fills bound (.text s :: rest) (s ++ t) := h.cons rfl

def Binds (bound : Bindings) (slot : Slot) (v : View) : Prop :=
  (bound.lookup slot.name).bind (·.follow? slot.fields) = some v

theorem Binds.find {v : View} (h : Binds bound slot v) : slot.find bound = .ok v := by
  rw [Slot.find, show (bound.lookup slot.name).bind (·.follow? slot.fields) = some v from h]

theorem Fills.value {v : View} {s : String} (found : Binds bound slot v)
    (shown : v.shown? = some s) (h : Fills bound rest t) :
    Fills bound (.value slot :: rest) (s ++ t) := by
  refine h.cons ?_
  simp only [fillItem, found.find, bind, Except.bind, shown]

theorem mapM_ok {ε α β : Type} {f : α → Except ε β} {g : α → β} {as : List α}
    (h : ∀ a ∈ as, f a = .ok (g a)) : as.mapM f = .ok (as.map g) := by
  induction as with
  | nil => rfl
  | cons a as ih =>
    rw [List.mapM_cons, h a List.mem_cons_self, ih fun b hb => h b (List.mem_cons_of_mem a hb)]
    rfl

/-- A part that comes again gives what its members give, or the text for none. -/
theorem Fills.each {α : Type} {name : String} {body empty : Sheet} {members : List α}
    {view : α → View} {f : α → String} {e : String}
    (found : Binds bound slot (.list (members.map view)))
    (some : ∀ a ∈ members, Fills ((name, view a) :: bound) body (f a))
    (none : Fills bound empty e) (h : Fills bound rest t) :
    Fills bound (.each name slot body empty :: rest)
      ((if members.isEmpty then e else String.join (members.map f)) ++ t) := by
  refine h.cons ?_
  rw [fillItem, found.find]
  cases members with
  | nil => exact none
  | cons a as =>
    have all : ((a :: as).map view).mapM (fun v => fill ((name, v) :: bound) body)
        = .ok ((a :: as).map f) := by
      rw [List.mapM_map]
      exact mapM_ok some
    change String.join <$> ((a :: as).map view).mapM (fun v => fill ((name, v) :: bound) body) = _
    rw [all]
    rfl

/-- Without a text for no members the part gives nothing then. -/
theorem Fills.members {α : Type} {name : String} {body : Sheet} {members : List α}
    {view : α → View} {f : α → String} (found : Binds bound slot (.list (members.map view)))
    (some : ∀ a ∈ members, Fills ((name, view a) :: bound) body (f a)) (h : Fills bound rest t) :
    Fills bound (.each name slot body [] :: rest) (String.join (members.map f) ++ t) := by
  have joined : (if members.isEmpty then "" else String.join (members.map f))
      = String.join (members.map f) := by
    cases members <;> rfl
  rw [← joined]
  exact .each found some .nil h

theorem Fills.append {sheet : Sheet} {s : String} (first : Fills bound sheet s)
    (h : Fills bound rest t) : Fills bound (sheet ++ rest) (s ++ t) := by
  induction sheet generalizing s with
  | nil =>
    cases first
    rwa [List.nil_append, String.empty_append]
  | cons item sheet ih =>
    cases filled : fillItem bound item with
    | error fault =>
      rw [Fills, fill, filled] at first
      cases first
    | ok u =>
      cases others : fill bound sheet with
      | error fault =>
        rw [Fills, fill, filled, others] at first
        cases first
      | ok v =>
        have eq : fill bound (item :: sheet) = .ok (u ++ v) := Fills.cons filled others
        cases eq.symm.trans first
        rw [List.cons_append, String.append_assoc]
        exact .cons filled (ih others)

theorem fills_template {name : String} (named : Binds bound ⟨"module_name", []⟩ (.text name))
    (template : Template) : Fills bound template.sheet (template.fill name) := by
  induction template with
  | nil => exact .nil
  | cons piece template ih =>
    rw [Template.fill, List.map_cons, String.join_cons]
    cases piece with
    | text s => exact .text ih
    | moduleName => exact .value named rfl ih

end Sheet

namespace ProjectText

open Sheet

/-! ## The sheets of the project -/

theorem join_lines {α : Type} (f : α → String) (as : List α) :
    String.join (as.map fun a => f a ++ "\n") = endLines (as.map f) := by
  rw [endLines, List.map_map]
  rfl

theorem endLines_flatMap {α : Type} (f : α → List String) (as : List α) :
    endLines (as.flatMap f) = String.join (as.map fun a => endLines (f a)) := by
  induction as with
  | nil => simp
  | cons a as ih => rw [List.flatMap_cons, endLines_append, List.map_cons, String.join_cons, ih]

theorem fills_services (found : List SourceModule) :
    Fills [("services", .list (found.map SourceModule.view))] servicesSheet (services found) := by
  have filled : Fills [("services", .list (found.map SourceModule.view))] servicesSheet _ :=
    .text (.each rfl
      (fun s _ => .text (.value rfl rfl (.text (.value rfl rfl (.text (.value rfl rfl
        (.text .nil)))))))
      (.text .nil) (.text .nil))
  refine filled.trans (congrArg Except.ok ?_)
  simp only [services, endLines_append, apply_ite endLines, endLines_cons, endLines_nil,
    ← join_lines, Services.line, String.append_assoc, String.append_empty, String.reduceAppend]

theorem fills_database :
    Fills [("tables", .list (coreTables.map (CoreTable.view "\t\t")))] databaseSheet database := by
  have filled : Fills [("tables", .list (coreTables.map (CoreTable.view "\t\t")))]
      databaseSheet _ :=
    .text (.members rfl (fun t _ => .text (.value rfl rfl (.text .nil))) (.text .nil))
  refine filled.trans (congrArg Except.ok ?_)
  simp only [database, String.append_assoc, String.append_empty]

theorem fills_migration :
    Fills [("tables", .list (coreTables.map (CoreTable.view "")))] migrationSheet
      coreMigration := by
  have filled : Fills [("tables", .list (coreTables.map (CoreTable.view "")))] migrationSheet _ :=
    .text (.members rfl (fun t _ => .text (.value rfl rfl (.text .nil))) .nil)
  refine filled.trans (congrArg Except.ok ?_)
  simp only [coreMigration, endLines_cons, endLines_nil, String.append_assoc, String.append_empty,
    String.reduceAppend]

theorem fills_environment :
    Fills [("groups", .list (variableGroups.map VariableGroup.view))] environmentSheet
      exampleEnvironment := by
  have filled : Fills [("groups", .list (variableGroups.map VariableGroup.view))]
      environmentSheet _ :=
    .text (.members rfl
      (fun g _ => .text (.text (.value rfl rfl (.text (.members rfl
        (fun v _ => .value rfl rfl (.text (.value rfl rfl (.text .nil)))) .nil))))) .nil)
  refine filled.trans (congrArg Except.ok ?_)
  simp only [exampleEnvironment, endLines_append, endLines_cons, endLines_nil, endLines_flatMap,
    ← join_lines, String.append_assoc, String.append_empty, String.empty_append]

theorem fills_settings :
    Fills [("groups", .list (variableGroups.map VariableGroup.view))] settingsSheet settings := by
  have filled : Fills [("groups", .list (variableGroups.map VariableGroup.view))]
      settingsSheet _ :=
    .text (.members rfl
      (fun g _ => .text (.value rfl rfl (.text (.value rfl rfl (.text .nil)))))
      (.text (.members rfl
        (fun g _ => .text (.text (.value rfl rfl (.text (.members rfl
          (fun v _ => .text (.value rfl rfl (.text (.value rfl rfl (.text .nil)))))
          (.text .nil))))))
        (.text (.members rfl
          (fun g _ => .text (.value rfl rfl (.text (.value rfl rfl (.text (.members rfl
            (fun v _ => .text (.value rfl rfl (.text (.value rfl rfl (.text .nil)))))
            (.text .nil)))))))
          (.text .nil))))))
  refine filled.trans (congrArg Except.ok ?_)
  simp only [settings, Settings.structLines, Settings.loadLines, endLines_append, endLines_cons,
    endLines_nil, endLines_flatMap, ← join_lines, String.append_assoc, String.append_empty,
    String.empty_append, String.reduceAppend]

theorem Routes.fills_listing {bound : Bindings} {groups : List PendingGroup}
    (found : Binds bound ⟨"pending", []⟩ (.list (groups.map PendingGroup.view))) :
    Fills bound Routes.listingSheet
      (endLines (Routes.listing groups) ++ endLines Routes.closing) := by
  have filled : Fills bound Routes.listingSheet _ :=
    .each found
      (fun g _ => .text (.text (.value rfl rfl (.text (.members rfl
        (fun l _ => .text (.value rfl rfl (.text .nil))) .nil)))))
      (.text .nil) (.text .nil)
  refine filled.trans (congrArg Except.ok ?_)
  rw [← String.append_assoc, String.append_empty, Routes.listing, apply_ite endLines,
    endLines_flatMap]
  refine congrArg (· ++ _) (ite_congr rfl (fun _ => ?_) fun _ => ?_)
  · simp only [endLines_cons, endLines_nil, String.append_empty, String.reduceAppend]
  · simp only [endLines_append, endLines_cons, endLines_nil, ← join_lines, String.append_assoc,
      String.append_empty, String.reduceAppend]

theorem fills_routes (name : String) (groups : List PendingGroup) :
    Fills [("module_name", .text name), ("pending", .list (groups.map PendingGroup.view))]
      routesSheet (routes name groups) := by
  have named : Binds
      [("module_name", .text name), ("pending", .list (groups.map PendingGroup.view))]
      ⟨"module_name", []⟩ (.text name) := rfl
  have pending : Binds
      [("module_name", .text name), ("pending", .list (groups.map PendingGroup.view))]
      ⟨"pending", []⟩ (.list (groups.map PendingGroup.view)) := rfl
  rw [routes, String.append_assoc]
  exact (fills_template named Routes.opening).append (Routes.fills_listing pending)

theorem fills_notes (m : Model) : Fills m.notesBindings notesSheet (migrationNotes m) := by
  have filled : Fills m.notesBindings notesSheet _ :=
    .text (.value rfl rfl (.text (.value rfl rfl (.text (.members rfl
      (fun r _ => .text (.value rfl rfl (.text (.value rfl rfl (.text .nil)))))
      (.text (.each rfl
        (fun s _ => .text (.value rfl rfl (.text (.value rfl rfl (.text (.value rfl rfl
          (.text .nil)))))))
        (.text .nil)
        (.text (.each rfl
          (fun s _ => .text (.value rfl rfl (.text (.value rfl rfl (.text (.value rfl rfl
            (.text .nil)))))))
          (.text .nil)
          (.text (.members rfl
            (fun r _ => .text (.value rfl rfl (.text (.value rfl rfl (.text (.value rfl rfl
              (.text .nil)))))))
            .nil)))))))))))
  refine filled.trans (congrArg Except.ok ?_)
  simp only [migrationNotes, Notes.methodLines, Notes.listOrNone, Notes.controllerLine,
    Notes.middlewareLine, Notes.dependencyLine, List.isEmpty_map, endLines_append,
    apply_ite endLines, endLines_cons, endLines_nil, ← join_lines, String.append_assoc,
    String.append_empty, String.empty_append, String.reduceAppend]

end ProjectText

/-! ## The drafts of a project -/

namespace Draft

def Give (drafts : List Draft) (artifacts : List Artifact) : Prop :=
  drafts.mapM Draft.artifact = .ok artifacts

variable {drafts others : List Draft} {artifacts more : List Artifact}

theorem Give.nil : Give [] [] := rfl

theorem Give.cons {d : Draft} {sheet : Sheet} {t : String}
    (known : Sheet.all.lookup d.sheet = some sheet) (filled : Sheet.Fills d.bound sheet t)
    (h : Give drafts artifacts) : Give (d :: drafts) (⟨d.path, t, d.inputs⟩ :: artifacts) := by
  have first : d.artifact = .ok ⟨d.path, t, d.inputs⟩ := by
    rw [artifact, Sheet.fillNamed, known]
    change (do
      let contents ← Sheet.fill d.bound sheet
      .ok ⟨d.path, contents, d.inputs⟩ : Except SheetFault Artifact) = _
    rw [show Sheet.fill d.bound sheet = .ok t from filled]
    rfl
  rw [Give, List.mapM_cons, first, show drafts.mapM Draft.artifact = .ok artifacts from h]
  rfl

theorem Give.append (first : Give drafts artifacts) (h : Give others more) :
    Give (drafts ++ others) (artifacts ++ more) := by
  rw [Give, List.mapM_append, show drafts.mapM Draft.artifact = .ok artifacts from first,
    show others.mapM Draft.artifact = .ok more from h]
  rfl

end Draft

namespace Model

open Draft Sheet ProjectText

variable (m : Model) (name : ModuleName)

theorem fills_named (template : Template) :
    Fills [("module_name", .text name.text)] template.sheet (template.fill name.text) := by
  have named : Binds [("module_name", .text name.text)] ⟨"module_name", []⟩ (.text name.text) := rfl
  exact fills_template named template

theorem give_records (ks : List RecordKind) :
    Give ((ks.filter (·.isEmitted m)).map
        fun k => ⟨k.file, k.templateName, [("module_name", .text name.text)], k.inputs⟩)
      (ks.filterMap (·.artifact? m name)) := by
  induction ks with
  | nil => exact .nil
  | cons k ks ih =>
    rw [List.filter_cons, List.filterMap_cons, RecordKind.artifact?]
    by_cases emitted : k.isEmitted m = true
    · have known : Sheet.all.lookup k.templateName = some k.template.sheet := by cases k <;> rfl
      simp only [emitted, if_true, List.map_cons]
      exact .cons known (fills_named name k.template) ih
    · simp only [emitted, Bool.false_eq_true, if_false]
      exact ih

theorem give_drafts : Give (m.drafts name.text) (m.artifacts name) :=
  ((Give.cons rfl (fills_named name _) <| .cons rfl (fills_named name _) <|
    .cons rfl fills_settings <| .cons rfl fills_environment <| .cons rfl fills_database <|
    .cons rfl fills_migration .nil).append
    (give_records m name RecordKind.all)).append
    (.cons rfl (fills_named name _) <| .cons rfl (fills_named name _) <|
      .cons rfl (fills_routes _ _) <| .cons rfl (fills_services _) <|
      .cons rfl (fills_named name _) <| .cons rfl (fills_named name _) <|
      .cons rfl (fills_named name _) <| .cons rfl (fills_notes m) .nil)

theorem renderSheets_text : m.renderSheets name.text = .ok (m.artifacts name) := by
  rw [renderSheets, if_pos name.accepted,
    show (m.drafts name.text).mapM Draft.artifact = .ok (m.artifacts name) from give_drafts m name]
  rfl

theorem renderSheets_invalid {m : Model} {text : String} (h : isModuleName text = false) :
    m.renderSheets text = .error (.refused (.invalidModuleName text)) := by
  rw [renderSheets, h, if_neg Bool.false_ne_true]

/-- The sheets give what the texts of the project give, and fail for the name only. -/
theorem renderSheets_eq (text : String) :
    m.renderSheets text = (m.render text).mapError .refused := by
  cases accepted : isModuleName text with
  | true =>
    rw [show text = (⟨text, accepted⟩ : ModuleName).text from rfl, renderSheets_text, render_text]
    rfl
  | false =>
    rw [renderSheets_invalid accepted, render, (ModuleName.ofText?_eq_none_iff text).mpr accepted]
    rfl

def NamesCameras (m : Model) : Prop :=
  ∃ t ∈ m.tables, t.toList.map Char.toLower = "camera".toList ∨
    t.toList.map Char.toLower = "cameras".toList

theorem isEmitted_camera_iff : RecordKind.camera.isEmitted m = true ↔ m.NamesCameras := by
  have one : "camera".toList.map Char.toLower = "camera".toList := by decide
  have many : "cameras".toList.map Char.toLower = "cameras".toList := by decide
  change ["cameras", "camera"].any m.hasTable = true ↔ m.NamesCameras
  simp only [NamesCameras, List.any_cons, List.any_nil, Bool.or_false, Bool.or_eq_true, hasTable,
    List.any_eq_true, String.sameIgnoringCase, Text.sameIgnoringCase_iff, NameSet.mem_def, one,
    many]
  constructor
  · rintro (⟨t, ht, same⟩ | ⟨t, ht, same⟩)
    · exact ⟨t, ht, .inr same⟩
    · exact ⟨t, ht, .inl same⟩
  · rintro ⟨t, ht, same | same⟩
    · exact .inr ⟨t, ht, same⟩
    · exact .inl ⟨t, ht, same⟩

/-- The paths up to the type for accounts, in the order of writing. -/
def leadingPaths : List String := [
  "go.mod",
  "cmd/server/main.go",
  "internal/config/config.go",
  ".env.example",
  "internal/database/database.go",
  "migrations/0001_core_schema.sql",
  "internal/models/user.go"]

def trailingPaths : List String := [
  "internal/middleware/auth.go",
  "internal/handlers/auth.go",
  "internal/routes/routes.go",
  "internal/services/services.go",
  "pkg/logger/logger.go",
  "Dockerfile",
  "Makefile",
  "MIGRATION.md"]

theorem paths_artifacts_eq : (m.artifacts name).map (·.path)
    = leadingPaths ++ (if RecordKind.camera.isEmitted m then ["internal/models/camera.go"] else [])
      ++ trailingPaths := by
  have records : (RecordKind.all.filterMap (·.artifact? m name)).map (·.path)
      = "internal/models/user.go" ::
        if RecordKind.camera.isEmitted m then ["internal/models/camera.go"] else [] := by
    rw [Project.paths_records]
    cases emitted : RecordKind.camera.isEmitted m <;>
      simp [RecordKind.all, RecordKind.file, emitted,
        show RecordKind.account.isEmitted m = true from rfl]
  rw [artifacts, List.map_append, List.map_append, records]
  rfl

theorem isModuleName_iff (text : String) :
    isModuleName text = true ↔ text ≠ "" ∧ ∀ c ∈ text.toList, Text.isBlank c = false := by
  rw [← Bool.not_eq_false, ModuleName.isModuleName_eq_false_iff, not_or]
  simp only [not_exists, not_and, Bool.not_eq_true, ne_eq]

theorem paths_of_renderSheets {m : Model} {text : String} {artifacts : List Artifact}
    (h : m.renderSheets text = .ok artifacts) :
    (m.NamesCameras ∧ artifacts.map (·.path)
      = leadingPaths ++ ["internal/models/camera.go"] ++ trailingPaths) ∨
    (¬ m.NamesCameras ∧ artifacts.map (·.path) = leadingPaths ++ trailingPaths) := by
  cases accepted : isModuleName text with
  | false => cases (renderSheets_invalid accepted).symm.trans h
  | true =>
    obtain ⟨name, rfl⟩ : ∃ name : ModuleName, text = name.text := ⟨⟨text, accepted⟩, rfl⟩
    cases (renderSheets_text m name).symm.trans h
    rw [paths_artifacts_eq]
    by_cases cameras : m.NamesCameras
    · exact .inl ⟨cameras, by rw [if_pos ((isEmitted_camera_iff m).mpr cameras)]⟩
    · refine .inr ⟨cameras, ?_⟩
      rw [if_neg (mt (isEmitted_camera_iff m).mp cameras), List.append_nil]

/-- Rendering fails for the name of the module only, whatever the model has, and with the name in
the failure. The model decides on one path: the type for cameras behind the one for accounts. -/
theorem renderSheets_total (text : String) :
    m.renderSheets text = (m.render text).mapError .refused ∧
    ((∃ artifacts, m.renderSheets text = .ok artifacts) ↔
      text ≠ "" ∧ ∀ c ∈ text.toList, Text.isBlank c = false) ∧
    (¬ (text ≠ "" ∧ ∀ c ∈ text.toList, Text.isBlank c = false) →
      m.renderSheets text = .error (.refused (.invalidModuleName text))) ∧
    ∀ artifacts, m.renderSheets text = .ok artifacts →
      (m.NamesCameras ∧ artifacts.map (·.path)
        = leadingPaths ++ ["internal/models/camera.go"] ++ trailingPaths) ∨
      (¬ m.NamesCameras ∧ artifacts.map (·.path) = leadingPaths ++ trailingPaths) := by
  rw [← isModuleName_iff, Bool.not_eq_true]
  refine ⟨renderSheets_eq m text, ⟨?_, fun accepted => ?_⟩, renderSheets_invalid,
    fun _ => paths_of_renderSheets⟩
  · rintro ⟨artifacts, rendered⟩
    cases accepted : isModuleName text with
    | true => rfl
    | false => cases (renderSheets_invalid accepted).symm.trans rendered
  · exact ⟨_, renderSheets_text m ⟨text, accepted⟩⟩

/-- The letters of a table may be of any case. A blank in the name is refused. -/
theorem renderSheets_total_cameras :
    (∃ artifacts, ({ tables := .ofList ["Logs", "CAMERAS"] } : Model).renderSheets "example.com/x"
        = .ok artifacts ∧ artifacts.map (·.path)
          = leadingPaths ++ ["internal/models/camera.go"] ++ trailingPaths) ∧
      ({ tables := .ofList ["Logs", "CAMERAS"] } : Model).renderSheets "a b"
        = .error (.refused (.invalidModuleName "a b")) := by
  have cameras : ({ tables := .ofList ["Logs", "CAMERAS"] } : Model).NamesCameras :=
    ⟨"CAMERAS", (NameSet.mem_ofList_iff _ _).mpr (by decide), by decide⟩
  obtain ⟨-, succeeds, -, paths⟩ :=
    renderSheets_total { tables := .ofList ["Logs", "CAMERAS"] } "example.com/x"
  obtain ⟨-, -, fails, -⟩ := renderSheets_total { tables := .ofList ["Logs", "CAMERAS"] } "a b"
  obtain ⟨artifacts, rendered⟩ := succeeds.mpr ((isModuleName_iff _).mp (by decide))
  refine ⟨⟨artifacts, rendered, ?_⟩, fails (mt (isModuleName_iff _).mpr (by decide))⟩
  rcases paths artifacts rendered with ⟨-, found⟩ | ⟨none, -⟩
  · exact found
  · exact absurd cameras none

end Model

end Scaffold
