import Scaffold.Proofs.Json.Damage
import Scaffold.Proofs.Model.Stored

/-!
# Models that are damaged

A text that told a model and is damaged at one place, in the model itself or in one of its routes,
controllers, middleware or services, is refused as a whole.
-/

namespace Scaffold

open Json

variable {text : List Char}

/-! ## The parts -/

namespace Route

/-- A string that is not the name of a method stands for the method. -/
def Spoiled (name : String) (text : List Char) : Prop :=
  name = "method" ∧ ∃ s, Spells s text ∧ s ∉ ["GET", "POST", "PUT", "DELETE", "PATCH"]

def Damaged (r : Route) : List Char → Prop :=
  DamagedRecord r.entries ["method", "path", "handler", "controller"] Spoiled

def slots : List (RecordShape.Slot Part) := [
  ⟨"method", true, Part.method, fun part v => { part with method := some v },
    readName (Method.all.map fun m => (m.name, m)), settles_name, fails_null_name⟩,
  ⟨"path", true, Part.path, fun part v => { part with path := some v }, _, settles_text,
    fails_null_text⟩,
  ⟨"handler", true, Part.handler, fun part v => { part with handler := some v }, _, settles_text,
    fails_null_text⟩,
  ⟨"middleware", false, Part.middleware, fun part v => { part with middleware := some v }, _,
    settles_list settles_text, fails_null_list⟩,
  ⟨"controller", true, Part.controller, fun part v => { part with controller := some v }, _,
    settles_text, fails_null_text⟩]

theorem slotted : shape.Slotted := by
  refine RecordShape.slotted_of_slots
    (show shape.fields = slots.map RecordShape.Slot.toField from rfl) ?_ ?_ ?_
  · simp [slots]
  · simp [slots, shape]
  · rintro ⟨_ | _, _ | _, _ | _, _, _ | _⟩ r finished <;> cases finished
    simp [slots]

theorem lookup_unknown {s : String} (h : s ∉ ["GET", "POST", "PUT", "DELETE", "PATCH"]) :
    (Method.all.map fun m => (m.name, m)).lookup s = none := by
  rw [List.lookup_eq_none_iff]
  intro p hp
  obtain ⟨m, -, rfl⟩ := List.mem_map.mp hp
  rw [bne_iff_ne]
  rintro rfl
  apply h
  cases m <;> simp [Method.name]

theorem isPlain_of_entry (r : Route) : ∀ e ∈ r.entries, e.IsPlain := by
  simp only [entries, List.forall_mem_cons, List.not_mem_nil, false_implies, implies_true, and_true]
  exact ⟨.text _, .text _, .text _, .texts _, .text _⟩

theorem isValue_of_spoiled {name : String} (h : Spoiled name text) : IsValue text := by
  obtain ⟨-, s, spelled, -⟩ := h
  exact isValue_of_spells spelled

theorem fails_damaged {r : Route} (h : r.Damaged text) : Fails shape.read text := by
  refine RecordShape.fails_damaged slotted r.follows.names ?_ ?_
    (isValue_of_plain r.isPlain_of_entry) (fun _ _ => isValue_of_spoiled) h
  · simp [shape]
  · rintro name field text named ⟨rfl, s, spelled, unknown⟩ part blanks rest hb
    cases named
    exact bind_of_error (fails_unknown_name spelled (lookup_unknown unknown) blanks rest hb)

theorem isValue_of_tells {r : Route} (h : r.Tells text) : IsValue text :=
  isValue_of_told_record h (isValue_of_plain r.isPlain_of_entry)

theorem isValue_of_damaged {r : Route} (h : r.Damaged text) : IsValue text :=
  isValue_of_damaged_record h (isValue_of_plain r.isPlain_of_entry) fun _ _ => isValue_of_spoiled

end Route

namespace SourceModule

/-- Nothing else is damaged in a controller or service. -/
def Damaged (m : SourceModule) (text : List Char) : Prop :=
  ∃ functions, (∀ name, name ∈ functions ↔ name ∈ m.functions) ∧
    DamagedRecord (m.entries functions) ["name", "file"] (fun _ _ => False) text

def slots : List (RecordShape.Slot Part) := [
  ⟨"name", true, Part.name, fun part v => { part with name := some v }, readText, settles_text,
    fails_null_text⟩,
  ⟨"file", true, Part.file, fun part v => { part with file := some v }, readText, settles_text,
    fails_null_text⟩,
  ⟨"functions", false, Part.functions, fun part v => { part with functions := some v },
    readList readText, settles_list settles_text, fails_null_list⟩]

theorem slotted (recordName : String) : (shape recordName).Slotted := by
  refine RecordShape.slotted_of_slots
    (show (shape recordName).fields = slots.map RecordShape.Slot.toField from rfl) ?_ ?_ ?_
  · simp [slots]
  · simp [slots, shape]
  · rintro ⟨_ | _, _ | _, _⟩ m finished <;> cases finished
    simp [slots]

theorem isPlain_of_entry (m : SourceModule) (functions : List String) :
    ∀ e ∈ m.entries functions, e.IsPlain := by
  simp only [entries, List.forall_mem_cons, List.not_mem_nil, false_implies, implies_true, and_true]
  exact ⟨.text _, .text _, .texts _⟩

theorem fails_damaged (recordName : String) {m : SourceModule} (h : m.Damaged text) :
    Fails (shape recordName).read text := by
  obtain ⟨functions, listed, damaged⟩ := h
  refine RecordShape.fails_damaged (slotted recordName) (follows recordName listed).names ?_
    (fun _ _ _ _ no => no.elim) (isValue_of_plain (m.isPlain_of_entry functions))
    (fun _ _ no => no.elim) damaged
  simp [shape]

theorem isValue_of_tells {m : SourceModule} (h : m.Tells text) : IsValue text := by
  obtain ⟨functions, -, tells⟩ := h
  exact isValue_of_told_record tells (isValue_of_plain (m.isPlain_of_entry functions))

theorem isValue_of_damaged {m : SourceModule} (h : m.Damaged text) : IsValue text := by
  obtain ⟨functions, -, damaged⟩ := h
  exact isValue_of_damaged_record damaged (isValue_of_plain (m.isPlain_of_entry functions))
    fun _ _ no => no.elim

end SourceModule

namespace Middleware

def Damaged (m : Middleware) : List Char → Prop :=
  DamagedRecord m.entries ["name", "file"] fun _ _ => False

def slots : List (RecordShape.Slot Part) := [
  ⟨"name", true, Part.name, fun part v => { part with name := some v }, readText, settles_text,
    fails_null_text⟩,
  ⟨"file", true, Part.file, fun part v => { part with file := some v }, readText, settles_text,
    fails_null_text⟩,
  ⟨"description", false, Part.description, fun part v => { part with description := some v },
    readText, settles_text, fails_null_text⟩]

theorem slotted : shape.Slotted := by
  refine RecordShape.slotted_of_slots
    (show shape.fields = slots.map RecordShape.Slot.toField from rfl) ?_ ?_ ?_
  · simp [slots]
  · simp [slots, shape]
  · rintro ⟨_ | _, _ | _, _⟩ m finished <;> cases finished
    simp [slots]

theorem isPlain_of_entry (m : Middleware) : ∀ e ∈ m.entries, e.IsPlain := by
  simp only [entries, List.forall_mem_cons, List.not_mem_nil, false_implies, implies_true, and_true]
  exact ⟨.text _, .text _, .text _⟩

theorem fails_damaged {m : Middleware} (h : m.Damaged text) : Fails shape.read text := by
  refine RecordShape.fails_damaged slotted m.follows.names ?_ (fun _ _ _ _ no => no.elim)
    (isValue_of_plain m.isPlain_of_entry) (fun _ _ no => no.elim) h
  simp [shape]

theorem isValue_of_tells {m : Middleware} (h : m.Tells text) : IsValue text :=
  isValue_of_told_record h (isValue_of_plain m.isPlain_of_entry)

theorem isValue_of_damaged {m : Middleware} (h : m.Damaged text) : IsValue text :=
  isValue_of_damaged_record h (isValue_of_plain m.isPlain_of_entry) fun _ _ no => no.elim

end Middleware

/-! ## The whole model -/

namespace Model

/-- One entry of a list of the model is damaged. -/
inductive Spoiled (m : Model) : String → List Char → Prop
  | routes {text : List Char} (damaged : DamagedList Route.Tells Route.Damaged m.routes text) :
    Spoiled m "routes" text
  | controllers {text : List Char}
    (damaged : DamagedList SourceModule.Tells SourceModule.Damaged m.controllers text) :
    Spoiled m "controllers" text
  | middleware {text : List Char}
    (damaged : DamagedList Middleware.Tells Middleware.Damaged m.middleware text) :
    Spoiled m "middleware" text
  | services {text : List Char}
    (damaged : DamagedList SourceModule.Tells SourceModule.Damaged m.services text) :
    Spoiled m "services" text

/-- The text told the model until it was damaged at one place. -/
def Damaged (m : Model) (text : List Char) : Prop :=
  ∃ tables dependencies, (∀ name, name ∈ tables ↔ name ∈ m.tables) ∧
    dependencies.Perm m.dependencies.entries ∧
      DamagedRecord (m.entries tables dependencies) [] m.Spoiled text

def slots : List (RecordShape.Slot Part) := [
  ⟨"routes", false, Part.routes, fun part v => { part with routes := some v },
    readList Route.shape.read, settles_list (RecordShape.settles_of_slotted Route.slotted),
    fails_null_list⟩,
  ⟨"controllers", false, Part.controllers, fun part v => { part with controllers := some v },
    readList (SourceModule.shape "Controller").read,
    settles_list (RecordShape.settles_of_slotted (SourceModule.slotted "Controller")),
    fails_null_list⟩,
  ⟨"middleware", false, Part.middleware, fun part v => { part with middleware := some v },
    readList Middleware.shape.read,
    settles_list (RecordShape.settles_of_slotted Middleware.slotted), fails_null_list⟩,
  ⟨"services", false, Part.services, fun part v => { part with services := some v },
    readList (SourceModule.shape "Service").read,
    settles_list (RecordShape.settles_of_slotted (SourceModule.slotted "Service")),
    fails_null_list⟩,
  ⟨"database_tables", false, Part.tables, fun part v => { part with tables := some v },
    readList readText, settles_list settles_text, fails_null_list⟩,
  ⟨"dependencies", false, Part.dependencies, fun part v => { part with dependencies := some v },
    readMap readText, settles_map settles_text, fails_null_map⟩]

theorem slotted : shape.Slotted := by
  refine RecordShape.slotted_of_slots
    (show shape.fields = slots.map RecordShape.Slot.toField from rfl) ?_ ?_ ?_
  · simp [slots]
  · simp [slots, shape]
  · simp [slots]

theorem isValue_of_spoiled {m : Model} {name : String} (h : m.Spoiled name text) :
    IsValue text := by
  cases h with
  | routes damaged =>
    exact isValue_of_damaged_list damaged (fun _ _ => Route.isValue_of_tells)
      fun _ _ => Route.isValue_of_damaged
  | controllers damaged =>
    exact isValue_of_damaged_list damaged (fun _ _ => SourceModule.isValue_of_tells)
      fun _ _ => SourceModule.isValue_of_damaged
  | middleware damaged =>
    exact isValue_of_damaged_list damaged (fun _ _ => Middleware.isValue_of_tells)
      fun _ _ => Middleware.isValue_of_damaged
  | services damaged =>
    exact isValue_of_damaged_list damaged (fun _ _ => SourceModule.isValue_of_tells)
      fun _ _ => SourceModule.isValue_of_damaged

theorem isValue_of_entry (m : Model) (tables : List String)
    (dependencies : List (String × String)) :
    ∀ e ∈ m.entries tables dependencies, ∀ t, e.Tells t → IsValue t := by
  simp only [entries, List.forall_mem_cons, List.not_mem_nil, false_implies, implies_true, and_true]
  refine ⟨?_, ?_, ?_, ?_, ?_, ?_⟩
  · exact fun _ told => isValue_of_told_list told fun _ _ => Route.isValue_of_tells
  · exact fun _ told => isValue_of_told_list told fun _ _ => SourceModule.isValue_of_tells
  · exact fun _ told => isValue_of_told_list told fun _ _ => Middleware.isValue_of_tells
  · exact fun _ told => isValue_of_told_list told fun _ _ => SourceModule.isValue_of_tells
  · exact fun _ told => isValue_of_told_list told fun _ _ => isValue_of_spells
  · exact fun _ told => isValue_of_told_pairs told

theorem fails_spoiled {m : Model} {name : String} {field : Json.Field Part}
    (named : shape.fields.find? (·.name == name) = some field) (h : m.Spoiled name text)
    (part : Part) : Fails (field.read part) text := by
  intro blanks rest hb
  cases h with
  | routes damaged =>
    cases named
    have fails := fails_damaged_list (RecordShape.settles_of_slotted Route.slotted)
      (fun _ _ => Route.isValue_of_tells) (fun _ _ => Route.isValue_of_damaged)
      (fun _ _ => Route.fails_damaged) damaged
    exact bind_of_error (fails blanks rest hb)
  | controllers damaged =>
    cases named
    have fails := fails_damaged_list
      (RecordShape.settles_of_slotted (SourceModule.slotted "Controller"))
      (fun _ _ => SourceModule.isValue_of_tells) (fun _ _ => SourceModule.isValue_of_damaged)
      (fun _ _ => SourceModule.fails_damaged "Controller") damaged
    exact bind_of_error (fails blanks rest hb)
  | middleware damaged =>
    cases named
    have fails := fails_damaged_list (RecordShape.settles_of_slotted Middleware.slotted)
      (fun _ _ => Middleware.isValue_of_tells) (fun _ _ => Middleware.isValue_of_damaged)
      (fun _ _ => Middleware.fails_damaged) damaged
    exact bind_of_error (fails blanks rest hb)
  | services damaged =>
    cases named
    have fails := fails_damaged_list
      (RecordShape.settles_of_slotted (SourceModule.slotted "Service"))
      (fun _ _ => SourceModule.isValue_of_tells) (fun _ _ => SourceModule.isValue_of_damaged)
      (fun _ _ => SourceModule.fails_damaged "Service") damaged
    exact bind_of_error (fails blanks rest hb)

theorem fails_damaged {m : Model} (h : m.Damaged text) : Fails shape.read text := by
  obtain ⟨tables, dependencies, listed, ordered, damaged⟩ := h
  exact RecordShape.fails_damaged slotted (follows listed ordered).names (List.forall_mem_nil _)
    (fun _ _ _ named spoiled => fails_spoiled named spoiled)
    (m.isValue_of_entry tables dependencies) (fun _ _ => isValue_of_spoiled) damaged

theorem ofStored_damaged {m : Model} {document : String} (h : Document m.Damaged document) :
    ∃ failure, ofStored document = .error failure := by
  cases h with
  | @blanks before text after hb damaged _ =>
    rw [ofStored, String.toList_ofList, readWhole]
    exact bind_of_error (fails_damaged damaged before after hb)

/-- From a file with a damaged model no model is loaded. -/
theorem load_of_damaged {m : Model} {document : String} (damaged : Document m.Damaged document)
    {disk : Disk} {path : Path} {loc : Location}
    (node : disk.nodeAt? true path = .ok (loc, .file document.toUTF8)) :
    ∃ cause position, load path disk = .error (.malformed path cause position) := by
  obtain ⟨failure, failed⟩ := ofStored_damaged damaged
  refine ⟨failure.cause, failure.position document.toList, ?_⟩
  unfold load
  simp only [Disk.isFile_of_nodeAt? node, Bool.not_true, Bool.false_eq_true, if_false,
    Disk.readText_of_nodeAt? node, failed]

def single : Model where
  routes := [⟨.get, "/", "h", [], "C"⟩]

def lowerText : List Char :=
  "\x7b\"method\":\"get\",\"path\":\"/\",\"handler\":\"h\",\"controller\":\"C\"\x7d".toList

theorem damaged_lowerText : Route.Damaged ⟨.get, "/", "h", [], "C"⟩ lowerText := by
  let after : List Member := [(Printed.quoted "path", Printed.quoted "/"),
    (Printed.quoted "handler", Printed.quoted "h"),
    (Printed.quoted "controller", Printed.quoted "C")]
  have tells : TellsMembers (Route.entries ⟨.get, "/", "h", [], "C"⟩)
      ([] ++ (Printed.quoted "method", Printed.quoted "GET") :: after) := by
    refine ⟨?_, ?_, ?_⟩
    · simp [after, Route.entries, spells_quoted, Method.name]
    · have keys : ["method", "path", "handler", "controller"].Nodup := by decide
      refine once_of_spelled ?_ keys
      simp [after, spells_quoted]
    · simp [after, Route.entries, spells_quoted]
  have spoiled : Route.Spoiled "method" (Printed.quoted "get") :=
    ⟨rfl, "get", spells_quoted "get", by decide⟩
  refine ⟨_, .spoiled tells List.mem_cons_self (spells_quoted "method") spoiled, ?_⟩
  exact .braces (.cons (.pair blanks_nil blanks_nil) (.cons (.pair blanks_nil blanks_nil)
    (.cons (.pair blanks_nil blanks_nil) (.cons (.pair blanks_nil blanks_nil) .nil))))
    (.brackets (.part (.first blanks_nil) (parts_following [] [] blanks_nil blanks_nil _)))

def singleText : List Char := "\x7b\"routes\":[".toList ++ (lowerText ++ "]\x7d".toList)

theorem damaged_singleText : single.Damaged singleText := by
  have told : TellsList Route.Tells single.routes _ :=
    tells_list 0 fun r _ => r.tells_printed 1
  have tells : TellsMembers (single.entries [] [])
      ([] ++ (Printed.quoted "routes", Printed.list (single.routes.map Route.printed) 0) :: []) := by
    refine ⟨?_, ?_, ?_⟩
    · intro m hm
      cases List.mem_singleton.mp hm
      exact .inr ⟨_, List.mem_cons_self, spells_quoted "routes", told⟩
    · simp
    · simp [entries, spells_quoted, single]
  have spoiled : single.Spoiled "routes" ('[' :: (lowerText ++ [']'])) :=
    .routes (DamagedList.item .nil damaged_lowerText .nil
      (.brackets (.part (.first blanks_nil) (.none blanks_nil))))
  refine ⟨[], [], fun _ => Iff.rfl, .refl _, _,
    .spoiled tells List.mem_cons_self (spells_quoted "routes") spoiled, ?_⟩
  exact .braces (.cons (.pair blanks_nil blanks_nil) .nil)
    (.brackets (.part (.first blanks_nil) (.none blanks_nil)))

theorem load_of_damaged_single : Document single.Damaged (String.ofList singleText) ∧
    ∃ cause position, load ⟨["m.json"]⟩
        { entries := [(["m.json"], .file (String.ofList singleText).toUTF8)] } =
      .error (.malformed ⟨["m.json"]⟩ cause position) :=
  ⟨document_of_tells damaged_singleText,
    load_of_damaged (document_of_tells damaged_singleText) rfl⟩

end Model

end Scaffold
