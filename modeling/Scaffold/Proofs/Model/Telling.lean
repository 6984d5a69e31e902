import Scaffold.Model.Store
import Scaffold.Proofs.Disk.Written
import Scaffold.Proofs.Json.Printing

/-!
# Texts that tell a model

A model is told by an object for each of its parts, whatever its layout: keys in any order and
spelled in any way, members with other names, names of tables and functions in any order and any
number of times, and nothing at all for parts that are empty.
-/

namespace Scaffold

open Json

theorem Method.lookup_name (m : Method) :
    (Method.all.map fun m => (m.name, m)).lookup m.name = some m := by
  cases m <;> rfl

theorem NameSet.ofList_of_mem_iff {names : List String} {s : NameSet}
    (h : ∀ name, name ∈ names ↔ name ∈ s) : NameSet.ofList names = s :=
  NameSet.ext fun name => (NameSet.mem_ofList_iff name names).trans (h name)

variable {text : List Char}

/-! ## The entries of the parts -/

namespace Route

def entries (r : Route) : List Entry := [
  ⟨"method", False, Spells r.method.name⟩,
  ⟨"path", False, Spells r.path⟩,
  ⟨"handler", False, Spells r.handler⟩,
  ⟨"middleware", r.middleware = [], TellsList Spells r.middleware⟩,
  ⟨"controller", False, Spells r.controller⟩]

def Tells (r : Route) : List Char → Prop := TellsRecord r.entries

def held (r : Route) (keys : List String) : Part where
  method := told keys "method" r.method
  path := told keys "path" r.path
  handler := told keys "handler" r.handler
  middleware := told keys "middleware" r.middleware
  controller := told keys "controller" r.controller

theorem follows (r : Route) : Follows shape r.entries r.held r where
  names := rfl
  blank := rfl
  step := by
    intro e he keys text fresh tells
    simp only [entries, List.mem_cons, List.not_mem_nil, or_false] at he
    rcases he with rfl | rfl | rfl | rfl | rfl
    · exact step_field (fun part v => { part with method := some v }) rfl
        (takes_name tells r.method.lookup_name) (by simp [held, told_of_not_mem fresh])
        (by simp [held, told_cons_of_ne])
    · exact step_field (fun part v => { part with path := some v }) rfl (takes_text tells)
        (by simp [held, told_of_not_mem fresh]) (by simp [held, told_cons_of_ne])
    · exact step_field (fun part v => { part with handler := some v }) rfl (takes_text tells)
        (by simp [held, told_of_not_mem fresh]) (by simp [held, told_cons_of_ne])
    · exact step_field (fun part v => { part with middleware := some v }) rfl (takes_texts tells)
        (by simp [held, told_of_not_mem fresh]) (by simp [held, told_cons_of_ne])
    · exact step_field (fun part v => { part with controller := some v }) rfl (takes_text tells)
        (by simp [held, told_of_not_mem fresh]) (by simp [held, told_cons_of_ne])
  finish := by
    intro keys complete
    simp only [entries, List.forall_mem_cons, false_or] at complete
    obtain ⟨method, path, handler, middleware, controller, -⟩ := complete
    simp [shape, Part.finish, held, told_of_mem, method, path, handler, controller,
      getD_told middleware]

theorem takes_told {r : Route} (h : r.Tells text) : Takes shape.read text r := r.follows.takes h

end Route

namespace SourceModule

def entries (m : SourceModule) (functions : List String) : List Entry := [
  ⟨"name", False, Spells m.name⟩,
  ⟨"file", False, Spells m.file⟩,
  ⟨"functions", functions = [], TellsList Spells functions⟩]

/-- The functions are listed in any order and any number of times. -/
def Tells (m : SourceModule) (text : List Char) : Prop :=
  ∃ functions, (∀ name, name ∈ functions ↔ name ∈ m.functions) ∧
    TellsRecord (m.entries functions) text

def held (m : SourceModule) (functions keys : List String) : Part where
  name := told keys "name" m.name
  file := told keys "file" m.file
  functions := told keys "functions" functions

theorem follows (recordName : String) {m : SourceModule} {functions : List String}
    (listed : ∀ name, name ∈ functions ↔ name ∈ m.functions) :
    Follows (shape recordName) (m.entries functions) (m.held functions) m where
  names := rfl
  blank := rfl
  step := by
    intro e he keys text fresh tells
    simp only [entries, List.mem_cons, List.not_mem_nil, or_false] at he
    rcases he with rfl | rfl | rfl
    · exact step_field (fun part v => { part with name := some v }) rfl (takes_text tells)
        (by simp [held, told_of_not_mem fresh]) (by simp [held, told_cons_of_ne])
    · exact step_field (fun part v => { part with file := some v }) rfl (takes_text tells)
        (by simp [held, told_of_not_mem fresh]) (by simp [held, told_cons_of_ne])
    · exact step_field (fun part v => { part with functions := some v }) rfl (takes_texts tells)
        (by simp [held, told_of_not_mem fresh]) (by simp [held, told_cons_of_ne])
  finish := by
    intro keys complete
    simp only [entries, List.forall_mem_cons, false_or] at complete
    obtain ⟨name, file, functions, -⟩ := complete
    simp [shape, Part.finish, held, told_of_mem, name, file, getD_told functions,
      NameSet.ofList_of_mem_iff listed]

theorem takes_told (recordName : String) {m : SourceModule} (h : m.Tells text) :
    Takes (shape recordName).read text m := by
  obtain ⟨functions, listed, tells⟩ := h
  exact (follows recordName listed).takes tells

theorem opens_told {m : SourceModule} (h : m.Tells text) : Opens text := by
  obtain ⟨functions, -, tells⟩ := h
  exact opens_record tells

end SourceModule

namespace Middleware

def entries (m : Middleware) : List Entry := [
  ⟨"name", False, Spells m.name⟩,
  ⟨"file", False, Spells m.file⟩,
  ⟨"description", m.description = "", Spells m.description⟩]

def Tells (m : Middleware) : List Char → Prop := TellsRecord m.entries

def held (m : Middleware) (keys : List String) : Part where
  name := told keys "name" m.name
  file := told keys "file" m.file
  description := told keys "description" m.description

theorem follows (m : Middleware) : Follows shape m.entries m.held m where
  names := rfl
  blank := rfl
  step := by
    intro e he keys text fresh tells
    simp only [entries, List.mem_cons, List.not_mem_nil, or_false] at he
    rcases he with rfl | rfl | rfl
    · exact step_field (fun part v => { part with name := some v }) rfl (takes_text tells)
        (by simp [held, told_of_not_mem fresh]) (by simp [held, told_cons_of_ne])
    · exact step_field (fun part v => { part with file := some v }) rfl (takes_text tells)
        (by simp [held, told_of_not_mem fresh]) (by simp [held, told_cons_of_ne])
    · exact step_field (fun part v => { part with description := some v }) rfl (takes_text tells)
        (by simp [held, told_of_not_mem fresh]) (by simp [held, told_cons_of_ne])
  finish := by
    intro keys complete
    simp only [entries, List.forall_mem_cons, false_or] at complete
    obtain ⟨name, file, description, -⟩ := complete
    simp [shape, Part.finish, held, told_of_mem, name, file, getD_told description]

theorem takes_told {m : Middleware} (h : m.Tells text) : Takes shape.read text m :=
  m.follows.takes h

end Middleware

/-! ## The whole model -/

namespace Model

def entries (m : Model) (tables : List String) (dependencies : List (String × String)) :
    List Entry := [
  ⟨"routes", m.routes = [], TellsList Route.Tells m.routes⟩,
  ⟨"controllers", m.controllers = [], TellsList SourceModule.Tells m.controllers⟩,
  ⟨"middleware", m.middleware = [], TellsList Middleware.Tells m.middleware⟩,
  ⟨"services", m.services = [], TellsList SourceModule.Tells m.services⟩,
  ⟨"database_tables", tables = [], TellsList Spells tables⟩,
  ⟨"dependencies", dependencies = [], TellsPairs dependencies⟩]

/-- The tables are listed in any order and any number of times, the dependencies in any order. -/
def Tells (m : Model) (text : List Char) : Prop :=
  ∃ tables dependencies, (∀ name, name ∈ tables ↔ name ∈ m.tables) ∧
    dependencies.Perm m.dependencies.entries ∧ TellsRecord (m.entries tables dependencies) text

def held (m : Model) (tables : List String) (dependencies : List (String × String))
    (keys : List String) : Part where
  routes := told keys "routes" m.routes
  controllers := told keys "controllers" m.controllers
  middleware := told keys "middleware" m.middleware
  services := told keys "services" m.services
  tables := told keys "database_tables" tables
  dependencies := told keys "dependencies" dependencies

theorem follows {m : Model} {tables : List String} {dependencies : List (String × String)}
    (listed : ∀ name, name ∈ tables ↔ name ∈ m.tables)
    (ordered : dependencies.Perm m.dependencies.entries) :
    Follows shape (m.entries tables dependencies) (m.held tables dependencies) m where
  names := rfl
  blank := rfl
  step := by
    intro e he keys text fresh tells
    simp only [entries, List.mem_cons, List.not_mem_nil, or_false] at he
    rcases he with rfl | rfl | rfl | rfl | rfl | rfl
    · have taken := takes_told_list tells fun _ _ h => ⟨Route.takes_told h, opens_record h⟩
      exact step_field (fun part v => { part with routes := some v }) rfl taken
        (by simp [held, told_of_not_mem fresh]) (by simp [held, told_cons_of_ne])
    · have taken := takes_told_list tells fun _ _ h =>
        ⟨SourceModule.takes_told "Controller" h, SourceModule.opens_told h⟩
      exact step_field (fun part v => { part with controllers := some v }) rfl taken
        (by simp [held, told_of_not_mem fresh]) (by simp [held, told_cons_of_ne])
    · have taken := takes_told_list tells fun _ _ h => ⟨Middleware.takes_told h, opens_record h⟩
      exact step_field (fun part v => { part with middleware := some v }) rfl taken
        (by simp [held, told_of_not_mem fresh]) (by simp [held, told_cons_of_ne])
    · have taken := takes_told_list tells fun _ _ h =>
        ⟨SourceModule.takes_told "Service" h, SourceModule.opens_told h⟩
      exact step_field (fun part v => { part with services := some v }) rfl taken
        (by simp [held, told_of_not_mem fresh]) (by simp [held, told_cons_of_ne])
    · exact step_field (fun part v => { part with tables := some v }) rfl (takes_texts tells)
        (by simp [held, told_of_not_mem fresh]) (by simp [held, told_cons_of_ne])
    · exact step_field (fun part v => { part with dependencies := some v }) rfl
        (takes_pairs tells) (by simp [held, told_of_not_mem fresh])
        (by simp [held, told_cons_of_ne])
  finish := by
    intro keys complete
    simp only [entries, List.forall_mem_cons] at complete
    obtain ⟨routes, controllers, middleware, services, tables, dependencies, -⟩ := complete
    simp [shape, Part.finish, held, getD_told routes, getD_told controllers,
      getD_told middleware, getD_told services, getD_told tables, getD_told dependencies,
      NameSet.ofList_of_mem_iff listed, NameMap.ofList_of_perm ordered]

theorem takes_told {m : Model} (h : m.Tells text) : Takes shape.read text m := by
  obtain ⟨tables, dependencies, listed, ordered, tells⟩ := h
  exact (follows listed ordered).takes tells

theorem ofStored_document {m : Model} {document : String} (h : Document m.Tells document) :
    ofStored document = .ok m := by
  cases h with
  | @blanks before text after hb tells hb' =>
    rw [ofStored, String.toList_ofList, readWhole, bind_of_ok (takes_told tells before after hb)]
    have nothing : skipBlanks after = [] := by
      rw [← List.append_nil after, skipBlanks_append hb']
      rfl
    simp only [nothing]

/-- From a file that tells a model in any layout that model is loaded. -/
theorem load_of_document {m : Model} {document : String} (told : Document m.Tells document)
    {disk : Disk} {path : Path} {loc : Location}
    (node : disk.nodeAt? true path = .ok (loc, .file document.toUTF8)) :
    load path disk = .ok m := by
  unfold load
  simp only [Disk.isFile_of_nodeAt? node, Bool.not_true, Bool.false_eq_true, if_false,
    Disk.readText_of_nodeAt? node, ofStored_document told]

def small : Model where
  routes := [⟨.get, "/😀", "h", [], "C"⟩]
  tables := .ofList ["t"]

def smileText : List Char := "\"\\/\\ud83d\\uDE00\"".toList

theorem spells_smile : Spells "/😀" smileText := by
  have high : CodeUnit 0xD83D ['d', '8', '3', 'd'] :=
    @CodeUnit.digits _ _ _ _ 13 8 3 13 rfl rfl rfl rfl
  have low : CodeUnit 0xDE00 ['D', 'E', '0', '0'] :=
    @CodeUnit.digits _ _ _ _ 13 14 0 0 rfl rfl rfl rfl
  have slash : SpellsChar '/' ['\\', '/'] := .letter rfl
  have smile : SpellsChar '😀' _ := .pair high low rfl rfl rfl
  exact @Spells.quoted "/😀" _ (.cons slash (.cons smile .nil))

/-- The route with its keys in another order and without its empty list. -/
def routeText : List Char :=
  "\x7b\"path\":\"\\/\\ud83d\\uDE00\",\"controller\":\"C\",\"method\":\"GET\",\"handler\":\"h\"\x7d".toList

theorem tells_routeText : Route.Tells ⟨.get, "/😀", "h", [], "C"⟩ routeText := by
  refine ⟨[(Printed.quoted "path", smileText), (Printed.quoted "controller", Printed.quoted "C"),
    (Printed.quoted "method", Printed.quoted "GET"),
    (Printed.quoted "handler", Printed.quoted "h")], ⟨?_, ?_, ?_⟩, ?_⟩
  · simp [Route.entries, spells_quoted, spells_smile, Method.name]
  · have keys : ["path", "controller", "method", "handler"].Nodup := by decide
    refine once_of_spelled ?_ keys
    simp [spells_quoted]
  · simp [Route.entries, spells_quoted]
  · exact .braces (.cons (.pair blanks_nil blanks_nil) (.cons (.pair blanks_nil blanks_nil)
      (.cons (.pair blanks_nil blanks_nil) (.cons (.pair blanks_nil blanks_nil) .nil))))
      (.brackets (.part (.first blanks_nil) (parts_following [] [] blanks_nil blanks_nil _)))

def noteText : List Char := "[\x7b\x7d,-1.5e3]".toList

theorem isValue_noteText : IsValue noteText := by
  have empty : IsValue ['\x7b', '\x7d'] :=
    @IsValue.object [] _ (List.forall_mem_nil _) (List.forall_mem_nil _)
      (.braces .nil (.brackets (.none blanks_nil)))
  have number : IsValue "-1.5e3".toList :=
    .number (@IsNumber.number ['-'] ['1'] ['.', '5'] ['e', '3'] (.inr rfl)
      (.digits rfl (by decide) (List.forall_mem_nil _)) (.places ⟨by decide, by simp⟩)
      (@IsExponent.power _ [] ['3'] (.inl rfl) (.inl rfl) ⟨by decide, by simp⟩))
  refine @IsValue.list [['\x7b', '\x7d'], "-1.5e3".toList] _ ?_
    (.brackets (.part (.first blanks_nil) (parts_following [] [] blanks_nil blanks_nil _)))
  simpa using ⟨empty, number⟩

def tablesText : List Char := "[\"t\",\"\\u0074\"]".toList

/-- The model with a blank before a colon, a member that is no part of it, a table twice, spelled in
two ways, and without its empty parts. -/
def smallText : List Char :=
  "\x7b\"note\" :".toList ++ noteText ++ ",\"database_tables\":".toList ++ tablesText
    ++ ",\"routes\":[".toList ++ routeText ++ "]\x7d".toList

theorem tells_tablesText : TellsList Spells ["t", "t"] tablesText := by
  have unit : CodeUnit 't'.toNat ['0', '0', '7', '4'] :=
    @CodeUnit.digits _ _ _ _ 0 0 7 4 rfl rfl rfl rfl
  have escaped : Spells "t" "\"\\u0074\"".toList := @Spells.quoted "t" _ (.cons (.unit unit) .nil)
  exact ⟨_, .cons (spells_quoted "t") (.cons escaped .nil),
    .brackets (.part (.first blanks_nil) (parts_following [] [] blanks_nil blanks_nil _))⟩

theorem tells_smallText : small.Tells smallText := by
  have routes : TellsList Route.Tells small.routes ('[' :: (routeText ++ [']'])) :=
    ⟨_, .cons tells_routeText .nil,
      .brackets (.part (.first blanks_nil) (parts_following [] [] blanks_nil blanks_nil _))⟩
  refine ⟨["t", "t"], [], ?_, .refl _, [(Printed.quoted "note", noteText),
    (Printed.quoted "database_tables", tablesText),
    (Printed.quoted "routes", '[' :: (routeText ++ [']']))], ⟨?_, ?_, ?_⟩, ?_⟩
  · intro name
    rw [small, NameSet.mem_ofList_iff]
    simp
  · rw [List.forall_mem_cons]
    refine ⟨.inl ⟨"note", spells_quoted "note", by simp [entries], isValue_noteText⟩, ?_⟩
    simp [entries, spells_quoted, tells_tablesText, routes]
  · have keys : ["note", "database_tables", "routes"].Nodup := by decide
    refine once_of_spelled ?_ keys
    simp [spells_quoted]
  · simp [entries, spells_quoted, small]
  · exact .braces (.cons (.pair blanks_space blanks_nil) (.cons (.pair blanks_nil blanks_nil)
      (.cons (.pair blanks_nil blanks_nil) .nil)))
      (.brackets (.part (.first blanks_nil) (parts_following [] [] blanks_nil blanks_nil _)))

theorem load_of_document_small : Document small.Tells (String.ofList smallText) ∧
    load ⟨["m.json"]⟩ { entries := [(["m.json"], .file (String.ofList smallText).toUTF8)] } =
      .ok small :=
  ⟨document_of_tells tells_smallText, load_of_document (document_of_tells tells_smallText) rfl⟩

end Model

end Scaffold
