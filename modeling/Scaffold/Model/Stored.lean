import Scaffold.Json.Printer
import Scaffold.Json.Reader
import Scaffold.Model.Basic

/-!
# The stored model

An analysis is stored as one JSON object with six members, one for each part of the model. Lists
that may be empty and descriptions may be left out when it is read, and members with other names
are passed over.
-/

namespace Scaffold

open Json

namespace Route

def printed (r : Route) : Printed := .record [
  ("method", .text r.method.name),
  ("path", .text r.path),
  ("handler", .text r.handler),
  ("middleware", .list (r.middleware.map .text)),
  ("controller", .text r.controller)]

/-- A route of which some fields have been read. -/
structure Part where
  method : Option Method := none
  path : Option String := none
  handler : Option String := none
  middleware : Option (List String) := none
  controller : Option String := none

def Part.finish (part : Part) : Except String Route := do
  let some method := part.method | .error "method"
  let some path := part.path | .error "path"
  let some handler := part.handler | .error "handler"
  let some controller := part.controller | .error "controller"
  .ok ⟨method, path, handler, part.middleware.getD [], controller⟩

def shape : RecordShape Part Route where
  name := "Route"
  blank := {}
  finish := Part.finish
  fields := [
    ⟨"method", true, (·.method.isSome), fun part cs => do
      let (v, cs) ← readName (Method.all.map fun m => (m.name, m)) cs
      .ok ({ part with method := some v }, cs)⟩,
    ⟨"path", true, (·.path.isSome), fun part cs => do
      let (v, cs) ← readText cs
      .ok ({ part with path := some v }, cs)⟩,
    ⟨"handler", true, (·.handler.isSome), fun part cs => do
      let (v, cs) ← readText cs
      .ok ({ part with handler := some v }, cs)⟩,
    ⟨"middleware", false, (·.middleware.isSome), fun part cs => do
      let (v, cs) ← readList readText cs
      .ok ({ part with middleware := some v }, cs)⟩,
    ⟨"controller", true, (·.controller.isSome), fun part cs => do
      let (v, cs) ← readText cs
      .ok ({ part with controller := some v }, cs)⟩]

end Route

namespace SourceModule

def printed (m : SourceModule) : Printed := .record [
  ("name", .text m.name),
  ("file", .text m.file),
  ("functions", .list (m.functions.toList.map .text))]

structure Part where
  name : Option String := none
  file : Option String := none
  functions : Option (List String) := none

def Part.finish (part : Part) : Except String SourceModule := do
  let some name := part.name | .error "name"
  let some file := part.file | .error "file"
  .ok ⟨name, file, .ofList (part.functions.getD [])⟩

/-- Controllers and services differ in the name of the record alone. -/
def shape (recordName : String) : RecordShape Part SourceModule where
  name := recordName
  blank := {}
  finish := Part.finish
  fields := [
    ⟨"name", true, (·.name.isSome), fun part cs => do
      let (v, cs) ← readText cs
      .ok ({ part with name := some v }, cs)⟩,
    ⟨"file", true, (·.file.isSome), fun part cs => do
      let (v, cs) ← readText cs
      .ok ({ part with file := some v }, cs)⟩,
    ⟨"functions", false, (·.functions.isSome), fun part cs => do
      let (v, cs) ← readList readText cs
      .ok ({ part with functions := some v }, cs)⟩]

end SourceModule

namespace Middleware

def printed (m : Middleware) : Printed := .record [
  ("name", .text m.name),
  ("file", .text m.file),
  ("description", .text m.description)]

structure Part where
  name : Option String := none
  file : Option String := none
  description : Option String := none

def Part.finish (part : Part) : Except String Middleware := do
  let some name := part.name | .error "name"
  let some file := part.file | .error "file"
  .ok ⟨name, file, part.description.getD ""⟩

def shape : RecordShape Part Middleware where
  name := "Middleware"
  blank := {}
  finish := Part.finish
  fields := [
    ⟨"name", true, (·.name.isSome), fun part cs => do
      let (v, cs) ← readText cs
      .ok ({ part with name := some v }, cs)⟩,
    ⟨"file", true, (·.file.isSome), fun part cs => do
      let (v, cs) ← readText cs
      .ok ({ part with file := some v }, cs)⟩,
    ⟨"description", false, (·.description.isSome), fun part cs => do
      let (v, cs) ← readText cs
      .ok ({ part with description := some v }, cs)⟩]

end Middleware

namespace Model

def printed (m : Model) : Printed := .record [
  ("routes", .list (m.routes.map Route.printed)),
  ("controllers", .list (m.controllers.map SourceModule.printed)),
  ("middleware", .list (m.middleware.map Middleware.printed)),
  ("services", .list (m.services.map SourceModule.printed)),
  ("database_tables", .list (m.tables.toList.map .text)),
  ("dependencies", .record (m.dependencies.entries.map fun entry => (entry.1, .text entry.2)))]

structure Part where
  routes : Option (List Route) := none
  controllers : Option (List SourceModule) := none
  middleware : Option (List Middleware) := none
  services : Option (List SourceModule) := none
  tables : Option (List String) := none
  dependencies : Option (List (String × String)) := none

def Part.finish (part : Part) : Except String Model := .ok {
  routes := part.routes.getD []
  controllers := part.controllers.getD []
  middleware := part.middleware.getD []
  services := part.services.getD []
  tables := .ofList (part.tables.getD [])
  dependencies := .ofList (part.dependencies.getD []) }

def shape : RecordShape Part Model where
  name := "StructuralModel"
  blank := {}
  finish := Part.finish
  fields := [
    ⟨"routes", false, (·.routes.isSome), fun part cs => do
      let (v, cs) ← readList Route.shape.read cs
      .ok ({ part with routes := some v }, cs)⟩,
    ⟨"controllers", false, (·.controllers.isSome), fun part cs => do
      let (v, cs) ← readList (SourceModule.shape "Controller").read cs
      .ok ({ part with controllers := some v }, cs)⟩,
    ⟨"middleware", false, (·.middleware.isSome), fun part cs => do
      let (v, cs) ← readList Middleware.shape.read cs
      .ok ({ part with middleware := some v }, cs)⟩,
    ⟨"services", false, (·.services.isSome), fun part cs => do
      let (v, cs) ← readList (SourceModule.shape "Service").read cs
      .ok ({ part with services := some v }, cs)⟩,
    ⟨"database_tables", false, (·.tables.isSome), fun part cs => do
      let (v, cs) ← readList readText cs
      .ok ({ part with tables := some v }, cs)⟩,
    ⟨"dependencies", false, (·.dependencies.isSome), fun part cs => do
      let (v, cs) ← readMap readText cs
      .ok ({ part with dependencies := some v }, cs)⟩]

def store (m : Model) : String := String.ofList (m.printed 0)

def ofStored (text : String) : Except Failure Model := readWhole shape.read text.toList

end Model

end Scaffold
