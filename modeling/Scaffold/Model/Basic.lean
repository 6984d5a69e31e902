import Scaffold.Names.Map
import Scaffold.Names.Set
import Scaffold.Text.Blank

/-!
# The structural model of a backend

What was found in the sources of a backend: its routes, controllers, middleware and services,
the tables of its database and the packages it depends on.
-/

namespace Scaffold

inductive Method
  | get | post | put | delete | patch
  deriving Repr, DecidableEq

namespace Method

def all : List Method := [get, post, put, delete, patch]

def name : Method → String
  | get => "GET"
  | post => "POST"
  | put => "PUT"
  | delete => "DELETE"
  | patch => "PATCH"

/-- Blanks around a method name and the case of its letters do not count. -/
def ofToken? (token : String) : Option Method :=
  all.find? fun m => m.name.sameIgnoringCase token.trimmed

/-- Only the name itself is a method name. -/
def ofName? (text : String) : Option Method := all.find? (·.name == text)

theorem ofName?_name (m : Method) : ofName? m.name = some m := by cases m <;> decide

theorem mem_all (m : Method) : m ∈ all := by cases m <;> decide

end Method

structure Route where
  method : Method
  /-- The path as the source writes it, with its placeholders. -/
  path : String
  handler : String
  /-- All routes of a file share the middleware named anywhere in it. -/
  middleware : List String
  /-- The controller named after the route file, whether or not it exists. -/
  controller : String
  deriving DecidableEq

structure SourceModule where
  name : String
  file : String
  functions : NameSet
  deriving DecidableEq

structure Middleware where
  name : String
  file : String
  description : String
  deriving DecidableEq

structure Model where
  routes : List Route := []
  controllers : List SourceModule := []
  middleware : List Middleware := []
  services : List SourceModule := []
  tables : NameSet := ∅
  dependencies : NameMap String := ∅
  deriving DecidableEq

namespace Model

def isEmpty (m : Model) : Bool :=
  m.routes.isEmpty && m.controllers.isEmpty && m.middleware.isEmpty && m.services.isEmpty
    && m.tables.isEmpty && m.dependencies.isEmpty

/-- Whether a table has the given name, the case of ASCII letters aside. -/
def hasTable (m : Model) (name : String) : Bool := m.tables.toList.any (·.sameIgnoringCase name)

end Model

end Scaffold
