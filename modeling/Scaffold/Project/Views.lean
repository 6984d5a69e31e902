import Scaffold.Project.CoreSchema
import Scaffold.Project.Environment
import Scaffold.Project.Inventory
import Scaffold.Project.Pending
import Scaffold.Project.Sheet

/-!
# Views

What the sheets are told of the settings, of the core tables and of the parts of a model.
-/

namespace Scaffold

def VariableGroup.memberView (g : VariableGroup) (v : Variable) : View :=
  .record [
    ("field", .text v.field),
    ("field_col", .text (g.fieldColumn v)),
    ("key_col", .text (g.keyColumn v)),
    ("go_type", .text v.type.goName),
    ("loader", .text v.loader),
    ("env_var", .text v.name),
    ("default", .text v.default)]

def VariableGroup.view (g : VariableGroup) : View :=
  .record [
    ("name", .text g.name),
    ("name_col", .text g.nameColumn),
    ("struct_name", .text g.structName),
    ("options", .list (g.members.map g.memberView))]

def CoreTable.view (indent : String) (t : CoreTable) : View :=
  .record [("name", .text t.name), ("statement", .text (t.createStatement indent))]

def PendingGroup.view (g : PendingGroup) : View :=
  .record [("controller", .text g.controller), ("routes", .list (g.lines.map .text))]

def SourceModule.view (m : SourceModule) : View :=
  .record [("name", .text m.name), ("file", .text m.file), ("functions", .text m.functionList)]

def Middleware.view (m : Middleware) : View :=
  .record [("name", .text m.name), ("file", .text m.file), ("detail", .text m.detail)]

def DependencyRow.view (r : DependencyRow) : View :=
  .record [("name", .text r.name), ("version", .text r.version),
    ("replacement", .text r.replacement)]

def methodView (row : Method × Nat) : View :=
  .record [("method", .text row.1.name), ("count", .number row.2)]

end Scaffold
