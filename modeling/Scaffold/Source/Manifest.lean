import Scaffold.Json.Value
import Scaffold.Names.Map

/-!
# Package manifests

The packages that a manifest depends on at run time. Only versions that are texts count, and a
text that is no manifest has no packages.
-/

namespace Scaffold.Manifest

open Json

def textMembers (members : List (String × Value)) : List (String × String) :=
  members.filterMap fun member =>
    match member.2 with
    | .string version => some (member.1, version)
    | _ => none

def dependenciesOf (text : String) : NameMap String :=
  match (Value.ofText? text.toList).bind (·.member? "dependencies") with
  | some (.object members) => .ofList (textMembers members)
  | _ => ∅

end Scaffold.Manifest
