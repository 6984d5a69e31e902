import Scaffold.Disk.Basic

/-!
# Following paths

A path is followed segment by segment. A symbolic link on the way continues at its target; only
so many links are followed. A link at the end is followed if the operation asks for it or the
path ends in a slash.
-/

namespace Scaffold

/-- Where a path leads: to a node, or to a free name in a directory. -/
inductive Spot
  | found (loc : Location) (node : Node)
  | vacant (directory : Location) (name : String) (slash : Bool)

namespace Disk

def linkLimit : Nat := 40

def nameLimit : Nat := 255

def pathLimit : Nat := 4095

def solid (segments : List String) : List String := segments.filter (· != "")

/-- Follows segments from a directory. At a link that is followed it goes on with `enter`. -/
def walkWith (disk : Disk) (enter : Bool → Location → List String → Except Fault Spot)
    (follow slash : Bool) (dir : Location) : List String → Except Fault Spot
  | [] => .ok (.found dir .directory)
  | name :: rest =>
    if name == "." then disk.walkWith enter follow slash dir rest
    else if name == ".." then disk.walkWith enter follow slash dir.dropLast rest
    else if nameLimit < name.utf8ByteSize then .error .nameTooLong
    else
      match disk.node? (dir ++ [name]) with
      | none => if rest.isEmpty then .ok (.vacant dir name slash) else .error .notFound
      | some .directory => disk.walkWith enter follow slash (dir ++ [name]) rest
      | some (.file bytes) =>
        if rest.isEmpty && !slash then .ok (.found (dir ++ [name]) (.file bytes))
        else .error .notDirectory
      | some (.link target) =>
        if rest.isEmpty && !follow && !slash then .ok (.found (dir ++ [name]) (.link target))
        else
          enter (slash || (rest.isEmpty && target.endsInSlash))
            (if target.isAbsolute then [] else dir) (solid target.segments ++ rest)

def walk (disk : Disk) : (links : Nat) → (follow slash : Bool) → Location → List String →
    Except Fault Spot
  | 0, follow => disk.walkWith (fun _ _ _ => .error .tooManyLinks) follow
  | links + 1, follow => disk.walkWith (disk.walk links follow) follow

/-- Leaves a lost working directory upwards. In it there is nothing to find. -/
def climb : (lost : Nat) → Location → List String → Except Fault (Location × List String)
  | 0, dir, segments => .ok (dir, segments)
  | lost + 1, dir, ".." :: rest => climb lost dir.dropLast rest
  | lost + 1, dir, "." :: rest => climb (lost + 1) dir rest
  | _ + 1, _, _ => .error .notFound

def workingPath (disk : Disk) : Path :=
  if disk.workingDirectory.isEmpty then ⟨["", ""]⟩ else ⟨"" :: disk.workingDirectory⟩

def locate (disk : Disk) (follow : Bool) (p : Path) : Except Fault Spot := do
  if p.text.toList.contains '\x00' then .error .zeroByte
  else if p.isEmpty then .error .notFound
  else if pathLimit < p.text.utf8ByteSize then .error .nameTooLong
  else if p.isAbsolute then disk.walk linkLimit follow p.endsInSlash [] (solid p.segments)
  else
    let (dir, segments) ← climb disk.lost disk.workingDirectory (solid p.segments)
    disk.walk linkLimit follow p.endsInSlash dir segments

def nodeAt? (disk : Disk) (follow : Bool) (p : Path) : Except Fault (Location × Node) :=
  match disk.locate follow p with
  | .ok (.found loc node) => .ok (loc, node)
  | .ok (.vacant _ _ _) => .error .notFound
  | .error fault => .error fault

def exists? (disk : Disk) (p : Path) : Bool := (disk.nodeAt? true p).toOption.isSome

def isFile (disk : Disk) (p : Path) : Bool :=
  match disk.nodeAt? true p with
  | .ok (_, .file _) => true
  | _ => false

def isDirectory (disk : Disk) (p : Path) : Bool :=
  match disk.nodeAt? true p with
  | .ok (_, .directory) => true
  | _ => false

def readBytes (disk : Disk) (p : Path) : Except Fault ByteArray := do
  match ← disk.nodeAt? true p with
  | (_, .file bytes) => .ok bytes
  | (_, .directory) => .error .isDirectory
  | (_, .link _) => .error .tooManyLinks

def readText (disk : Disk) (p : Path) : Except Fault String := do
  match String.fromUTF8? (← disk.readBytes p) with
  | some text => .ok text
  | none => .error .notText

/-- The names in a directory, empty if there is no such directory. -/
def list (disk : Disk) (p : Path) : List String :=
  match disk.nodeAt? true p with
  | .ok (loc, .directory) => disk.namesIn loc
  | _ => []

end Disk

end Scaffold
