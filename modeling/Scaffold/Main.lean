import Scaffold.Command.Footprint
import Scaffold.Command.Program

/-!
# The executable

The places that a run depends on are copied from the file system to a disk, the program runs on
the disk, and what it changed there is changed in the file system.
-/

namespace Scaffold.Executable

abbrev Copier := StateT Disk IO

def textOf (loc : Location) : String := "/" ++ "/".intercalate loc

def locationOf (text : String) : Location := (text.splitOn "/").filter (· != "")

def kindOf? (text : String) : IO (Option IO.FS.FileType) := do
  try
    let metadata ← ((← IO.currentDir) / text).symlinkMetadata
    return some metadata.type
  catch _ => return none

def resolved? (text : String) : IO (Option String) := do
  try
    return some (← IO.FS.realPath text).toString
  catch _ => return none

def contents (text : String) : IO ByteArray := do
  try IO.FS.readBinFile text
  catch _ => return ByteArray.empty

/-- A place at which there is nothing: the target of links that lead nowhere. -/
def nowhere : Path := ⟨["", "nowhere", "nothing"]⟩

def copyWay (loc : Location) : Copier Unit :=
  for n in List.range loc.length do
    modify fun disk => disk.set (loc.take (n + 1)) .directory

def copyNode (loc : Location) : Copier Unit := do
  copyWay loc.dropLast
  match ← kindOf? (textOf loc) with
  | some .dir => modify (·.set loc .directory)
  | some .file =>
    let bytes ← contents (textOf loc)
    modify (·.set loc (.file bytes))
  | some .symlink =>
    match ← resolved? (textOf loc) with
    | some target =>
      modify (·.set loc (.link (.ofString target)))
      copyWay (locationOf target).dropLast
      match ← kindOf? target with
      | some .dir => modify (·.set (locationOf target) .directory)
      | some .file =>
        let bytes ← contents target
        modify (·.set (locationOf target) (.file bytes))
      | _ => pure ()
    | none => modify (·.set loc (.link nowhere))
  | _ => pure ()

/-- Copies the nodes on a spelled way, as far as it leads. -/
def copySpelled (start : String) : List String → Copier Unit
  | [] => pure ()
  | name :: rest => do
    match ← resolved? start with
    | some dir =>
      if name != ".." then copyNode (locationOf dir ++ [name])
      copySpelled (start ++ "/" ++ name) rest
    | none => pure ()

def namesIn (text : String) : IO (List String) := do
  try
    return (← ((← IO.currentDir) / text).readDir).toList.map (·.fileName)
  catch _ => return []

/-- Copies what is in a directory, to a depth. Links are not entered. -/
partial def copyBelow (deep : Bool) (dir : String) : Copier Unit := do
  for name in ← namesIn dir do
    let loc := locationOf dir ++ [name]
    copyNode loc
    if deep then
      if let some .dir ← kindOf? (textOf loc) then copyBelow deep (textOf loc)

def copy (reach : Reach) : Copier Unit := do
  let spelled (p : Path) : Copier Unit := do
    let disk ← get
    let start := if p.isAbsolute then "/" else disk.workingPath.text
    copySpelled start (p.segments.filter (!Path.isIdle ·))
  let below (deep : Bool) (p : Path) : Copier Unit := do
    spelled p
    if let some dir ← resolved? p.text then copyBelow deep dir
  match reach with
  | .way p => spelled p
  | .listing p => below false p
  | .tree p => below true p

def snapshot (arguments : List String) : IO Disk := do
  let here := locationOf (← IO.FS.realPath ".").toString
  let start : Disk := { workingDirectory := here }
  let all : Copier Unit := do
    copyWay here
    if let .ok invocation := Invocation.ofArguments arguments then
      copy (.way Program.logDirectory)
      (Footprint.settings invocation.config).forM copy
      (Footprint.task invocation (← get)).forM copy
  return (← all.run start).2

def isDirectory : Node → Bool
  | .directory => true
  | _ => false

def sameNode : Node → Node → Bool
  | .directory, .directory => true
  | .file a, .file b => a == b
  | .link a, .link b => a == b
  | _, _ => false

/-- Whether the node of a location gave way to another kind of node, or to none. -/
def isGone (after : Disk) (entry : Location × Node) : Bool :=
  match after.node? entry.1 with
  | some node => isDirectory node != isDirectory entry.2
  | none => true

def apply (before after : Disk) : IO Unit := do
  for entry in before.entries.filter (isGone after) do
    let text := textOf entry.1
    match ← kindOf? text with
    | some .dir => IO.FS.removeDirAll text
    | some _ => IO.FS.removeFile text
    | none => pure ()
  for (loc, node) in after.entries do
    if !(before.node? loc).any (sameNode node) then
      match node with
      | .directory => if (← kindOf? (textOf loc)).isNone then IO.FS.createDir (textOf loc)
      | .file bytes => IO.FS.writeBinFile (textOf loc) bytes
      | .link _ => pure ()

end Scaffold.Executable

open Scaffold in
def main (arguments : List String) : IO UInt32 := do
  let before ← Executable.snapshot arguments
  let (shown, after) := Program.run arguments before
  IO.print shown.output
  Executable.apply before after
  IO.eprint shown.errors
  return shown.status.toUInt32
