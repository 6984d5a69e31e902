import Scaffold.Disk.Walk

/-!
# Changing a disk

Writing files, making directories and removing trees. Every operation gives back the disk as it
is afterwards, also when it fails.
-/

namespace Scaffold

structure Outcome (ε α : Type) where
  result : Except ε α
  disk : Disk

namespace Disk

/-- Replaces the contents of a file, or makes the file. A link leads to the file that is written,
also to one that is not there yet. -/
def write (disk : Disk) (p : Path) (bytes : ByteArray) : Outcome Fault Unit :=
  match disk.locate true p with
  | .error fault => ⟨.error fault, disk⟩
  | .ok (.found loc (.file _)) => ⟨.ok (), disk.set loc (.file bytes)⟩
  | .ok (.found _ _) => ⟨.error .isDirectory, disk⟩
  | .ok (.vacant dir name slash) =>
    if slash then ⟨.error .isDirectory, disk⟩
    else ⟨.ok (), disk.set (dir ++ [name]) (.file bytes)⟩

/-- Makes one directory. Whatever has the name already is in the way. -/
def makeDirectory (disk : Disk) (p : Path) : Outcome Fault Unit :=
  -- A slash at the end does not make a link be followed here.
  match disk.locate false ⟨Path.trimSlashes p.segments⟩ with
  | .error fault => ⟨.error fault, disk⟩
  | .ok (.found _ _) => ⟨.error .alreadyExists, disk⟩
  | .ok (.vacant dir name _) => ⟨.ok (), disk.set (dir ++ [name]) .directory⟩

def makeDirectories (disk : Disk) : (fuel : Nat) → Path → Outcome Fault Unit
  | 0, _ => ⟨.error .notFound, disk⟩
  | fuel + 1, p =>
    if p.components.isEmpty then ⟨.ok (), disk⟩
    else
      match disk.makeDirectory p with
      | ⟨.ok (), disk⟩ => ⟨.ok (), disk⟩
      | ⟨.error .notFound, disk⟩ =>
        match p.parent? with
        | none => ⟨.error .notFound, disk⟩
        | some parent =>
          match disk.makeDirectories fuel parent with
          | ⟨.error fault, disk⟩ => ⟨.error fault, disk⟩
          | ⟨.ok (), disk⟩ => settle p (disk.makeDirectory p)
      | outcome => settle p outcome
where
  /-- A directory that is there already is as good as made. -/
  settle (p : Path) (outcome : Outcome Fault Unit) : Outcome Fault Unit :=
    match outcome with
    | ⟨.ok (), disk⟩ => ⟨.ok (), disk⟩
    | ⟨.error fault, disk⟩ =>
      if disk.isDirectory p then ⟨.ok (), disk⟩ else ⟨.error fault, disk⟩

def makeAll (disk : Disk) (p : Path) : Outcome Fault Unit :=
  disk.makeDirectories (p.segments.length + 1) p

/-- Removes a directory with everything in it, or a link alone. The contents go first, so a
spelling under which the directory itself cannot be removed leaves it empty. -/
def removeAll (disk : Disk) (p : Path) : Outcome Fault Unit :=
  match disk.nodeAt? false p with
  | .error fault => ⟨.error fault, disk⟩
  | .ok (loc, .link _) => ⟨.ok (), disk.removeTree loc⟩
  | .ok (_, .file _) => ⟨.error .notDirectory, disk⟩
  | .ok (loc, .directory) =>
    let segments := solid p.segments
    if segments.getLast? == some "." then ⟨.error .invalidArgument, disk.removeBelow loc⟩
    else if segments.getLast? == some ".." then ⟨.error .notEmpty, disk.removeBelow loc⟩
    else
      match disk.nodeAt? false ⟨Path.trimSlashes p.segments⟩ with
      | .ok (_, .link _) => ⟨.error .notDirectory, disk.removeBelow loc⟩
      | _ => ⟨.ok (), disk.removeTree loc⟩

end Disk

end Scaffold
