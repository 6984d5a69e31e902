import Scaffold.Disk.Walk
import Scaffold.Settings.Section
import Scaffold.Text.Utf8

/-!
# The settings file

The settings are in the file that is asked for, or in the first of a few places where one is
found; if there is none, everything has its default. The name of the file tells its format. A
directory stands for the file beside it that has its name and the ending of a format.

Settings in YAML, INI, RON or JSON5 are left out: a file with one of their endings counts here as of
no known format, and none is found beside a path.
-/

namespace Scaffold

namespace Settings

/-- The formats that are read here. YAML, INI, RON and JSON5 are left out. -/
inductive Format
  | toml
  | json
  deriving Repr, DecidableEq

namespace Format

def all : List Format := [toml, json]

def extension : Format → String
  | toml => "toml"
  | json => "json"

def ofExtension? (extension : String) : Option Format := all.find? (·.extension == extension)

/-- The entries of a text. It has to be a table as a whole. -/
def read? (format : Format) (text : List Char) : Option (List (String × Setting)) :=
  match format with
  | toml => (Toml.readDocument text).map Setting.ofTomlEntries
  | json =>
    match Json.Value.ofText? text with
    | some (.object members) => some (Setting.ofJsonMembers members)
    | _ => none

end Format

inductive LoadError
  | notFound (path : Path)
  | unknownFormat (path : Path)
  | unreadable (path : Path)
  | invalid (problem : Problem) (name : String) (file : String)
  deriving Repr, DecidableEq

namespace LoadError

def message : LoadError → String
  | notFound path =>
    "missing configuration field "
      ++ Text.quote ("config file " ++ path.text ++ " does not exist")
  | unknownFormat path =>
    "configuration file " ++ Text.quote path.text ++ " is not of a registered file format"
  | unreadable path => "configuration file " ++ Text.quote path.text ++ " cannot be read"
  | invalid (.unfit found expected located) name file =>
    "invalid type: " ++ found.describe ++ ", expected " ++ expected ++ " for key `" ++ name ++ "`"
      ++ (if located then " in " ++ file else "")
  | invalid (.misshapen found expected) name _ =>
    "invalid type: " ++ found.describe ++ ", expected " ++ expected ++ " for key `" ++ name ++ "`"

end LoadError

def places : List Path :=
  ["config/config.toml", "../config/config.toml", "../../config/config.toml"].map Path.ofString

def locate (disk : Disk) : Option Path := places.find? disk.isFile

def fileFor (disk : Disk) (path : Path) : Option (Path × Format) :=
  let whole := disk.workingPath.join path
  if disk.isFile whole then
    (whole.extension?.bind Format.ofExtension?).map fun format => (whole, format)
  else
    (Format.all.map fun format => (whole.withEnding format.extension, format)).find?
      fun (file, _) => disk.isFile file

/-- The entries of the file that a path stands for, and how messages name the file. -/
def readFile (disk : Disk) (path : Path) :
    Except LoadError (List (String × Setting) × String) :=
  match fileFor disk path with
  | none => .error (.unknownFormat path)
  | some (file, format) =>
    match disk.readBytes file with
    | .error _ => .error (.unknownFormat path)
    | .ok bytes =>
      match format.read? (Toml.dropByteOrderMark (Text.decode bytes)) with
      | none => .error (.unreadable path)
      | some entries => .ok (entries, (file.relativeTo disk.workingPath).text)

/-- The settings of a section, all of them with their defaults if there is no such section. -/
def Section.load {σ : Type} (s : Section σ) (path? : Option Path) (disk : Disk) :
    Except LoadError σ :=
  match path? with
  | some path => if disk.exists? path then ofFile path else .error (.notFound path)
  | none =>
    match locate disk with
    | some path => ofFile path
    | none => .ok s.defaults
where
  ofFile (path : Path) : Except LoadError σ := do
    let (entries, file) ← readFile disk path
    match (Setting.ofEntries entries).lookup s.name with
    | none => .ok s.defaults
    | some v =>
      match s.read v with
      | .ok record => .ok record
      | .error problem => .error (.invalid problem s.name file)

end Settings

end Scaffold
