import Scaffold.Command.Run
import Scaffold.Pattern.Reader

/-!
# The program

What the program prints and with which status it ends, for given arguments and a given disk.
-/

namespace Scaffold

structure Console where
  status : Nat
  output : String
  errors : String
  deriving Repr, DecidableEq

namespace Console

/-- The lines of a cause, indented; several causes are numbered. -/
def causeText (number : Option Nat) (cause : String) : String :=
  let first :=
    match number with
    | some n => String.ofList (List.replicate (5 - (toString n).length) ' ') ++ toString n ++ ": "
    | none => "    "
  let next := if number.isSome then "\n       " else "\n    "
  first ++ next.intercalate (cause.splitOn "\n")

def failureText : List String → String
  | [] => ""
  | [outermost] => "Error: " ++ outermost ++ "\n"
  | [outermost, cause] =>
    "Error: " ++ outermost ++ "\n\nCaused by:\n" ++ causeText none cause ++ "\n"
  | outermost :: causes =>
    "Error: " ++ outermost ++ "\n\nCaused by:\n"
      ++ String.join (causes.zipIdx.map fun (cause, n) => causeText (some n) cause ++ "\n")

end Console

namespace Command

def Refusal.text : Refusal → String
  | helpAsked topic => Help.text topic
  | versionAsked => Help.version
  | nothingGiven => Help.text (.scope .program)
  | subcommandMissing => "error: a subcommand is required\n"
  | subcommandUnknown name => "error: unrecognized subcommand '" ++ name ++ "'\n"
  | argumentUnknown text => "error: unexpected argument '" ++ text ++ "'\n"
  | valueMissing switch => "error: a value is required for '--" ++ switch ++ "'\n"
  | valueUnneeded switch => "error: '--" ++ switch ++ "' takes no value\n"
  | switchRepeated switch => "error: '--" ++ switch ++ "' cannot be used multiple times\n"

/-- Help and the version are answers; all else is a fault of the arguments. -/
def Refusal.console (r : Refusal) : Console :=
  match r with
  | helpAsked _ => ⟨0, r.text, ""⟩
  | versionAsked => ⟨0, r.text, ""⟩
  | r => ⟨2, "", r.text⟩

end Command

namespace Task

def opening : Task → String
  | analyze backend _ => "🔍 Analyzing backend structure at " ++ backend.text ++ "\n"
  | generate _ analysis _ => "🚀 Generating Go project from " ++ analysis.text ++ "\n"

def perform (config : Option Path) : Task → Action TaskError String
  | analyze backend output => do
    let m ← surveyAndStore backend output config
    pure (Summary.ofModel m ++ "💾 Analysis saved to: " ++ output.text ++ "\n")
  | generate module analysis output => do
    let report ← loadAndGenerate module analysis output config
    pure (Summary.ofReport report)

end Task

namespace Program

/-- Where records of a run would be kept. The directory is made whatever the task is. -/
def logDirectory : Path := .ofString "log"

def run (arguments : List String) (disk : Disk) : Console × Disk :=
  match Invocation.ofArguments arguments with
  | .error refusal => (refusal.console, disk)
  | .ok invocation =>
    let disk := (disk.makeAll logDirectory).disk
    match (invocation.task.perform invocation.config).run disk with
    | ⟨.ok closing, disk⟩ => (⟨0, invocation.task.opening ++ closing, ""⟩, disk)
    | ⟨.error e, disk⟩ =>
      (⟨1, invocation.task.opening, Console.failureText e.causes⟩, disk)

end Program

end Scaffold
