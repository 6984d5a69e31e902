import Scaffold.Command.Switch

/-!
# Help

The help texts. Switches, arguments and subcommands are listed in two columns, the second of
which begins behind the widest entry of the first.
-/

namespace Scaffold.Command

inductive Topic
  | scope (scope : Scope)
  | help
  deriving Repr, DecidableEq

namespace Help

def programName : String := "backend-migrate"

def version : String := programName ++ " 0.1\n"

structure Entry where
  term : String
  description : String

def columns (entries : List Entry) : List String :=
  let width := (entries.map (·.term.length)).foldl max 0
  entries.map fun e =>
    "  " ++ e.term ++ String.ofList (List.replicate (width - e.term.length) ' ') ++ "  "
      ++ e.description

def entryOf (switch : Switch) : Entry where
  term :=
    (match switch.letter with
      | some letter => "-" ++ String.singleton letter ++ ", "
      | none => "    ")
    ++ "--" ++ switch.name
    ++ (match switch.kind with
      | .value placeholder => " <" ++ placeholder ++ ">"
      | _ => "")
  description := switch.description

def part (title : String) (entries : List Entry) : List String :=
  if entries.isEmpty then [] else ["", title ++ ":"] ++ columns entries

def helpEntry : Entry :=
  ⟨"help", "Print this message or the help of the given subcommand(s)"⟩

def analyzeEntry : Entry :=
  ⟨"analyze", "Extract the structural model of a backend and save it as JSON"⟩

def generateEntry : Entry :=
  ⟨"generate", "Generate the Go project from a saved analysis result"⟩

def about : Topic → String
  | .scope .program => "Migrate a Node.js/Fastify backend to a Go/Fiber skeleton"
  | .scope .analyze => analyzeEntry.description
  | .scope .generate => generateEntry.description
  | .help => helpEntry.description

def usage : Topic → String
  | .scope .program => "[OPTIONS] <COMMAND>"
  | .scope .analyze => "analyze [OPTIONS]"
  | .scope .generate => "generate [OPTIONS] [MODULE]"
  | .help => "help [COMMAND]..."

def subcommands : Topic → List Entry
  | .scope .program => [analyzeEntry, generateEntry, helpEntry]
  | _ => []

def arguments : Topic → List Entry
  | .scope .generate => [⟨"[MODULE]", "Go module name (overrides the config file)"⟩]
  | .help => [⟨"[COMMAND]...", "Print help for the subcommand(s)"⟩]
  | _ => []

def switches : Topic → List Entry
  | .scope scope => scope.switches.map entryOf
  | .help => []

def text (topic : Topic) : String :=
  let lines := [about topic, "", "Usage: " ++ programName ++ " " ++ usage topic]
    ++ part "Commands" (subcommands topic)
    ++ part "Arguments" (arguments topic)
    ++ part "Options" (switches topic)
  String.join (lines.map (· ++ "\n"))

end Help

end Scaffold.Command
