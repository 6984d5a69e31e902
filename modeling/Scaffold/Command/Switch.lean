/-!
# Switches

The switches of the command line, and in which place each of them is known. A switch takes a
value, or is only there or not; two of them ask for help and for the version.
-/

namespace Scaffold.Command

inductive SwitchKind
  | flag
  /-- Takes a value, which help shows as a placeholder. -/
  | value (placeholder : String)
  | help
  | version
  deriving Repr, DecidableEq

structure Switch where
  name : String
  letter : Option Char
  kind : SwitchKind
  description : String
  deriving Repr, DecidableEq

inductive Scope
  | program
  | analyze
  | generate
  deriving Repr, DecidableEq

namespace Switch

def debug : Switch := ⟨"debug", some 'd', .flag, "Show debug logs on the console"⟩

def config : Switch :=
  ⟨"config", none, .value "FILE",
    "Config file (default: config/config.toml, searched upwards two levels)"⟩

def help : Switch := ⟨"help", some 'h', .help, "Print help"⟩

def version : Switch := ⟨"version", some 'V', .version, "Print version"⟩

def backend : Switch :=
  ⟨"backend-dir", none, .value "DIR", "Backend source root [default: ./backend]"⟩

def result : Switch :=
  ⟨"output", some 'o', .value "FILE",
    "Where to write the analysis result [default: migration-tools/analysis_result.json]"⟩

def analysis : Switch :=
  ⟨"analysis", none, .value "FILE",
    "Analysis result written by `analyze` [default: migration-tools/analysis_result.json]"⟩

def outputDirectory : Switch :=
  ⟨"output-dir", some 'o', .value "DIR", "Output directory (overrides the config file)"⟩

end Switch

namespace Scope

open Switch

/-- The switches that are known in a place, in the order in which help lists them. -/
def switches : Scope → List Switch
  | program => [debug, config, help, version]
  | analyze => [backend, debug, config, result, help]
  | generate => [analysis, debug, config, outputDirectory, help]

def named? (scope : Scope) (name : String) : Option Switch :=
  scope.switches.find? (·.name == name)

def lettered? (scope : Scope) (letter : Char) : Option Switch :=
  scope.switches.find? (·.letter == some letter)

def ofSubcommand? : String → Option Scope
  | "analyze" => some analyze
  | "generate" => some generate
  | _ => none

end Scope

end Scaffold.Command
