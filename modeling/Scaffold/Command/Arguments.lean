import Scaffold.Command.Help
import Scaffold.Model.Store
import Scaffold.Path

/-!
# Arguments

The command line is read argument by argument. A switch may be followed by its value, so what was
given last stays open until something else follows; only then is it checked. The first failure
ends the reading.
-/

namespace Scaffold

inductive Task
  | analyze (backend output : Path)
  | generate (module : Option String) (analysis : Path) (output : Option Path)
  deriving Repr, DecidableEq

structure Invocation where
  debug : Bool
  config : Option Path
  task : Task
  deriving Repr, DecidableEq

namespace Command

inductive Refusal
  | helpAsked (topic : Topic)
  | versionAsked
  | nothingGiven
  | subcommandMissing
  | subcommandUnknown (name : String)
  | argumentUnknown (text : String)
  | valueMissing (switch : String)
  | valueUnneeded (switch : String)
  | switchRepeated (switch : String)
  deriving Repr, DecidableEq

structure Given where
  /-- Switches that were checked, with their values. -/
  settled : List (Switch × String) := []
  /-- A switch that was given, and its value unless that has yet to follow. -/
  pending : Option (Switch × Option String) := none
  module : Option String := none
  /-- Behind two dashes there are no more switches. -/
  onlyWords : Bool := false

namespace Given

def isGiven (g : Given) (switch : Switch) : Bool := g.settled.any (·.1 == switch)

def value? (g : Given) (switch : Switch) : Option String :=
  (g.settled.find? (·.1 == switch)).map (·.2)

/-- Checks a switch with its value. It counts once, and its value is not empty. -/
def check (g : Given) (switch : Switch) (value : Option String) : Except Refusal Given :=
  match value with
  | none => .error (.valueMissing switch.name)
  | some value =>
    if g.isGiven switch then .error (.switchRepeated switch.name)
    else if value == "" then .error (.valueMissing switch.name)
    else .ok { g with settled := g.settled ++ [(switch, value)], pending := none }

def settle (g : Given) : Except Refusal Given :=
  match g.pending with
  | none => .ok g
  | some (switch, value) => g.check switch value

def take (g : Given) (scope : Scope) (switch : Switch) (attached : Option String) :
    Except Refusal Given := do
  match switch.kind, attached with
  | .value _, some value => (← g.settle).check switch (some value)
  | .value _, none => .ok { (← g.settle) with pending := some (switch, none) }
  | _, some _ => .error (.valueUnneeded switch.name)
  | .flag, none =>
    let g ← g.settle
    if g.isGiven switch then .error (.switchRepeated switch.name)
    else .ok { g with settled := g.settled ++ [(switch, "true")] }
  | .help, none =>
    let _ ← g.settle
    .error (.helpAsked (.scope scope))
  | .version, none =>
    let _ ← g.settle
    .error .versionAsked

/-- Takes switches by their letters. What follows the letter of a switch with a value is the
value, with or without an equals sign between. -/
def takeLetters (g : Given) (scope : Scope) : List Char → Except Refusal Given
  | [] => .ok g
  | letter :: rest =>
    match scope.lettered? letter with
    | none => .error (.argumentUnknown (String.ofList ['-', letter]))
    | some switch =>
      match switch.kind, rest with
      | .value _, [] => g.take scope switch none
      | .value _, '=' :: value => g.take scope switch (some (String.ofList value))
      | .value _, value => g.take scope switch (some (String.ofList value))
      | _, rest => do (← g.take scope switch none).takeLetters scope rest

def takeNamed (g : Given) (scope : Scope) (body : List Char) : Except Refusal Given :=
  let name := String.ofList (body.takeWhile (· != '='))
  match scope.named? name with
  | none => .error (.argumentUnknown ("--" ++ name))
  | some switch =>
    match body.dropWhile (· != '=') with
    | [] => g.take scope switch none
    | _ :: value => g.take scope switch (some (String.ofList value))

def takeWord (g : Given) (scope : Scope) (word : String) : Except Refusal Given :=
  match scope with
  | .generate =>
    if g.module.isSome then .error (.argumentUnknown word)
    else do .ok { (← g.settle) with module := some word }
  | .analyze => .error (.argumentUnknown word)
  | .program =>
    if g.onlyWords && (word == "help" || (Scope.ofSubcommand? word).isSome) then
      .error (.argumentUnknown word)
    else .error (.subcommandUnknown word)

/-- Whether the next argument can only be the value of a switch, or another switch. -/
def awaitsValue (g : Given) : Bool :=
  match g.pending with
  | some (_, none) => true
  | _ => false

def takeArgument (g : Given) (scope : Scope) (argument : String) : Except Refusal Given :=
  if g.onlyWords then g.takeWord scope argument
  else
    match argument.toList with
    | ['-', '-'] => .ok { g with onlyWords := true }
    | '-' :: '-' :: body => g.takeNamed scope body
    | '-' :: c :: letters => g.takeLetters scope (c :: letters)
    | _ =>
      match g.pending with
      | some (switch, none) => .ok { g with pending := some (switch, some argument) }
      | _ => g.takeWord scope argument

def takeAll (g : Given) (scope : Scope) : List String → Except Refusal Given
  | [] => g.settle
  | argument :: rest => do (← g.takeArgument scope argument).takeAll scope rest

end Given

def helpOn : List String → Refusal
  | [] => .helpAsked (.scope .program)
  | name :: rest =>
    let topic? :=
      if name == "help" then some Topic.help else (Scope.ofSubcommand? name).map Topic.scope
    match topic?, rest with
    | none, _ => .subcommandUnknown name
    | some topic, [] => .helpAsked topic
    | some _, next :: _ => .subcommandUnknown next

/-- Takes the arguments up to a subcommand and those behind it. What is open before the
subcommand is checked after all that is behind it. -/
def takeProgram (g : Given) : List String → Except Refusal (Given × Option (Scope × Given))
  | [] => do
    let g ← g.settle
    .ok (g, none)
  | argument :: rest =>
    let mayBeSubcommand := !g.onlyWords && !g.awaitsValue
    if mayBeSubcommand && argument == "help" then .error (helpOn rest)
    else
      match if mayBeSubcommand then Scope.ofSubcommand? argument else none with
      | some scope => do
        let behind ← Given.takeAll {} scope rest
        let before ← g.settle
        .ok (before, some (scope, behind))
      | none => do takeProgram (← g.takeArgument .program argument) rest

def taskOf (scope : Scope) (g : Given) : Option Task :=
  let path? (switch : Switch) : Option Path := (g.value? switch).map Path.ofString
  match scope with
  | .program => none
  | .analyze =>
    some (.analyze ((path? .backend).getD (.ofString "./backend"))
      ((path? .result).getD Model.defaultPath))
  | .generate =>
    some (.generate g.module ((path? .analysis).getD Model.defaultPath) (path? .outputDirectory))

end Command

namespace Invocation

open Command

/-- What a list of arguments asks for. Behind the subcommand a switch counts more than before
it. -/
def ofArguments (arguments : List String) : Except Refusal Invocation := do
  let (before, behind?) ← takeProgram {} arguments
  match behind?.bind fun (scope, behind) => (taskOf scope behind).map (·, behind) with
  | some (task, behind) =>
    .ok {
      debug := before.isGiven .debug || behind.isGiven .debug
      config := (behind.value? .config <|> before.value? .config).map Path.ofString
      task := task }
  | none => .error (if before.settled.isEmpty then .nothingGiven else .subcommandMissing)

end Invocation

end Scaffold
