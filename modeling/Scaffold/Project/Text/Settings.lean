import Scaffold.Project.Environment

/-!
# Reading the environment

The code that reads the variables of the environment, and the example file that lists them with
their defaults.
-/

namespace Scaffold.ProjectText

def endLines (ls : List String) : String := String.join (ls.map (· ++ "\n"))

@[simp] theorem endLines_nil : endLines [] = "" := String.join_nil

@[simp] theorem endLines_cons (l : String) (ls : List String) :
    endLines (l :: ls) = l ++ "\n" ++ endLines ls := by
  rw [endLines, List.map_cons, String.join_cons]
  rfl

@[simp] theorem endLines_append (xs ys : List String) :
    endLines (xs ++ ys) = endLines xs ++ endLines ys := by
  rw [endLines, List.map_append, String.join_append]
  rfl

namespace Settings

def opening : List String := [
    "package config",
    "",
    "import (",
    "\t\"log\"",
    "\t\"os\"",
    "\t\"strconv\"",
    "",
    "\t\"github.com/joho/godotenv\"",
    ")",
    "",
    "type Config struct \x7b"]

def structLines (g : VariableGroup) : List String :=
  ["", "type " ++ g.structName ++ " struct \x7b"]
    ++ g.members.map (fun v => "\t" ++ g.fieldColumn v ++ " " ++ v.type.goName)
    ++ ["\x7d"]

def loading : List String := [
    "",
    "func Load() *Config \x7b",
    "\t// Load .env file",
    "\tif err := godotenv.Load(); err != nil \x7b",
    "\t\tlog.Println(\"No .env file found, using environment variables\")",
    "\t\x7d",
    "",
    "\treturn &Config\x7b"]

def loadLines (g : VariableGroup) : List String :=
  ["\t\t" ++ g.name ++ ": " ++ g.structName ++ "\x7b"]
    ++ g.members.map (fun v => "\t\t\t" ++ g.keyColumn v ++ " " ++ v.loader ++ ",")
    ++ ["\t\t\x7d,"]

def closing : List String := [
    "\t\x7d",
    "\x7d",
    "",
    "func getEnv(key, defaultValue string) string \x7b",
    "\tif value := os.Getenv(key); value != \"\" \x7b",
    "\t\treturn value",
    "\t\x7d",
    "\treturn defaultValue",
    "\x7d",
    "",
    "func getEnvInt(key string, defaultValue int) int \x7b",
    "\tif value := os.Getenv(key); value != \"\" \x7b",
    "\t\tif intVal, err := strconv.Atoi(value); err == nil \x7b",
    "\t\t\treturn intVal",
    "\t\t\x7d",
    "\t\x7d",
    "\treturn defaultValue",
    "\x7d"]

end Settings

def settings : String :=
  endLines <|
    Settings.opening
      ++ variableGroups.map (fun g => "\t" ++ g.nameColumn ++ " " ++ g.structName)
      ++ ["\x7d"]
      ++ variableGroups.flatMap Settings.structLines
      ++ Settings.loading
      ++ variableGroups.flatMap Settings.loadLines
      ++ Settings.closing

def exampleEnvironment : String :=
  endLines <|
    [
      "# Environment for the generated server. Every variable is optional;",
      "# the value shown is the default used when it is unset or empty."]
      ++ variableGroups.flatMap fun g =>
        ["", "# " ++ g.name] ++ g.members.map fun v => v.name ++ "=" ++ v.default

end Scaffold.ProjectText
