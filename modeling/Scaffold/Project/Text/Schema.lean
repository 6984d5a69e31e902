import Scaffold.Project.CoreSchema
import Scaffold.Project.Text.Settings

/-!
# Setting up the database

The code that opens the database and makes the core tables, and the same tables as a migration.
-/

namespace Scaffold.ProjectText

namespace Schema

def opening : List String := [
    "package database",
    "",
    "import (",
    "\t\"database/sql\"",
    "\t\"fmt\"",
    "\t\"os\"",
    "\t\"path/filepath\"",
    "",
    "\t_ \"github.com/mattn/go-sqlite3\"",
    ")",
    "",
    "func Connect(dbPath string) (*sql.DB, error) \x7b",
    "\t// Ensure directory exists",
    "\tdir := filepath.Dir(dbPath)",
    "\tif err := os.MkdirAll(dir, 0755); err != nil \x7b",
    "\t\treturn nil, fmt.Errorf(\"failed to create database directory: %w\", err)",
    "\t\x7d",
    "",
    "\t// Open database",
    "\tdb, err := sql.Open(\"sqlite3\", dbPath+\"?_foreign_keys=on&_journal_mode=WAL\")",
    "\tif err != nil \x7b",
    "\t\treturn nil, fmt.Errorf(\"failed to open database: %w\", err)",
    "\t\x7d",
    "",
    "\t// Test connection",
    "\tif err := db.Ping(); err != nil \x7b",
    "\t\treturn nil, fmt.Errorf(\"failed to ping database: %w\", err)",
    "\t\x7d",
    "",
    "\treturn db, nil",
    "\x7d",
    "",
    "func RunMigrations(db *sql.DB) error \x7b",
    "\t// Create tables if not exists",
    "\tmigrations := []string\x7b"]

def closing : List String := [
    "\t\x7d",
    "",
    "\tfor _, migration := range migrations \x7b",
    "\t\tif _, err := db.Exec(migration); err != nil \x7b",
    "\t\t\treturn fmt.Errorf(\"migration failed: %w\", err)",
    "\t\t\x7d",
    "\t\x7d",
    "",
    "\treturn nil",
    "\x7d"]

end Schema

def database : String :=
  endLines Schema.opening
    ++ String.join (coreTables.map fun t => "\t\t`" ++ t.createStatement "\t\t" ++ "`,\n")
    ++ endLines Schema.closing

def coreMigration : String :=
  endLines [
      "-- Core schema, applied at startup by internal/database.RunMigrations."]
    ++ String.join (coreTables.map fun t => "\n" ++ t.createStatement "" ++ ";\n")

end Scaffold.ProjectText
