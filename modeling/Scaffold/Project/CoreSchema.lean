/-!
# The core schema

The tables that the generated server makes when it starts, whatever tables were found.
-/

namespace Scaffold

structure CoreTable where
  name : String
  /-- Columns and constraints in the order of the statement. -/
  definitions : List String
  deriving Repr, DecidableEq

def coreTables : List CoreTable := [
  ⟨"users", [
    "id INTEGER PRIMARY KEY AUTOINCREMENT",
    "username TEXT UNIQUE NOT NULL",
    "password_hash TEXT NOT NULL",
    "role TEXT DEFAULT 'admin'",
    "created_at DATETIME DEFAULT CURRENT_TIMESTAMP"]⟩,
  ⟨"areas", [
    "id INTEGER PRIMARY KEY AUTOINCREMENT",
    "name TEXT UNIQUE NOT NULL",
    "description TEXT",
    "rt TEXT",
    "rw TEXT",
    "kelurahan TEXT",
    "kecamatan TEXT",
    "created_at DATETIME DEFAULT CURRENT_TIMESTAMP"]⟩,
  ⟨"cameras", [
    "id INTEGER PRIMARY KEY AUTOINCREMENT",
    "name TEXT NOT NULL",
    "private_rtsp_url TEXT NOT NULL",
    "description TEXT",
    "location TEXT",
    "group_name TEXT",
    "area_id INTEGER",
    "enabled INTEGER DEFAULT 1",
    "stream_key TEXT",
    "created_at DATETIME DEFAULT CURRENT_TIMESTAMP",
    "updated_at DATETIME DEFAULT CURRENT_TIMESTAMP",
    "FOREIGN KEY (area_id) REFERENCES areas(id) ON DELETE SET NULL"]⟩,
  ⟨"audit_logs", [
    "id INTEGER PRIMARY KEY AUTOINCREMENT",
    "user_id INTEGER",
    "action TEXT NOT NULL",
    "details TEXT",
    "ip_address TEXT",
    "created_at DATETIME DEFAULT CURRENT_TIMESTAMP",
    "FOREIGN KEY (user_id) REFERENCES users(id) ON DELETE SET NULL"]⟩,
  ⟨"feedbacks", [
    "id INTEGER PRIMARY KEY AUTOINCREMENT",
    "name TEXT",
    "email TEXT",
    "message TEXT NOT NULL",
    "status TEXT DEFAULT 'unread'",
    "ip_address TEXT",
    "created_at DATETIME DEFAULT CURRENT_TIMESTAMP"]⟩]

/-- The statement that makes the table unless it is there, its definitions one tab deeper than the
given indentation. -/
def CoreTable.createStatement (t : CoreTable) (indent : String) : String :=
  "CREATE TABLE IF NOT EXISTS " ++ t.name ++ " (\n"
    ++ ",\n".intercalate (t.definitions.map fun d => indent ++ "\t" ++ d)
    ++ "\n" ++ indent ++ ")"

end Scaffold
