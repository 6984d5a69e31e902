/-!
# The environment of the generated server

The variables that configure the server, with their defaults. One table gives both the code that
reads them and the example file, so the two agree.
-/

namespace Scaffold

inductive VariableType
  | text
  | number
  deriving Repr, DecidableEq

def VariableType.goName : VariableType → String
  | text => "string"
  | number => "int"

structure Variable where
  field : String
  name : String
  default : String
  type : VariableType
  deriving Repr, DecidableEq

namespace Variable

def loader (v : Variable) : String :=
  match v.type with
  | .text => "getEnv(\"" ++ v.name ++ "\", \"" ++ v.default ++ "\")"
  | .number => "getEnvInt(\"" ++ v.name ++ "\", " ++ v.default ++ ")"

end Variable

structure VariableGroup where
  name : String
  members : List Variable
  deriving Repr, DecidableEq

def variableGroups : List VariableGroup := [
  ⟨"Server", [
    ⟨"Host", "HOST", "0.0.0.0", .text⟩,
    ⟨"Port", "PORT", "3000", .text⟩,
    ⟨"Env", "NODE_ENV", "development", .text⟩]⟩,
  ⟨"Database", [⟨"Path", "DATABASE_PATH", "./data/cctv.db", .text⟩]⟩,
  ⟨"JWT", [
    ⟨"Secret", "JWT_SECRET", "change-this-secret", .text⟩,
    ⟨"Expiration", "JWT_EXPIRATION", "1h", .text⟩]⟩,
  ⟨"Security", [
    ⟨"AllowedOrigins", "ALLOWED_ORIGINS", "http://localhost:5173", .text⟩,
    ⟨"APIKeySecret", "API_KEY_SECRET", "", .text⟩,
    ⟨"CSRFSecret", "CSRF_SECRET", "", .text⟩,
    ⟨"RateLimitPublic", "RATE_LIMIT_PUBLIC", "100", .number⟩,
    ⟨"RateLimitAuth", "RATE_LIMIT_AUTH", "30", .number⟩,
    ⟨"MaxLoginAttempts", "MAX_LOGIN_ATTEMPTS", "5", .number⟩,
    ⟨"LockoutDurationMins", "LOCKOUT_DURATION_MINUTES", "30", .number⟩]⟩,
  ⟨"MediaMTX", [
    ⟨"APIURL", "MEDIAMTX_API_URL", "http://localhost:9997", .text⟩,
    ⟨"HLSURLInternal", "MEDIAMTX_HLS_URL_INTERNAL", "http://localhost:8888", .text⟩,
    ⟨"HLSURLPublic", "PUBLIC_HLS_PATH", "/hls", .text⟩]⟩]

def padTo (width : Nat) (s : String) : String :=
  s ++ String.ofList (List.replicate (width - s.length) ' ')

def widest (texts : List String) : Nat := (texts.map (·.length)).foldl max 0

namespace VariableGroup

def structName (g : VariableGroup) : String := g.name ++ "Config"

def nameColumn (g : VariableGroup) : String := padTo (widest (variableGroups.map (·.name))) g.name

def fieldWidth (g : VariableGroup) : Nat := widest (g.members.map (·.field))

def fieldColumn (g : VariableGroup) (v : Variable) : String := padTo g.fieldWidth v.field

def keyColumn (g : VariableGroup) (v : Variable) : String :=
  padTo (g.fieldWidth + 1) (v.field ++ ":")

end VariableGroup

end Scaffold
