import DocAccess.Json.Parser
import DocAccess.Repository.Memory
import DocAccess.Schema.Issue

/-!
# Settings

Settings are read from named values, whatever the case of the names; of two names that differ in
case only the later counts. Each setting has a default. The permission table is JSON and is read
before anything is checked; then every setting is checked, and last that a remote repository has
an address.
-/
namespace DocAccess

/-- Where the program runs. -/
inductive Environment where
  | development
  | testing
  | ci
  | production
  deriving DecidableEq, Repr

instance : Vocabulary Environment where
  label := "Environment"
  members := [.development, .testing, .ci, .production]
  word
    | .development => "development"
    | .testing => "testing"
    | .ci => "ci"
    | .production => "production"

/-- Which kind of repository is used. -/
inductive Backend where
  | http
  | memory
  deriving DecidableEq, Repr

instance : Vocabulary Backend where
  label := "Backend"
  members := [.http, .memory]
  word
    | .http => "http"
    | .memory => "memory"

/-- The backend of a name. A remote one needs an address. -/
def Backend.select (name : String) (url : Option String) : Except Fault Backend :=
  match (Vocabulary.ofWord? name : Option Backend) with
  | none => .error (.value ("Unknown repository backend: " ++ name))
  | some .http => if url.isSome then .ok .http else .error ⟨.assertion, ""⟩
  | some .memory => .ok .memory

/-- The settings of the program. -/
structure Settings where
  environment : Environment
  debug : Bool
  logLevel : String
  appName : String
  appVersion : String
  apiBaseUrl : String
  backend : Backend
  repositoryUrl : Option String
  repositoryTimeout : Binary64
  queryTimeout : Option Binary64
  permissions : PermissionTable
  checkTimeout : Option Binary64

/-- Why settings are not accepted. -/
inductive SettingsError where
  /-- The permission table is no JSON. -/
  | unreadable
  | invalid (issues : List Issue)

namespace Settings

/-- Whether the program runs in development. -/
def isDevelopment (s : Settings) : Bool := s.environment = .development

/-- Whether the program runs in production. -/
def isProduction (s : Settings) : Bool := s.environment = .production

/-- The message for a permission table that is no JSON. -/
def unreadableMessage : String :=
  "error parsing value for field \"repository_permissions\" from source \"EnvSettingsSource\""

/-- The message for a remote repository without an address. -/
def missingUrlMessage : String := "repository_url is required when repository_backend=http"

/-- A character of a name in small letters; the Kelvin sign is a capital k. -/
def foldNameChar (c : Char) : Char := if c.toNat = 0x212A then 'k' else c.toLower

/-- The value of the last of the names that equal `name` up to case. -/
def valueOf? (values : List (String × String)) (name : String) : Option String :=
  (values.reverse.find? fun v => v.1.map foldNameChar == name).map Prod.snd

/-- One of the words of a vocabulary. -/
def readWord {α : Type} [Vocabulary α] (issue : List String → IssueKind) (s : String) :
    Validated α :=
  match Vocabulary.ofWord? s with
  | some a => .ok a
  | none => Validated.refuse (issue ((Vocabulary.members : List α).map Vocabulary.word))

/-- The words for true and false, whatever their case. -/
def readBool (s : String) : Validated Bool :=
  let w := s.toLower
  if w ∈ ["1", "on", "t", "true", "y", "yes"] then .ok true
  else if w ∈ ["0", "off", "f", "false", "n", "no"] then .ok false
  else Validated.refuse .boolParsing

/-- The names of log levels in alphabetical order. -/
def logLevels : List String := ["CRITICAL", "DEBUG", "ERROR", "INFO", "WARNING"]

/-- A character in capital letters; the dotless i becomes an I. -/
def capitalChar (c : Char) : Char := if c.toNat = 0x131 then 'I' else c.toUpper

/-- The name of a log level, whatever its case. -/
def readLogLevel (s : String) : Validated String :=
  let level := s.map capitalChar
  if level ∈ logLevels then .ok level
  else Validated.refuse (.rule ("log_level must be one of " ++
    Json.shown (.array (logLevels.map .str))))

/-- The principals of a permission table with their documents. -/
def readPermissions : Json → Validated PermissionTable
  | .object members =>
    Validated.all (members.map fun (principal, ids) =>
      Validated.under (.key principal)
        ((Json.asList Json.asText ids).map fun docIds => (principal, docIds)))
  | _ => Validated.refuse .dictType

/-- A setting: its default when it is not named. -/
def setting (values : List (String × String)) (name : String) (default : α)
    (read : String → Validated α) : Validated α :=
  match valueOf? values name with
  | some s => Validated.field name (read s)
  | none => .ok default

/-- The permission table of the settings as JSON: `null` counts as not named. -/
def permissionJson (depth : Nat) (values : List (String × String)) :
    Except SettingsError (Option Json) :=
  match valueOf? values "repository_permissions" with
  | none => .ok none
  | some s =>
    match Json.parse depth s with
    | .error _ => .error .unreadable
    | .ok .null => .ok none
    | .ok v => .ok (some v)

/-- A positive number of seconds. -/
def readSeconds (s : String) : Validated Binary64 := (readFloat s).bind positive

/-- A positive number of seconds that may be left out. -/
def readLimit (s : String) : Validated (Option Binary64) := (readSeconds s).map some

/-- The limit of requests to a remote repository when none is set: thirty seconds. -/
def defaultRepositoryTimeout : Binary64 := .ofInt 30

/-- Checks every setting, in order. -/
def check (values : List (String × String)) (permissions : Option Json) : Validated Settings :=
  let table := match permissions with
    | some v => Validated.field "repository_permissions" (readPermissions v)
    | none => .ok []
  let checks :=
    (setting values "environment" .development (readWord .enumeration)).both <|
    (setting values "debug" false readBool).both <|
    (setting values "log_level" "INFO" readLogLevel).both <|
    (setting values "app_name" "Docgate" .ok).both <|
    (setting values "app_version" "0.1.0" .ok).both <|
    (setting values "api_base_url" "http://localhost:8000" (.ok ∘ dropTrailingSlashes)).both <|
    (setting values "repository_backend" .memory (readWord .literal)).both <|
    (setting values "repository_url" none (.ok ∘ some ∘ dropTrailingSlashes)).both <|
    (setting values "repository_timeout_seconds" defaultRepositoryTimeout readSeconds).both <|
    (setting values "repository_query_timeout_seconds" none readLimit).both <|
    table.both
    (setting values "access_check_timeout_seconds" none readLimit)
  checks.map fun (environment, debug, logLevel, appName, appVersion, apiBaseUrl, backend,
      repositoryUrl, repositoryTimeout, queryTimeout, permissions, checkTimeout) =>
    { environment, debug, logLevel, appName, appVersion, apiBaseUrl, backend, repositoryUrl,
      repositoryTimeout, queryTimeout, permissions, checkTimeout }

/-- Whether a repository can be reached: a remote one needs an address. -/
def isReachable (s : Settings) : Bool := s.backend = .memory || s.repositoryUrl.any (· != "")

/-- Reads settings from named values; the lists and objects of the permission table may nest as
deeply as `depth`. -/
def ofValues (depth : Nat) (values : List (String × String)) : Except SettingsError Settings :=
  match permissionJson depth values with
  | .error e => .error e
  | .ok permissions =>
    match check values permissions with
    | .error issues => .error (.invalid issues)
    | .ok s =>
      if s.isReachable then .ok s else .error (.invalid [⟨[], .rule missingUrlMessage⟩])

end Settings
end DocAccess
