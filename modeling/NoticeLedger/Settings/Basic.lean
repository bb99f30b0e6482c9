import NoticeLedger.Failure
import NoticeLedger.Service
import NoticeLedger.Settings.Database

/-!
# NoticeLedger.Settings.Basic

How the reconciler is set up.

* `Settings.complete` — settings with the defaults under them.
* `Settings.view` — what is read from settings.
* `Settings.ofEnvironment` — the settings that variables give.
* `Settings.wire` — which store and which platform settings lead to.
-/

namespace NoticeLedger.Settings

def platformDefaults : Members :=
  [ ("type", .text "mock"), ("pluginName", .text Reconciler.standard.profile.pluginName),
    ("userName", .text Reconciler.standard.profile.userName) ]

def noticeDefaults : Members :=
  [("maxBatchSize", .number 100)]

def defaults : Members :=
  [ ("storage", .object [("type", .text "mock")]), ("platform", .object platformDefaults),
    ("notifications", .object noticeDefaults), ("environment", .text "development"),
    ("debug", .bool false) ]

def part (under : Members) (given : Option Json) : Json :=
  .object (Members.merge under ((given.map Json.spread).getD []))

/-- Settings with the defaults under them. The parts of the platform and of notices are filled in
member by member, all else as a whole. -/
def complete (given : Members) : Members :=
  let whole := Members.merge defaults given
  let withPlatform := whole.put "platform" (part platformDefaults (given.get? "platform"))
  withPlatform.put "notifications" (part noticeDefaults (given.get? "notifications"))

/-- A member of a part of settings. A part that is nothing cannot be read. -/
def read (settings : Members) (name member : String) : Except Failure (Option Json) :=
  match settings.get? name with
  | some .null => .error (.unforeseen s!"The setting {name} is nothing and has no {member}")
  | some (.object m) => .ok (Members.get? m member)
  | _ => .ok none

structure View where
  pluginName : Option Json
  maxBatchSize : Option Json
  storageType : Option Json
  platformType : Option Json
  debug : Bool
  environment : Json

def view (settings : Members) : Except Failure View := do
  let pluginName ← read settings "platform" "pluginName"
  let maxBatchSize ← read settings "notifications" "maxBatchSize"
  let storageType ← read settings "storage" "type"
  let platformType ← read settings "platform" "type"
  let environment := (settings.get? "environment").filter Json.isTruthy
  let debug := match settings.get? "debug" with
    | some (.bool b) => b
    | _ => false
  pure
    { pluginName := pluginName
      maxBatchSize := maxBatchSize
      storageType := storageType
      platformType := platformType
      debug := debug
      environment := environment.getD (.text "development") }

/-- The names of environments; every other one is that of development. -/
def environmentName (given : Option String) : String :=
  match given with
  | some "production" => "production"
  | some "staging" => "staging"
  | _ => "development"

/-- The kind that a variable chooses: the standard one or the other one. -/
def choice (env : Environment) (name other : String) : Except Failure String :=
  let kind := (env.given? name).getD "mock"
  if kind = "mock" ∨ kind = other then .ok kind
  else .error (.plain s!"Unknown {name}: {kind}")

/-- Where the platform is reached. All three of its variables are needed. -/
def endpoint (env : Environment) : Except Failure Members :=
  match env.filled? "PLATFORM_BASE_URL", env.filled? "PLATFORM_API_KEY",
    env.filled? "PLATFORM_API_SECRET" with
  | some url, some key, some secret =>
    let timeout := Number.readWhole ((env.given? "PLATFORM_TIMEOUT_MS").getD "30000")
    .ok [ ("baseUrl", .text url), ("apiKey", .text key), ("apiSecret", .text secret),
      ("timeout", .number timeout) ]
  | _, _, _ =>
    .error (.plain ("PLATFORM_BASE_URL, PLATFORM_API_KEY and PLATFORM_API_SECRET are required " ++
      "when PLATFORM_TYPE=http"))

def ofEnvironment (env : Environment) : Except Failure Members := do
  let storage ← choice env "STORAGE_TYPE" "typeorm"
  let platform ← choice env "PLATFORM_TYPE" "http"
  let http ← if platform = "http" then (endpoint env).map some else pure none
  let text (name standard : String) : Json := .text ((env.given? name).getD standard)
  let options : Members :=
    if storage = "typeorm" then [("options", .object (Database.given env).members)] else []
  let standard := Reconciler.standard.profile
  pure
    [ ("storage", .object (("type", .text storage) :: options)),
      ("platform", .object (
        [ ("type", .text platform),
          ("pluginName", text "GATEWAY_PLUGIN_NAME" standard.pluginName),
          ("userName", text "RECONCILER_USER_NAME" standard.userName) ] ++
        (http.map fun m => ("http", Json.object m)).toList)),
      ("environment", .text (environmentName (env.given? "NODE_ENV"))),
      ("debug", .bool (env.given? "RECONCILER_DEBUG" == some "true")) ]

/-- The store and the platform that settings lead to, by name. -/
structure Wiring where
  storage : Option String
  platform : Option String
  deriving DecidableEq, Repr

/-- Whether a platform can be reached at a place: its base has to be a text. -/
def reachable (http : Json) : Except Failure Unit :=
  match http.members?.bind fun m => Members.get? m "baseUrl" with
  | some (.text _) => .ok ()
  | _ => .error (.unforeseen "A platform needs a base to be reached at")

def wirePlatform (settings : Members) : Except Failure (Option String) := do
  match ← read settings "platform" "type" with
  | some (.text "mock") => pure (some "mock")
  | some (.text "http") =>
    match ((← read settings "platform" "http").filter Json.isTruthy) with
    | none => .error (.plain "HTTP platform configuration not provided")
    | some http => do
      reachable http
      pure (some "http")
  | some (.text "custom") => .error (.plain "Custom platform adapter not provided")
  | _ => pure none

def wireStorage (settings : Members) : Except Failure (Option String) := do
  match ← read settings "storage" "type" with
  | some (.text "mock") => pure (some "MockStorageAdapter")
  | some (.text "custom") => .error (.plain "Custom storage adapter not provided")
  | _ => pure none

def wire (settings : Members) : Except Failure Wiring := do
  let platform ← wirePlatform settings
  let storage ← wireStorage settings
  pure ⟨storage, platform⟩

end NoticeLedger.Settings
