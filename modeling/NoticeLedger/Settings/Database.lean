import NoticeLedger.Json.Basic
import NoticeLedger.Number.Reader

/-!
# NoticeLedger.Settings.Database

How the database is reached.

* `Environment` — the variables that settings are read from.
* `Database` — where a database listens, its name, and the user it is opened as.
* `Database.given` — read from variables as they are; `Database.filled` — with blank variables
  counting as absent.
* `Database.connection` — everything that a connection is opened with.
-/

namespace NoticeLedger

abbrev Environment := List (String × String)

namespace Environment

/-- A variable, blank ones included. -/
def given? (env : Environment) (name : String) : Option String :=
  env.lookup name

def filled? (env : Environment) (name : String) : Option String :=
  (env.lookup name).filter (· ≠ "")

end Environment

structure Database where
  host : String
  portNumber : Number
  username : String
  password : String
  database : String
  deriving DecidableEq

namespace Database

/-- The database that variables name; what they leave out is filled in. -/
def ofLookup (get? : String → Option String) : Database where
  host := (get? "DB_HOST").getD "localhost"
  portNumber := Number.readWhole ((get? "DB_PORT").getD "5432")
  username := (get? "DB_USERNAME").getD "reconciler"
  password := (get? "DB_PASSWORD").getD "reconciler"
  database := (get? "DB_NAME").getD "reconciler"

def given (env : Environment) : Database :=
  ofLookup env.given?

/-- The database of an environment, with blank variables counting as absent. -/
def filled (env : Environment) : Database :=
  ofLookup env.filled?

def members (d : Database) : Members :=
  [ ("host", .text d.host), ("port", .number d.portNumber), ("username", .text d.username),
    ("password", .text d.password), ("database", .text d.database) ]

def kind : String := "postgres"

/-- What every connection is opened with besides. -/
def extras (env : Environment) : Members :=
  [ ("synchronize", .bool (env.given? "NODE_ENV" == some "development")),
    ("logging", .bool (env.given? "DB_LOGGING" == some "true")),
    ("extra", .object [
      ("max", .number (Number.readWhole ((env.filled? "DB_POOL_SIZE").getD "10"))),
      ("idleTimeoutMillis", .number 30000),
      ("connectionTimeoutMillis", .number 2000)]) ]

/-- Everything that a connection is opened with. Options go over what the environment says; the
kind of database stays. -/
def connection (env : Environment) (options : Members) : Members :=
  let own := [("type", .text kind)] ++ (filled env).members ++ extras env
  (Members.merge own options).put "type" (.text kind)

end Database

end NoticeLedger
