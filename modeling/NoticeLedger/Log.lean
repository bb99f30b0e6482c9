/-!
# NoticeLedger.Log

Lines of the log.

* `Log.Level`, `Log.Source` — how serious a line is, and who wrote it.
* `Log.Line` — one line.
-/

namespace NoticeLedger.Log

inductive Level where
  | debug
  | info
  | warning
  | error
  deriving DecidableEq, Repr

def Level.name : Level → String
  | debug => "debug"
  | info => "log"
  | warning => "warn"
  | error => "error"

inductive Source where
  | processor
  | engine
  | chargebacks
  | journal
  | service
  | endpoint
  | platform
  | store
  deriving DecidableEq, Repr

def Source.name : Source → String
  | processor => "NotificationProcessor"
  | engine => "ReconciliationEngine"
  | chargebacks => "ChargebackFlow"
  | journal => "JournalRecorder"
  | service => "ReconcilerService"
  | endpoint => "NotificationController"
  | platform => "HttpPlatformAdapter"
  | store => "TypeORMStorageAdapter"

structure Line where
  level : Level
  source : Source
  message : String
  deriving DecidableEq, Repr

end NoticeLedger.Log
