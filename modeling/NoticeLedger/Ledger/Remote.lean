import NoticeLedger.Ledger.Answer
import NoticeLedger.Ledger.Request
import NoticeLedger.Log

/-!
# NoticeLedger.Ledger.Remote

A billing platform that is reached by requests.

* `Reply` — what comes back to one request.
* `Remote` — a platform, the replies that are to come, and the requests that were sent.
* one function per operation: its answer, and the platform after it.
-/

namespace NoticeLedger

inductive Reply where
  | answered (status : Nat) (body : String)
  /-- An answer with a status whose body breaks off, or stops coming until it is given up. -/
  | broken (status : Nat) (message : String)
  | failed (failure : Failure)
  /-- Nothing, until the wait is given up. -/
  | silent

/-- The status of an answer, whatever becomes of its body. -/
def Reply.status? : Reply → Option Nat
  | answered status _ => some status
  | broken status _ => some status
  | _ => none

/-- A platform that is reached by requests. -/
structure Remote where
  endpoint : Endpoint
  replies : List Reply := []
  requests : List Request := []
  log : List Log.Line := []

namespace Remote

def note (r : Remote) (level : Log.Level) (message : String) : Remote :=
  { r with log := r.log ++ [⟨level, .platform, message⟩] }

/-- What comes back to a request: a status, with a body as far as it can be read, or the failure of
a request that nothing comes back to. -/
def replyOf (reply : Option Reply) : Except Failure (Nat × Except Failure String) :=
  match reply with
  | some (.answered status body) => .ok (status, .ok body)
  | some (.broken status message) => .ok (status, .error (.unforeseen message))
  | some (.failed failure) => .error failure
  | some .silent => .error (.plain "aborted")
  | none => .error (.plain "no response queued")

/-- Sends a request; the next reply is the one to it. -/
def send (r : Remote) (request : Request) :
    Except Failure (Nat × Except Failure String) × Remote :=
  (replyOf r.replies.head?,
    { r with requests := r.requests ++ [request], replies := r.replies.drop 1 })

def isOk (status : Nat) : Bool :=
  200 ≤ status && status < 300

/-- Sends the request of a call, and takes the body of the answer. Only where nothing came back is
the failure told as one of the platform; that of a body that breaks off comes out as it is. -/
def exchange (r : Remote) (call : LedgerCall) (context : CallContext) :
    Except Failure Json × Remote :=
  let line := call.method.name ++ " " ++ call.path
  let (reply, r) := r.send (r.endpoint.request call.method call.path (some context) call.payload)
  match reply with
  | .error f =>
    let failure :=
      if f.isWordless then .wordless
      else .platform s!"{line} failed: {f.message}" (some (.text PlatformCode.unknown)) none
    (.error failure, r)
  | .ok (_, .error f) => (.error f, r)
  | .ok (status, .ok text) =>
    if isOk status then (.ok (Answer.body text), r)
    else
      let answered := s!"{line} answered {status}"
      match Answer.refusal answered status (Answer.body text) with
      | .error f => (.error f, r)
      | .ok f => (.error f, r.note .debug answered)

def getAccount (r : Remote) (id : Given) (context : CallContext) :
    Except Failure Account × Remote :=
  let (body, r) := r.exchange (.getAccount id) context
  (body.bind Answer.account, r)

def listPaymentMethods (r : Remote) (accountId : Given) (context : CallContext) :
    Except Failure (List PaymentMethod) × Remote :=
  let (body, r) := r.exchange (.listPaymentMethods accountId) context
  (body.bind Answer.methods, r)

def reportState (r : Remote) (account : Account) (transactionId success : Given)
    (context : CallContext) : Except Failure Payment × Remote :=
  let (body, r) := r.exchange (.reportState account transactionId success) context
  (body.bind Answer.payment, r)

def createPurchase (r : Remote) (account : Account) (order : PurchaseOrder)
    (context : CallContext) : Except Failure Payment × Remote :=
  let (body, r) := r.exchange (.createPurchase account order) context
  (body.bind Answer.payment, r)

def createChargeback (r : Remote) (account : Account) (order : ChargebackOrder)
    (context : CallContext) : Except Failure Payment × Remote :=
  let (body, r) := r.exchange (.createChargeback account order) context
  (body.bind Answer.payment, r)

/-- Whether the next request is not answered until the wait is given up. -/
def keepsSilent (r : Remote) : Bool :=
  match r.replies.head? with
  | some .silent => true
  | _ => false

/-- Whether the platform is well, by the status of its answer alone; one that cannot be reached is
not, if it can be said why. -/
def isHealthy (r : Remote) : Except Failure Bool × Remote :=
  let (reply, r) := r.send (r.endpoint.request .get Endpoint.healthPath none none)
  match reply with
  | .ok (status, _) => (.ok (isOk status), r)
  | .error f =>
    if f.isWordless then (.error .wordless, r)
    else (.ok false, r.note .warning s!"Platform health check failed: {f.message}")

end Remote

end NoticeLedger
