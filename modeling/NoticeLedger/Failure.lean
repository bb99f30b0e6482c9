import NoticeLedger.Money.Basic
import NoticeLedger.Store.Fault

/-!
# NoticeLedger.Failure

What goes wrong, and what the gateway is told about it.

* `Failure` — one failure: raised here, answered by the billing platform, or given from outside.
* `Failure.message` — a failure inside a sentence.
* `Failure.isWordless`, `Failure.wordless` — a failure that no sentence can hold, and what putting
  it into one comes to.
* `Disposition`, `Failure.disposition` — whether a failure asks for another delivery.
* `Failure.wrap` — the failure of one call to the outside, as a failure of known disposition.
* `Signal`, `signalOf` — what the gateway is told.
* `bind_eq_ok`, `map_eq_ok` — what gives something gives it from what its first part gave.
-/

namespace NoticeLedger

inductive Failure where
  | plain (message : String)
  -- a value used as what it is not: given from outside, or found here
  | misuse (message : String)
  | unforeseen (message : String)
  | invalidMoney (message : String)
  | platform (message : String) (code : Given) (status : Option Number)
  | refusedStatement (fault : TableFault)
  -- those with a disposition of their own
  | retryable (message : String) (operation : Option String) (cause : Option Failure)
  | benign (message : String) (operation : Option String) (code : Given) (cause : Option Failure)
  | malformed (message : String) (operation : Option String) (cause : Option Failure)
  -- what a batch or a request is answered with
  | unreadable (message : String) (violations : List String)
  | refused (status : Nat) (response : Json)
  | value (v : Json)
  deriving Inhabited

inductive Disposition where
  | retryable
  | benign
  | fatal
  deriving DecidableEq, Repr

def Disposition.name : Disposition → String
  | retryable => "retryable"
  | benign => "benign"
  | fatal => "fatal"

namespace Failure

def message : Failure → String
  | plain m => m
  | misuse m => m
  | unforeseen m => m
  | invalidMoney m => m
  | platform m _ _ => m
  | refusedStatement fault => fault.message
  | retryable m _ _ => m
  | benign m _ _ _ => m
  | malformed m _ _ => m
  | unreadable m _ => m
  | refused _ _ => "Http Exception"
  | value v => v.display

def isWordless : Failure → Bool
  | value v => v.isWordless
  | _ => false

/-- The failure of putting one without words into a sentence. -/
def wordless : Failure := unforeseen "Cannot convert object to primitive value"

def isClassified : Failure → Bool
  | retryable .. => true
  | benign .. => true
  | malformed .. => true
  | _ => false

/-- How a failure counts; one without a disposition of its own may pass with another delivery. -/
def disposition : Failure → Disposition
  | benign .. => .benign
  | malformed .. => .fatal
  | _ => .retryable

def operation? : Failure → Option String
  | retryable _ op _ => op
  | benign _ op _ _ => op
  | malformed _ op _ => op
  | _ => none

/-- A bare value that counts as absent does not come to pass. -/
def isRaised : Failure → Bool
  | value v => v.isTruthy
  | _ => true

def ofRefusal (refusal : Money.Refusal) : Failure :=
  match refusal.message with
  | some m => invalidMoney m
  | none => unforeseen "(currency ?? \"\").trim is not a function"

/-- The failure of a call to the outside. One with a disposition stays as it is; an answer of the
platform with one of the given codes needs no action; anything else may pass with another
delivery. One without words fails once more where its sentence is made. -/
def wrap (operation : String) (benignCodes : List String) (failure : Failure) : Failure :=
  if failure.isClassified then failure
  else
    match failure with
    | platform m (some (.text code)) _ =>
      if benignCodes.contains code then
        benign s!"{operation}: {m}" (some operation) (some (.text code)) (some failure)
      else retryable s!"{operation} failed: {m}" (some operation) (some failure)
    | _ =>
      if failure.isWordless then wordless
      else retryable s!"{operation} failed: {failure.message}" (some operation) (some failure)

end Failure

structure Signal where
  accepted : Bool
  retryRequested : Bool
  deriving DecidableEq, Repr

/-- What the gateway is told: it is asked for another delivery exactly when a failure may pass
with one. -/
def signalOf (failure : Option Failure) : Signal :=
  match failure with
  | none => ⟨true, false⟩
  | some f => let retry := f.disposition = .retryable; ⟨!retry, retry⟩

/-! ## Results -/

section Results

variable {α β : Type} {x : Except Failure α} {b : β}

theorem bind_eq_ok {f : α → Except Failure β} (h : (x >>= f) = .ok b) :
    ∃ a, x = .ok a ∧ f a = .ok b := by
  cases x with
  | error e => exact nomatch h
  | ok a => exact ⟨a, rfl, h⟩

theorem map_eq_ok {f : α → β} (h : x.map f = .ok b) : ∃ a, x = .ok a ∧ f a = b := by
  cases x with
  | error e => exact nomatch h
  | ok a => exact ⟨a, rfl, Except.ok.inj h⟩

end Results

end NoticeLedger
