import NoticeLedger.Ledger.Book
import NoticeLedger.Ledger.Remote

/-!
# NoticeLedger.Platform

A billing platform of either kind.

* `Platform` — a ledger in memory, or one that is reached by requests.
* one function per operation, each that of the kind: its answer, and the platform after it.
-/

namespace NoticeLedger

inductive Platform where
  | book (b : Book)
  | remote (r : Remote)

namespace Platform

def getAccount (p : Platform) (id : Given) (context : CallContext) :
    Except Failure Account × Platform :=
  match p with
  | book b => let (answer, b) := b.getAccount id; (answer, book b)
  | remote r => let (answer, r) := r.getAccount id context; (answer, remote r)

def listPaymentMethods (p : Platform) (accountId : Given) (context : CallContext) :
    Except Failure (List PaymentMethod) × Platform :=
  match p with
  | book b => let (answer, b) := b.listPaymentMethods accountId; (answer, book b)
  | remote r => let (answer, r) := r.listPaymentMethods accountId context; (answer, remote r)

def reportState (p : Platform) (account : Account) (transactionId success : Given)
    (context : CallContext) : Except Failure Payment × Platform :=
  match p with
  | book b =>
    let (answer, b) := b.reportState account transactionId success context
    (answer, book b)
  | remote r =>
    let (answer, r) := r.reportState account transactionId success context
    (answer, remote r)

def createPurchase (p : Platform) (account : Account) (order : PurchaseOrder)
    (context : CallContext) : Except Failure Payment × Platform :=
  match p with
  | book b => let (answer, b) := b.createPurchase account order context; (answer, book b)
  | remote r => let (answer, r) := r.createPurchase account order context; (answer, remote r)

def createChargeback (p : Platform) (account : Account) (order : ChargebackOrder)
    (context : CallContext) : Except Failure Payment × Platform :=
  match p with
  | book b => let (answer, b) := b.createChargeback account order context; (answer, book b)
  | remote r => let (answer, r) := r.createChargeback account order context; (answer, remote r)

def isHealthy (p : Platform) : Except Failure Bool × Platform :=
  match p with
  | book b => (.ok true, book b)
  | remote r => let (healthy, r) := r.isHealthy; (healthy, remote r)

/-- Whether the platform does not answer until the wait for it is given up. -/
def keepsSilent : Platform → Bool
  | book _ => false
  | remote r => r.keepsSilent

def log : Platform → List Log.Line
  | book _ => []
  | remote r => r.log

/-- The platform with its lines taken away. -/
def quiet : Platform → Platform
  | book b => book b
  | remote r => remote { r with log := [] }

def isBook : Platform → Bool
  | book _ => true
  | remote _ => false

end Platform

end NoticeLedger
