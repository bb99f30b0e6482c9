import NoticeLedger.Failure
import NoticeLedger.Keyed
import NoticeLedger.Ledger.Call

/-!
# NoticeLedger.Ledger.Book

A billing platform that keeps its ledger in memory and remembers how it was called.

* `Book` — accounts, payment methods and payments, and the operations that are made to fail.
* one function per operation: its answer, and the book after it. Every call is remembered, one
  that fails as well.
* `Book.addAccount`, `addPaymentMethod`, `addPayment`, `failOn`, `restore` — what rehearsals need
  besides.

Identifiers are numbered for each kind of entry.
-/

namespace NoticeLedger

structure PurchaseRecord where
  accountId : Given
  order : PurchaseOrder
  context : CallContext
  paymentId : Given

structure ChargebackRecord where
  accountId : Given
  order : ChargebackOrder
  context : CallContext

structure StateRecord where
  accountId : Given
  transactionId : Given
  success : Given
  context : CallContext

/-- A ledger in memory. Its payments are told apart by their identifiers. -/
structure Book where
  accounts : List Account := []
  methods : List PaymentMethod := []
  payments : List Payment := []
  distinct : (payments.map Payment.id).Nodup := by decide
  failures : LedgerOperation → Option Failure := fun _ => none
  paymentCount : Nat := 0
  transactionCount : Nat := 0
  methodCount : Nat := 0
  calls : List LedgerOperation := []
  purchases : List PurchaseRecord := []
  chargebacks : List ChargebackRecord := []
  stateChanges : List StateRecord := []

namespace Book

/-- The failure that an operation is made to have. -/
def failure? (b : Book) (op : LedgerOperation) : Option Failure :=
  (b.failures op).filter Failure.isRaised

def called (b : Book) (op : LedgerOperation) : Book :=
  { b with calls := b.calls ++ [op] }

/-- One call of an operation, which fails without effect if it is made to fail. -/
def call {α : Type} (b : Book) (op : LedgerOperation)
    (answer : Book → Except Failure α × Book) : Except Failure α × Book :=
  let b := b.called op
  match b.failure? op with
  | some f => (.error f, b)
  | none => answer b

def findAccount (b : Book) (id : Given) : Option Account :=
  Keyed.find? Account.id b.accounts id

def findPayment (b : Book) (id : Given) : Option Payment :=
  Keyed.find? Payment.id b.payments id

def transactionOf (id : Given) (p : Payment) : Option Transaction :=
  Keyed.find? Transaction.id p.transactions id

/-- A transaction, and the first payment that has it. -/
def findTransaction (b : Book) (id : Given) : Option (Payment × Transaction) :=
  b.payments.findSome? fun p => (transactionOf id p).map fun t => (p, t)

def getAccount (b : Book) (id : Given) : Except Failure Account × Book :=
  b.call .getAccount fun b =>
    match b.findAccount id with
    | some account => (.ok account, b)
    | none =>
      (.error (.platform s!"Account {id.display} does not exist"
        (some (.text PlatformCode.noAccount)) (some 404)), b)

def listPaymentMethods (b : Book) (accountId : Given) :
    Except Failure (List PaymentMethod) × Book :=
  b.call .listPaymentMethods fun b =>
    (.ok (b.methods.filter (·.accountId == accountId)), b)

def settled (t : Transaction) (success : Given) : Transaction :=
  let status : TransactionStatus := if success.isTruthy then .success else .paymentFailure
  { t with status := status.given }

/-- The transactions with the first one of an identifier changed. -/
def changeFirst (id : Given) (change : Transaction → Transaction) :
    List Transaction → List Transaction
  | [] => []
  | t :: ts => if t.id = id then change t :: ts else t :: changeFirst id change ts

/-- The state of a pending transaction moves to success or failure. -/
def settle (b : Book) (id success : Given) : Except Failure Payment × Book :=
  match b.findTransaction id with
  | none =>
    (.error (.platform s!"Transaction {id.display} does not exist"
      (some (.text PlatformCode.noTransaction)) (some 404)), b)
  | some (p, t) =>
    if t.status = TransactionStatus.pending.given then
      let p := { p with transactions := changeFirst id (settled · success) p.transactions }
      (.ok p,
        { b with
          payments := Keyed.put Payment.id b.payments p
          distinct := Keyed.nodup_put Payment.id p b.distinct })
    else
      (.error (.platform s!"Transaction {id.display} is not pending"
        (some (.text PlatformCode.notPending)) (some 409)), b)

def reportState (b : Book) (account : Account) (transactionId success : Given)
    (context : CallContext) : Except Failure Payment × Book :=
  b.call .reportState fun b =>
    let record : StateRecord := ⟨account.id, transactionId, success, context⟩
    { b with stateChanges := b.stateChanges ++ [record] }.settle transactionId success

def purchased (b : Book) (account : Account) (order : PurchaseOrder) : Payment :=
  let paymentId : Given := .text s!"payment-{b.paymentCount + 1}"
  { id := paymentId
    accountId := account.id
    paymentMethodId := order.paymentMethodId
    externalKey := order.externalKey
    transactions :=
      [{ id := .text s!"transaction-{b.transactionCount + 1}"
         paymentId := paymentId
         externalKey := order.transactionExternalKey
         kind := TransactionKind.purchase.given
         status := TransactionStatus.success.given
         amount := .text order.amount.decimal
         currency := .text order.amount.currency.code }] }

def createPurchase (b : Book) (account : Account) (order : PurchaseOrder)
    (context : CallContext) : Except Failure Payment × Book :=
  b.call .createPurchase fun b =>
    let payment := b.purchased account order
    let record : PurchaseRecord := ⟨account.id, order, context, payment.id⟩
    (.ok payment,
      { b with
        payments := Keyed.put Payment.id b.payments payment
        distinct := Keyed.nodup_put Payment.id payment b.distinct
        paymentCount := b.paymentCount + 1
        transactionCount := b.transactionCount + 1
        purchases := b.purchases ++ [record] })

def chargedBack (b : Book) (order : ChargebackOrder) : Transaction where
  id := .text s!"transaction-{b.transactionCount + 1}"
  paymentId := order.paymentId
  kind := TransactionKind.chargeback.given
  status := TransactionStatus.success.given
  amount := .text order.amount.decimal
  currency := .text order.amount.currency.code

def createChargeback (b : Book) (account : Account) (order : ChargebackOrder)
    (context : CallContext) : Except Failure Payment × Book :=
  b.call .createChargeback fun b =>
    let record : ChargebackRecord := ⟨account.id, order, context⟩
    let b := { b with chargebacks := b.chargebacks ++ [record] }
    match b.findPayment order.paymentId with
    | none =>
      (.error (.platform s!"Payment {order.paymentId.display} does not exist"
        (some (.text PlatformCode.noPayment)) (some 404)), b)
    | some p =>
      let p := { p with transactions := p.transactions ++ [b.chargedBack order] }
      (.ok p,
        { b with
          payments := Keyed.put Payment.id b.payments p
          distinct := Keyed.nodup_put Payment.id p b.distinct
          transactionCount := b.transactionCount + 1 })

def addAccount (b : Book) (account : Account) : Book :=
  { b with accounts := Keyed.put Account.id b.accounts account }

def nextMethodId (b : Book) : String :=
  s!"payment-method-{b.methodCount + 1}"

/-- Adds a payment method; one without an identifier gets the next one, which counts either
way. -/
def addPaymentMethod (b : Book) (method : PaymentMethod) : Book :=
  { b with methods := b.methods ++ [method], methodCount := b.methodCount + 1 }

def addPayment (b : Book) (payment : Payment) : Book :=
  { b with
    payments := Keyed.put Payment.id b.payments payment
    distinct := Keyed.nodup_put Payment.id payment b.distinct }

/-- Makes an operation fail until `restore`. -/
def failOn (b : Book) (op : LedgerOperation) (failure : Option Failure) : Book :=
  let failure := failure.getD
    (.platform s!"Simulated {op.name} failure" (some (.text PlatformCode.unknown)) (some 500))
  { b with failures := fun o => if o = op then some failure else b.failures o }

def restore (b : Book) : Book :=
  { b with failures := fun _ => none }

end Book

end NoticeLedger
