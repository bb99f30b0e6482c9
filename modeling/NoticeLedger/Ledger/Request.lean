import NoticeLedger.Ledger.Call
import NoticeLedger.Text.Percent

/-!
# NoticeLedger.Ledger.Request

The requests that calls of a billing platform are sent as.

* `Endpoint` — where a platform is reached, and with which credentials.
* `Endpoint.headers` — the headers of a request.
* `LedgerCall.method`, `path`, `payload` — the parts of a call's request.
* `Endpoint.request` — a request.

An identifier takes one segment of a path and nothing more.
-/

namespace NoticeLedger

structure Endpoint where
  baseUrl : String
  apiKey : String
  apiSecret : String
  customHeaders : Members := []

inductive Method where
  | get
  | post
  | put
  deriving DecidableEq, Repr

def Method.name : Method → String
  | get => "GET"
  | post => "POST"
  | put => "PUT"

/-- A request as it is handed over to be sent. -/
structure Request where
  method : Method
  url : String
  headers : Members
  body : Option Json

namespace LedgerCall

def method : LedgerCall → Method
  | getAccount _ => .get
  | listPaymentMethods _ => .get
  | reportState .. => .put
  | createPurchase .. => .post
  | createChargeback .. => .post

def segment (id : Given) : String :=
  Text.encodeSegment id.display

def path : LedgerCall → String
  | getAccount id => "/accounts/" ++ segment id
  | listPaymentMethods id => "/accounts/" ++ segment id ++ "/paymentMethods"
  | reportState _ id _ => "/paymentTransactions/" ++ segment id ++ "/state"
  | createPurchase account _ => "/accounts/" ++ segment account.id ++ "/payments"
  | createChargeback _ order => "/payments/" ++ segment order.paymentId ++ "/chargebacks"

def member? (name : String) (value : Given) : Members :=
  (value.map fun v => (name, v)).toList

def property (p : Property) : Json :=
  .object (("key", .text p.key) :: member? "value" p.value)

/-- What a call sends besides its path. -/
def payload : LedgerCall → Option Json
  | getAccount _ => none
  | listPaymentMethods _ => none
  | reportState account _ success =>
    some (.object (member? "accountId" account.id ++ member? "success" success))
  | createPurchase _ order =>
    some (.object (
      [("transactionType", .text TransactionKind.purchase.name)] ++
      member? "paymentMethodId" order.paymentMethodId ++
      [ ("amount", .text order.amount.decimal),
        ("currency", .text order.amount.currency.code) ] ++
      member? "paymentExternalKey" order.externalKey ++
      member? "transactionExternalKey" order.transactionExternalKey ++
      [("pluginProperties", .array (order.properties.map property))]))
  | createChargeback account order =>
    some (.object (
      member? "accountId" account.id ++
      [ ("amount", .text order.amount.decimal),
        ("currency", .text order.amount.currency.code) ] ++
      member? "reason" order.reason))

end LedgerCall

namespace Endpoint

/-- The address that paths are put behind: the base without slashes at its end. -/
def base (e : Endpoint) : String :=
  String.ofList (e.baseUrl.toList.reverse.dropWhile (· == '/')).reverse

def credentials (e : Endpoint) : Members :=
  [ ("X-Api-Key", .text e.apiKey),
    ("X-Api-Secret", .text e.apiSecret),
    ("Content-Type", .text "application/json"),
    ("Accept", .text "application/json") ]

def contextHeaders (c : CallContext) : List (String × Given) :=
  let reason := if c.reasonCode.isTruthy then [("X-Reason", c.reasonCode)] else []
  [("X-Tenant-Id", c.tenantId), ("X-Created-By", c.userName)] ++ reason

/-- The headers of a request. Custom ones go over the credentials, and the context over both. -/
def headers (e : Endpoint) (context : Option CallContext) : Members :=
  let own := Members.merge e.credentials e.customHeaders
  match context with
  | some c => own.update (contextHeaders c)
  | none => own

def request (e : Endpoint) (method : Method) (path : String) (context : Option CallContext)
    (payload : Option Json) : Request where
  method := method
  url := e.base ++ path
  headers := e.headers context
  body := payload

/-- The path that tells whether a platform is well. -/
def healthPath : String := "/healthcheck"

end Endpoint

end NoticeLedger
