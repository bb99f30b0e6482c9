import NoticeLedger.Proofs.Ledger.Replies
import NoticeLedger.Proofs.Ledger.Resolved

/-!
# NoticeLedger.Proofs.Ledger.Addresses

A request tells by its method and its address what it was sent for.

* `Errand` — what a platform is asked: a call for someone, or whether it is well.
* `Remote.after_requests` — errands send one request each, in order.
* `LedgerCall.Addressed` — the path of a call has the parts of its operation and no others, with the
  identifier encoded in one of them.
* `Errand.parts_inj` — the parts tell the operation and the identifier, for errands of one method.
* `Errand.SentAs`, `Errand.Dotted` — the method and the address that an errand is sent by, and one
  whose identifier is worked off when its address is resolved.
* `Remote.errands_told_apart` — so no two errands share a method and an address, unless they are of
  one operation and about one identifier, or one of them is dotted.
* `Remote.errands_sent_alike` — dots in an identifier, and a fragment in a base, do harm.
-/

namespace NoticeLedger

/-- The identifier that stands in the path of a call. -/
def LedgerCall.target : LedgerCall → Given
  | getAccount id => id
  | listPaymentMethods id => id
  | reportState _ id _ => id
  | createPurchase account _ => account.id
  | createChargeback _ order => order.paymentId

/-- The parts of the path of an operation, one of them a given segment. -/
def LedgerOperation.parts (segment : String) : LedgerOperation → List String
  | getAccount => ["accounts", segment]
  | listPaymentMethods => ["accounts", segment, "paymentMethods"]
  | reportState => ["paymentTransactions", segment, "state"]
  | createPurchase => ["accounts", segment, "payments"]
  | createChargeback => ["payments", segment, "chargebacks"]

def LedgerOperation.method : LedgerOperation → Method
  | getAccount => .get
  | listPaymentMethods => .get
  | reportState => .put
  | createPurchase => .post
  | createChargeback => .post

/-- What a platform is asked: a call for someone, or whether it is well. -/
inductive Errand where
  | call (c : LedgerCall) (context : CallContext)
  | health

namespace Errand

def operation? : Errand → Option LedgerOperation
  | call c _ => some c.operation
  | health => none

/-- The identifier of a call as its path shows it; one that is a text is shown as it is. -/
def target? : Errand → Option String
  | call c _ => some c.target.display
  | health => none

def request (e : Endpoint) : Errand → Request
  | call c context => e.request c.method c.path (some context) c.payload
  | health => e.request .get Endpoint.healthPath none none

/-- An errand is sent by a method and to an address. -/
def SentAs (endpoint : Endpoint) (e : Errand) (method : Method) (a : Address) : Prop :=
  (e.request endpoint).method = method ∧ (e.request endpoint).address? = some a

/-- The identifier is one that is worked off when an address is resolved. -/
def Dotted (e : Errand) : Prop :=
  e.target? = some "." ∨ e.target? = some ".."

instance (e : Errand) : Decidable e.Dotted :=
  inferInstanceAs (Decidable (_ ∨ _))

/-- The parts of the path of an errand. -/
def parts : Errand → List String
  | call c _ => c.operation.parts (LedgerCall.segment c.target)
  | health => ["healthcheck"]

def run (r : Remote) : Errand → Remote
  | call (.getAccount id) context => (r.getAccount id context).2
  | call (.listPaymentMethods id) context => (r.listPaymentMethods id context).2
  | call (.reportState account id success) context =>
    (r.reportState account id success context).2
  | call (.createPurchase account order) context => (r.createPurchase account order context).2
  | call (.createChargeback account order) context =>
    (r.createChargeback account order context).2
  | health => r.isHealthy.2

end Errand

/-! ## What is sent -/

namespace Remote

def after (r : Remote) (errands : List Errand) : Remote :=
  errands.foldl Errand.run r

theorem isHealthy_sends (r : Remote) :
    r.isHealthy.2.requests =
        r.requests ++ [r.endpoint.request .get Endpoint.healthPath none none] ∧
      r.isHealthy.2.endpoint = r.endpoint := by
  simp only [isHealthy, send]
  cases replyOf r.replies.head? with
  | ok reply => exact ⟨rfl, rfl⟩
  | error f =>
    dsimp only
    split
    · exact ⟨rfl, rfl⟩
    · exact ⟨rfl, rfl⟩

theorem run_sends (r : Remote) (e : Errand) :
    (e.run r).requests = r.requests ++ [e.request r.endpoint] ∧
      (e.run r).endpoint = r.endpoint := by
  have hcall (c : LedgerCall) (context : CallContext) :
      (r.exchange c context).2.requests =
          r.requests ++ [(Errand.call c context).request r.endpoint] ∧
        (r.exchange c context).2.endpoint = r.endpoint := by
    obtain ⟨hrequests, -, hendpoint⟩ := r.exchange_sends c context
    exact ⟨hrequests, hendpoint⟩
  cases e with
  | health => exact r.isHealthy_sends
  | call c context => cases c <;> exact hcall _ context

/-- Errands send one request each, in order. -/
theorem after_requests (r : Remote) (errands : List Errand) :
    (r.after errands).requests = r.requests ++ errands.map (Errand.request r.endpoint) := by
  induction errands generalizing r with
  | nil => exact (List.append_nil _).symm
  | cons e errands ih =>
    obtain ⟨hrequests, hendpoint⟩ := r.run_sends e
    have hcons : r.after (e :: errands) = (e.run r).after errands := rfl
    rw [hcons, ih, hrequests, hendpoint, List.map_cons, List.append_assoc, List.singleton_append]

end Remote

/-! ## Paths -/

namespace LedgerOperation

theorem undivided_parts {segment : String} (h : Text.Undivided '/' segment)
    (op : LedgerOperation) : ∀ p ∈ op.parts segment, Text.Undivided '/' p := by
  cases op <;> simp only [parts, List.forall_mem_cons, h, true_and] <;> decide

theorem kept_parts {segment : String} (h : Address.IsKept segment) (op : LedgerOperation) :
    ∀ p ∈ op.parts segment, Address.IsKept p := by
  cases op with
  | getAccount =>
    exact List.forall_mem_cons.mpr
      ⟨Address.isKept_of_isAlphanum rfl, List.forall_mem_singleton.mpr h⟩
  | _ =>
    exact List.forall_mem_cons.mpr ⟨Address.isKept_of_isAlphanum rfl, List.forall_mem_cons.mpr
      ⟨h, List.forall_mem_singleton.mpr (Address.isKept_of_isAlphanum rfl)⟩⟩

/-- Of operations of one method the parts tell which one it is, whatever the segment. -/
theorem parts_inj {op op' : LedgerOperation} {segment segment' : String}
    (hmethod : op.method = op'.method) (h : op.parts segment = op'.parts segment') :
    op = op' ∧ segment = segment' := by
  cases op <;> cases op' <;> simp_all [method, parts]

end LedgerOperation

namespace LedgerCall

theorem method_eq (c : LedgerCall) : c.method = c.operation.method := by
  cases c <;> rfl

theorem intercalate_pair (word segment : String) :
    "/".intercalate ["", word, segment] = "/" ++ word ++ "/" ++ segment := by
  simp only [String.intercalate_cons_cons, String.intercalate_singleton, String.empty_append,
    String.append_assoc]

theorem intercalate_triple (word segment last : String) :
    "/".intercalate ["", word, segment, last] =
      "/" ++ word ++ "/" ++ segment ++ ("/" ++ last) := by
  simp only [String.intercalate_cons_cons, String.intercalate_singleton, String.empty_append,
    String.append_assoc]

theorem path_eq (c : LedgerCall) :
    c.path = "/".intercalate ("" :: c.operation.parts (segment c.target)) := by
  cases c with
  | getAccount id => exact (intercalate_pair "accounts" _).symm
  | listPaymentMethods id => exact (intercalate_triple "accounts" _ "paymentMethods").symm
  | reportState account id success =>
    exact (intercalate_triple "paymentTransactions" _ "state").symm
  | createPurchase account order => exact (intercalate_triple "accounts" _ "payments").symm
  | createChargeback account order => exact (intercalate_triple "payments" _ "chargebacks").symm

/-- A reserved character does not stand in the segment of an identifier. -/
theorem not_mem_segment {c : Char} (h : Text.isUnreserved c = false) (hmark : c ≠ '%')
    (id : Given) : c ∉ (segment id).toList :=
  Text.not_mem_encodeSegment h hmark id.display

theorem undivided_segment (id : Given) : Text.Undivided '/' (segment id) :=
  not_mem_segment (by decide) (by decide) id

theorem segment_inj {id id' : Given} (h : segment id = segment id') : id.display = id'.display :=
  Text.encodeSegment_injective h

/-- How the path of a call is made: it has the parts of its operation and no others. One of them is
a segment without any character that has a meaning of its own in an address, and it is decoded to
the identifier. -/
structure Addressed (c : LedgerCall) : Prop where
  parts : Text.parts '/' c.path = "" :: c.operation.parts (segment c.target)
  slash : '/' ∉ (segment c.target).toList
  question : '?' ∉ (segment c.target).toList
  hash : '#' ∉ (segment c.target).toList
  decoded : Text.decodeSegment? (segment c.target) = some c.target.display

end LedgerCall

namespace Errand

theorem request_url (endpoint : Endpoint) (e : Errand) :
    (e.request endpoint).url = endpoint.base ++ "/".intercalate ("" :: e.parts) := by
  cases e with
  | call c context => exact congrArg (endpoint.base ++ ·) c.path_eq
  | health => rfl

/-- Of errands of one method the parts tell the operation and the identifier. -/
theorem parts_inj {endpoint : Endpoint} {e e' : Errand}
    (hmethod : (e.request endpoint).method = (e'.request endpoint).method)
    (hparts : e.parts = e'.parts) : e.operation? = e'.operation? ∧ e.target? = e'.target? := by
  have hhealth (c : LedgerCall) :
      c.operation.parts (LedgerCall.segment c.target) ≠ ["healthcheck"] := by
    cases c <;> exact fun h => nomatch congrArg List.length h
  cases e with
  | call c context =>
    cases e' with
    | call c' context' =>
      have hoperation : c.operation.method = c'.operation.method := by
        rw [← c.method_eq, ← c'.method_eq]
        exact hmethod
      obtain ⟨hsame, hsegment⟩ := LedgerOperation.parts_inj hoperation hparts
      exact ⟨congrArg some hsame, congrArg some (LedgerCall.segment_inj hsegment)⟩
    | health => exact absurd hparts (hhealth c)
  | health =>
    cases e' with
    | call c' context' => exact absurd hparts.symm (hhealth c')
    | health => exact ⟨rfl, rfl⟩

/-- What a request is addressed to depends on the operation and on the identifier only. -/
theorem request_congr {endpoint : Endpoint} {e e' : Errand}
    (hoperation : e.operation? = e'.operation?) (htarget : e.target? = e'.target?) :
    (e.request endpoint).method = (e'.request endpoint).method ∧ e.parts = e'.parts := by
  cases e with
  | call c context =>
    cases e' with
    | call c' context' =>
      have hsame : c.operation = c'.operation := Option.some.inj hoperation
      have hsegment : LedgerCall.segment c.target = LedgerCall.segment c'.target :=
        congrArg Text.encodeSegment (Option.some.inj htarget)
      refine ⟨?_, ?_⟩
      · show c.method = c'.method
        rw [c.method_eq, c'.method_eq, hsame]
      · rw [parts, parts, hsame, hsegment]
    | health => exact nomatch hoperation
  | health =>
    cases e' with
    | call c' context' => exact nomatch hoperation
    | health => exact ⟨rfl, rfl⟩

end Errand

theorem LedgerCall.addressed (c : LedgerCall) : c.Addressed where
  parts := by
    rw [path_eq]
    exact Text.parts_intercalate
      (List.forall_mem_cons.mpr
        ⟨by decide, LedgerOperation.undivided_parts (undivided_segment c.target) c.operation⟩)
      (List.cons_ne_nil _ _)
  slash := undivided_segment c.target
  question := not_mem_segment (by decide) (by decide) c.target
  hash := not_mem_segment (by decide) (by decide) c.target
  decoded := Text.decodeSegment?_encodeSegment c.target.display

namespace Errand

variable {endpoint : Endpoint} {e e' : Errand} {method : Method} {a : Address}

/-- The words that the paths of calls start with. -/
def words : List String := ["accounts", "paymentTransactions", "payments"]

theorem call_parts (c : LedgerCall) (context : CallContext) :
    ∃ w rest, (call c context).parts = w :: rest ∧ w ∈ words ∧ rest ≠ [] := by
  cases c <;> exact ⟨_, _, rfl, by decide, List.cons_ne_nil _ _⟩

theorem words_inj {w w' : String} (h : w ∈ words) (h' : w' ∈ words)
    (heq : w.toLower = w'.toLower) : w = w' := by
  have hwords : (words.map String.toLower).Nodup := by decide +kernel
  exact List.inj_on_of_nodup_map hwords h h' heq

theorem words_ne {w : String} (h : w ∈ words) :
    w ≠ "" ∧ w.toLower ≠ "healthcheck".toLower := by
  have hwords : ∀ w ∈ words, w ≠ "" ∧ w.toLower ≠ "healthcheck".toLower := by decide +kernel
  exact hwords w h

theorem kept (h : ¬ e.Dotted) : Address.Kept e.parts := by
  cases e with
  | health =>
    exact ⟨⟨_, _, rfl, by decide⟩,
      List.forall_mem_singleton.mpr (Address.isKept_of_isAlphanum rfl)⟩
  | call c context =>
    obtain ⟨w, rest, hparts, hw, -⟩ := call_parts c context
    refine ⟨⟨w, rest, hparts, (words_ne hw).1⟩, LedgerOperation.kept_parts ?_ c.operation⟩
    exact Address.isKept_encodeSegment (fun hdot => h (.inl (congrArg some hdot)))
      fun hdots => h (.inr (congrArg some hdots))

theorem address?_eq (endpoint : Endpoint) (e : Errand) : (e.request endpoint).address? =
    Address.ofUrl? (endpoint.base ++ "/".intercalate ("" :: e.parts)) := by
  rw [Request.address?, request_url]

/-- What the address of a base tells of the parts is all that there is to tell. -/
theorem parts_of_tail (h : ¬ e.Dotted) (h' : ¬ e'.Dotted)
    (hhead : e.parts.head?.map String.toLower = e'.parts.head?.map String.toLower)
    (htail : Address.resolve [] e.parts.tail = Address.resolve [] e'.parts.tail) :
    e.parts = e'.parts := by
  cases e with
  | health =>
    cases e' with
    | health => rfl
    | call c context =>
      obtain ⟨w, rest, hparts, hw, -⟩ := call_parts c context
      rw [hparts] at hhead
      exact absurd (Option.some.inj hhead).symm (words_ne hw).2
  | call c context =>
    obtain ⟨w, rest, hparts, hw, hrest⟩ := call_parts c context
    have hkept := (kept h).segments
    rw [hparts] at hhead htail hkept
    cases e' with
    | health => exact absurd (Option.some.inj hhead) (words_ne hw).2
    | call c' context' =>
      obtain ⟨w', rest', hparts', hw', hrest'⟩ := call_parts c' context'
      have hkept' := (kept h').segments
      rw [hparts'] at hhead htail hkept'
      have hsame : Address.resolve [] rest = Address.resolve [] rest' := htail
      rw [Address.resolve_kept hrest (List.forall_mem_cons.mp hkept).2,
        Address.resolve_kept hrest' (List.forall_mem_cons.mp hkept').2] at hsame
      rw [hparts, hparts', words_inj hw hw' (Option.some.inj hhead),
        List.append_cancel_left hsame]

theorem parts_of_address (hbase : '#' ∉ endpoint.base.toList) (h : ¬ e.Dotted) (h' : ¬ e'.Dotted)
    (ha : (e.request endpoint).address? = some a) (ha' : (e'.request endpoint).address? = some a) :
    e.parts = e'.parts := by
  rw [address?_eq] at ha ha'
  obtain ⟨hhead, htail⟩ := (Address.slot hbase).told_apart (kept h) (kept h') ha ha'
  exact parts_of_tail h h' hhead htail

/-- Errands are sent alike exactly if they are of one operation and about one identifier. -/
theorem sentAs_iff (hbase : '#' ∉ endpoint.base.toList) (h : ¬ e.Dotted) (h' : ¬ e'.Dotted)
    (hsent : e.SentAs endpoint method a) :
    e'.SentAs endpoint method a ↔ e.operation? = e'.operation? ∧ e.target? = e'.target? := by
  obtain ⟨hmethod, ha⟩ := hsent
  constructor
  · rintro ⟨hmethod', ha'⟩
    exact parts_inj (hmethod.trans hmethod'.symm) (parts_of_address hbase h h' ha ha')
  · rintro ⟨hoperation, htarget⟩
    obtain ⟨hsame, hparts⟩ : (e.request endpoint).method = (e'.request endpoint).method ∧
        e.parts = e'.parts := request_congr hoperation htarget
    rw [address?_eq, hparts, ← address?_eq] at ha
    exact ⟨hsame.symm.trans hmethod, ha⟩

end Errand

theorem Endpoint.mem_base {endpoint : Endpoint} {c : Char} (h : c ∈ endpoint.base.toList) :
    c ∈ endpoint.baseUrl.toList := by
  rw [base, String.toList_ofList, List.mem_reverse] at h
  exact List.mem_reverse.mp (List.dropWhile_subset _ h)

/-- **Requests are told apart.** Whatever a platform is asked, one request is made for each errand,
and the path of a call has one segment for the identifier, from which it can be read. Behind a base
without a fragment, and if no identifier is worked off as dots, the path is found again in the
address that the request is sent to, and two errands are sent by one method to one address exactly
if they are of one operation and about one identifier. -/
theorem Remote.errands_told_apart (r : Remote) :
    (∀ errands : List Errand,
      (r.after errands).requests = r.requests ++ errands.map (Errand.request r.endpoint)) ∧
    (∀ (c : LedgerCall) (context : CallContext),
      ((Errand.call c context).request r.endpoint).url = r.endpoint.base ++ c.path ∧
        c.Addressed) ∧
    ('#' ∉ r.endpoint.baseUrl.toList →
      (∀ (c : LedgerCall) (context : CallContext) (method : Method) (a : Address),
        ¬ (Errand.call c context).Dotted → (Errand.call c context).SentAs r.endpoint method a →
        a.EndsWith (c.operation.parts (LedgerCall.segment c.target))) ∧
      ∀ (e e' : Errand) (method : Method) (a : Address), ¬ e.Dotted → ¬ e'.Dotted →
        e.SentAs r.endpoint method a →
        (e'.SentAs r.endpoint method a ↔
          e.operation? = e'.operation? ∧ e.target? = e'.target?)) := by
  refine ⟨r.after_requests, fun c _ => ⟨rfl, c.addressed⟩, fun hbase => ?_⟩
  have hbase : '#' ∉ r.endpoint.base.toList := fun h => hbase (Endpoint.mem_base h)
  refine ⟨fun c context method a hd hsent => ?_,
    fun e e' method a h h' hsent => Errand.sentAs_iff hbase h h' hsent⟩
  obtain ⟨w, rest, hparts, -, hrest⟩ := Errand.call_parts c context
  obtain ⟨-, ha⟩ := hsent
  rw [Errand.address?_eq] at ha
  have htail : (Errand.call c context).parts.tail ≠ [] := by
    rw [hparts]
    exact hrest
  exact (Address.slot hbase).endsWith (Errand.kept hd) htail ha

namespace Sample

def behind (baseUrl : String) : Remote where
  endpoint := { baseUrl := baseUrl, apiKey := "key", apiSecret := "secret" }

def accountErrand (id : String) : Errand :=
  .call (.getAccount (.text id)) ⟨.text "tenant-1", .text "tester", none, ⟨0⟩⟩

def methodsErrand (id : String) : Errand :=
  .call (.listPaymentMethods (.text id)) ⟨.text "tenant-1", .text "tester", none, ⟨0⟩⟩

end Sample

/-- An identifier that looks like a longer path is not sent as one. -/
theorem Remote.errands_told_apart_sample :
    '#' ∉ (Sample.behind "http://billing.test/").endpoint.baseUrl.toList ∧
    ∃ a, (Sample.methodsErrand "a").SentAs (Sample.behind "http://billing.test/").endpoint .get a ∧
      ¬ (Sample.accountErrand "a/paymentMethods").SentAs
        (Sample.behind "http://billing.test/").endpoint .get a := by
  have hbase : '#' ∉ (Sample.behind "http://billing.test/").endpoint.baseUrl.toList := by decide
  obtain ⟨-, -, hsentApart⟩ := (Sample.behind "http://billing.test/").errands_told_apart
  obtain ⟨-, happart⟩ := hsentApart hbase
  have hsent : (Sample.methodsErrand "a").SentAs (Sample.behind "http://billing.test/").endpoint
    .get ⟨false, "billing.test", ["accounts", "a", "paymentMethods"], none⟩ :=
      ⟨rfl, by decide +kernel⟩
  refine ⟨hbase, _, hsent, fun hsent' => ?_⟩
  have hsame := (happart _ _ _ _ (by decide) (by decide) hsent).mp hsent'
  exact absurd hsame.1 (by decide)

/-- Errands about an identifier of one dot are sent as others are; a base with a fragment has one
address for all errands; and two dots lead out of the path. -/
theorem Remote.errands_sent_alike :
    (¬ ∀ (r : Remote) (e e' : Errand) (method : Method) (a : Address),
      '#' ∉ r.endpoint.baseUrl.toList → e.SentAs r.endpoint method a →
      e'.SentAs r.endpoint method a →
      e.operation? = e'.operation? ∧ e.target? = e'.target?) ∧
    (¬ ∀ (r : Remote) (e e' : Errand) (method : Method) (a : Address),
      ¬ e.Dotted → ¬ e'.Dotted → e.SentAs r.endpoint method a →
      e'.SentAs r.endpoint method a →
      e.operation? = e'.operation? ∧ e.target? = e'.target?) ∧
    (Sample.methodsErrand "..").SentAs (Sample.behind "http://billing.test").endpoint .get
      ⟨false, "billing.test", ["paymentMethods"], none⟩ := by
  refine ⟨fun h => ?_, fun h => ?_, rfl, by decide +kernel⟩
  · have hsame := h (Sample.behind "http://billing.test") (Sample.methodsErrand ".")
      (Sample.accountErrand "paymentMethods") .get
      ⟨false, "billing.test", ["accounts", "paymentMethods"], none⟩ (by decide)
      ⟨rfl, by decide +kernel⟩ ⟨rfl, by decide +kernel⟩
    exact absurd hsame.1 (by decide)
  · have hsame := h (Sample.behind "http://billing.test/#") (Sample.accountErrand "a")
      (Sample.accountErrand "b") .get ⟨false, "billing.test", [""], none⟩ (by decide) (by decide)
      ⟨rfl, by decide +kernel⟩ ⟨rfl, by decide +kernel⟩
    exact absurd hsame.2 (by decide)

/-- An identifier that looks like a longer path takes one segment all the same. -/
example : (LedgerCall.getAccount (.text "a/paymentMethods")).path =
    "/accounts/a%2FpaymentMethods" := rfl

end NoticeLedger
