import NoticeLedger.Notice.Basic

/-!
# NoticeLedger.Notice.Reader

Notices from loose members, and money from a notice.

* `Notice.Draft.ofMembers` — the properties of a notice from members that nobody checked.
* `Notice.money` — the money that a notice is about, for an operation that needs it.
-/

namespace NoticeLedger

namespace Notice

def Draft.ofMembers (m : Members) : Draft where
  eventCode := m.get? "eventCode"
  pspReference := m.get? "pspReference"
  earlierReference := m.get? "originalReference"
  merchantReference := m.get? "merchantReference"
  amount := m.get? "amount"
  success := m.get? "success"
  additionalData := m.get? "additionalData"
  eventDate := m.get? "eventDate"
  merchantAccountCode := m.get? "merchantAccountCode"
  operations := m.get? "operations"
  paymentMethod := m.get? "paymentMethod"
  reason := m.get? "reason"
  live := m.get? "live"

def ofMembers (m : Members) : Except Failure Notice :=
  create (.ofMembers m)

/-- The money that a notice is about. A notice without an amount, or with one that is no money, is
malformed. -/
def money (n : Notice) (operation : String) : Except Failure Money :=
  match n.amount with
  | none =>
    .error (.malformed s!"Notification {n.describe} carries no amount" (some operation) none)
  | some amount =>
    match Money.of (amount.get? "value") (amount.get? "currency") with
    | .ok m => .ok m
    | .error refusal =>
      match refusal.message with
      | none => .error (.ofRefusal refusal)
      | some reason =>
        let message := s!"Notification {n.describe} has an invalid amount: {reason}"
        .error (.malformed message (some operation) (some (.ofRefusal refusal)))

end Notice

end NoticeLedger
