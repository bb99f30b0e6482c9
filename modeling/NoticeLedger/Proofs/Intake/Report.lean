import NoticeLedger.Proofs.Form.Faults
import NoticeLedger.Proofs.Intake.Parse

/-!
# NoticeLedger.Proofs.Intake.Report

What the refusal of a batch says.

* `parse_invalid` — which batches are refused as invalid, and with which texts.
* `parse_reported` — the texts say exactly what is wrong with the batch as it was read.
-/

namespace NoticeLedger.Batch

open Form

theorem form_wellNamed : form.WellNamed := by
  decide

/-- Whatever is wrong with a batch that meets its form, it is not refused as invalid. -/
theorem noticesOf_ne_invalid {max : Option Number} {sent read : Members} {texts : List String}
    (hr : form.readMembers sent = .ok read) (hm : form.Meets read) :
    noticesOf max read ≠ .error (.unreadable "Invalid notification batch" texts) := by
  intro h
  obtain ⟨items, items', -, hread, hitems, hwithin⟩ := items_read hr hm
  by_cases ha : Admits max items'.length
  · obtain ⟨live, hn⟩ := noticesOf_of_admits hread ha
    rw [hn] at h
    rcases mapM_noticeOfItem hitems hwithin live with ⟨-, message, he⟩ | ⟨notices, hok, -⟩
    · rw [he] at h
      cases h
    · rw [hok] at h
      cases h
  · unfold noticesOf at h
    rw [hread] at h
    cases max with
    | none => exact ha nofun
    | some limit =>
      have hlimit : limit < Number.ofInt items'.length := by
        by_contra hnot
        exact ha fun _ hl => Option.some.inj hl ▸ hnot
      have hbatch := (if_pos hlimit).symm.trans h
      have hmessage := (Failure.unreadable.inj (Except.error.inj hbatch)).1
      have hstart := congrArg (fun s => s.toList.head?) hmessage
      simp only [String.toList_append, List.append_assoc] at hstart
      exact absurd (Option.some.inj hstart) (by decide)

/-- A batch that is refused as invalid is an object that could be read and does not meet the
form. -/
theorem parse_invalid {max : Option Number} {body : Given} {texts : List String}
    (h : parse max body = .error (.unreadable "Invalid notification batch" texts)) :
    ∃ sent read, body = some (.object sent) ∧ form.readMembers sent = .ok read ∧
      form.violations read ≠ [] ∧ texts = (form.violations read).map Violation.text := by
  by_cases hb : ∃ m, body = some (.object m)
  swap
  · rw [parse.eq_2 max body fun m h => hb ⟨m, h⟩] at h
    have hmessage := (Failure.unreadable.inj (Except.error.inj h)).1
    exact absurd hmessage (by decide)
  obtain ⟨sent, rfl⟩ := hb
  have hfails := readMembers_fails form sent
  by_cases ht : Trips form (.object sent)
  · obtain ⟨message, hread⟩ := hfails.fails ht
    rw [parse, hread] at h
    cases h
  obtain ⟨read, hr⟩ := hfails.works ht
  rw [parse_eq max hr] at h
  by_cases hv : form.violations read = []
  · rw [if_pos hv] at h
    exact absurd h (noticesOf_ne_invalid hr ((violations_eq_nil_iff form read).mp hv))
  · rw [if_neg hv] at h
    cases h
    exact ⟨sent, read, rfl, hr, hv, rfl⟩

/-- A batch that is refused as invalid is refused with what is wrong with it, as it was read. -/
theorem parse_reported (max : Option Number) (body : Given) (texts : List String)
    (h : parse max body = .error (.unreadable "Invalid notification batch" texts)) :
    ∃ sent read, body = some (.object sent) ∧ form.readMembers sent = .ok read ∧
      texts ≠ [] ∧ form.Reported read texts := by
  obtain ⟨sent, read, hb, hr, hv, rfl⟩ := parse_invalid h
  exact ⟨sent, read, hb, hr, mt List.map_eq_nil_iff.mp hv, violations_reported form_wellNamed read⟩

/-- A word where a truth value is asked for, a list of items in the place of an item, and no item
at all. -/
def brokenSample : Members :=
  [("notificationItems", .array
      [.array [.object [("NotificationRequestItem", .object
        [("pspReference", .text ""), ("amount", .object [("value", .text "10")])])]],
       .number 7]),
    ("live", .text "yes")]

theorem parse_reported_broken :
    let texts :=
      ["live: isBoolean",
        "notificationItems.0.0.NotificationRequestItem.eventCode: isNotEmpty",
        "notificationItems.0.0.NotificationRequestItem.eventCode: isString",
        "notificationItems.0.0.NotificationRequestItem.pspReference: isNotEmpty",
        "notificationItems.0.0.NotificationRequestItem.amount.value: isNumber",
        "notificationItems.0.0.NotificationRequestItem.amount.currency: isString",
        "notificationItems.1: nestedValidation"]
    parse none (some (.object brokenSample)) =
        .error (.unreadable "Invalid notification batch" texts) ∧
      ∃ sent read, some (Json.object brokenSample) = some (.object sent) ∧
        form.readMembers sent = .ok read ∧ texts ≠ [] ∧ form.Reported read texts :=
  ⟨rfl, parse_reported none _ _ rfl⟩

end NoticeLedger.Batch
