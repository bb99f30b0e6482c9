import NoticeLedger.Notice.Sample
import NoticeLedger.Proofs.Intake.Item

/-!
# NoticeLedger.Proofs.Intake.Parse

What becomes of a posted batch.

* `Slips` — the batches that are neither refused as a batch nor made notices: reading trips over a
  constructor, or an item that wraps no notice is not reported.
* `parse_answer` — those batches fail by a slip, and every other one is refused or made notices.
* `parse_wellFormed` — each notice is that of the item in its place, and well formed.

An item without a notice is not reported because what is missing has no form to violate, and an item
that is a list has only its own items looked at.
-/

namespace NoticeLedger.Batch

open Form

def Admits (max : Option Number) (count : Nat) : Prop :=
  ∀ limit, max = some limit → ¬ limit < Number.ofInt count

/-- A batch that fails though nothing is reported of it. -/
def Slips (max : Option Number) (body : Given) : Prop :=
  ∃ m : Members, body = some (.object m) ∧
    (Trips form (.object m) ∨
      (∃ read, form.readMembers m = .ok read ∧ form.Meets read) ∧
        ∃ items, m.get? "notificationItems" = some (.array items) ∧ Admits max items.length ∧
          ∃ item ∈ items, wrapped? item = none)

/-- A notice for each item, well formed for what the item wraps. -/
def NoticesFor (items : List Json) (notices : List Notice) : Prop :=
  List.Forall₂ (fun item n => ∃ sent, wrapped? item = some sent ∧ n.WellFormed sent) items notices

theorem NoticesFor.wrapped {items : List Json} {notices : List Notice}
    (h : NoticesFor items notices) : ∀ item ∈ items, wrapped? item ≠ none := by
  induction h with
  | nil => nofun
  | cons hi _ ih =>
    obtain ⟨sent, hsent, -⟩ := hi
    refine List.forall_mem_cons.mpr ⟨?_, ih⟩
    rw [hsent]
    nofun

/-! ## The items of a batch -/

theorem readMember_items (v : Json) :
    form.readMember "notificationItems" v = itemForm.read v := rfl

/-- The items of a batch that meets its form were sent as a list, and each is read on its own. -/
theorem items_read {m read : Members} (h : form.readMembers m = .ok read)
    (hm : form.Meets read) :
    ∃ items items', m.get? "notificationItems" = some (.array items) ∧
      read.get? "notificationItems" = some (.array items') ∧
      List.Forall₂ (fun item item' => itemForm.read item = .ok item') items items' ∧
      ∀ item ∈ items', Within itemForm.Meets item := by
  obtain ⟨-, hlist, hinside, -⟩ := hm
  exact list_read h (by decide) rfl rfl (by simp) hlist hinside

theorem noticeOfItem_cases {item item' : Json} (hread : itemForm.read item = .ok item')
    (hm : Within itemForm.Meets item') (live : Bool) :
    (wrapped? item = none ∧ ∃ message, noticeOfItem live item' = .error (.unforeseen message)) ∨
      ∃ sent n, wrapped? item = some sent ∧ noticeOfItem live item' = .ok n ∧
        n.WellFormed sent := by
  have hrel := wrapped?_read hread
  cases hs : wrapped? item with
  | none =>
    rw [hs] at hrel
    generalize hw : wrapped? item' = w at hrel
    cases hrel
    exact .inl ⟨rfl, noticeOfItem_of_none hw⟩
  | some sent =>
    rw [hs] at hrel
    generalize hw : wrapped? item' = w at hrel
    cases hrel with
    | some hmembers =>
      obtain ⟨n, hn, hwell⟩ := noticeOf_ok hmembers (meets_of_wrapped? hm hw) live
      exact .inr ⟨sent, n, rfl, (noticeOfItem_of_some hw).trans hn, hwell⟩

/-- Items give their notices, unless one of them wraps none. -/
theorem mapM_noticeOfItem {items items' : List Json}
    (hread : List.Forall₂ (fun item item' => itemForm.read item = .ok item') items items')
    (hm : ∀ item ∈ items', Within itemForm.Meets item) (live : Bool) :
    ((∃ item ∈ items, wrapped? item = none) ∧
        ∃ message, items'.mapM (noticeOfItem live) = .error (.unforeseen message)) ∨
      ∃ notices, items'.mapM (noticeOfItem live) = .ok notices ∧ NoticesFor items notices := by
  induction hread with
  | nil => exact .inr ⟨[], rfl, .nil⟩
  | @cons item item' items items' hi _ ih =>
    obtain ⟨hitem, hrest⟩ := List.forall_mem_cons.mp hm
    rw [List.mapM_cons]
    rcases noticeOfItem_cases hi hitem live with ⟨hw, message, hn⟩ | ⟨sent, n, hw, hn, hwell⟩
    · rw [hn]
      exact .inl ⟨⟨item, List.mem_cons_self, hw⟩, message, rfl⟩
    · rw [hn]
      rcases ih hrest with ⟨⟨other, ho, hw'⟩, message, he⟩ | ⟨notices, hok, hfor⟩
      · rw [he]
        exact .inl ⟨⟨other, List.mem_cons_of_mem _ ho, hw'⟩, message, rfl⟩
      · rw [hok]
        exact .inr ⟨n :: notices, rfl, .cons ⟨sent, hw, hwell⟩ hfor⟩

theorem noticesOf_of_admits {max : Option Number} {m : Members} {items : List Json}
    (hi : m.get? "notificationItems" = some (.array items)) (ha : Admits max items.length) :
    ∃ live, noticesOf max m = items.mapM (noticeOfItem live) := by
  unfold noticesOf
  rw [hi]
  cases max with
  | none => exact ⟨_, rfl⟩
  | some limit => exact ⟨_, if_neg (ha limit rfl)⟩

theorem noticesOf_of_not_admits {max : Option Number} {m : Members} {items : List Json}
    (hi : m.get? "notificationItems" = some (.array items)) (ha : ¬ Admits max items.length) :
    ∃ message, noticesOf max m = .error (.unreadable message []) := by
  unfold noticesOf
  rw [hi]
  cases max with
  | none => exact absurd nofun ha
  | some limit =>
    by_cases hlimit : limit < Number.ofInt items.length
    · exact ⟨_, if_pos hlimit⟩
    · refine absurd ?_ ha
      rintro _ ⟨⟩
      exact hlimit

/-! ## The whole batch -/

inductive Answer (max : Option Number) (body : Given) : Prop where
  | slipped (h : Slips max body) {message : String}
      (hp : parse max body = .error (.unforeseen message))
  | refused (h : ¬ Slips max body) {message : String} {violations : List String}
      (hp : parse max body = .error (.unreadable message violations))
  | taken (h : ¬ Slips max body) {m : Members} {items : List Json} {notices : List Notice}
      (hb : body = some (.object m)) (hi : m.get? "notificationItems" = some (.array items))
      (hp : parse max body = .ok notices) (hn : NoticesFor items notices)

theorem not_slips {max : Option Number} {m read : Members} (hr : form.readMembers m = .ok read)
    (h : form.Meets read → ∀ items, m.get? "notificationItems" = some (.array items) →
      Admits max items.length → ∀ item ∈ items, wrapped? item ≠ none) :
    ¬ Slips max (some (.object m)) := by
  rintro ⟨_, ⟨⟩, ht | ⟨⟨_, hr', hm⟩, items, hi, ha, item, hmem, hw⟩⟩
  · obtain ⟨_, hfails⟩ := (readMembers_fails form m).fails ht
    rw [hfails] at hr
    exact nomatch hr
  · rw [hr] at hr'
    cases hr'
    exact h hm items hi ha item hmem hw

theorem parse_eq (max : Option Number) {m read : Members} (hr : form.readMembers m = .ok read) :
    parse max (some (.object m)) =
      if form.violations read = [] then noticesOf max read
      else .error (.unreadable "Invalid notification batch"
        ((form.violations read).map Violation.text)) := by
  simp only [parse, hr, bind, Except.bind]
  cases form.violations read <;> rfl

/-- Every batch has one of the three answers. -/
theorem parse_answer (max : Option Number) (body : Given) : Answer max body := by
  by_cases hb : ∃ m, body = some (.object m)
  swap
  · refine .refused (fun ⟨m, h, _⟩ => hb ⟨m, h⟩)
      (parse.eq_2 max body fun m h => hb ⟨m, h⟩)
  obtain ⟨m, rfl⟩ := hb
  have hfails := readMembers_fails form m
  by_cases ht : Trips form (.object m)
  · obtain ⟨message, hread⟩ := hfails.fails ht
    have hp : parse max (some (.object m)) = .error (.unforeseen message) := by
      rw [parse, hread]
      rfl
    exact .slipped ⟨m, rfl, .inl ht⟩ hp
  obtain ⟨read, hr⟩ := hfails.works ht
  have hp := parse_eq max hr
  by_cases hm : form.Meets read
  swap
  · rw [if_neg (mt (violations_eq_nil_iff form read).mp hm)] at hp
    exact .refused (not_slips hr fun h => absurd h hm) hp
  rw [if_pos ((violations_eq_nil_iff form read).mpr hm)] at hp
  obtain ⟨items, items', hsent, hread, hitems, hwithin⟩ := items_read hr hm
  have hlength := hitems.length_eq
  by_cases ha : Admits max items'.length
  · obtain ⟨live, hn⟩ := noticesOf_of_admits hread ha
    rw [hn] at hp
    rcases mapM_noticeOfItem hitems hwithin live with
      ⟨hunwrapped, message, he⟩ | ⟨notices, hok, hfor⟩
    · exact .slipped ⟨m, rfl, .inr ⟨⟨read, hr, hm⟩, items, hsent, hlength ▸ ha, hunwrapped⟩⟩
        (hp.trans he)
    · refine .taken (not_slips hr ?_) rfl hsent (hp.trans hok) hfor
      intro _ items₂ hs₂ _
      rw [hsent] at hs₂
      cases hs₂
      exact hfor.wrapped
  · obtain ⟨message, hn⟩ := noticesOf_of_not_admits hread ha
    refine .refused (not_slips hr ?_) (hp.trans hn)
    intro _ items₂ hs₂ ha₂
    rw [hsent] at hs₂
    cases hs₂
    exact absurd (hlength ▸ ha₂) ha

/-- Notices, or a refusal of the batch as a whole, are what comes of exactly the batches that do not
slip. -/
theorem parse_answers (max : Option Number) (body : Given) :
    ((∃ notices, parse max body = .ok notices) ∨
        ∃ message violations, parse max body = .error (.unreadable message violations)) ↔
      ¬ Slips max body := by
  have hanswer := parse_answer max body
  constructor
  · intro h
    cases hanswer with
    | slipped _ hp =>
      rw [hp] at h
      rcases h with ⟨_, h⟩ | ⟨_, _, h⟩
      · exact nomatch h
      · exact nomatch h
    | refused hs _ => exact hs
    | taken hs _ _ _ _ => exact hs
  · intro hs
    cases hanswer with
    | slipped h _ => exact absurd h hs
    | refused _ hp => exact .inr ⟨_, _, hp⟩
    | taken _ _ _ hp _ => exact .inl ⟨_, hp⟩

/-- A batch of one item without a notice is neither made notices nor refused as a batch. -/
theorem parse_unwrapped_item :
    ¬ ∀ max body, (∃ notices, parse max body = .ok notices) ∨
      ∃ message violations, parse max body = .error (.unreadable message violations) := by
  intro h
  have hp : parse none (some (.object [("notificationItems", .array [.object []])])) =
      .error (.unforeseen "An item has no notice") := rfl
  rcases h none (some (.object [("notificationItems", .array [.object []])])) with
    ⟨_, hok⟩ | ⟨_, _, hrefused⟩
  · exact nomatch hp.symm.trans hok
  · exact nomatch hp.symm.trans hrefused

/-- There is a notice for each item, in order, and it is well formed for what the item wraps. -/
theorem parse_wellFormed (max : Option Number) (body : Given) (notices : List Notice)
    (h : parse max body = .ok notices) :
    ∃ m items, body = some (.object m) ∧
      Members.get? m "notificationItems" = some (.array items) ∧
      List.Forall₂ (fun item n => ∃ sent, wrapped? item = some sent ∧ n.WellFormed sent)
        items notices := by
  cases parse_answer max body with
  | slipped _ hp => exact nomatch h.symm.trans hp
  | refused _ hp => exact nomatch h.symm.trans hp
  | taken _ hb hi hp hn =>
    cases h.symm.trans hp
    exact ⟨_, _, hb, hi, hn⟩

/-- A payment in full, and a report of which only the codes are known. -/
def postedSample : Members :=
  Sample.batch
    [[("eventCode", .text "authorisation"), ("pspReference", .text "psp-1"),
        ("amount", .object [("value", .number 1000), ("currency", .text "EUR")]),
        ("success", .text "true"), ("additionalData", .object [("issuer", .number 7)]),
        ("operations", .array [.text "CAPTURE"])],
      [("eventCode", .text "REPORT_AVAILABLE"), ("pspReference", .text "psp-2")]]
    none

theorem parse_wellFormed_posted :
    ∃ notices, parse none (some (.object postedSample)) = .ok notices ∧ notices.length = 2 ∧
      ∃ m items, some (Json.object postedSample) = some (.object m) ∧
        Members.get? m "notificationItems" = some (.array items) ∧
        List.Forall₂ (fun item n => ∃ sent, wrapped? item = some sent ∧ n.WellFormed sent)
          items notices :=
  ⟨_, rfl, rfl, parse_wellFormed none _ _ rfl⟩

/-- Not every notice has an event code, nor an amount with a value where it has one: a code of
blanks has nothing left, and a list in the place of the amount is taken. -/
theorem parse_empty_parts :
    (¬ ∀ max body notices, parse max body = .ok notices → ∀ n ∈ notices, n.eventCode ≠ "") ∧
      ¬ ∀ max body notices, parse max body = .ok notices →
        ∀ n ∈ notices, ∀ amount, n.amount = some amount → Members.get? amount "value" ≠ none := by
  constructor
  · intro h
    have hspaces : "   ".toList.all Text.isBlank = true := rfl
    have hblank := (Text.canonical_eq_empty_iff "   ").mpr (List.all_eq_true.mp hspaces)
    exact h none (some (.object (Sample.batch
      [[("eventCode", .text "   "), ("pspReference", .text "psp-1")]] none))) _ rfl _
      List.mem_cons_self hblank
  · intro h
    exact h none (some (.object (Sample.batch
      [[("eventCode", .text "CAPTURE"), ("pspReference", .text "psp-1"),
        ("amount", .array [])]] none))) _ rfl _ List.mem_cons_self [] rfl rfl

end NoticeLedger.Batch
