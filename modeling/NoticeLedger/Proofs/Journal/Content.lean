import NoticeLedger.Proofs.Journal.Attempts
import NoticeLedger.Proofs.Rehearsal.Run

/-!
# NoticeLedger.Proofs.Journal.Content

What is journaled about a notice agrees with what is told about it.

* `Tells` — what the entry of a notice says, beside the receipt and the records of the time.
* `Finding.Fair.ids`, `Finding.Fits.tied` — a notice is tied to an account and a tenant, or to
  nothing.
* `Delivered.tells` — the entry of one delivery at a fair bench.
* `journal_tells` — the same along every run.
-/

namespace NoticeLedger

open Delivery

/-- What the entry of a notice says. It is about an account with its tenant or about nothing at all,
and about what is told in the receipt; where that is a failure, about what the records led to. -/
structure Tells (s : MemoryStore) (n : Notice) (r : Receipt) (e : JournalEntry) : Prop where
  notice : e.notice = n
  intent : e.transactionType =
    some (Intent.value (EventCode.journalIntent e.notice.eventCode))
  tenant : e.ids.accountId = .null ↔ e.ids.tenantId = .null
  untied : e.ids.accountId = .null → e.ids = {}
  report : EventCode.isReport e.notice.eventCode = true → e.ids = {}
  done : ∀ outcome, r.result = .ok outcome → e.ids = outcome.ids.filled
  failed : ∀ f, r.result = .error f → e.ids = (Finding.of s n).ids.filled
  unmatched : r.fate = .unmatched ↔
    (∃ outcome, r.result = .ok outcome) ∧ e.ids.accountId = .null

/-- What was found is tied, or it is nothing at all. -/
theorem Finding.Fair.ids {found : Finding} (h : found.Fair) :
    found.ids = {} ∨ Tied found.ids.accountId found.ids.tenantId := by
  cases h with
  | failed _ => exact .inl rfl
  | nothing => exact .inl rfl
  | disputed ht => exact .inr ht
  | transaction ht => exact .inr ht
  | account ht => exact .inr ht

variable {p : Profile} {n : Notice} {w w' : Bench}

theorem Finding.Fits.tied {found : Finding} {outcome : Outcome} (h : found.Fits outcome)
    (hf : found.Fair) :
    outcome = .journaledOnly ∨ Tied outcome.ids.accountId outcome.ids.tenantId := by
  cases h with
  | nothing => exact .inl rfl
  | disputed =>
    cases hf with
    | disputed ht => exact .inr ht
  | transaction =>
    cases hf with
    | transaction ht => exact .inr ht
  | account =>
    cases hf with
    | account ht => exact .inr ht

theorem Given.some_orNull_ne {g : Given} (h : g.isNothing = false) :
    some g.orNull ≠ Given.null := by
  intro e
  have := (Given.isNothing_iff g).mpr (Option.some.inj e)
  rw [h] at this
  exact nomatch this

/-- A journaled account, or a journaled tenant, is nothing only where nothing is known. -/
theorem LedgerIds.filled_null_iff {ids : LedgerIds}
    (h : ids = {} ∨ Tied ids.accountId ids.tenantId) :
    (ids.filled.accountId = .null ↔ ids = {}) ∧ (ids.filled.tenantId = .null ↔ ids = {}) := by
  rcases h with rfl | ht
  · exact ⟨⟨fun _ => rfl, fun _ => rfl⟩, ⟨fun _ => rfl, fun _ => rfl⟩⟩
  · have hids : ids ≠ {} := by
      rintro rfl
      exact nomatch ht.account
    exact ⟨⟨fun e => absurd e (Given.some_orNull_ne ht.account), fun e => absurd e hids⟩,
      ⟨fun e => absurd e (Given.some_orNull_ne ht.tenant), fun e => absurd e hids⟩⟩

/-- A notice that failed seriously is not told to be unmatched. -/
theorem fateOfFailure_ne_unmatched {f : Failure} (h : f.Serious) :
    fateOfFailure (toldFailure f) ≠ .unmatched := by
  cases f with
  | benign m op code cause => exact absurd rfl h
  | _ => exact nofun

theorem fateOfOutcome_eq_unmatched {outcome : Outcome} :
    fateOfOutcome outcome = .unmatched ↔ outcome = .journaledOnly := by
  cases outcome <;> simp [fateOfOutcome]

theorem Finding.Fits.ids_eq_empty_iff {found : Finding} {outcome : Outcome}
    (h : found.Fits outcome) (hf : found.Fair) : outcome.ids = {} ↔ outcome = .journaledOnly := by
  constructor
  · intro e
    rcases h.tied hf with ho | ht
    · exact ho
    · rw [e] at ht
      exact nomatch ht.account
  · rintro rfl
    rfl

theorem Course.tells_ok {found : Finding} {outcome : Outcome}
    (h : Course p n w found (.ok outcome) w') (hf : Finding.of w.store n = found)
    (hfair : found.Fair) :
    Tells w.store n (receiptOf n (.ok outcome)) (n.entry outcome.ids w.now) := by
  have hempty := (h.fits rfl).ids_eq_empty_iff hfair
  obtain ⟨haccount, htenant⟩ :=
    LedgerIds.filled_null_iff (((h.fits rfl).tied hfair).imp_left hempty.mpr)
  refine ⟨rfl, rfl, haccount.trans htenant.symm, ?_, ?_, ?_, ?_, ?_⟩
  · intro e
    rw [Notice.entry, haccount.mp e]
    rfl
  · intro hr
    rw [← hf, Finding.of_report (n := n) hr] at h
    cases h.of_nothing.1
    rfl
  · rintro _ ⟨⟩
    rfl
  · exact nofun
  · rw [receiptOf, fateOfOutcome_eq_unmatched, ← hempty, ← haccount]
    exact ⟨fun e => ⟨⟨outcome, rfl⟩, e⟩, And.right⟩

theorem Finding.tells_error {found : Finding} {f : Failure} (hf : Finding.of w.store n = found)
    (hfair : found.Fair) (hs : f.Serious) :
    Tells w.store n (receiptOf n (.error f)) (n.entry (found.idsAfter (.error f)) w.now) := by
  obtain ⟨haccount, htenant⟩ := LedgerIds.filled_null_iff hfair.ids
  refine ⟨rfl, rfl, haccount.trans htenant.symm, ?_, ?_, ?_, ?_, ?_⟩
  · intro e
    rw [Notice.entry, Finding.idsAfter, haccount.mp e]
    rfl
  · intro hr
    rw [← hf, Finding.of_report (n := n) hr]
    rfl
  · intro _ ho
    cases ho
  · intro _ _
    rw [hf]
    rfl
  · refine ⟨fun e => absurd e (fateOfFailure_ne_unmatched hs), ?_⟩
    rintro ⟨⟨_, ho⟩, -⟩
    cases ho

theorem Delivered.tells {r : Receipt} (h : Delivered p n w r w') (hw : w.Fair)
    (hj : w.store.enter .appendJournal = .ok ()) :
    ∃ e, w'.store.journal = w.store.journal ++ [e] ∧ Tells w.store n r e := by
  obtain ⟨result, w₁, hc, rfl, rfl⟩ := h.of_ok hj
  -- what was found is about the records from before the delivery
  have hfair := Finding.of_fair hw.store n
  obtain ⟨-, hserious⟩ := hc.fair hw hfair
  refine ⟨n.entry ((Finding.of w.store n).idsAfter result) w.now, ?_, ?_⟩
  · rw [Bench.journaling, hc.keeps.store.journal]
  · cases result with
    | ok outcome => exact hc.tells_ok rfl hfair
    | error f => exact Finding.tells_error rfl hfair (hserious f rfl)

theorem Sample.bench_fair : Sample.bench.Fair where
  store := by
    refine ⟨fun r hr => ?_, nofun, nofun⟩
    cases List.mem_singleton.mp hr
    exact ⟨rfl, rfl⟩
  book := nofun
  hook := ⟨nofun, nofun⟩

/-- **Journal and receipt agree.** After any fair moves, an entry that a delivery adds to the
journal agrees with what is told about the delivery. -/
theorem journal_tells {r : Reconciler} (hr : r.Articulate) {moves : List Move} {d : Desk}
    (hd : w.On d) (hw : w.Fair) (hm : ∀ m ∈ moves, m.Fair) (n : Notice) :
    ∃ (receipt : Receipt) (d₂ : Desk) (w₁ w₂ : Bench), w₁.On (d.after r.profile moves) ∧
      r.process n (d.after r.profile moves) = (.ok receipt, d₂) ∧ w₂.On d₂ ∧
      (((∃ f, w₁.store.enter .appendJournal = .error f) ∧ w₂.store.journal = w₁.store.journal) ∨
        ∃ e, w₂.store.journal = w₁.store.journal ++ [e] ∧ Tells w₁.store n receipt e) := by
  obtain ⟨w₁, hd₁, hw₁⟩ := Desk.after_fair (p := r.profile) hd hw hm
  obtain ⟨receipt, d₂, w₂, hrun, hd₂, hdelivered⟩ := Reconciler.process_delivered hr n hd₁
  refine ⟨receipt, d₂, w₁, w₂, hd₁, hrun, hd₂, ?_⟩
  cases hj : w₁.store.enter .appendJournal with
  | error f => exact .inl ⟨⟨f, rfl⟩, (hdelivered.journal_error hj).1⟩
  | ok _ => exact .inr (hdelivered.tells hw₁ hj)

/-- The sample is delivered while its state cannot be reported, and once more when it can. -/
theorem journal_tells_sample :
    let moves := [.arrange (.failLedger .reportState none), .deliver none Sample.authorisation,
      .arrange .restoreLedger]
    let d := Sample.bench.desk.after Sample.profile moves
    ∃ (receipt : Receipt) (d₂ : Desk) (w₁ w₂ : Bench), w₁.On d ∧
      Sample.reconciler.process Sample.authorisation d = (.ok receipt, d₂) ∧ w₂.On d₂ ∧
      (((∃ f, w₁.store.enter .appendJournal = .error f) ∧ w₂.store.journal = w₁.store.journal) ∨
        ∃ e, w₂.store.journal = w₁.store.journal ++ [e] ∧
          Tells w₁.store Sample.authorisation receipt e) := by
  refine journal_tells Sample.articulate Sample.bench.on_desk Sample.bench_fair (fun m hm => ?_)
    Sample.authorisation
  simp only [List.mem_cons, List.not_mem_nil, or_false] at hm
  rcases hm with rfl | rfl | rfl
  · exact nofun
  · trivial
  · trivial

end NoticeLedger
