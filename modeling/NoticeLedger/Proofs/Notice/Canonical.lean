import NoticeLedger.Notice.Basic
import NoticeLedger.Proofs.Text.Canonical

/-!
# NoticeLedger.Proofs.Notice.Canonical

Notices made from their own properties.

* `Notice.Canonical` — a notice with its code in the one spelling, `null` in the place of empty
  texts, and something said about being live.
* `Notice.canonical_of_create` — every notice that is made is canonical.
* `Notice.Canonical.create_toDraft` — its properties make it again.
* `EventCode.ReadsAs` — a code that is read as another one (`EventCode.iterate_canonical_readsAs`).
* `Notice.create_settles` — a notice that is made is made again as it is, and its code says what the
  code that was given says.
* `Notice.SameAs` — a notice, but for the order of the members of its amount.
-/

namespace NoticeLedger

/-! ## Given values -/

namespace Given

theorem meaning_ne_empty (g : Given) : g.meaning ≠ .text "" := by
  unfold meaning
  split
  · exact nofun
  · rename_i hne
    cases g with
    | none => exact nofun
    | some v =>
      intro hempty
      exact hne (congrArg some hempty)

theorem meaning_some {v : Json} (h : v ≠ .text "") : meaning (some v) = v := by
  unfold meaning
  split
  · rename_i hempty
    exact absurd (Option.some.inj hempty) h
  · rfl

theorem orElse_ne_null {g : Given} {other : Json} (h : other ≠ .null) : g.orElse other ≠ .null := by
  unfold orElse
  split
  · exact h
  · rename_i hne
    intro hnull
    exact hne (by rw [hnull])
  · exact h

theorem orElse_some {v : Json} (h : v ≠ .null) (other : Json) : orElse (some v) other = v := by
  unfold orElse
  split
  · rename_i hnull
    exact absurd (Option.some.inj hnull) h
  · rename_i heq
    exact (Option.some.inj heq).symm
  · rename_i hnone
    exact nomatch hnone

end Given

namespace Notice

variable {n : Notice} {d : Draft}

theorem membersOf_object (m : Option Members) :
    membersOf (some ((m.map Json.object).getD .null)) = m := by
  cases m with
  | none => rfl
  | some m => rfl

theorem itemsOf_array (items : Option (List Json)) :
    itemsOf (some ((items.map Json.array).getD .null)) = .ok items := by
  cases items with
  | none => rfl
  | some items => rfl

/-- A notice in the form in which notices are made. -/
structure Canonical (n : Notice) : Prop where
  eventCode : Text.canonical n.eventCode = n.eventCode
  earlierReference : n.earlierReference ≠ .text ""
  merchantReference : n.merchantReference ≠ .text ""
  eventDate : n.eventDate ≠ .text ""
  merchantAccountCode : n.merchantAccountCode ≠ .text ""
  paymentMethod : n.paymentMethod ≠ .text ""
  reason : n.reason ≠ .text ""
  live : n.live ≠ .null

/-- What is made of properties, once there are a code and operations among them. -/
def made (d : Draft) (code : String) (operations : Option (List Json)) : Notice where
  eventCode := Text.canonical code
  pspReference := d.pspReference
  earlierReference := d.earlierReference.meaning
  merchantReference := d.merchantReference.meaning
  amount := membersOf d.amount
  success := d.success.orNull
  additionalData := membersOf d.additionalData
  eventDate := d.eventDate.meaning
  merchantAccountCode := d.merchantAccountCode.meaning
  operations := operations
  paymentMethod := d.paymentMethod.meaning
  reason := d.reason.meaning
  live := d.live.orElse (.bool false)

theorem create_eq {code : String} {operations : Option (List Json)}
    (hcode : codeOf d.eventCode = .ok code) (hops : itemsOf d.operations = .ok operations) :
    create d = .ok (made d code operations) := by
  rw [create, hcode, hops]
  rfl

theorem create_eq_ok (h : create d = .ok n) :
    ∃ code operations, codeOf d.eventCode = .ok code ∧ itemsOf d.operations = .ok operations ∧
      n = made d code operations := by
  cases hcode : codeOf d.eventCode with
  | error f =>
    rw [create, hcode] at h
    exact nomatch h
  | ok code =>
    cases hops : itemsOf d.operations with
    | error f =>
      rw [create, hcode, hops] at h
      exact nomatch h
    | ok operations =>
      rw [create_eq hcode hops] at h
      exact ⟨code, operations, rfl, rfl, (Except.ok.inj h).symm⟩

theorem canonical_of_create (h : create d = .ok n) : n.Canonical := by
  obtain ⟨code, operations, -, -, rfl⟩ := create_eq_ok h
  exact ⟨Text.canonical_canonical code, Given.meaning_ne_empty _, Given.meaning_ne_empty _,
    Given.meaning_ne_empty _, Given.meaning_ne_empty _, Given.meaning_ne_empty _,
    Given.meaning_ne_empty _, Given.orElse_ne_null nofun⟩

/-- A canonical notice is made from its own properties. -/
theorem Canonical.create_toDraft (h : n.Canonical) : create n.toDraft = .ok n := by
  rw [create_eq rfl (itemsOf_array n.operations)]
  simp only [made, toDraft, membersOf_object, Given.meaning_some h.earlierReference,
    Given.meaning_some h.merchantReference, Given.meaning_some h.eventDate,
    Given.meaning_some h.merchantAccountCode, Given.meaning_some h.paymentMethod,
    Given.meaning_some h.reason, Given.orElse_some h.live, h.eventCode, Given.orNull]

end Notice

/-! ## Codes -/

namespace EventCode

/-- A code that stands for what another one stands for. -/
structure ReadsAs (code other : String) : Prop where
  classify : classify code = classify other
  journalIntent : journalIntent code = journalIntent other
  isReport : isReport code = isReport other

theorem ReadsAs.trans {code other third : String} (h : ReadsAs code other)
    (h' : ReadsAs other third) : ReadsAs code third :=
  ⟨h.classify.trans h'.classify, h.journalIntent.trans h'.journalIntent,
    h.isReport.trans h'.isReport⟩

theorem canonical_readsAs (code : String) : ReadsAs (Text.canonical code) code := by
  have hclassify : classify (Text.canonical code) = classify code := by
    rw [classify, classify, Text.canonical_canonical]
  refine ⟨hclassify, ?_, ?_⟩
  · rw [journalIntent, journalIntent, hclassify, Text.canonical_canonical]
  · rw [isReport, isReport, Text.canonical_canonical]

/-- However often a code was brought into the one spelling. -/
theorem iterate_canonical_readsAs (code : String) (k : Nat) :
    ReadsAs (Text.canonical^[k] code) code := by
  induction k with
  | zero => exact ⟨rfl, rfl, rfl⟩
  | succ k ih =>
    rw [Function.iterate_succ_apply']
    exact (canonical_readsAs _).trans ih

end EventCode

namespace Notice

/-- **A notice is in its final form.** Properties with a code, and with operations that are a list
or nothing, make a notice. Its own properties make the same notice again, and its code, in which
blanks and case are gone, is read as the code that was given, however often it is treated so. -/
theorem create_settles {d : Draft} {code : String} (hcode : d.eventCode = .text code)
    (hops : d.operations.isNothing = true ∨ ∃ items, d.operations = some (.array items)) :
    ∃ n, create d = .ok n ∧ create n.toDraft = .ok n ∧ n.eventCode = Text.canonical code ∧
      EventCode.ReadsAs n.eventCode code ∧
      ∀ k, EventCode.ReadsAs (Text.canonical^[k] code) code := by
  have hitems : ∃ operations, itemsOf d.operations = .ok operations := by
    rcases hops with hnothing | ⟨items, hitems⟩
    · cases hd : d.operations with
      | none => exact ⟨none, rfl⟩
      | some v =>
        rw [hd] at hnothing
        cases v with
        | null => exact ⟨none, rfl⟩
        | _ => exact nomatch hnothing
    · rw [hitems]
      exact ⟨some items, rfl⟩
  obtain ⟨operations, hitems⟩ := hitems
  have hmade : create d = .ok (made d code operations) := by
    refine create_eq ?_ hitems
    rw [hcode]
    rfl
  exact ⟨_, hmade, (canonical_of_create hmade).create_toDraft, rfl,
    EventCode.canonical_readsAs code, EventCode.iterate_canonical_readsAs code⟩

end Notice

namespace Sample

/-- Properties whose code has blanks around it and a letter that becomes two, and whose reason is
empty. -/
def unsettled : Notice.Draft where
  eventCode := .text " capture-ß\t"
  operations := some (.array [.text "refund"])
  reason := .text ""

end Sample

namespace Notice

variable {n : Notice}

theorem create_settles_sharp :
    ∃ n, create Sample.unsettled = .ok n ∧ create n.toDraft = .ok n ∧
      n.eventCode = Text.canonical " capture-ß\t" ∧
      EventCode.ReadsAs n.eventCode " capture-ß\t" ∧
      ∀ k, EventCode.ReadsAs (Text.canonical^[k] " capture-ß\t") " capture-ß\t" :=
  create_settles rfl (.inr ⟨_, rfl⟩)

/-! ## The same notice -/

/-- The same notice, but for the order of the members of its amount. -/
def SameAs (n built : Notice) : Prop :=
  Option.Rel List.Perm n.amount built.amount ∧ n = { built with amount := n.amount }

/-- The same properties, but for that order. -/
def Draft.SameAs (d given : Draft) : Prop :=
  (d.amount = given.amount ∨ ∃ m m' : Members, d.amount = some (.object m) ∧
      given.amount = some (.object m') ∧ m.Perm m') ∧
    d = { given with amount := d.amount }

variable {built : Notice}

theorem SameAs.refl (n : Notice) : n.SameAs n := by
  refine ⟨?_, rfl⟩
  cases n.amount with
  | none => exact .none
  | some m => exact .some (.refl m)

theorem SameAs.toDraft (h : n.SameAs built) : n.toDraft.SameAs built.toDraft := by
  obtain ⟨hamount, hrest⟩ := h
  refine ⟨?_, ?_⟩
  · simp only [Notice.toDraft]
    generalize n.amount = amount at hamount
    generalize built.amount = amount' at hamount
    cases hamount with
    | none => exact .inl rfl
    | some hperm => exact .inr ⟨_, _, rfl, rfl, hperm⟩
  · conv_lhs => rw [hrest]
    rfl

/-- What is asked of a canonical notice does not depend on its amount. -/
theorem Canonical.of_sameAs (h : built.Canonical) (hsame : n.SameAs built) : n.Canonical := by
  rw [hsame.2]
  exact { h with }

end Notice

end NoticeLedger
