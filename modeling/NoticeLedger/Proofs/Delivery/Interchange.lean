import NoticeLedger.Proofs.Delivery.Twins
import NoticeLedger.Proofs.Store.Listing

/-!
# NoticeLedger.Proofs.Delivery.Interchange

Records in memory and records in tables are told apart by times, by the order of entries of one
time and by amounts that are not whole, and by nothing else.

* `Demand`, `Desk.meet` — what is asked of a desk: operations of its store, deliveries, another
  time, hook or platform; and what is told about a list of demands, met one after another.
* `Demand.meet_agree` — twin desks meet a demand alike, and stay twins.
* `TellAlike` — look-ups, statistics and listings of two stores.
* `stores_interchange` — the two stores meet all demands alike, from empty ones on.
* `not_stores_interchange` — a listing shows an amount of a fraction otherwise, and by a limit of a
  fraction only one of them lists at all.
-/

namespace NoticeLedger

open Delivery

inductive Demand where
  | saveResponse (draft : StoredResponse.Draft)
  | savePendingRequest (draft : HostedRequest.Draft)
  | updateMetadata (edit : Edit)
  | appendJournal (entry : JournalEntry)
  | deliver (observers : Option Observers) (n : Notice)
  | deliverBatch (observers : Option Observers) (notices : List Notice)
  | setTime (now : Instant)
  | setHook (hook : PurchaseHook)
  | setPlatform (change : Platform → Platform)

/-- What is told about a demand. A delivery has no receipt if an observer fails without words. -/
inductive Told where
  | done
  | receipt (r : Except Failure Receipt)
  | batch (b : Except Failure BatchReceipt)

namespace Demand

/-- The parts of a demand have their types, and its times are in years of four digits. -/
def Typed : Demand → Prop
  | saveResponse draft => draft.Typed
  | savePendingRequest draft => draft.Typed
  | updateMetadata edit => edit.Typed
  | appendJournal entry => entry.Typed
  | deliver _ n => n.Typed
  | deliverBatch _ notices => ∀ n ∈ notices, n.Typed
  | setTime now => now.inFourDigits = now
  | setHook hook => hook.Typed
  | setPlatform _ => True

def entries : Demand → Nat
  | appendJournal _ => 1
  | deliver _ _ => 1
  | deliverBatch _ notices => notices.length
  | _ => 0

def meet (p : Profile) : Demand → Action Told
  | saveResponse draft => do
    let _ ← Desk.saveResponse draft
    pure .done
  | savePendingRequest draft => do
    let _ ← Desk.savePendingRequest draft
    pure .done
  | updateMetadata edit => do
    Desk.updateMetadata edit.transactionId edit.changes edit.tenantId
    pure .done
  | appendJournal entry => do
    let _ ← Desk.appendJournal entry
    pure .done
  | deliver observers n =>
    return .receipt (← resultOf (Reconciler.process ⟨p, observers, none⟩ n))
  | deliverBatch observers notices =>
    return .batch (← resultOf (Reconciler.processBatch ⟨p, observers, none⟩ notices))
  | setTime now => do
    modify fun d => { d with now := now }
    pure .done
  | setHook hook => do
    modify fun d => { d with onPurchase := hook }
    pure .done
  | setPlatform change => do
    modify fun d => { d with platform := change d.platform }
    pure .done

end Demand

def Desk.meet (p : Profile) (demands : List Demand) : StateM Desk (List (Except Failure Told)) :=
  demands.mapM fun x => (x.meet p).run

def Desk.opened (store : Store) (platform : Platform) (now : Instant) (hook : PurchaseHook) :
    Desk where
  store := store
  platform := platform
  now := now
  onPurchase := hook

/-! ## Twin desks -/

variable {p : Profile}

theorem Demand.meet_agree {k : Nat} {x : Demand} (hx : x.Typed) :
    Agree k (x.meet p) (x.meet p) (k + x.entries) (Done Eq) := by
  have told {k : Nat} (a : Told) :
      Agree k (pure a : Action Told) (pure a : Action Told) k (Done Eq) :=
    .pure ⟨a, a, rfl, rfl, rfl⟩
  cases x with
  | saveResponse draft => exact .bind_done (.saveResponse hx) fun _ _ _ => told .done
  | savePendingRequest draft => exact .bind_done (.savePendingRequest hx) fun _ _ _ => told .done
  | updateMetadata edit => exact .bind_done (.updateMetadata hx) fun _ _ _ => told .done
  | appendJournal entry => exact .bind_done (.appendJournal hx) fun _ _ _ => told .done
  | deliver observers n =>
    refine .bind_done (.resultOf (Reconciler.process_agree _ hx)) fun r _ hr => ?_
    subst hr
    exact told (.receipt r)
  | deliverBatch observers notices =>
    refine .bind_done (.resultOf (Reconciler.processBatch_agree _ hx)) fun b _ hb => ?_
    subst hb
    exact told (.batch b)
  | setTime now =>
    refine .bind_done (.lift (.modified fun d d' hd => ?_)) fun _ _ _ => told .done
    exact { hd with now := rfl, now_typed := hx }
  | setHook hook =>
    refine .bind_done (.lift (.modified fun d d' hd => ?_)) fun _ _ _ => told .done
    exact { hd with hook := rfl, hook_typed := hx }
  | setPlatform change =>
    refine .bind_done (.lift (.modified fun d d' hd => ?_)) fun _ _ _ => told .done
    exact { hd with platform := congrArg change hd.platform }

theorem Desk.meet_agree {k : Nat} {demands : List Demand} (h : ∀ x ∈ demands, x.Typed) :
    Agree k (Desk.meet p demands) (Desk.meet p demands) (k + (demands.map Demand.entries).sum)
      fun told told' => told' = told ∧ ∃ answers : List Told, told = answers.map Except.ok := by
  induction demands generalizing k with
  | nil => exact .pure ⟨rfl, [], rfl⟩
  | cons x demands ih =>
    obtain ⟨hx, hrest⟩ := List.forall_mem_cons.mp h
    rw [Desk.meet, List.mapM_cons, List.map_cons, List.sum_cons, ← Nat.add_assoc]
    refine .bind (.run (Demand.meet_agree hx)) fun r r' hr => ?_
    obtain ⟨a, _, rfl, rfl, rfl⟩ := hr
    refine .bind (ih hrest) fun told told' htold => ?_
    obtain ⟨rfl, answers, rfl⟩ := htold
    exact .pure ⟨rfl, a :: answers, rfl⟩

/-- Desks with empty stores are twins. -/
theorem Desk.Twins.opened (scan : Scan) (platform : Platform) {now : Instant} {hook : PurchaseHook}
    (hnow : now.inFourDigits = now) (hhook : hook.Typed) :
    (Desk.opened (.memory {}) platform now hook).Twins 0
      (Desk.opened (.relational { scan := scan }) platform now hook) where
  stores := ⟨{}, { scan := scan }, rfl, rfl, MemoryStore.mirrors_empty scan, Nat.le_refl 0⟩
  platform := rfl
  now := rfl
  hook := rfl
  observations := rfl
  now_typed := hnow
  hook_typed := hhook

/-! ## What the stores tell -/

/-- A store in memory and tables tell the same. The entries of a listing are those that are asked
for, newest first, and of one time in any order; of amounts in tables there is what a column of
whole numbers keeps. -/
structure TellAlike (s : MemoryStore) (t : Tables) : Prop where
  response : ∀ ref : Given, ref.IsText → ∃ r r', s.getResponse ref = .ok r ∧
    t.getResponse ref = .ok r' ∧ r'.map StoredResponse.timeless = r.map StoredResponse.timeless
  pendingRequest : ∀ ref : Given, ref.IsText → ∃ r r', s.getPendingRequest ref = .ok r ∧
    t.getPendingRequest ref = .ok r' ∧ r'.map HostedRequest.timeless = r.map HostedRequest.timeless
  statistics : ∃ n, s.getStatistics = .ok n ∧ t.getStatistics = .ok n
  listing : ∀ (f : JournalFilter) (limit : Number) (l : Nat), f.Typed → limit.Limits l →
    ∃ total count entries rows, (Store.memory s).Lists f limit total count entries ∧
      (Store.relational t).Lists f limit total count rows ∧
      entries.Perm (s.journal.filter f.selects) ∧ rows.Perm (entries.map JournalEntry.kept) ∧
      JournalEntry.NewestFirst entries ∧ JournalEntry.NewestFirst rows
  whole : ∀ e ∈ s.journal, e.IsWhole → e.Same e.kept

theorem MemoryStore.Mirrors.tellAlike {s : MemoryStore} {t : Tables} (h : s.Mirrors t)
    (hcount : s.journal.length < Number.maxSafe) : TellAlike s t where
  response ref href := by
    obtain ⟨r, r', hs, ht, hr, -⟩ := h.getResponse href
    exact ⟨r, r', hs, ht, hr⟩
  pendingRequest ref href := by
    obtain ⟨r, r', hs, ht, hr, -⟩ := h.getPendingRequest href
    exact ⟨r, r', hs, ht, hr⟩
  statistics := h.getStatistics
  listing f _ _ hf hl :=
    ⟨_, _, _, _, h.memory_lists hf hl hcount, h.tables_list hf hl hcount,
      MemoryStore.listing_perm s.journal f, h.listing_perm hf,
      MemoryStore.newestFirst_listing s.journal f, Tables.newestFirst_listing t f⟩
  whole e he hwhole := JournalEntry.kept_same (h.journal_typed e he) hwhole

/-- **The stores can be interchanged.** Demands of their types are met at a desk with empty records
in memory as they are at one with empty tables: each is answered, with the same answers, and the
stores tell the same afterwards. -/
theorem stores_interchange (p : Profile) (scan : Scan) {platform : Platform} {now : Instant}
    {hook : PurchaseHook} {demands : List Demand} (hnow : now.inFourDigits = now)
    (hhook : hook.Typed) (hdemands : ∀ x ∈ demands, x.Typed)
    (hcount : (demands.map Demand.entries).sum < Number.maxSafe) :
    ∃ (answers : List Told) (d d' : Desk) (s : MemoryStore) (t : Tables),
      Desk.meet p demands (Desk.opened (.memory {}) platform now hook) = (answers.map .ok, d) ∧
      Desk.meet p demands (Desk.opened (.relational { scan := scan }) platform now hook) =
        (answers.map .ok, d') ∧
      d.store = .memory s ∧ d'.store = .relational t ∧ TellAlike s t := by
  obtain ⟨⟨htold, answers, hok⟩, hd⟩ :=
    Desk.meet_agree (p := p) hdemands _ _ (Desk.Twins.opened scan platform hnow hhook)
  obtain ⟨s, t, hs, ht, hm, hlength⟩ := hd.stores
  refine ⟨answers, _, _, s, t, Prod.ext hok rfl, Prod.ext (htold.trans hok) rfl, hs, ht,
    hm.tellAlike ?_⟩
  omega

namespace Sample

def answered : StoredResponse.Draft where
  pspReference := .text "psp-1"
  accountId := .text "account-1"
  tenantId := .text "tenant-1"
  paymentId := .text "payment-1"
  transactionId := .text "transaction-1"

def hosted : HostedRequest.Draft where
  merchantReference := .text "order-2"
  accountId := .text "account-1"
  tenantId := .text "tenant-1"

def hostedPaid : Notice :=
  { authorisation with pspReference := .text "psp-2", merchantReference := .text "order-2" }

/-- Records are stored and changed, and both outcomes are delivered, one of them twice. -/
def demands : List Demand :=
  [ .saveResponse answered, .savePendingRequest hosted,
    .updateMetadata ⟨.text "transaction-1", .text "tenant-1", [("channel", .text "web")]⟩,
    .deliver none authorisation, .setTime ⟨2⟩, .deliverBatch none [hostedPaid, authorisation],
    .appendJournal (authorisation.entry {} ⟨1⟩) ]

theorem authorisation_typed : authorisation.Typed where
  pspReference := ⟨_, rfl⟩
  earlierReference := .inl rfl
  merchantReference := .inr ⟨_, rfl⟩
  amount := by
    rintro _ ⟨⟩
    exact ⟨1000, "EUR", rfl, rfl, rfl⟩
  success := .inr ⟨_, rfl⟩
  additionalData := nofun
  eventDate := .inl rfl
  merchantAccountCode := .inl rfl
  operations := nofun
  paymentMethod := .inl rfl
  reason := .inl rfl
  live := ⟨_, rfl⟩

theorem hostedPaid_typed : hostedPaid.Typed :=
  { authorisation_typed with
    pspReference := ⟨_, rfl⟩
    merchantReference := .inr ⟨_, rfl⟩ }

theorem demands_typed : ∀ x ∈ demands, x.Typed := by
  have hanswered : answered.Typed :=
    ⟨⟨_, rfl⟩, ⟨_, rfl⟩, ⟨_, rfl⟩, ⟨_, rfl⟩, ⟨_, rfl, .inr ⟨_, rfl⟩⟩, .inl rfl, .inl rfl⟩
  have hhosted : hosted.Typed := ⟨⟨_, rfl⟩, ⟨_, rfl⟩, ⟨_, rfl⟩, .inl rfl, .inl rfl, .inl rfl⟩
  have hnow : (⟨2⟩ : Instant).inFourDigits = ⟨2⟩ := by decide
  have hentry : (authorisation.entry {} ⟨1⟩).Typed :=
    ⟨LedgerIds.empty_typed, ⟨_, rfl, .inr ⟨_, rfl⟩⟩, authorisation_typed, by decide⟩
  simp only [demands, List.forall_mem_cons, Demand.Typed]
  refine ⟨hanswered, hhosted, ⟨⟨_, rfl⟩, ⟨_, rfl⟩, ?_⟩, authorisation_typed, hnow,
    ⟨hostedPaid_typed, authorisation_typed, List.forall_mem_nil _⟩, hentry, List.forall_mem_nil _⟩
  intro change hchange
  rw [List.mem_singleton.mp hchange]
  exact ⟨_, rfl⟩

end Sample

/-- The sample demands are met at the platform of the sample bench. -/
theorem stores_interchange_sample :
    Sample.bench.now.inFourDigits = Sample.bench.now ∧ ({} : PurchaseHook).Typed ∧
      (∀ x ∈ Sample.demands, x.Typed) ∧
      (Sample.demands.map Demand.entries).sum < Number.maxSafe ∧
      ∃ (answers : List Told) (d d' : Desk) (s : MemoryStore) (t : Tables),
        Desk.meet Sample.profile Sample.demands
          (Desk.opened (.memory {}) (.book Sample.book) Sample.bench.now {}) =
            (answers.map .ok, d) ∧
        Desk.meet Sample.profile Sample.demands
          (Desk.opened (.relational {}) (.book Sample.book) Sample.bench.now {}) =
            (answers.map .ok, d') ∧
        d.store = .memory s ∧ d'.store = .relational t ∧ TellAlike s t := by
  have hnow : Sample.bench.now.inFourDigits = Sample.bench.now := by decide
  have hhook : ({} : PurchaseHook).Typed := nofun
  have hcount : (Sample.demands.map Demand.entries).sum < Number.maxSafe := by decide
  exact ⟨hnow, hhook, Sample.demands_typed, hcount,
    stores_interchange Sample.profile .indexed hnow hhook Sample.demands_typed hcount⟩

/-! ## Fractions -/

namespace Sample

/-- An amount of a fraction that has more digits than a statement carries. -/
def fraction : Members :=
  [("value", .number (.ofScientific false 672618275427735 (-12))), ("currency", .text "EUR")]

def fractional : JournalEntry :=
  Notice.entry { authorisation with amount := some fraction } {} ⟨1⟩

/-- A limit of one and a half. -/
def oddLimit : Number := .finite (.ofIntWithPrec 3 1)

theorem fractional_typed : fractional.Typed where
  ids := LedgerIds.empty_typed
  transactionType := ⟨_, rfl, .inr ⟨_, rfl⟩⟩
  notice :=
    { authorisation_typed with
      amount := by
        rintro _ ⟨⟩
        exact ⟨_, "EUR", rfl, by decide +kernel, rfl⟩ }
  recordedAt := by decide

/-- A column of whole numbers keeps another fraction. -/
theorem fractional_kept : ¬ fractional.Same fractional.kept := by
  intro h
  have hne : Column.written (.ofScientific false 672618275427735 (-12)) ≠
      .ofScientific false 672618275427735 (-12) := by decide +kernel
  obtain ⟨hvalue, -⟩ : Notice.SameAmount fraction (Notice.keptAmount fraction) := by
    cases h.amount with
    | some h => exact h
  exact hne (Json.number.inj (Option.some.inj hvalue))

end Sample

theorem Desk.meet_appendJournal {d : Desk} {e e' : JournalEntry} {s : Store}
    (h : d.store.appendJournal e = .ok (e', s)) :
    Desk.meet p [.appendJournal e] d =
      ([.ok .done], { d with store := s, journaled := d.journaled ++ [e'] }) := by
  have hchange : Desk.change (fun s _ => s.appendJournal e) d =
      (.ok e', { d with store := s }) := by
    rw [Desk.change, h]
  have hentry : Desk.appendJournal e d =
      (.ok e', { d with store := s, journaled := d.journaled ++ [e'] }) :=
    Action.bind_ok hchange
  have hmeet : Demand.meet p (.appendJournal e) d =
      (.ok .done, { d with store := s, journaled := d.journaled ++ [e'] }) :=
    Action.bind_ok hentry
  rw [Desk.meet, List.mapM_cons, List.mapM_nil]
  show ([(Demand.meet p (.appendJournal e) d).1], (Demand.meet p (.appendJournal e) d).2) = _
  rw [hmeet]

/-- A store that fails to give the first part of a listing lists nothing. -/
theorem Store.not_lists {s : Store} {f : JournalFilter} {limit : Number} {failure : Failure}
    (h : s.listJournal f (Pagination.part 0 limit) = .error failure) (total count : Nat)
    (entries : List JournalEntry) : ¬ s.Lists f limit total count entries := by
  rintro ⟨pages, hpages, -⟩
  obtain ⟨n, hn⟩ : ∃ n, max count 1 = n + 1 := ⟨max count 1 - 1, by omega⟩
  rw [Store.listParts, hn, List.range_succ_eq_map, List.mapM_cons, h] at hpages
  exact nomatch hpages

namespace Sample

def journaled : MemoryStore := { journal := [fractional] }

def journaledRows : Tables := { journal := [JournalRow.ofEntry fractional] }

theorem journaled_mirrors : journaled.Mirrors journaledRows := by
  obtain ⟨e, t, -, ht, hm⟩ := (MemoryStore.mirrors_empty .indexed).appendJournal fractional_typed
  rw [Tables.appendJournal_typed rfl fractional_typed] at ht
  cases ht
  exact hm

theorem listing_journaled : MemoryStore.listing journaled.journal {} = [fractional] :=
  List.perm_singleton.mp (MemoryStore.listing_perm journaled.journal {})

theorem filter_typed : ({} : JournalFilter).Typed :=
  ⟨.inl rfl, .inl rfl, .inl rfl, .inl rfl, .inl rfl⟩

theorem listing_journaledRows : journaledRows.listing {} = [fractional.kept] := by
  have hrows := journaled_mirrors.listing_perm filter_typed
  rw [listing_journaled] at hrows
  exact List.perm_singleton.mp hrows

theorem memory_lists_oddly : (Store.memory journaled).Lists {} oddLimit 1 1 [fractional] := by
  have hslice : Page.slice [fractional] (Pagination.part 0 oddLimit).start
      (Pagination.part 0 oddLimit).stop = [fractional] := by
    have hstart : Page.position 1 (Pagination.part 0 oddLimit).start = 0 := by decide +kernel
    have hstop : Page.position 1 (Pagination.part 0 oddLimit).stop = 1 := by decide +kernel
    rw [Page.slice, List.length_singleton, hstart, hstop]
    rfl
  have hpage : (Store.memory journaled).listJournal {} (Pagination.part 0 oddLimit) =
      .ok (Page.of [fractional] 1 (Pagination.part 0 oddLimit)) := by
    show Except.ok (Page.ofListing (MemoryStore.listing journaled.journal {})
      (Pagination.part 0 oddLimit)) = _
    rw [listing_journaled, Page.ofListing, hslice]
    rfl
  have hcount : (Pagination.part 0 oddLimit).pageCount (Number.ofInt 1) = Number.ofInt 1 := by
    decide +kernel
  refine ⟨[Page.of [fractional] 1 (Pagination.part 0 oddLimit)], ?_, ?_, List.flatMap_singleton _ _⟩
  · rw [Store.listParts]
    show ([0].mapM fun k =>
      (Store.memory journaled).listJournal {} (Pagination.part k oddLimit)) = _
    rw [List.mapM_cons, hpage]
    rfl
  · intro page hpage
    rw [List.mem_singleton.mp hpage]
    exact ⟨rfl, hcount⟩

/-- A statement has no place for such a limit. -/
theorem tables_refuse_oddly : (Store.relational journaledRows).listJournal {}
    (Pagination.part 0 oddLimit) = .error (.refusedStatement .notWhole) := by
  have hstart : (Pagination.part 0 oddLimit).start = 0 := by decide +kernel
  have hwhole : oddLimit.toInt? = none := by decide +kernel
  have hlimit : Tables.wholeOf oddLimit = .error (.refusedStatement .notWhole) := by
    rw [Tables.wholeOf, hwhole]
  have hcut (items : List JournalEntry) : Tables.cut items (Pagination.part 0 oddLimit) =
      .error (.refusedStatement .notWhole) := by
    rw [Tables.cut, hstart]
    show (do
      let limit ← Tables.wholeOf oddLimit
      if limit = 0 then .ok [] else
        .ok (if limit < 0 then items.drop 0 else (items.drop 0).take limit.toNat)) = _
    rw [hlimit]
    rfl
  rw [Store.listJournal, Tables.listJournal, hstart]
  show (do
    let part ← Tables.cut (journaledRows.listing {}) (Pagination.part 0 oddLimit)
    pure (Page.of part (journaledRows.listing {}).length
      (Pagination.part 0 oddLimit)) : Except Failure (Page JournalEntry)) = _
  rw [hcut]
  rfl

end Sample

/-- **Fractions tell the stores apart.** Both have journaled the same entry, and list it with other
amounts; by a limit of a fraction the entry is listed from memory, and from tables not at all. -/
theorem not_stores_interchange :
    (Demand.appendJournal Sample.fractional).Typed ∧ Sample.oddLimit.isFinite = true ∧
      1 ≤ Sample.oddLimit ∧
      ∃ d d' : Desk,
        Desk.meet Sample.profile [.appendJournal Sample.fractional]
          (Desk.opened (.memory {}) (.book Sample.book) ⟨1⟩ {}) = ([.ok .done], d) ∧
        Desk.meet Sample.profile [.appendJournal Sample.fractional]
          (Desk.opened (.relational {}) (.book Sample.book) ⟨1⟩ {}) = ([.ok .done], d') ∧
        d.store.Lists {} 10 1 1 [Sample.fractional] ∧
        d'.store.Lists {} 10 1 1 [Sample.fractional.kept] ∧
        ¬ Sample.fractional.Same Sample.fractional.kept ∧
        d.store.Lists {} Sample.oddLimit 1 1 [Sample.fractional] ∧
        ∀ total count entries, ¬ d'.store.Lists {} Sample.oddLimit total count entries := by
  have hmemory : (Store.memory {}).appendJournal Sample.fractional =
      .ok (Sample.fractional, .memory Sample.journaled) := rfl
  have htables : (Store.relational {}).appendJournal Sample.fractional =
      .ok (Tables.answeredEntry Sample.fractional, .relational Sample.journaledRows) := by
    rw [Store.appendJournal, Tables.appendJournal_typed rfl Sample.fractional_typed]
    rfl
  have hten : Number.Limits 10 10 := ⟨by decide, by decide, by decide⟩
  have hcount : Sample.journaled.journal.length < Number.maxSafe := by decide
  have hlists := Sample.journaled_mirrors.memory_lists Sample.filter_typed hten hcount
  have hlists' := Sample.journaled_mirrors.tables_list Sample.filter_typed hten hcount
  rw [Sample.listing_journaled] at hlists hlists'
  rw [Sample.listing_journaledRows] at hlists'
  exact ⟨Sample.fractional_typed, by decide +kernel, by decide +kernel, _, _,
    Desk.meet_appendJournal hmemory, Desk.meet_appendJournal htables, hlists, hlists',
    Sample.fractional_kept, Sample.memory_lists_oddly,
    Store.not_lists Sample.tables_refuse_oddly⟩

end NoticeLedger
