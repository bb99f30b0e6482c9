import NoticeLedger.Proofs.Form.Reading
import NoticeLedger.Proofs.Rehearsal.Bench
import NoticeLedger.Proofs.Store.Partition
import NoticeLedger.Service

/-!
# NoticeLedger.Proofs.Intake.Asking

Queries of the journal, from what was sent to the page that is answered.

* `Query.StandsFor` — the number that a member of a query stands for.
* `Query.Asks query x k limit l` — the query can be answered: it asks for the page `x` at the place
  `k`, counted from zero, of `limit`, that is `l`, entries.
* `Query.Accepted m` — the members that an accepted query has.
* `Query.meets_iff` — members meet the form of a query exactly if what was sent asks for a page.
* `Query.Answers` — what the page says and holds.
* `Reconciler.listJournal_answers` — a query is answered or refused, unless it cannot be read.
-/

namespace NoticeLedger

open Form

namespace Query

/-- The number that a member of a query stands for: the standard one if nothing was sent, and else
the number that is read of what was sent. -/
inductive StandsFor (standard : Number) : Given → Number → Prop where
  | standard {sent : Given} : sent.isNothing = true → StandsFor standard sent standard
  | sent {v : Json} {x : Number} : numberOf v = .number x → StandsFor standard (some v) x

/-- A query that can be answered, and the page that it asks for: the number of the page and of the
entries on it are whole, from one on, and there are no more entries than `maxLimit`. -/
structure Asks (query : Members) (x : Number) (k : Nat) (limit : Number) (l : Nat) : Prop where
  texts : (filter query).ByTexts
  sentPage : StandsFor 1 (query.get? "page") x
  place : x.toInt? = some ((k + 1 : Nat) : Int)
  sentLimit : StandsFor 50 (query.get? "limit") limit
  size : limit.toInt? = some (l : Int)
  pos : 1 ≤ l
  most : l ≤ maxLimit

structure Accepted (m : Members) : Prop where
  texts : (filter m).ByTexts
  page : m.get? "page" = some .null ∨
    ∃ x k, m.get? "page" = some (.number x) ∧ x.toInt? = some ((k + 1 : Nat) : Int)
  limit : m.get? "limit" = some .null ∨
    ∃ x l, m.get? "limit" = some (.number x) ∧ x.toInt? = some ((l : Nat) : Int) ∧ 1 ≤ l ∧
      l ≤ maxLimit

/-! ## Values as they are read -/

/-- A text, or `null`, comes of nothing else, and nothing else comes of it. -/
theorem looseValue_word {v v' : Json} (h : looseValue v = .ok v') (hw : v'.IsWord ∨ v.IsWord) :
    v' = v := by
  rcases hw with (rfl | ⟨s, rfl⟩) | (rfl | ⟨s, rfl⟩)
  · exact (looseValue_flat h rfl rfl).symm
  · exact (looseValue_text h).symm
  · exact (Except.ok.inj h).symm
  · exact (Except.ok.inj h).symm

theorem numberOf_eq_null {v : Json} (h : numberOf v = .null) : v = .null := by
  cases v with
  | null => rfl
  | bool b => exact nomatch h
  | number x => exact nomatch h
  | text s => exact nomatch h
  | array items => exact nomatch h
  | object m => exact nomatch h

/-- A member that is to be a number, as it is read and filled in. -/
def filledNumber (standard : Number) (sent : Given) : Json :=
  sent.elim (.number standard) numberOf

section Number

variable {f : Field} {standard x : Number} {sent : Given}

/-- `null` stays in its place until the page is looked up. -/
theorem StandsFor.filled (h : StandsFor standard sent x) :
    (filledNumber standard sent = .null ∨ filledNumber standard sent = .number x) ∧
      Given.orElse (some (filledNumber standard sent)) (.number standard) = .number x := by
  cases h with
  | standard hn =>
    rcases Given.isNothing_cases hn with rfl | rfl
    · exact ⟨.inr rfl, rfl⟩
    · exact ⟨.inl rfl, rfl⟩
  | sent hv =>
    rw [filledNumber, Option.elim_some, hv]
    exact ⟨.inr rfl, rfl⟩

/-- A member that is to be a number stands for one that meets every requirement, if the standard one
does. -/
theorem met_filledNumber_iff (ho : f.optional = true) (hw : .whole ∈ f.requirements)
    (hs : ∀ r ∈ f.requirements, r.Asks (.number standard)) :
    f.Met (some (filledNumber standard sent)) ↔
      ∃ x, StandsFor standard sent x ∧ ∀ r ∈ f.requirements, r.Asks (.number x) := by
  constructor
  · intro h
    cases sent with
    | none => exact ⟨standard, .standard rfl, hs⟩
    | some v =>
      rcases h with hskip | hall
      · have hnull := Given.isNothing_cases (Field.isSkipped_iff.mp hskip).2
        have hv : v = .null := numberOf_eq_null (Option.some.inj (hnull.resolve_left nofun))
        exact ⟨standard, .standard (hv ▸ rfl), hs⟩
      · have hasks (r) (hr : r ∈ f.requirements) : r.Asks (numberOf v) := by
          obtain ⟨v', hv', hasks⟩ := Requirement.holds_iff.mp (hall r hr)
          cases hv'
          exact hasks
        obtain ⟨x, hx, -⟩ := hasks _ hw
        exact ⟨x, .sent hx, hx ▸ hasks⟩
  · rintro ⟨x, hx, hasks⟩
    rcases hx.filled.1 with hnull | hnumber
    · rw [hnull]
      exact .inl (Field.isSkipped_iff.mpr ⟨ho, rfl⟩)
    · rw [hnumber]
      exact .inr fun r hr => Requirement.holds_iff.mpr ⟨_, rfl, hasks r hr⟩

end Number

/-! ## Members -/

def pageField : Field where
  name := "page"
  reading := .number
  requirements := [.atLeast 1, .whole]

def limitField : Field where
  name := "limit"
  reading := .number
  requirements := [.atMost maxLimit, .atLeast 1, .whole]

theorem asks_whole_iff {x : Number} :
    (Requirement.Asks (.atLeast 1) (.number x) ∧ Requirement.Asks .whole (.number x)) ↔
      ∃ k : Nat, x.toInt? = some ((k + 1 : Nat) : Int) := by
  constructor
  · rintro ⟨⟨_, ⟨⟩, hle⟩, _, ⟨⟩, hwhole⟩
    obtain ⟨i, hi⟩ := Option.isSome_iff_exists.mp hwhole
    have hpos := (Number.ofInt_le_iff hi (by omega)).mp hle
    obtain ⟨n, rfl⟩ := Int.eq_ofNat_of_zero_le (show 0 ≤ i by omega)
    obtain ⟨k, rfl⟩ := Nat.exists_eq_succ_of_ne_zero (show n ≠ 0 by omega)
    exact ⟨k, hi⟩
  · rintro ⟨k, hk⟩
    refine ⟨⟨x, rfl, (Number.ofInt_le_iff hk (by omega)).mpr (by omega)⟩, x, rfl, ?_⟩
    rw [hk, Option.isSome_some]

theorem asks_page_iff {x : Number} :
    (∀ r ∈ pageField.requirements, r.Asks (.number x)) ↔
      ∃ k : Nat, x.toInt? = some ((k + 1 : Nat) : Int) := by
  simp only [pageField, List.forall_mem_cons, List.not_mem_nil, false_imp_iff, implies_true,
    and_true]
  exact asks_whole_iff

theorem asks_limit_iff {x : Number} :
    (∀ r ∈ limitField.requirements, r.Asks (.number x)) ↔
      ∃ l : Nat, x.toInt? = some (l : Int) ∧ 1 ≤ l ∧ l ≤ maxLimit := by
  simp only [limitField, List.forall_mem_cons, List.not_mem_nil, false_imp_iff, implies_true,
    and_true, asks_whole_iff]
  constructor
  · rintro ⟨⟨_, ⟨⟩, hle⟩, k, hk⟩
    have hmost := (Number.le_ofInt_iff hk (by rw [maxLimit]; omega)).mp hle
    exact ⟨k + 1, hk, by omega, by omega⟩
  · rintro ⟨l, hl, hpos, hmost⟩
    refine ⟨⟨x, rfl, (Number.le_ofInt_iff hl (by rw [maxLimit]; omega)).mpr (by omega)⟩, l - 1, ?_⟩
    rw [hl, Nat.sub_add_cancel hpos]

theorem met_text_iff {name : String} {value : Given} :
    Field.Met { name := name, requirements := [.text] } value ↔ value.orNull.IsWord := by
  rw [Field.Met, Field.isSkipped_iff, Given.isNothing_iff, Json.IsWord]
  refine or_congr (and_iff_right rfl) ?_
  rw [List.forall_mem_singleton, Requirement.holds_iff]
  constructor
  · rintro ⟨_, rfl, s, rfl⟩
    exact ⟨s, rfl⟩
  · rintro ⟨s, hs⟩
    cases value with
    | none => cases hs
    | some v => exact ⟨v, rfl, s, hs⟩

theorem form_meets_iff (m : Members) :
    form.Meets m ↔
      (filter m).ByTexts ∧ pageField.Met (m.get? "page") ∧ limitField.Met (m.get? "limit") := by
  let text (name : String) : Field := { name := name, requirements := [.text] }
  show (text "pspReference").Met (m.get? "pspReference") ∧
    (text "accountId").Met (m.get? "accountId") ∧ (text "eventCode").Met (m.get? "eventCode") ∧
    pageField.Met (m.get? "page") ∧ limitField.Met (m.get? "limit") ∧ True ↔ _
  rw [met_text_iff, met_text_iff, met_text_iff, and_true]
  constructor
  · rintro ⟨href, haccount, hcode, hnumbers⟩
    exact ⟨⟨href, haccount, hcode⟩, hnumbers⟩
  · rintro ⟨⟨href, haccount, hcode⟩, hnumbers⟩
    exact ⟨href, haccount, hcode, hnumbers⟩

section Read

variable {query read : Members} (hquery : (query.map Prod.fst).Nodup)
  (hread : form.readMembers query = .ok read)

include hquery hread

theorem get?_merged (name : String) :
    (Members.merge defaults read).get? name = (read.get? name).or (defaults.get? name) :=
  Members.get?_merge ((readMembers_names hread).nodup hquery) name

theorem get?_text {name : String} (hname : name ∉ reservedNames)
    (htext : ∀ v, form.readMember name v = looseValue v) (hnone : defaults.get? name = none)
    (hw : Json.IsWord (Given.orNull ((Members.merge defaults read).get? name)) ∨
      Json.IsWord (Given.orNull (query.get? name))) :
    (Members.merge defaults read).get? name = query.get? name := by
  have hrel := readMembers_get? hread name hname
  rw [get?_merged hquery hread, hnone, Option.or_none] at hw ⊢
  generalize query.get? name = sent at hrel hw
  generalize read.get? name = value at hrel hw
  cases hrel with
  | none => rfl
  | some hv =>
    rw [htext] at hv
    exact congrArg some (looseValue_word hv hw)

theorem get?_number {name : String} {standard : Number} (hname : name ∉ reservedNames)
    (hnumber : ∀ v, form.readMember name v = readPlain .number v)
    (hsome : defaults.get? name = some (.number standard)) :
    (Members.merge defaults read).get? name = some (filledNumber standard (query.get? name)) := by
  have hrel := readMembers_get? hread name hname
  rw [get?_merged hquery hread, hsome]
  generalize query.get? name = sent at hrel
  generalize read.get? name = value at hrel
  cases hrel with
  | none => rfl
  | some hv =>
    rw [hnumber, readPlain] at hv
    split at hv
    · cases hv
    · rw [← Except.ok.inj hv]
      rfl

theorem get?_page : (Members.merge defaults read).get? "page" =
    some (filledNumber 1 (query.get? "page")) :=
  get?_number hquery hread (by decide) (fun _ => rfl) rfl

theorem get?_limit : (Members.merge defaults read).get? "limit" =
    some (filledNumber 50 (query.get? "limit")) :=
  get?_number hquery hread (by decide) (fun _ => rfl) rfl

/-- Texts that are asked for are those that were sent. -/
theorem filter_read (h : (filter (Members.merge defaults read)).ByTexts ∨ (filter query).ByTexts) :
    filter (Members.merge defaults read) = filter query := by
  have htext {name : String} (hname : name ∉ reservedNames)
      (hloose : ∀ v, form.readMember name v = looseValue v) (hnone : defaults.get? name = none)
      (get : ∀ m : Members, (filter m).ByTexts → Json.IsWord (Given.orNull (m.get? name))) :
      (Members.merge defaults read).get? name = query.get? name :=
    get?_text hquery hread hname hloose hnone (h.imp (get _) (get _))
  rw [filter, filter, htext (by decide) (fun _ => rfl) rfl fun _ h => h.pspReference,
    htext (by decide) (fun _ => rfl) rfl fun _ h => h.accountId,
    htext (by decide) (fun _ => rfl) rfl fun _ h => h.eventCode]

/-- Members meet the form exactly if what was sent asks for a page. -/
theorem meets_iff :
    form.Meets (Members.merge defaults read) ↔ ∃ x k limit l, Asks query x k limit l := by
  rw [form_meets_iff, get?_page hquery hread, get?_limit hquery hread,
    met_filledNumber_iff rfl (by decide) (asks_page_iff.mpr ⟨0, by decide +kernel⟩),
    met_filledNumber_iff rfl (by decide)
      (asks_limit_iff.mpr ⟨50, by decide +kernel, by decide, by decide⟩)]
  simp only [asks_page_iff, asks_limit_iff]
  constructor
  · rintro ⟨htexts, ⟨x, hx, k, hk⟩, limit, hlimit, l, hl, hpos, hmost⟩
    rw [filter_read hquery hread (.inl htexts)] at htexts
    exact ⟨x, k, limit, l, htexts, hx, hk, hlimit, hl, hpos, hmost⟩
  · rintro ⟨x, k, limit, l, h⟩
    refine ⟨?_, ⟨x, h.sentPage, k, h.place⟩, limit, h.sentLimit, l, h.size, h.pos, h.most⟩
    rw [filter_read hquery hread (.inr h.texts)]
    exact h.texts

end Read

/-! ## Answers -/

variable {query m : Members}

theorem accept_eq {read : Members} (hread : form.readMembers query = .ok read) :
    accept query =
      if form.violations (Members.merge defaults read) = [] then .ok (Members.merge defaults read)
      else .error (refusal ((form.violations (Members.merge defaults read)).map complaint)) := by
  simp only [accept, hread, bind, Except.bind]
  cases form.violations (Members.merge defaults read) <;> rfl

/-- Reading fails for a query that trips. -/
theorem accept_of_trips (h : Trips form (.object query)) :
    ∃ message, accept query = .error (.unforeseen message) := by
  obtain ⟨message, hread⟩ := (readMembers_fails form query).fails h
  refine ⟨message, ?_⟩
  rw [accept, hread]
  rfl

/-- A query of texts, numbers, truth values and nothing can be read. -/
theorem reads_of_flat (h : ∀ e ∈ query, e.2.members? = none ∧ e.2.items? = none) :
    ¬ Trips form (.object query) := by
  rw [trips_object]
  rintro ⟨⟨name, v⟩, he, -, ⟨inner, hinner, -⟩ | ⟨-, ⟨-, htrips⟩ | ⟨-, hwordless⟩⟩⟩
  · exact nomatch hinner
  · obtain ⟨hm, hi⟩ := h _ he
    cases htrips with
    | here _ => exact nomatch hm
    | member _ _ _ => exact nomatch hm
    | item _ _ => exact nomatch hi
  · obtain ⟨hm, hi⟩ := h _ he
    cases v with
    | object m => exact nomatch hm
    | array items => exact nomatch hi
    | _ => exact nomatch hwordless

/-- A query that asks for a page is accepted, and it is that page that it asks for. -/
theorem Asks.accepted {x limit : Number} {k l : Nat} (h : Asks query x k limit l)
    (hquery : (query.map Prod.fst).Nodup) (hreads : ¬ Trips form (.object query)) :
    ∃ m, accept query = .ok m ∧ Accepted m ∧ filter m = filter query ∧
      pagination m = .numbered x limit := by
  obtain ⟨read, hread⟩ := (readMembers_fails form query).works hreads
  have hmeets := (meets_iff hquery hread).mpr ⟨x, k, limit, l, h⟩
  have hfilter := filter_read hquery hread (.inr h.texts)
  have hpage := get?_page hquery hread
  have hlimit := get?_limit hquery hread
  refine ⟨Members.merge defaults read, ?_, ⟨hfilter ▸ h.texts, ?_, ?_⟩, hfilter, ?_⟩
  · rw [accept_eq hread, if_pos ((violations_eq_nil_iff form _).mpr hmeets)]
  · rw [hpage]
    rcases h.sentPage.filled.1 with hnull | hx
    · exact .inl (congrArg some hnull)
    · exact .inr ⟨x, k, congrArg some hx, h.place⟩
  · rw [hlimit]
    rcases h.sentLimit.filled.1 with hnull | hx
    · exact .inl (congrArg some hnull)
    · exact .inr ⟨limit, l, congrArg some hx, h.size, h.pos, h.most⟩
  · rw [pagination, hpage, hlimit, h.sentPage.filled.2, h.sentLimit.filled.2]
    rfl

/-- A query that asks for no page is refused with what is wrong with it. -/
theorem accept_of_not_asks (h : ¬ ∃ x k limit l, Asks query x k limit l)
    (hquery : (query.map Prod.fst).Nodup) (hreads : ¬ Trips form (.object query)) :
    ∃ complaints, complaints ≠ [] ∧ accept query = .error (refusal complaints) := by
  obtain ⟨read, hread⟩ := (readMembers_fails form query).works hreads
  have hfaults : form.violations (Members.merge defaults read) ≠ [] := by
    rw [ne_eq, violations_eq_nil_iff, meets_iff hquery hread]
    exact h
  refine ⟨(form.violations (Members.merge defaults read)).map complaint, ?_, ?_⟩
  · exact mt List.map_eq_nil_iff.mp hfaults
  · rw [accept_eq hread, if_neg hfaults]

/-- The page that is answered to a query, of the entries that it asks for. -/
structure Answers (listed : List JournalEntry) (x : Number) (k : Nat) (limit : Number) (l : Nat)
    (page : Page JournalEntry) : Prop where
  items : page.items = (listed.drop (k * l)).take l
  atMost : page.items.length ≤ maxLimit
  total : page.total.toInt? = some (listed.length : Int)
  number : page.page = some (.number x)
  limited : page.limit = some (.number limit)
  totalPages : page.totalPages.toInt? = some (partCount listed.length l : Int)

end Query

namespace Reconciler

variable {query : Members} {d : Desk}

theorem listJournal_of_accept {m : Members} (h : Query.accept query = .ok m) :
    Reconciler.listJournal query d =
      (d.store.listJournal (Query.filter m) (Query.pagination m), d) := by
  have hread : (ExceptT.mk (pure (Query.accept query)) : Action Members) d = (.ok m, d) := by
    rw [h]
    rfl
  exact Action.bind_ok hread

theorem listJournal_of_refuse {f : Failure} (h : Query.accept query = .error f) :
    Reconciler.listJournal query d = (.error f, d) := by
  have hread : (ExceptT.mk (pure (Query.accept query)) : Action Members) d = (.error f, d) := by
    rw [h]
    rfl
  exact Action.bind_error hread

/-- **A query of the journal is answered with a page in range, or it is refused.** A query that asks
for a page is accepted with members in range, and that page is answered: of one that says nothing of
the number of the page or of how much it holds, the first page, of fifty entries. Any other query is
refused with what is wrong with it. Left out of this are queries that cannot be read, which fail as
nothing that was foreseen. The desk is left as it was. A name stands once in a query, and a list
holds fewer entries than the greatest amount. -/
theorem listJournal_answers (query : Members) (d : Desk) {s : MemoryStore}
    (hquery : (query.map Prod.fst).Nodup) (hstore : d.store = .memory s)
    (hworks : s.enter .listJournal = .ok ()) (hshort : s.journal.length < Number.maxSafe) :
    (Trips Query.form (.object query) →
      ∃ message, Query.accept query = .error (.unforeseen message)) ∧
    (¬ Trips Query.form (.object query) →
      (∀ x k limit l, Query.Asks query x k limit l → ∃ m page, Query.accept query = .ok m ∧
        Query.Accepted m ∧ Reconciler.listJournal query d = (.ok page, d) ∧
        Query.Answers (MemoryStore.listing s.journal (Query.filter query)) x k limit l page) ∧
      ((¬ ∃ x k limit l, Query.Asks query x k limit l) → ∃ complaints, complaints ≠ [] ∧
        Query.accept query = .error (Query.refusal complaints))) ∧
    ∀ f, Query.accept query = .error f → Reconciler.listJournal query d = (.error f, d) := by
  refine ⟨Query.accept_of_trips, fun hreads => ⟨fun x k limit l hasks => ?_, fun hnone => ?_⟩,
    fun f => listJournal_of_refuse⟩
  · obtain ⟨m, haccept, haccepted, hfilter, hpagination⟩ := hasks.accepted hquery hreads
    have hcounts : limit.Counts l := by
      refine ⟨hasks.size, hasks.pos, ?_⟩
      have hmost := hasks.most
      rw [Query.maxLimit] at hmost
      omega
    obtain ⟨page, hpage, hitems, htotal, hnumber, hlimited, hpages⟩ :=
      MemoryStore.listJournal_numbered hworks hasks.texts hcounts hshort hasks.place
    refine ⟨m, page, haccept, haccepted, ?_, ⟨hitems, ?_, htotal, hnumber, hlimited, hpages⟩⟩
    · rw [listJournal_of_accept haccept, hstore, hfilter, hpagination]
      exact congrArg (·, d) hpage
    · rw [hitems]
      exact (List.length_take_le _ _).trans hasks.most
  · exact Query.accept_of_not_asks hnone hquery hreads

end Reconciler

namespace Sample

def query : Members :=
  [("page", .text " 2"), ("limit", .null), ("eventCode", .text "capture"), ("verbose", .bool true)]

theorem query_asks : Query.Asks query 2 1 50 50 where
  texts := ⟨.inl rfl, .inl rfl, .inr ⟨_, rfl⟩⟩
  sentPage := .sent (by decide +kernel)
  place := by decide +kernel
  sentLimit := .standard rfl
  size := by decide +kernel
  pos := by decide
  most := by decide

theorem query_reads : ¬ Trips Query.form (.object query) :=
  Query.reads_of_flat (by decide)

end Sample

namespace Reconciler

theorem listJournal_answers_sample : ∃ m page, Query.accept Sample.query = .ok m ∧
    Query.Accepted m ∧
    Reconciler.listJournal Sample.query Sample.bench.desk = (.ok page, Sample.bench.desk) ∧
    Query.Answers (MemoryStore.listing Sample.bench.store.journal (Query.filter Sample.query))
      2 1 50 50 page := by
  obtain ⟨-, hanswered, -⟩ :=
    listJournal_answers Sample.query Sample.bench.desk (by decide) rfl rfl (by decide)
  exact (hanswered Sample.query_reads).1 2 1 50 50 Sample.query_asks

/-- A query whose page has no words is neither accepted nor refused. -/
theorem not_every_query_answered :
    ¬ ∀ query : Members, (query.map Prod.fst).Nodup → (∃ m, Query.accept query = .ok m) ∨
      ∃ complaints, Query.accept query = .error (Query.refusal complaints) := by
  intro h
  have hfails : Query.accept [("page", .object [("toString", .number 1)])] = .error .wordless := rfl
  rcases h [("page", .object [("toString", .number 1)])] (List.nodup_singleton _) with
    ⟨m, hok⟩ | ⟨complaints, hrefused⟩
  · exact nomatch hfails.symm.trans hok
  · exact nomatch hfails.symm.trans hrefused

end Reconciler

end NoticeLedger
