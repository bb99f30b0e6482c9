import NoticeLedger.Form.Reader
import NoticeLedger.Proofs.Form.Accepting

/-!
# NoticeLedger.Proofs.Form.Reading

What reading by a form does to a value.

* `Trips`, `TripsLoose` — the values that cannot be read, because at some depth an object outside
  every form names a constructor, or a value to be read as a number has no words.
* `readMembers_fails` — those are the only ones that reading fails for.
* `readMembers_get?` — every member is read on its own, and none comes or goes but those under a
  reserved name (`readMembers_names`).
* `ReadAs` — an object is read as an object, a list item by item, and anything else stays, outside
  every form as well (`looseValue_flat`).
* `list_read` — a needed list of objects with a form of their own, from what was sent to what meets
  that form.
-/

namespace NoticeLedger.Form

/-- A value outside every form in which, at some depth, an object names a constructor. -/
inductive TripsLoose : Json → Prop where
  | here {m : Members} : namesConstructor m = true → TripsLoose (.object m)
  | item {items : List Json} {item : Json} :
      item ∈ items → TripsLoose item → TripsLoose (.array items)
  | member {m : Members} {name : String} {value : Json} :
      (name, value) ∈ m → name ∉ reservedNames → TripsLoose value →
      TripsLoose (.object m)

/-- A value in which a form finds, at some depth, a member without a form that cannot be read. -/
inductive Trips : Form → Json → Prop where
  | item {form : Form} {items : List Json} {item : Json} :
      item ∈ items → Trips form item → Trips form (.array items)
  | nested {form inner : Form} {m : Members} {name : String} {value : Json} :
      (name, value) ∈ m → name ∉ reservedNames → form.inner? name = some inner →
      Trips inner value → Trips form (.object m)
  | loose {form : Form} {m : Members} {name : String} {value : Json} :
      (name, value) ∈ m → name ∉ reservedNames → form.inner? name = none →
      form.reading name ≠ .number → TripsLoose value → Trips form (.object m)
  | number {form : Form} {m : Members} {name : String} {value : Json} :
      (name, value) ∈ m → name ∉ reservedNames → form.inner? name = none →
      form.reading name = .number → value.isWordless = true → Trips form (.object m)

/-- Something that fails over a value under a condition, and works otherwise. -/
structure FailsIff {α : Type} (condition : Prop) (x : Except Failure α) : Prop where
  fails : condition → ∃ message, x = .error (.unforeseen message)
  works : ¬ condition → ∃ a, x = .ok a

namespace FailsIff

variable {α β : Type} {A B C : Prop}

theorem ok (a : α) (h : ¬ A) : FailsIff A (.ok a) :=
  ⟨fun ha => absurd ha h, fun _ => ⟨a, rfl⟩⟩

theorem error {message : String} (h : A) :
    FailsIff A (.error (.unforeseen message) : Except Failure α) :=
  ⟨fun _ => ⟨message, rfl⟩, fun hn => absurd h hn⟩

theorem congr {x : Except Failure α} (hx : FailsIff A x) (h : A ↔ B) : FailsIff B x :=
  ⟨fun hb => hx.fails (h.mpr hb), fun hb => hx.works fun ha => hb (h.mp ha)⟩

theorem bind {x : Except Failure α} {f : α → Except Failure β} (hx : FailsIff A x)
    (hf : ∀ a, FailsIff B (f a)) : FailsIff (A ∨ B) (x >>= f) := by
  by_cases ha : A
  · obtain ⟨_, rfl⟩ := hx.fails ha
    exact .error (.inl ha)
  · obtain ⟨a, rfl⟩ := hx.works ha
    exact (hf a).congr ⟨.inr, fun h => h.resolve_left ha⟩

theorem map {x : Except Failure α} (hx : FailsIff A x) (f : α → β) : FailsIff A (x.map f) := by
  by_cases ha : A
  · obtain ⟨_, rfl⟩ := hx.fails ha
    exact .error ha
  · obtain ⟨a, rfl⟩ := hx.works ha
    exact .ok _ ha

theorem bind_ok {x : Except Failure α} (hx : FailsIff A x) (f : α → β) :
    FailsIff A (x >>= fun a => .ok (f a)) :=
  (hx.bind (B := False) fun a => .ok (f a) id).congr (or_iff_left id)

end FailsIff

/-! ## What cannot be read -/

theorem tripsLoose_array {items : List Json} :
    TripsLoose (.array items) ↔ ∃ item ∈ items, TripsLoose item := by
  constructor
  · rintro ⟨⟩
    exact ⟨_, ‹_›, ‹_›⟩
  · rintro ⟨item, hi, h⟩
    exact .item hi h

theorem tripsLoose_object {m : Members} :
    TripsLoose (.object m) ↔ namesConstructor m = true ∨
      ∃ e ∈ m, e.1 ∉ reservedNames ∧ TripsLoose e.2 := by
  constructor
  · intro h
    cases h with
    | here h => exact .inl h
    | member hm hn h => exact .inr ⟨_, hm, hn, h⟩
  · rintro (h | ⟨⟨name, value⟩, hm, hn, h⟩)
    · exact .here h
    · exact .member hm hn h

mutual

theorem looseValue_fails : (v : Json) → FailsIff (TripsLoose v) (looseValue v)
  | .null => .ok _ nofun
  | .bool _ => .ok _ nofun
  | .number _ => .ok _ nofun
  | .text _ => .ok _ nofun
  | .array items => by
    rw [looseValue, tripsLoose_array]
    exact (looseItems_fails items).bind_ok _
  | .object m => by
    rw [looseValue, tripsLoose_object]
    by_cases h : namesConstructor m = true
    · rw [if_pos h]
      exact .error (.inl h)
    · rw [if_neg h]
      exact ((looseMembers_fails m).bind_ok _).congr (or_iff_right h).symm

theorem looseItems_fails :
    (items : List Json) → FailsIff (∃ item ∈ items, TripsLoose item) (looseItems items)
  | [] => .ok _ (by simp)
  | item :: rest => by
    rw [looseItems]
    have hrest := looseItems_fails rest
    refine ((looseValue_fails item).bind fun _ => hrest.bind_ok _).congr ?_
    simp

theorem looseMembers_fails :
    (m : List (String × Json)) →
      FailsIff (∃ e ∈ m, e.1 ∉ reservedNames ∧ TripsLoose e.2) (looseMembers m)
  | [] => .ok _ (by simp)
  | (name, value) :: rest => by
    rw [looseMembers]
    have hrest := looseMembers_fails rest
    by_cases hn : name ∈ reservedNames
    · rw [if_pos (List.contains_iff_mem.mpr hn)]
      exact hrest.congr (by simp [hn])
    · rw [if_neg (mt List.contains_iff_mem.mp hn)]
      refine ((looseValue_fails value).bind fun _ => hrest.bind_ok _).congr ?_
      simp [hn]

end

/-- The value of one member, read by its form or as the form says. -/
def readMember (form : Form) (name : String) (value : Json) : Except Failure Json :=
  match form.inner? name with
  | some inner => read inner value
  | none => readPlain (form.reading name) value

theorem readMembers_cons (form : Form) (name : String) (value : Json) (rest : Members) :
    readMembers form ((name, value) :: rest) =
      if name ∈ reservedNames then readMembers form rest
      else readMember form name value >>= fun value =>
        readMembers form rest >>= fun rest => .ok ((name, value) :: rest) := by
  rw [readMembers, readMember]
  by_cases hn : name ∈ reservedNames
  · rw [if_pos (List.contains_iff_mem.mpr hn), if_pos hn]
  · rw [if_neg (mt List.contains_iff_mem.mp hn), if_neg hn]
    cases form.inner? name <;> rfl

/-- A value that cannot be read without a form. -/
def TripsPlain (reading : Reading) (value : Json) : Prop :=
  (reading ≠ .number ∧ TripsLoose value) ∨ (reading = .number ∧ value.isWordless = true)

/-- A member in which reading trips. -/
def TripsAt (form : Form) (name : String) (value : Json) : Prop :=
  name ∉ reservedNames ∧
    ((∃ inner, form.inner? name = some inner ∧ Trips inner value) ∨
      (form.inner? name = none ∧ TripsPlain (form.reading name) value))

theorem trips_array {form : Form} {items : List Json} :
    Trips form (.array items) ↔ ∃ item ∈ items, Trips form item := by
  constructor
  · rintro ⟨⟩
    exact ⟨_, ‹_›, ‹_›⟩
  · rintro ⟨item, hi, h⟩
    exact .item hi h

theorem trips_object {form : Form} {m : Members} :
    Trips form (.object m) ↔ ∃ e ∈ m, TripsAt form e.1 e.2 := by
  constructor
  · intro h
    cases h with
    | nested hm hn hi h => exact ⟨_, hm, hn, .inl ⟨_, hi, h⟩⟩
    | loose hm hn hi hr h => exact ⟨_, hm, hn, .inr ⟨hi, .inl ⟨hr, h⟩⟩⟩
    | number hm hn hi hr h => exact ⟨_, hm, hn, .inr ⟨hi, .inr ⟨hr, h⟩⟩⟩
  · rintro ⟨⟨name, value⟩, hm, hn, ⟨inner, hi, h⟩ | ⟨hi, ⟨hr, h⟩ | ⟨hr, h⟩⟩⟩
    · exact .nested hm hn hi h
    · exact .loose hm hn hi hr h
    · exact .number hm hn hi hr h

theorem readPlain_fails (reading : Reading) (value : Json) :
    FailsIff (TripsPlain reading value) (readPlain reading value) := by
  have h := looseValue_fails value
  cases reading with
  | plain => exact h.congr (by simp [TripsPlain])
  | flag => exact (h.map flagOf).congr (by simp [TripsPlain])
  | number =>
    rw [readPlain]
    by_cases hw : value.isWordless = true
    · rw [if_pos hw]
      exact .error (.inr ⟨rfl, hw⟩)
    · rw [if_neg hw]
      exact .ok _ (by simp [TripsPlain, hw])

mutual

theorem read_fails (form : Form) : (v : Json) → FailsIff (Trips form v) (read form v)
  | .null => .ok _ nofun
  | .bool _ => .ok _ nofun
  | .number _ => .ok _ nofun
  | .text _ => .ok _ nofun
  | .array items => by
    rw [read, trips_array]
    exact (readItems_fails form items).bind_ok _
  | .object m => by
    rw [read]
    exact (readMembers_fails form m).bind_ok _

theorem readItems_fails (form : Form) :
    (items : List Json) → FailsIff (∃ item ∈ items, Trips form item) (readItems form items)
  | [] => .ok _ (by simp)
  | item :: rest => by
    rw [readItems]
    have hrest := readItems_fails form rest
    refine ((read_fails form item).bind fun _ => hrest.bind_ok _).congr ?_
    simp

/-- The members of an object can be read unless reading trips. -/
theorem readMembers_fails (form : Form) :
    (m : List (String × Json)) → FailsIff (Trips form (.object m)) (readMembers form m)
  | [] => .ok _ (by simp [trips_object])
  | (name, value) :: rest => by
    rw [readMembers_cons]
    have hrest := readMembers_fails form rest
    rw [trips_object] at hrest ⊢
    by_cases hn : name ∈ reservedNames
    · rw [if_pos hn]
      exact hrest.congr (by simp [TripsAt, hn])
    · rw [if_neg hn]
      have hvalue : FailsIff (TripsAt form name value) (readMember form name value) := by
        rw [readMember]
        cases hi : form.inner? name with
        | some inner => exact (read_fails inner value).congr (by simp [TripsAt, hn, hi])
        | none => exact (readPlain_fails _ value).congr (by simp [TripsAt, hn, hi])
      refine (hvalue.bind fun _ => hrest.bind_ok _).congr ?_
      simp

end

/-! ## What is read -/

/-- What a value is read as: an object member by member, a list item by item. -/
inductive ReadAs (form : Form) : Json → Json → Prop where
  | object {m m' : Members} :
      readMembers form m = .ok m' → ReadAs form (.object m) (.object m')
  | array {items items' : List Json} :
      List.Forall₂ (fun item item' => read form item = .ok item') items items' →
      ReadAs form (.array items) (.array items')
  | plain {v : Json} : v.members? = none → v.items? = none → ReadAs form v v

theorem readItems_ok {form : Form} {items items' : List Json}
    (h : readItems form items = .ok items') :
    List.Forall₂ (fun item item' => read form item = .ok item') items items' := by
  induction items generalizing items' with
  | nil =>
    rw [readItems] at h
    cases h
    exact .nil
  | cons item rest ih =>
    rw [readItems] at h
    obtain ⟨item', hi, h⟩ := bind_eq_ok h
    obtain ⟨rest', hr, h⟩ := bind_eq_ok h
    cases h
    exact .cons hi (ih hr)

theorem read_ok {form : Form} {v v' : Json} (h : read form v = .ok v') : ReadAs form v v' := by
  cases v with
  | object m =>
    rw [read] at h
    obtain ⟨m', hm, h⟩ := bind_eq_ok h
    cases h
    exact .object hm
  | array items =>
    rw [read] at h
    obtain ⟨items', hi, h⟩ := bind_eq_ok h
    cases h
    exact .array (readItems_ok hi)
  | null => cases h; exact .plain rfl rfl
  | bool b => cases h; exact .plain rfl rfl
  | number x => cases h; exact .plain rfl rfl
  | text s => cases h; exact .plain rfl rfl

/-- Every member is read on its own. -/
theorem readMembers_get? {form : Form} {m m' : Members} (h : readMembers form m = .ok m')
    (name : String) (hn : name ∉ reservedNames) :
    Option.Rel (fun v v' => readMember form name v = .ok v') (m.get? name) (m'.get? name) := by
  induction m generalizing m' with
  | nil =>
    rw [readMembers] at h
    cases h
    exact .none
  | cons e rest ih =>
    obtain ⟨key, value⟩ := e
    rw [readMembers_cons] at h
    rw [Members.get?_cons]
    by_cases hk : key ∈ reservedNames
    · have hne : key ≠ name := fun e => hn (e ▸ hk)
      rw [if_pos hk] at h
      rw [if_neg hne]
      exact ih h
    · rw [if_neg hk] at h
      obtain ⟨value', hv, h⟩ := bind_eq_ok h
      obtain ⟨rest', hr, h⟩ := bind_eq_ok h
      cases h
      rw [Members.get?_cons]
      by_cases he : key = name
      · subst he
        simpa using Option.Rel.some hv
      · rw [if_neg he, if_neg he]
        exact ih hr

/-- No name comes, so one that stood once still does. -/
theorem readMembers_names {form : Form} {m m' : Members} (h : readMembers form m = .ok m') :
    (m'.map Prod.fst).Sublist (m.map Prod.fst) := by
  induction m generalizing m' with
  | nil =>
    rw [readMembers] at h
    cases h
    exact .slnil
  | cons e rest ih =>
    obtain ⟨key, value⟩ := e
    rw [readMembers_cons] at h
    by_cases hk : key ∈ reservedNames
    · rw [if_pos hk] at h
      exact (ih h).cons key
    · rw [if_neg hk] at h
      obtain ⟨value', -, h⟩ := bind_eq_ok h
      obtain ⟨rest', hr, h⟩ := bind_eq_ok h
      cases h
      exact (ih hr).cons_cons key

/-- Outside every form a value that is neither an object nor a list was read as it is. -/
theorem looseValue_flat {v v' : Json} (h : looseValue v = .ok v') (hm : v'.members? = none)
    (hi : v'.items? = none) : v = v' := by
  cases v with
  | object m =>
    rw [looseValue] at h
    split at h
    · exact nomatch h
    · obtain ⟨_, -, h⟩ := bind_eq_ok h
      cases h
      exact nomatch hm
  | array items =>
    rw [looseValue] at h
    obtain ⟨_, -, h⟩ := bind_eq_ok h
    cases h
    exact nomatch hi
  | null => exact Except.ok.inj h
  | bool b => exact Except.ok.inj h
  | number x => exact Except.ok.inj h
  | text t => exact Except.ok.inj h

/-- A text outside every form was a text before. -/
theorem looseValue_text {v : Json} {s : String} (h : looseValue v = .ok (.text s)) :
    v = .text s :=
  looseValue_flat h rfl rfl

/-- A needed list of objects with a form of their own was sent as a list, and each item is read and
met on its own. -/
theorem list_read {form inner : Form} {f : Field} {sent read : Members}
    (h : form.readMembers sent = .ok read) (hn : f.name ∉ reservedNames)
    (hi : form.inner? f.name = some inner) (hf : f.optional = false)
    (hr : .list ∈ f.requirements) (hm : f.Met (read.get? f.name))
    (hinside : f.isSkipped (read.get? f.name) = false →
      ∀ v, read.get? f.name = some v → Within inner.Meets v) :
    ∃ items items', sent.get? f.name = some (.array items) ∧
      read.get? f.name = some (.array items') ∧
      List.Forall₂ (fun item item' => inner.read item = .ok item') items items' ∧
      ∀ item ∈ items', Within inner.Meets item := by
  have hget := readMembers_get? h f.name hn
  rcases hm.asks hr with ⟨ho, -⟩ | ⟨_, hv, items', rfl⟩
  · rw [hf] at ho
    exact nomatch ho
  have hasked : f.isSkipped (read.get? f.name) = false := by
    rw [hv]
    rfl
  have hwithin := hinside hasked _ hv
  rw [hv] at hget
  cases hsent : sent.get? f.name with
  | none =>
    rw [hsent] at hget
    exact nomatch hget
  | some v =>
    rw [hsent] at hget
    cases hget with
    | some hread =>
      rw [readMember, hi] at hread
      cases read_ok hread with
      | array hitems => exact ⟨_, items', rfl, hv, hitems, within_array.mp hwithin⟩
      | plain _ hi => exact nomatch hi

end NoticeLedger.Form
