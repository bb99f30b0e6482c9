import NoticeLedger.Proofs.Form.Accepting
import NoticeLedger.Proofs.Text.Parts

/-!
# NoticeLedger.Proofs.Form.Faults

What a report says of an object that was read by a form.

* `Json.Leads v path g` — the path leads from a value to one inside it, or to a missing member.
* `Fault.IsOf` — what a fault says of the value at its place.
* `Form.Violated form v path fault` — inside `v`, which is to be of the form, there is a fault at
  the path; the requirements are taken for what they ask, and nothing is said of how a report is
  made.
* `Form.WellNamed` — no name of a form has a dot in it, none stands twice among the members of one
  object, and a member has no two requirements of one name.
* `mem_violations` — exactly the faults are reported.
* `violations_pairwise` — each is reported once, and none after one that is further inside.
* `Violation.text_inj` — a violation is known from its text: where it is, and what it is called.
* `violations_reported` — all of this of the texts of a report, whose paths lead to what is wrong.
-/

namespace NoticeLedger

/-! ## Values inside values -/

/-- A path leads from a value to one inside it, or to a member that is missing in an object there:
into an object by name, and into a list by place. -/
inductive Json.Leads : Json → List String → Given → Prop where
  | here (v : Json) : Leads v [] (some v)
  | missing {m : Members} {name : String} :
      m.get? name = none → Leads (.object m) [name] none
  | member {m : Members} {name : String} {v : Json} {path : List String} {g : Given} :
      m.get? name = some v → Leads v path g → Leads (.object m) (name :: path) g
  | item {items : List Json} {i : Nat} {v : Json} {path : List String} {g : Given} :
      items[i]? = some v → Leads v path g → Leads (.array items) (toString i :: path) g

mutual

/-- What holds of objects and of single values, and of a list where it holds of the items, holds of
every value. -/
theorem Json.items_induction {P : Json → Prop}
    (array : ∀ items, (∀ item ∈ items, P item) → P (.array items))
    (object : ∀ m, P (.object m))
    (single : ∀ v : Json, v.members? = none → v.items? = none → P v) : (v : Json) → P v
  | .array items => array items (Json.forall_items array object single items)
  | .object m => object m
  | .null => single _ rfl rfl
  | .bool _ => single _ rfl rfl
  | .number _ => single _ rfl rfl
  | .text _ => single _ rfl rfl

theorem Json.forall_items {P : Json → Prop}
    (array : ∀ items, (∀ item ∈ items, P item) → P (.array items))
    (object : ∀ m, P (.object m))
    (single : ∀ v : Json, v.members? = none → v.items? = none → P v) :
    (items : List Json) → ∀ item ∈ items, P item
  | [] => List.forall_mem_nil P
  | item :: rest =>
    List.forall_mem_cons.mpr
      ⟨Json.items_induction array object single item, Json.forall_items array object single rest⟩

end

/-- What a fault says of the value that it is found at, which may be missing. -/
def Fault.IsOf : Fault → Given → Prop
  | unmet r, value => ∀ v, value = some v → ¬ r.Asks v
  | formless, value => ∃ v, value = some v ∧ v.members? = none ∧ v.items? = none

theorem Fault.formless_name_ne (r : Requirement) : formless.name ≠ (unmet r).name := by
  cases r <;> simp [name]

theorem Fault.colon_not_mem_name (fault : Fault) : ':' ∉ fault.name.toList := by
  cases fault with
  | formless => simp [name]
  | unmet r => cases r <;> simp [name]

/-- The name has no dot in it, and the requirements have names of their own. -/
def Field.WellNamed (f : Field) : Prop :=
  Text.Undivided '.' f.name ∧ (f.requirements.map fun r => (Fault.unmet r).name).Nodup

instance (f : Field) : Decidable f.WellNamed :=
  inferInstanceAs (Decidable (_ ∧ _))

namespace Form

def entries : Form → List (Field × Option Form)
  | empty => []
  | field f rest => (f, none) :: rest.entries
  | nested f inner rest => (f, some inner) :: rest.entries

theorem inside_induction {P : Form → Prop}
    (step : ∀ form : Form, (∀ f inner, (f, some inner) ∈ form.entries → P inner) → P form)
    (form : Form) : P form := by
  refine step form ?_
  induction form with
  | empty => exact fun _ _ h => nomatch h
  | field f rest ih =>
    intro g inner h
    rcases List.mem_cons.mp h with h | h
    · exact nomatch h
    · exact ih g inner h
  | nested f own rest ihown ih =>
    intro g inner h
    rcases List.mem_cons.mp h with h | h
    · cases h
      exact step own ihown
    · exact ih g inner h

/-! ## Faults -/

/-- There is a fault at a path inside a value that is to be of a form. A member that need not be
looked at has none, and neither has one without a value where a form of its own is asked for. -/
inductive Violated : Form → Json → List String → Fault → Prop where
  /-- A member is not what one of its requirements asks, or it is missing. -/
  | unmet {form : Form} {m : Members} {f : Field} {own : Option Form} {r : Requirement} :
      (f, own) ∈ form.entries → f.isSkipped (m.get? f.name) = false → r ∈ f.requirements →
      (∀ v, m.get? f.name = some v → ¬ r.Asks v) → Violated form (.object m) [f.name] (.unmet r)
  | formless {form : Form} {v : Json} :
      v.members? = none → v.items? = none → Violated form v [] .formless
  /-- There is one inside a member that has a form of its own. -/
  | member {form inner : Form} {m : Members} {f : Field} {v : Json} {path : List String}
      {fault : Fault} :
      (f, some inner) ∈ form.entries → f.isSkipped (m.get? f.name) = false →
      m.get? f.name = some v → Violated inner v path fault →
      Violated form (.object m) (f.name :: path) fault
  /-- There is one inside an item of a list. -/
  | item {form : Form} {items : List Json} {i : Nat} {v : Json} {path : List String}
      {fault : Fault} :
      items[i]? = some v → Violated form v path fault →
      Violated form (.array items) (toString i :: path) fault

namespace Violated

theorem single {form : Form} {v : Json} {path : List String} {fault : Fault}
    (hm : v.members? = none) (hi : v.items? = none) :
    Violated form v path fault ↔ path = [] ∧ fault = .formless := by
  constructor
  · intro h
    cases h with
    | unmet => exact nomatch hm
    | member => exact nomatch hm
    | item => exact nomatch hi
    | formless => exact ⟨rfl, rfl⟩
  · rintro ⟨rfl, rfl⟩
    exact .formless hm hi

theorem formless_of_nil {form : Form} {v : Json} {path : List String} {fault : Fault}
    (h : Violated form v path fault) (hp : path = []) : fault = .formless := by
  cases h with
  | formless => rfl
  | _ => exact nomatch hp

theorem path_ne_nil {form : Form} {m : Members} {path : List String} {fault : Fault}
    (h : Violated form (.object m) path fault) : path ≠ [] := by
  cases h with
  | formless hm => exact nomatch hm
  | unmet => exact List.cons_ne_nil _ _
  | member => exact List.cons_ne_nil _ _

theorem leads {form : Form} {v : Json} {path : List String} {fault : Fault}
    (h : Violated form v path fault) : ∃ g, v.Leads path g ∧ fault.IsOf g := by
  induction h with
  | @unmet _ m f _ _ _ _ _ hr =>
    cases hv : m.get? f.name with
    | none => exact ⟨none, .missing hv, nofun⟩
    | some v => exact ⟨some v, .member hv (.here v), hv ▸ hr⟩
  | @formless _ v hm hi => exact ⟨some v, .here v, v, rfl, hm, hi⟩
  | member _ _ hv _ ih =>
    obtain ⟨g, hg, hfault⟩ := ih
    exact ⟨g, .member hv hg, hfault⟩
  | item hv _ ih =>
    obtain ⟨g, hg, hfault⟩ := ih
    exact ⟨g, .item hv hg, hfault⟩

end Violated

/-! ## What is reported -/

def ofMember (m : Members) (e : Field × Option Form) : List Violation :=
  if e.1.isSkipped (m.get? e.1.name) then []
  else
    (e.1.requirements.filter fun r => !r.holds (m.get? e.1.name)).map (fun r => ⟨[], .unmet r⟩) ++
      e.2.toList.flatMap fun inner =>
        (m.get? e.1.name).toList.flatMap (nestedViolations inner.violations)

theorem violations_eq (form : Form) (m : Members) :
    form.violations m =
      form.entries.flatMap fun e => (ofMember m e).map (Violation.under e.1.name) := by
  induction form with
  | empty => rfl
  | field f rest ih =>
    rw [violations, entries, List.flatMap_cons, ← ih, ofMember]
    congr 1
    split
    · rfl
    · simp [Field.unmet, Violation.under]
  | nested f inner rest _ ih =>
    rw [violations, entries, List.flatMap_cons, ← ih, ofMember]
    congr 1
    split
    · rfl
    · simp [Field.unmet, Violation.under]

theorem itemViolations_eq (inner : Members → List Violation) (i : Nat) (items : List Json) :
    itemViolations inner i items =
      (items.zipIdx i).flatMap fun e =>
        (nestedViolations inner e.1).map (Violation.under (toString e.2)) := by
  induction items generalizing i with
  | nil => rfl
  | cons item rest ih => rw [itemViolations, List.zipIdx_cons, List.flatMap_cons, ih]

theorem nestedViolations_array (inner : Members → List Violation) (items : List Json) :
    nestedViolations inner (.array items) =
      items.zipIdx.flatMap fun e =>
        (nestedViolations inner e.1).map (Violation.under (toString e.2)) := by
  rw [nestedViolations, itemViolations_eq]

theorem nestedViolations_single (inner : Members → List Violation) {v : Json}
    (hm : v.members? = none) (hi : v.items? = none) :
    nestedViolations inner v = [⟨[], .formless⟩] := by
  cases v with
  | object => exact nomatch hm
  | array => exact nomatch hi
  | _ => rfl

/-- The faults of a value that has a form of its own are reported, if those of the objects of the
form are. -/
theorem mem_nestedViolations {inner : Form}
    (h : ∀ m x, x ∈ inner.violations m ↔ Violated inner (.object m) x.path x.fault) (v : Json)
    (x : Violation) :
    x ∈ nestedViolations inner.violations v ↔ Violated inner v x.path x.fault := by
  induction v using Json.items_induction generalizing x with
  | array items ih =>
    rw [nestedViolations_array, List.mem_flatMap]
    constructor
    · rintro ⟨⟨item, i⟩, hi, hx⟩
      obtain ⟨y, hy, rfl⟩ := List.mem_map.mp hx
      have hitem := List.mk_mem_zipIdx_iff_getElem?.mp hi
      exact .item hitem ((ih item (List.mem_of_getElem? hitem) y).mp hy)
    · obtain ⟨path, fault⟩ := x
      intro hx
      cases hx with
      | formless _ hi => exact nomatch hi
      | @item _ _ i item path _ hitem hx =>
        have hy := (ih item (List.mem_of_getElem? hitem) ⟨path, fault⟩).mpr hx
        exact ⟨(item, i), List.mk_mem_zipIdx_iff_getElem?.mpr hitem, List.mem_map.mpr ⟨_, hy, rfl⟩⟩
  | object m => exact h m x
  | single v hm hi =>
    rw [nestedViolations_single _ hm hi, List.mem_singleton, Violated.single hm hi,
      Violation.mk.injEq]

theorem mem_ofMember {m : Members} {f : Field} {own : Option Form} {x : Violation} :
    x ∈ ofMember m (f, own) ↔ f.isSkipped (m.get? f.name) = false ∧
      ((∃ r ∈ f.requirements, (Fault.unmet r).IsOf (m.get? f.name) ∧ x = ⟨[], .unmet r⟩) ∨
        ∃ inner v, own = some inner ∧ m.get? f.name = some v ∧
          x ∈ nestedViolations inner.violations v) := by
  have hunmet (r : Requirement) :
      (!r.holds (m.get? f.name)) = true ↔ (Fault.unmet r).IsOf (m.get? f.name) := by
    rw [Bool.not_eq_true', ← Bool.not_eq_true, Requirement.holds_iff, not_exists]
    exact forall_congr' fun v => not_and
  rw [ofMember]
  by_cases hs : f.isSkipped (m.get? f.name) = true
  · simp [hs]
  · rw [if_neg hs, List.mem_append, List.mem_map]
    simp only [List.mem_filter, hunmet, List.mem_flatMap, Option.mem_toList]
    refine ⟨fun h => ⟨Bool.eq_false_of_not_eq_true hs, h.imp ?_ ?_⟩, fun h => h.2.imp ?_ ?_⟩
    · rintro ⟨r, ⟨hr, hnot⟩, rfl⟩
      exact ⟨r, hr, hnot, rfl⟩
    · rintro ⟨inner, hown, v, hv, hx⟩
      exact ⟨inner, v, hown, hv, hx⟩
    · rintro ⟨r, hr, hnot, rfl⟩
      exact ⟨r, ⟨hr, hnot⟩, rfl⟩
    · rintro ⟨inner, v, hown, hv, hx⟩
      exact ⟨inner, hown, v, hv, hx⟩

/-- Exactly the faults of an object are reported of it. -/
theorem mem_violations (form : Form) (m : Members) (x : Violation) :
    x ∈ form.violations m ↔ Violated form (.object m) x.path x.fault := by
  -- lists inside a member are behind `mem_nestedViolations`, so the induction is on the forms alone
  induction form using inside_induction generalizing m x with
  | step form ih =>
    rw [violations_eq, List.mem_flatMap]
    constructor
    · rintro ⟨⟨f, own⟩, he, hx⟩
      obtain ⟨y, hy, rfl⟩ := List.mem_map.mp hx
      obtain ⟨hs, ⟨r, hr, hnot, rfl⟩ | ⟨inner, v, rfl, hv, hy⟩⟩ := mem_ofMember.mp hy
      · exact .unmet he hs hr hnot
      · exact .member he hs hv ((mem_nestedViolations (ih f inner he) v y).mp hy)
    · obtain ⟨path, fault⟩ := x
      intro hx
      cases hx with
      | formless hm => exact nomatch hm
      | @unmet _ _ f own r he hs hr hnot =>
        have hy : ⟨[], .unmet r⟩ ∈ ofMember m (f, own) :=
          mem_ofMember.mpr ⟨hs, .inl ⟨r, hr, hnot, rfl⟩⟩
        exact ⟨(f, own), he, List.mem_map.mpr ⟨_, hy, rfl⟩⟩
      | @member _ inner _ f v path _ he hs hv hx =>
        have hinside := (mem_nestedViolations (ih f inner he) v ⟨path, fault⟩).mpr hx
        have hy := mem_ofMember.mpr ⟨hs, .inr ⟨inner, v, rfl, hv, hinside⟩⟩
        exact ⟨(f, some inner), he, List.mem_map.mpr ⟨_, hy, rfl⟩⟩

/-! ## Names -/

/-- No name has a dot in it, none stands twice among the members of an object, and no two
requirements on a member have one name. -/
def WellNamed : Form → Prop
  | empty => True
  | field f rest =>
    f.WellNamed ∧ f.name ∉ rest.entries.map (fun e => e.1.name) ∧ rest.WellNamed
  | nested f inner rest =>
    f.WellNamed ∧ f.name ∉ rest.entries.map (fun e => e.1.name) ∧ rest.WellNamed ∧ inner.WellNamed

instance decidableWellNamed : (form : Form) → Decidable form.WellNamed
  | empty => inferInstanceAs (Decidable True)
  | field _ rest =>
    have := decidableWellNamed rest
    inferInstanceAs (Decidable (_ ∧ _ ∧ _))
  | nested _ inner rest =>
    have := decidableWellNamed rest
    have := decidableWellNamed inner
    inferInstanceAs (Decidable (_ ∧ _ ∧ _ ∧ _))

namespace WellNamed

variable {form : Form}

theorem nodup (h : form.WellNamed) : (form.entries.map fun e => e.1.name).Nodup := by
  induction form with
  | empty => exact List.nodup_nil
  | field f rest ih => exact List.nodup_cons.mpr ⟨h.2.1, ih h.2.2⟩
  | nested f inner rest _ ih => exact List.nodup_cons.mpr ⟨h.2.1, ih h.2.2.1⟩

theorem entry {e : Field × Option Form} (h : form.WellNamed) (he : e ∈ form.entries) :
    e.1.WellNamed ∧ ∀ inner, e.2 = some inner → inner.WellNamed := by
  induction form with
  | empty => exact nomatch he
  | field f rest ih =>
    rcases List.mem_cons.mp he with rfl | he
    · exact ⟨h.1, nofun⟩
    · exact ih h.2.2 he
  | nested f inner rest _ ih =>
    rcases List.mem_cons.mp he with rfl | he
    · refine ⟨h.1, ?_⟩
      rintro _ ⟨⟩
      exact h.2.2.2
    · exact ih h.2.2.1 he

end WellNamed

/-- No step of a path to a fault has a dot in it. -/
theorem Violated.undivided {form : Form} {v : Json} {path : List String} {fault : Fault}
    (h : Violated form v path fault) (hform : form.WellNamed) :
    ∀ step ∈ path, Text.Undivided '.' step := by
  induction h with
  | unmet he => exact List.forall_mem_cons.mpr ⟨(hform.entry he).1.1, nofun⟩
  | formless => nofun
  | member he _ _ _ ih =>
    obtain ⟨hf, hinner⟩ := hform.entry he
    exact List.forall_mem_cons.mpr ⟨hf.1, ih (hinner _ rfl)⟩
  | @item _ _ i _ _ _ _ _ ih =>
    refine List.forall_mem_cons.mpr ⟨fun hdot => ?_, ih hform⟩
    have hdigit := Nat.isDigit_of_mem_toDigits (by decide) (by decide) (Nat.toList_repr ▸ hdot)
    exact absurd hdigit (by decide)

end Form

/-! ## The order of a report -/

namespace Violation

/-- A violation may stand before another that is not further out, and that has another name where
both are at one place. -/
def Before (x y : Violation) : Prop :=
  y.path <+: x.path → y.path = x.path ∧ y.fault.name ≠ x.fault.name

theorem Before.under {x y : Violation} (h : Before x y) (step : String) :
    Before (x.under step) (y.under step) := by
  intro hp
  obtain ⟨-, hp⟩ := List.cons_prefix_cons.mp hp
  obtain ⟨he, hn⟩ := h hp
  exact ⟨congrArg (step :: ·) he, hn⟩

theorem Before.apart {step step' : String} (hne : step ≠ step') (x y : Violation) :
    Before (x.under step) (y.under step') :=
  fun hp => absurd (List.cons_prefix_cons.mp hp).1 hne.symm

/-- What is found behind steps that differ is in order if it is so behind each of them. -/
theorem pairwise_steps {α : Type} {l : List α} {step : α → String} {inside : α → List Violation}
    (hsteps : (l.map step).Nodup) (h : ∀ a ∈ l, (inside a).Pairwise Before) :
    (l.flatMap fun a => (inside a).map (under (step a))).Pairwise Before := by
  refine List.pairwise_flatMap.mpr ⟨fun a ha => ?_, ?_⟩
  · exact List.pairwise_map.mpr ((h a ha).imp fun hxy => hxy.under (step a))
  · refine (List.pairwise_map.mp hsteps).imp fun hne x hx y hy => ?_
    obtain ⟨x, -, rfl⟩ := List.mem_map.mp hx
    obtain ⟨y, -, rfl⟩ := List.mem_map.mp hy
    exact .apart hne x y

end Violation

namespace Form

open Violation

theorem nestedViolations_pairwise {inner : Members → List Violation}
    (h : ∀ m, (inner m).Pairwise Before) (v : Json) :
    (nestedViolations inner v).Pairwise Before := by
  induction v using Json.items_induction with
  | array items ih =>
    rw [nestedViolations_array]
    have hplaces : ((items.zipIdx.map Prod.snd).map toString).Nodup := by
      rw [List.zipIdx_map_snd]
      exact List.Nodup.map (fun _ _ h => Nat.repr_injective h) List.nodup_range'
    rw [List.map_map] at hplaces
    exact pairwise_steps hplaces fun e he => ih e.1 (List.fst_mem_of_mem_zipIdx he)
  | object m => exact h m
  | single v hm hi =>
    rw [nestedViolations_single _ hm hi]
    exact List.pairwise_singleton _ _

/-- What is wrong with a member itself comes before what is wrong inside it. -/
theorem ofMember_pairwise {m : Members} {e : Field × Option Form} (he : e.1.WellNamed)
    (h : ∀ inner, e.2 = some inner → ∀ m, (inner.violations m).Pairwise Before) :
    (ofMember m e).Pairwise Before := by
  rw [ofMember]
  split
  · exact .nil
  refine List.pairwise_append.mpr ⟨?_, ?_, fun x hx y hy hp => ?_⟩
  · refine List.pairwise_map.mpr (((List.pairwise_map.mp he.2).filter _).imp fun hne _ => ?_)
    exact ⟨rfl, hne.symm⟩
  · cases hown : e.2 with
    | none => exact .nil
    | some inner =>
      cases m.get? e.1.name with
      | none => exact .nil
      | some v => simpa using nestedViolations_pairwise (h inner hown) v
  · -- only a value without its form has a fault at the place of the member, with its own name
    obtain ⟨r, -, rfl⟩ := List.mem_map.mp hx
    have hpath : y.path = [] := List.prefix_nil.mp hp
    obtain ⟨inner, -, hy⟩ := List.mem_flatMap.mp hy
    obtain ⟨v, -, hy⟩ := List.mem_flatMap.mp hy
    have hfault := ((mem_nestedViolations (mem_violations inner) v y).mp hy).formless_of_nil hpath
    refine ⟨hpath, ?_⟩
    rw [hfault]
    exact Fault.formless_name_ne r

/-- Nothing is reported twice, and nothing after what is further inside. -/
theorem violations_pairwise {form : Form} (hform : form.WellNamed) (m : Members) :
    (form.violations m).Pairwise Before := by
  induction form using inside_induction generalizing m with
  | step form ih =>
    rw [violations_eq]
    refine pairwise_steps hform.nodup fun e he => ?_
    obtain ⟨hfield, hinner⟩ := hform.entry he
    refine ofMember_pairwise hfield fun inner hown => ?_
    exact ih e.1 inner (hown ▸ he) (hinner inner hown)

end Form

/-! ## Texts -/

/-- A violation is known from its text, where steps have no dots. -/
theorem Violation.text_inj {x y : Violation} (hx : x.path ≠ []) (hy : y.path ≠ [])
    (hxs : ∀ step ∈ x.path, Text.Undivided '.' step)
    (hys : ∀ step ∈ y.path, Text.Undivided '.' step) (h : x.text = y.text) :
    x.path = y.path ∧ x.fault.name = y.fault.name := by
  -- no name of a fault has a colon, so the last one ends the path
  have hchars (z : Violation) : z.text.toList =
      (".".intercalate z.path).toList ++ ':' :: (' ' :: z.fault.name.toList) := by
    simp [Violation.text]
  have hname (z : Violation) : ':' ∉ ' ' :: z.fault.name.toList :=
    List.not_mem_cons_of_ne_of_not_mem (by decide) z.fault.colon_not_mem_name
  have hlists := congrArg String.toList h
  rw [hchars, hchars] at hlists
  obtain ⟨hpath, hfault⟩ := Text.append_cons_inj_of_last (hname x) (hname y) hlists
  refine ⟨?_, String.toList_inj.mp (List.cons.inj hfault).2⟩
  exact Text.intercalate_inj hxs hys hx hy (String.toList_inj.mp hpath)

namespace Form

/-- Texts that say what is wrong with an object of a form. -/
structure Reported (form : Form) (m : Members) (texts : List String) : Prop where
  /-- Each fault has its text, and none stands before that of a fault further out. -/
  listed : ∃ vs : List Violation, texts = vs.map Violation.text ∧
    (∀ x, x ∈ vs ↔ Violated form (.object m) x.path x.fault) ∧
    vs.Pairwise fun x y => y.path <+: x.path → y.path = x.path
  /-- So no two faults have the same text. -/
  nodup : texts.Nodup
  /-- Between the dots stand the steps of the path, and it leads to what is wrong. -/
  leads : ∀ path fault, Violated form (.object m) path fault →
    Text.parts '.' (".".intercalate path) = path ∧
      ∃ g, (Json.object m).Leads path g ∧ fault.IsOf g

/-- The violations of an object say what is wrong with it. -/
theorem violations_reported {form : Form} (hform : form.WellNamed) (m : Members) :
    form.Reported m ((form.violations m).map Violation.text) where
  listed :=
    ⟨_, rfl, mem_violations form m,
      (violations_pairwise hform m).imp fun hbefore hp => (hbefore hp).1⟩
  nodup := by
    refine List.pairwise_map.mpr ((violations_pairwise hform m).imp_of_mem ?_)
    intro x y hx hy hbefore htext
    have hx := (mem_violations form m x).mp hx
    have hy := (mem_violations form m y).mp hy
    obtain ⟨hpath, hname⟩ := Violation.text_inj hx.path_ne_nil hy.path_ne_nil
      (hx.undivided hform) (hy.undivided hform) htext
    exact (hbefore (hpath ▸ List.prefix_refl _)).2 hname.symm
  leads _ _ h := ⟨Text.parts_intercalate (h.undivided hform) h.path_ne_nil, h.leads⟩

end Form

end NoticeLedger
