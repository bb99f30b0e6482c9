import NoticeLedger.Proofs.Form.Reading
import NoticeLedger.Proofs.Json.Printing

/-!
# NoticeLedger.Proofs.Form.Carrying

Members that were written from given values, as a form reads them.

* `Members.ofGiven` — members of given values, where one that was left out has no member; each is
  found under its own name (`get?_ofGiven`).
* `Form.readMembers_ofGiven` — they are read value by value.
* `Form.looseValue_texts`, `looseItems_texts` — texts at a place without a form stay as they are.
-/

namespace NoticeLedger

/-! ## Members of given values -/

/-- Members of given values; one that was left out has no member. -/
def Members.ofGiven (entries : List (String × Given)) : Members :=
  entries.flatMap fun (name, v) => (v.map fun v => (name, v)).toList

namespace Members

theorem ofGiven_nil : ofGiven [] = [] := rfl

theorem ofGiven_cons (name : String) (v : Given) (rest : List (String × Given)) :
    ofGiven ((name, v) :: rest) = (v.map fun v => (name, v)).toList ++ ofGiven rest := by
  rw [ofGiven, List.flatMap_cons, ofGiven]

theorem get?_ofGiven_of_not_mem {entries : List (String × Given)} {name : String}
    (h : name ∉ entries.map Prod.fst) : (ofGiven entries).get? name = none := by
  induction entries with
  | nil => rfl
  | cons e rest ih =>
    obtain ⟨n, v⟩ := e
    obtain ⟨hn, hrest⟩ := not_or.mp (mt List.mem_cons.mpr h)
    rw [ofGiven_cons]
    cases v with
    | none => exact ih hrest
    | some v => exact (get?_cons n v _ name).trans ((if_neg (Ne.symm hn)).trans (ih hrest))

/-- Of values under different names each is found under its own. -/
theorem get?_ofGiven {entries : List (String × Given)} (h : (entries.map Prod.fst).Nodup)
    (name : String) : (ofGiven entries).get? name = (entries.lookup name).join := by
  induction entries with
  | nil => rfl
  | cons e rest ih =>
    obtain ⟨n, v⟩ := e
    obtain ⟨hnew, hrest⟩ := List.nodup_cons.mp h
    rw [ofGiven_cons, List.lookup_cons]
    by_cases hn : n = name
    · subst hn
      rw [beq_self_eq_true]
      cases v with
      | none => exact get?_ofGiven_of_not_mem hnew
      | some v => exact (get?_cons n v _ n).trans (if_pos rfl)
    · rw [beq_eq_false_iff_ne.mpr (Ne.symm hn), ← ih hrest]
      cases v with
      | none => rfl
      | some v => exact (get?_cons n v _ name).trans (if_neg hn)

end Members

namespace Form

/-- The value under a name, if it is there, is read as another one. -/
inductive ReadsEntry (form : Form) : String × Given → String × Given → Prop where
  | entry {name : String} {v v' : Given} : name ∉ reservedNames →
      Option.Rel (fun v v' => form.readMember name v = .ok v') v v' →
      ReadsEntry form (name, v) (name, v')

theorem readMembers_ofGiven {form : Form} {entries entries' : List (String × Given)}
    (h : List.Forall₂ form.ReadsEntry entries entries') :
    form.readMembers (Members.ofGiven entries) = .ok (Members.ofGiven entries') := by
  induction h with
  | nil => rfl
  | cons he _ ih =>
    obtain @⟨name, v, v', hn, hv⟩ := he
    rw [Members.ofGiven_cons, Members.ofGiven_cons]
    cases hv with
    | none => exact ih
    | some hv =>
      simp only [Option.map_some, Option.toList_some, List.singleton_append]
      rw [readMembers_cons, if_neg hn, hv, ih]
      rfl

theorem looseValue_of_text (s : String) : looseValue (.text s) = .ok (.text s) := rfl

theorem looseMembers_texts {m : Members} (hm : Json.TextMembers m)
    (hn : ∀ e ∈ m, e.1 ∉ reservedNames) : looseMembers m = .ok m := by
  induction m with
  | nil => rw [looseMembers]
  | cons e rest ih =>
    obtain ⟨name, v⟩ := e
    obtain ⟨⟨s, hs⟩, hrest⟩ := List.forall_mem_cons.mp hm
    obtain ⟨hname, hnames⟩ := List.forall_mem_cons.mp hn
    simp only at hs hname
    subst hs
    rw [looseMembers, if_neg (mt List.contains_iff_mem.mp hname), looseValue_of_text,
      ih hrest hnames]
    rfl

theorem looseValue_texts {m : Members} (hm : Json.TextMembers m)
    (hn : ∀ e ∈ m, e.1 ∉ reservedNames) : looseValue (.object m) = .ok (.object m) := by
  have hnone : m.get? "constructor" = none := by
    refine List.lookup_eq_none_iff.mpr fun e he => ?_
    have hreserved : "constructor" ∈ reservedNames := by decide
    exact bne_iff_ne.mpr fun h => hn e he (h ▸ hreserved)
  have hplain : ¬ namesConstructor m = true := by
    rw [namesConstructor, hnone]
    nofun
  rw [looseValue, if_neg hplain, looseMembers_texts hm hn]
  rfl

theorem looseItems_texts {items : List Json} (h : ∀ item ∈ items, ∃ s, item = .text s) :
    looseItems items = .ok items := by
  induction items with
  | nil => rw [looseItems]
  | cons item rest ih =>
    obtain ⟨⟨s, rfl⟩, hrest⟩ := List.forall_mem_cons.mp h
    rw [looseItems, looseValue_of_text, ih hrest]
    rfl

end Form

end NoticeLedger
