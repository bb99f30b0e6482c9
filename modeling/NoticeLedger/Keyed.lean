/-!
# NoticeLedger.Keyed

Lists of records, each under a key of its own.

* `Keyed.find?` — the record under a key.
* `Keyed.put` — a record in the place of the one under its key, or at the end.
* `Keyed.Replaces` — a list with one record in the place of another.

What was put in is found under its key, and every other key is as it was: `find?_put`. A record
stands where the one under its key stood (`put_eq_replace`), or at the end (`put_eq_append`), so no
two records come to share a key: `nodup_put`. A change that leaves the keys alone may come before or
after: `find?_map`, `map_put`.
-/

namespace NoticeLedger.Keyed

variable {α κ : Type} [DecidableEq κ] (key : α → κ)

def find? (records : List α) (k : κ) : Option α :=
  records.find? (key · == k)

/-- A list with a record put in the place of the one under the same key, or at the end. -/
def put : List α → α → List α
  | [], r => [r]
  | x :: xs, r => if key x = key r then r :: xs else x :: put xs r

/-- A list with one record in the place of another, and every other record as it was. -/
def Replaces (x y : α) (before after : List α) : Prop :=
  ∃ left right, before = left ++ x :: right ∧ after = left ++ y :: right

theorem find?_nil (k : κ) : find? key [] k = none := rfl

theorem find?_cons (x : α) (xs : List α) (k : κ) :
    find? key (x :: xs) k = if key x = k then some x else find? key xs k := by
  by_cases h : key x = k <;> simp [find?, h]

/-- A record that was put in is found, and no other key is touched. -/
theorem find?_put (records : List α) (r : α) (k : κ) :
    find? key (put key records r) k = if key r = k then some r else find? key records k := by
  induction records with
  | nil => simp [put, find?_cons, find?_nil]
  | cons x xs ih =>
    by_cases h : key x = key r
    · rw [put, if_pos h, find?_cons, find?_cons, h]
      by_cases hr : key r = k <;> simp [hr]
    · simp only [put, if_neg h, find?_cons, ih]
      by_cases hx : key x = k
      · have hr : key r ≠ k := fun e => h (hx.trans e.symm)
        simp [hx, hr]
      · simp [hx]

theorem find?_eq_some {records : List α} {k : κ} {x : α} (h : find? key records k = some x) :
    x ∈ records ∧ key x = k :=
  ⟨List.mem_of_find?_eq_some h, eq_of_beq (List.find?_some (p := (key · == k)) h)⟩

theorem not_mem_of_find?_eq_none {records : List α} {k : κ} (h : find? key records k = none) :
    k ∉ records.map key := by
  intro hk
  obtain ⟨x, hx, rfl⟩ := List.mem_map.mp hk
  exact List.find?_eq_none.mp h x hx (beq_self_eq_true _)

/-- Where no two records share a key, each is found under its own. -/
theorem find?_of_mem {records : List α} (hn : (records.map key).Nodup) {x : α} (hx : x ∈ records) :
    find? key records (key x) = some x := by
  induction records with
  | nil => exact nomatch hx
  | cons y ys ih =>
    rw [List.map_cons, List.nodup_cons] at hn
    rw [find?_cons]
    rcases List.mem_cons.mp hx with rfl | hx
    · rw [if_pos rfl]
    · have hy : key y ≠ key x := fun e => hn.1 (e ▸ List.mem_map_of_mem hx)
      rw [if_neg hy, ih hn.2 hx]

theorem mem_put {records : List α} {r x : α} (h : x ∈ put key records r) :
    x = r ∨ x ∈ records := by
  induction records with
  | nil => exact .inl (List.mem_singleton.mp h)
  | cons y ys ih =>
    rw [put] at h
    split at h
    · rcases List.mem_cons.mp h with rfl | h
      · exact .inl rfl
      · exact .inr (List.mem_cons_of_mem y h)
    · rcases List.mem_cons.mp h with rfl | h
      · exact .inr List.mem_cons_self
      · exact (ih h).imp_right (List.mem_cons_of_mem y)

/-- A record under a key of its own comes at the end. -/
theorem put_eq_append {records : List α} {r : α} (h : key r ∉ records.map key) :
    put key records r = records ++ [r] := by
  induction records with
  | nil => rfl
  | cons y ys ih =>
    rw [List.map_cons, List.mem_cons, not_or] at h
    rw [put, if_neg (Ne.symm h.1), ih h.2, List.cons_append]

/-- A record takes the place of one under its key that no other record comes before. -/
theorem put_append_cons {left right : List α} {r x : α} (hx : key x = key r)
    (h : key r ∉ left.map key) : put key (left ++ x :: right) r = left ++ r :: right := by
  induction left with
  | nil => rw [List.nil_append, put, if_pos hx, List.nil_append]
  | cons y ys ih =>
    rw [List.map_cons, List.mem_cons, not_or] at h
    rw [List.cons_append, put, if_neg (Ne.symm h.1), ih h.2, List.cons_append]

theorem Replaces.cons {x y : α} {before after : List α} (z : α) (h : Replaces x y before after) :
    Replaces x y (z :: before) (z :: after) := by
  obtain ⟨left, right, rfl, rfl⟩ := h
  exact ⟨z :: left, right, rfl, rfl⟩

/-- What two records have in common, the lists have in common. -/
theorem Replaces.map_eq {β : Type} {x y : α} {before after : List α} {f : α → β}
    (h : Replaces x y before after) (hf : f y = f x) : after.map f = before.map f := by
  obtain ⟨left, right, rfl, rfl⟩ := h
  rw [List.map_append, List.map_cons, List.map_append, List.map_cons, hf]

theorem Replaces.flatMap_eq {β : Type} {x y : α} {before after : List α} {f : α → List β}
    (h : Replaces x y before after) (hf : f y = f x) : after.flatMap f = before.flatMap f := by
  obtain ⟨left, right, rfl, rfl⟩ := h
  rw [List.flatMap_append, List.flatMap_cons, List.flatMap_append, List.flatMap_cons, hf]

/-- A record takes the place of the one that is found under its key. -/
theorem put_eq_replace {records : List α} {r x : α} (h : find? key records (key r) = some x) :
    Replaces x r records (put key records r) := by
  induction records with
  | nil => exact nomatch h
  | cons y ys ih =>
    rw [find?_cons] at h
    rw [put]
    split at h
    · rename_i hy
      cases h
      rw [if_pos hy]
      exact ⟨[], ys, rfl, rfl⟩
    · rename_i hy
      rw [if_neg hy]
      exact (ih h).cons y

/-- Keys that are distinct stay so. -/
theorem nodup_put {records : List α} (r : α) (h : (records.map key).Nodup) :
    ((put key records r).map key).Nodup := by
  by_cases hr : key r ∈ records.map key
  · obtain ⟨x, hx, hkey⟩ := List.mem_map.mp hr
    have hfound : find? key records (key r) = some x := by
      rw [← hkey]
      exact find?_of_mem key h hx
    rw [(put_eq_replace key hfound).map_eq hkey.symm]
    exact h
  · rw [put_eq_append key hr, List.map_append, List.nodup_append]
    refine ⟨h, by simp, fun k hk k' hk' he => ?_⟩
    rw [List.mem_singleton.mp hk'] at he
    exact hr (he ▸ hk)

theorem find?_map {f : α → α} (hf : ∀ x, key (f x) = key x) (records : List α) (k : κ) :
    find? key (records.map f) k = (find? key records k).map f := by
  have hkey : ((key · == k) ∘ f) = (key · == k) := by
    funext x
    rw [Function.comp_apply, hf]
  rw [find?, find?, List.find?_map, hkey]

theorem map_put {f : α → α} (hf : ∀ x, key (f x) = key x) (records : List α) (r : α) :
    (put key records r).map f = put key (records.map f) (f r) := by
  induction records with
  | nil => rfl
  | cons x xs ih =>
    rw [put, List.map_cons, put, hf, hf]
    by_cases h : key x = key r
    · rw [if_pos h, if_pos h, List.map_cons]
    · rw [if_neg h, if_neg h, List.map_cons, ih]

/-- A record that is there already is put where it was. -/
theorem put_self {records : List α} {r : α} (h : find? key records (key r) = some r) :
    put key records r = records := by
  obtain ⟨left, right, hbefore, hafter⟩ := put_eq_replace key h
  rw [hafter, ← hbefore]

end NoticeLedger.Keyed
