import Mathlib

/-!
# NoticeLedger.Proofs.Text.Parts

Texts that are put together from parts with a character between them.

* `Text.parts` — the parts of a text, from one separator to the next.
* `Text.parts_intercalate` — parts without the separator are found again, so no two lists of such
  parts are put together to one text (`Text.intercalate_inj`).
* `Text.append_cons_inj_of_last` — a text is divided at the last place of a character in one way.
-/

namespace NoticeLedger.Text

/-- The parts of a text between the places where a character stands. -/
def parts (separator : Char) (s : String) : List String :=
  (s.toList.splitOn separator).map String.ofList

/-- A text that has no place for the separator. -/
def Undivided (separator : Char) (s : String) : Prop :=
  separator ∉ s.toList

instance (separator : Char) (s : String) : Decidable (Undivided separator s) :=
  inferInstanceAs (Decidable (separator ∉ s.toList))

theorem parts_intercalate {separator : Char} {ps : List String}
    (h : ∀ p ∈ ps, Undivided separator p) (hne : ps ≠ []) :
    parts separator ((String.singleton separator).intercalate ps) = ps := by
  have hlists : ∀ l ∈ ps.map String.toList, separator ∉ l := List.forall_mem_map.mpr h
  rw [parts, String.toList_intercalate, String.toList_singleton,
    List.splitOn_intercalate separator hlists (mt List.map_eq_nil_iff.mp hne), List.map_map]
  exact (List.map_congr_left fun p _ => String.ofList_toList).trans (List.map_id ps)

theorem intercalate_inj {separator : Char} {ps qs : List String}
    (hps : ∀ p ∈ ps, Undivided separator p) (hqs : ∀ q ∈ qs, Undivided separator q)
    (hp : ps ≠ []) (hq : qs ≠ [])
    (h : (String.singleton separator).intercalate ps =
      (String.singleton separator).intercalate qs) : ps = qs := by
  rw [← parts_intercalate hps hp, h, parts_intercalate hqs hq]

/-- What stands around the last place of a character is known from the whole. -/
theorem append_cons_inj_of_last {α : Type} {a : α} {before before' behind behind' : List α}
    (hb : a ∉ behind) (hb' : a ∉ behind')
    (h : before ++ a :: behind = before' ++ a :: behind') :
    before = before' ∧ behind = behind' := by
  rcases List.append_eq_append_iff.mp h with ⟨more, rfl, hmore⟩ | ⟨more, rfl, hmore⟩
  · cases more with
    | nil => exact ⟨(List.append_nil _).symm, (List.cons.inj hmore).2⟩
    | cons c more => exact absurd (by rw [(List.cons.inj hmore).2]; simp) hb
  · cases more with
    | nil => exact ⟨List.append_nil _, (List.cons.inj hmore).2.symm⟩
    | cons c more => exact absurd (by rw [(List.cons.inj hmore).2]; simp) hb'

end NoticeLedger.Text
