import NoticeLedger.Text.Blank
import NoticeLedger.Text.Upper.Table

/-!
# NoticeLedger.Text.Upper

Upper-casing by the full Unicode mapping, the same in every language.

* `upperChar` — the one to three characters that a character becomes.
* `upper` — the upper case of a text, character by character.
* `canonical` — the one spelling of a code that may come in any case and with blanks around it; it
  is empty exactly for a text of blanks (`canonical_eq_empty_iff`).
-/

namespace NoticeLedger.Text

/-- The code points of a character's upper case. -/
def upperCode (n : Nat) : List Nat :=
  match caseRanges.find? (·.covers n) with
  | some r => [r.upper n]
  | none => (caseExpansions.lookup n).getD [n]

def upperChar (c : Char) : List Char :=
  (upperCode c.toNat).map Char.ofNat

def upper (s : String) : String :=
  String.ofList (s.toList.flatMap upperChar)

/-- The spelling of a code without blanks at its ends, in upper case. -/
def canonical (s : String) : String :=
  upper (trim s)

theorem upperCode_ne_nil (n : Nat) : upperCode n ≠ [] := by
  have hlong : ∀ e ∈ caseExpansions, e.2 ≠ [] := by decide
  rw [upperCode]
  split
  · exact List.cons_ne_nil _ _
  · cases h : caseExpansions.lookup n with
    | none => exact List.cons_ne_nil _ _
    | some codes =>
      obtain ⟨l, r, he, -⟩ := List.lookup_eq_some_iff.mp h
      exact hlong (n, codes) (by simp [he])

theorem upper_eq_empty_iff (s : String) : upper s = "" ↔ s = "" := by
  constructor
  · intro h
    have hs : ∀ c ∈ s.toList, upperChar c = [] := by
      simpa [upper] using h
    cases hc : s.toList with
    | nil => simpa using hc
    | cons c cs =>
      have := hs c (by rw [hc]; exact List.mem_cons_self)
      exact absurd (List.map_eq_nil_iff.mp this) (upperCode_ne_nil _)
  · rintro rfl
    rfl

/-- A code is empty exactly if there were only blanks. -/
theorem canonical_eq_empty_iff (s : String) :
    canonical s = "" ↔ ∀ c ∈ s.toList, isBlank c = true := by
  rw [canonical, upper_eq_empty_iff, trim_eq_empty_iff]

end NoticeLedger.Text
