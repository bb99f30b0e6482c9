import Mathlib
import NoticeLedger.Text.Upper

/-!
# NoticeLedger.Proofs.Text.Canonical

Canonical codes stay as they are.

* `mapsNone` — the tables map none of some code points; `caseRanges_settled` and
  `caseExpansions_settled` look up what the tables map to once and for all.
* `upperChar_settled` — an upper-case character has itself as its upper case, and is not blank
  unless it was before (`upper_upper`).
* `Trimmed` — neither end is blank, so nothing is cut off (`Trimmed.trimChars`).
* `canonical_canonical` — a canonical code is its own canonical spelling.
* `upper_eq_canonical_iff` — when the upper case alone is the canonical spelling.
-/

namespace NoticeLedger.Text

/-! ## The tables -/

/-- Whether the tables map none of some code points from `lo` to `hi`. What lies beyond those is
not looked at code point by code point. -/
def mapsNone (lo hi : Nat) (codes : List Nat) : Bool :=
  (caseRanges.all fun r => r.last.blt lo || hi.blt r.first || codes.all fun n => !r.covers n) &&
    caseExpansions.all fun e => e.1.blt lo || hi.blt e.1 || codes.all fun n => n != e.1

/-- Whether a code point is that of a character that is not blank. -/
def isVisible (n : Nat) : Bool :=
  n.isValidChar && !isBlank (Char.ofNat n)

/-- The code points that a range maps to. -/
def CaseRange.targets (r : CaseRange) : List Nat :=
  (List.range ((r.last - r.first) / r.step + 1)).map fun i => r.target + i * r.step

theorem caseRanges_settled : (caseRanges.all fun r =>
    mapsNone r.target (r.upper r.last) r.targets && r.targets.all isVisible) = true := by
  decide +kernel

theorem caseExpansions_settled : (caseExpansions.all fun e =>
    e.2.all fun n => mapsNone n n [n] && isVisible n) = true := by
  decide +kernel

variable {n m : Nat} {c d : Char} {cs : List Char}

theorem upperCode_of_mapsNone {lo hi : Nat} {codes : List Nat} (h : mapsNone lo hi codes = true)
    (hn : n ∈ codes) (hlo : lo ≤ n) (hhi : n ≤ hi) : upperCode n = [n] := by
  rw [mapsNone, Bool.and_eq_true, List.all_eq_true, List.all_eq_true] at h
  obtain ⟨hranges, hexpansions⟩ := h
  have hfind : caseRanges.find? (·.covers n) = none := by
    rw [List.find?_eq_none]
    intro r hr hcovers
    have hbounds : r.first ≤ n ∧ n ≤ r.last := by
      simp only [CaseRange.covers, Bool.and_eq_true, decide_eq_true_eq] at hcovers
      exact hcovers.1
    have hr := hranges r hr
    simp only [Bool.or_eq_true, Nat.blt_eq, List.all_eq_true] at hr
    rcases hr with (hbefore | hafter) | hnone
    · omega
    · omega
    · have := hnone n hn
      rw [hcovers] at this
      exact nomatch this
  have hlookup : caseExpansions.lookup n = none := by
    rw [List.lookup_eq_none_iff]
    intro e he
    have he := hexpansions e he
    simp only [Bool.or_eq_true, Nat.blt_eq, List.all_eq_true] at he
    rcases he with (hbefore | hafter) | hnone
    · exact bne_iff_ne.mpr (by omega)
    · exact bne_iff_ne.mpr (by omega)
    · exact hnone n hn
  rw [upperCode, hfind]
  simp only [hlookup, Option.getD_none]

theorem CaseRange.upper_mem_targets {r : CaseRange} (h : r.covers n = true) :
    r.upper n ∈ r.targets ∧ r.target ≤ r.upper n ∧ r.upper n ≤ r.upper r.last := by
  simp only [covers, Bool.and_eq_true, decide_eq_true_eq, beq_iff_eq] at h
  obtain ⟨⟨hfirst, hlast⟩, hstep⟩ := h
  have hmul := Nat.div_mul_cancel (Nat.dvd_of_mod_eq_zero hstep)
  have hle : (n - r.first) / r.step ≤ (r.last - r.first) / r.step :=
    Nat.div_le_div_right (by omega)
  refine ⟨List.mem_map.mpr ⟨(n - r.first) / r.step, ?_, ?_⟩, ?_, ?_⟩
  · rw [List.mem_range]
    omega
  · rw [hmul, upper]
    omega
  · rw [upper]
    omega
  · rw [upper, upper]
    omega

/-- What the tables map to is an upper case and visible. -/
theorem upperCode_cases (h : m ∈ upperCode n) :
    (m = n ∧ upperCode n = [n]) ∨ (upperCode m = [m] ∧ isVisible m = true) := by
  unfold upperCode at h
  split at h
  · rename_i r hfind
    rw [List.mem_singleton.mp h]
    have hr := List.all_eq_true.mp caseRanges_settled r (List.mem_of_find?_eq_some hfind)
    rw [Bool.and_eq_true, List.all_eq_true] at hr
    have hcovers : r.covers n = true := List.find?_some (p := fun r => CaseRange.covers r n) hfind
    obtain ⟨hmem, hlo, hhi⟩ := CaseRange.upper_mem_targets hcovers
    exact .inr ⟨upperCode_of_mapsNone hr.1 hmem hlo hhi, hr.2 _ hmem⟩
  · rename_i hfind
    cases hlookup : caseExpansions.lookup n with
    | none =>
      rw [hlookup, Option.getD_none] at h
      refine .inl ⟨List.mem_singleton.mp h, ?_⟩
      rw [upperCode, hfind]
      simp only [hlookup, Option.getD_none]
    | some codes =>
      rw [hlookup, Option.getD_some] at h
      obtain ⟨l, r, he, -⟩ := List.lookup_eq_some_iff.mp hlookup
      have he := List.all_eq_true.mp caseExpansions_settled (n, codes) (by simp [he])
      have hm := List.all_eq_true.mp he m h
      rw [Bool.and_eq_true] at hm
      exact .inr ⟨upperCode_of_mapsNone hm.1 (List.mem_singleton_self m) le_rfl le_rfl, hm.2⟩

/-! ## Upper case -/

theorem upperChar_settled (h : d ∈ upperChar c) :
    upperChar d = [d] ∧ (d = c ∨ isBlank d = false) := by
  obtain ⟨m, hm, rfl⟩ := List.mem_map.mp h
  rcases upperCode_cases hm with ⟨rfl, hsame⟩ | ⟨hsame, hvisible⟩
  · rw [Char.ofNat_toNat, upperChar, hsame, List.map_singleton, Char.ofNat_toNat]
    exact ⟨rfl, .inl rfl⟩
  · rw [isVisible, Bool.and_eq_true, Bool.not_eq_true', decide_eq_true_iff] at hvisible
    refine ⟨?_, .inr hvisible.2⟩
    rw [upperChar, Char.toNat_ofNat, if_pos hvisible.1, hsame, List.map_singleton]

theorem flatMap_upperChar_settled (h : ∀ c ∈ cs, upperChar c = [c]) :
    cs.flatMap upperChar = cs := by
  rw [List.flatMap_congr h, List.flatMap_singleton']

theorem upper_upper (s : String) : upper (upper s) = upper s := by
  have hsettled : ∀ d ∈ s.toList.flatMap upperChar, upperChar d = [d] := by
    intro d hd
    obtain ⟨c, -, hd⟩ := List.mem_flatMap.mp hd
    exact (upperChar_settled hd).1
  rw [upper, upper, String.toList_ofList, flatMap_upperChar_settled hsettled]

theorem upperChar_ne_nil (c : Char) : upperChar c ≠ [] :=
  fun h => upperCode_ne_nil _ (List.map_eq_nil_iff.mp h)

/-! ## Ends -/

/-- Neither end is blank. -/
def Trimmed (cs : List Char) : Prop :=
  ∀ h : cs ≠ [], isBlank (cs.head h) = false ∧ isBlank (cs.getLast h) = false

theorem trimChars_eq (cs : List Char) :
    trimChars cs = (cs.dropWhile isBlank).rdropWhile isBlank :=
  rfl

theorem trimmed_trimChars (cs : List Char) : Trimmed (trimChars cs) := by
  rw [trimChars_eq]
  intro h
  have hfront := List.rdropWhile_prefix isBlank (cs.dropWhile isBlank)
  refine ⟨?_, Bool.not_eq_true _ ▸ List.rdropWhile_last_not isBlank _ h⟩
  rw [hfront.head h]
  exact List.head_dropWhile_not isBlank _

theorem Trimmed.trimChars (h : Trimmed cs) : Text.trimChars cs = cs := by
  cases cs with
  | nil => rfl
  | cons c cs =>
    obtain ⟨hhead, hlast⟩ := h (List.cons_ne_nil c cs)
    have hdrop : (c :: cs).dropWhile isBlank = c :: cs :=
      List.dropWhile_cons_of_neg (by simpa using hhead)
    rw [trimChars_eq, hdrop, List.rdropWhile_eq_self_iff]
    intro _
    simpa using hlast

/-- A character that is not blank does not become blank. -/
theorem Trimmed.upper (h : Trimmed cs) : Trimmed (cs.flatMap upperChar) := by
  intro hne
  have hcs : cs ≠ [] := by
    rintro rfl
    exact hne rfl
  obtain ⟨hhead, hlast⟩ := h hcs
  have hvisible {c d : Char} (hc : isBlank c = false) (hd : d ∈ upperChar c) :
      isBlank d = false := by
    rcases (upperChar_settled hd).2 with rfl | hd
    · exact hc
    · exact hd
  constructor
  · refine hvisible hhead ?_
    obtain ⟨c, cs, rfl⟩ := List.exists_cons_of_ne_nil hcs
    simp only [List.flatMap_cons, List.head_append_of_ne_nil (upperChar_ne_nil c), List.head_cons]
    exact List.head_mem _
  · refine hvisible hlast ?_
    obtain ⟨cs, c, rfl⟩ := (List.eq_nil_or_concat cs).resolve_left hcs
    simp only [List.concat_eq_append, List.flatMap_append, List.flatMap_singleton,
      List.getLast_append_of_ne_nil _ (upperChar_ne_nil c), List.getLast_append_singleton]
    exact List.getLast_mem _

theorem canonical_canonical (s : String) : canonical (canonical s) = canonical s := by
  have htrimmed : Trimmed (canonical s).toList := by
    rw [canonical, upper, trim, String.toList_ofList, String.toList_ofList]
    exact (trimmed_trimChars s.toList).upper
  rw [canonical, trim, htrimmed.trimChars, String.ofList_toList]
  exact upper_upper _

/-! ## Upper case alone -/

theorem length_flatMap_upperChar (cs : List Char) : cs.length ≤ (cs.flatMap upperChar).length := by
  induction cs with
  | nil => exact Nat.le_refl _
  | cons c cs ih =>
    have hone : 0 < (upperChar c).length := List.length_pos_of_ne_nil (upperChar_ne_nil c)
    rw [List.flatMap_cons, List.length_append, List.length_cons]
    omega

/-- What is cut off are characters at the two ends. -/
theorem trimChars_isInfix (cs : List Char) : trimChars cs <:+: cs := by
  rw [trimChars_eq]
  exact (List.rdropWhile_prefix _ _).isInfix.trans (List.dropWhile_suffix _).isInfix

/-- The upper case of a text is its canonical spelling only if there is nothing to cut off. -/
theorem upper_eq_canonical_iff (s : String) : upper s = canonical s ↔ trim s = s := by
  constructor
  · intro h
    obtain ⟨front, back, hs⟩ := trimChars_isInfix s.toList
    have hupper : s.toList.flatMap upperChar = (trimChars s.toList).flatMap upperChar := by
      rw [canonical, upper, upper, trim, String.toList_ofList] at h
      exact String.ofList_injective h
    -- no character is lost in upper case, so there were none at the ends
    have hlength := congrArg List.length hupper
    conv at hlength => lhs; rw [← hs]
    rw [List.flatMap_append, List.flatMap_append, List.length_append, List.length_append] at hlength
    have hfront := length_flatMap_upperChar front
    have hback := length_flatMap_upperChar back
    have hnone : front = [] ∧ back = [] :=
      ⟨List.length_eq_zero_iff.mp (by omega), List.length_eq_zero_iff.mp (by omega)⟩
    rw [hnone.1, hnone.2, List.nil_append, List.append_nil] at hs
    rw [trim, hs, String.ofList_toList]
  · intro h
    rw [canonical, h]

end NoticeLedger.Text
