import Mathlib
import NoticeLedger.Number.Basic

/-!
# NoticeLedger.Proofs.Number.Rounding

How far rounding moves a number.

* `roundHalfEven_close` — the nearest whole number is at most a half away.
* `binaryOrder_bounds` — the exponent of two that a fraction lies at or above, and below the next
  one.
* `round_cases` — a fraction is rounded to a multiple of its last place, or to an infinity.
* `round_close` — a rounded number is off by one part in `2 ^ 53` at most, unless it is far from
  one.
* `reaches_round` — rounding never falls below a whole number up to `2 ^ 53` that the fraction is
  not below.
* `round_natCast` — a whole number below `2 ^ 53` is not moved, so calculations with such numbers
  are exact (`add_whole`, `mul_whole`, `sub_one`).
* `ceil_div` — the least whole number from a quotient of such numbers on is the right one, though
  the quotient is rounded first.
-/

namespace NoticeLedger.Number

/-! ## Parts of rounding -/

theorem roundHalfEven_close (num den : Nat) (hd : 0 < den) :
    2 * num ≤ 2 * (roundHalfEven num den * den) + den ∧
      2 * (roundHalfEven num den * den) ≤ 2 * num + den := by
  have hdiv := Nat.div_add_mod num den
  have hmod := Nat.mod_lt num hd
  rw [Nat.mul_comm] at hdiv
  have hnext : (num / den + 1) * den = num / den * den + den := Nat.succ_mul _ _
  simp only [roundHalfEven]
  split
  · omega
  · split
    · rw [hnext]
      omega
    · rcases Nat.mod_two_eq_zero_or_one (num / den) with heven | hodd
      · rw [heven, Nat.add_zero]
        omega
      · rw [hodd, hnext]
        omega

theorem le_roundHalfEven {k num den : Nat} (hd : 0 < den) (h : k * den ≤ num) :
    k ≤ roundHalfEven num den := by
  have hk : k ≤ num / den := (Nat.le_div_iff_mul_le hd).mpr h
  simp only [roundHalfEven]
  split
  · exact hk
  · split <;> omega

theorem roundHalfEven_le {k num den : Nat} (hd : 0 < den) (h : num ≤ k * den) :
    roundHalfEven num den ≤ k := by
  obtain ⟨-, hclose⟩ := roundHalfEven_close num den hd
  by_contra hlt
  have hmul : (k + 1) * den ≤ roundHalfEven num den * den := Nat.mul_le_mul_right den (by omega)
  rw [Nat.succ_mul] at hmul
  omega

theorem roundHalfEven_mul (n den : Nat) (hd : 0 < den) : roundHalfEven (n * den) den = n := by
  rw [roundHalfEven, Nat.mul_mod_left, Nat.mul_div_cancel n hd]
  exact if_pos hd

theorem zpow_two (e : Int) : (2 : ℚ) ^ e = 2 ^ e.toNat / 2 ^ (-e).toNat := by
  obtain ⟨n, rfl | rfl⟩ := e.eq_nat_or_neg
  · simp
  · simp [zpow_neg]

theorem mul_lt_iff (num den : Nat) (e : Int) (hd : 0 < den) :
    num * 2 ^ (-e).toNat < den * 2 ^ e.toNat ↔ (num : ℚ) / den < 2 ^ e := by
  have hden : (0 : ℚ) < den := by exact_mod_cast hd
  have htwo : (0 : ℚ) < 2 ^ (-e).toNat := by positivity
  rw [zpow_two, div_lt_div_iff₀ hden htwo, mul_comm (2 ^ e.toNat : ℚ)]
  exact_mod_cast Iff.rfl

theorem log2_bounds {n : Nat} (hn : 0 < n) : (2 : ℚ) ^ n.log2 ≤ n ∧ (n : ℚ) < 2 ^ (n.log2 + 1) := by
  constructor
  · exact_mod_cast Nat.log2_self_le hn.ne'
  · exact_mod_cast Nat.lt_log2_self

theorem binaryOrder_bounds {num den : Nat} (hn : 0 < num) (hd : 0 < den) :
    (2 : ℚ) ^ binaryOrder num den ≤ num / den ∧
      (num : ℚ) / den < 2 ^ (binaryOrder num den + 1) := by
  have hden : (0 : ℚ) < den := by exact_mod_cast hd
  obtain ⟨hnum_le, hnum_lt⟩ := log2_bounds hn
  obtain ⟨hden_le, hden_lt⟩ := log2_bounds hd
  have hlow : (2 : ℚ) ^ ((num.log2 : Int) - den.log2 - 1) ≤ num / den := by
    rw [sub_sub, zpow_sub₀ two_ne_zero]
    have h : (2 : ℚ) ^ ((den.log2 : Int) + 1) = 2 ^ (den.log2 + 1) := by norm_cast
    rw [h, zpow_natCast]
    exact div_le_div₀ (by positivity) hnum_le hden hden_lt.le
  have hhigh : (num : ℚ) / den < 2 ^ ((num.log2 : Int) - den.log2 + 1) := by
    rw [sub_add_eq_add_sub, zpow_sub₀ two_ne_zero]
    have h : (2 : ℚ) ^ ((num.log2 : Int) + 1) = 2 ^ (num.log2 + 1) := by norm_cast
    rw [h, zpow_natCast]
    exact div_lt_div₀ hnum_lt hden_le (by positivity) (by positivity)
  simp only [binaryOrder, Nat.pow_eq]
  split
  · rename_i h
    rw [mul_lt_iff _ _ _ hd] at h
    exact ⟨hlow, by rwa [sub_add_cancel]⟩
  · rename_i h
    rw [mul_lt_iff _ _ _ hd, not_lt] at h
    exact ⟨h, hhigh⟩

/-! ## Rounding -/

theorem natAbs_num_div_den {q : ℚ} (hq : 0 < q) : (q.num.natAbs : ℚ) / q.den = q := by
  rw [Nat.cast_natAbs, abs_of_pos (Rat.num_pos.mpr hq), Rat.num_div_den]

/-- In units of a last place, a fraction is one of whole numbers. -/
theorem scaled_eq {q : ℚ} (hq : 0 < q) (place : Int) :
    ((q.num.natAbs * 2 ^ (-place).toNat : Nat) : ℚ) * 2 ^ place =
      q * (q.den * 2 ^ place.toNat : Nat) := by
  have hden : (q.den : ℚ) ≠ 0 := by exact_mod_cast q.den_nz
  have hnum : (q.num.natAbs : ℚ) = q * q.den := (div_eq_iff hden).mp (natAbs_num_div_den hq)
  rw [zpow_two, Nat.cast_mul, hnum]
  push_cast
  field_simp

theorem scaled_pos (q : ℚ) (place : Int) : 0 < q.den * 2 ^ place.toNat :=
  Nat.mul_pos q.den_pos (by positivity)

section Places

variable {q : ℚ} {k : Nat} {place : Int}

/-- A fraction keeps its side of a multiple of the last place. -/
theorem le_roundHalfEven_scaled (hq : 0 < q) (h : (k : ℚ) * 2 ^ place ≤ q) :
    k ≤ roundHalfEven (q.num.natAbs * 2 ^ (-place).toNat) (q.den * 2 ^ place.toNat) := by
  refine le_roundHalfEven (scaled_pos q place) ?_
  have hunit : (0 : ℚ) < 2 ^ place := by positivity
  have hmul := mul_le_mul_of_nonneg_right h (Nat.cast_nonneg (q.den * 2 ^ place.toNat))
  rw [← scaled_eq hq, mul_right_comm] at hmul
  exact_mod_cast le_of_mul_le_mul_right hmul hunit

theorem roundHalfEven_scaled_le (hq : 0 < q) (h : q ≤ (k : ℚ) * 2 ^ place) :
    roundHalfEven (q.num.natAbs * 2 ^ (-place).toNat) (q.den * 2 ^ place.toNat) ≤ k := by
  refine roundHalfEven_le (scaled_pos q place) ?_
  have hunit : (0 : ℚ) < 2 ^ place := by positivity
  have hmul := mul_le_mul_of_nonneg_right h (Nat.cast_nonneg (q.den * 2 ^ place.toNat))
  rw [← scaled_eq hq, mul_right_comm] at hmul
  exact_mod_cast le_of_mul_le_mul_right hmul hunit

/-- A whole number is a multiple of a last place of one or less. -/
theorem eq_mul_place (n : Nat) (h : place ≤ 0) :
    ((n * 2 ^ (-place).toNat : Nat) : ℚ) * 2 ^ place = n := by
  rw [zpow_two, Int.toNat_of_nonpos h]
  push_cast
  field_simp

end Places

/-- A fraction is rounded to a multiple of its last place, or to an infinity where that is too far
to the left. -/
theorem round_cases {q : ℚ} (hq : 0 < q) :
    ∃ (place : Int) (m : Nat), ((2 : ℚ) ^ (place + 52) ≤ q ∨ place = -1074) ∧
      q < 2 ^ (place + 53) ∧
      m = roundHalfEven (q.num.natAbs * 2 ^ (-place).toNat) (q.den * 2 ^ place.toNat) ∧
      (round q = infinite false ∧ 971 ≤ place ∨
        round q = finite (Dyadic.ofIntWithPrec m (-place))) := by
  have hnum : 0 < q.num := Rat.num_pos.mpr hq
  have habs : 0 < q.num.natAbs := Int.natAbs_pos.mpr hnum.ne'
  obtain ⟨hle, hlt⟩ := binaryOrder_bounds habs q.den_pos
  rw [natAbs_num_div_den hq] at hle hlt
  generalize horder : binaryOrder q.num.natAbs q.den = order at hle hlt
  have hlow : (2 : ℚ) ^ (lastPlace order + 52) ≤ q ∨ lastPlace order = -1074 := by
    rw [lastPlace]
    rcases max_choice (order - 52) (-1074) with h | h
    · rw [h, sub_add_cancel]
      exact .inl hle
    · exact .inr h
  have hhigh : order + 1 ≤ lastPlace order + 53 := by
    rw [lastPlace]
    omega
  refine ⟨lastPlace order, _, hlow, hlt.trans_le (zpow_le_zpow_right₀ one_le_two hhigh), rfl, ?_⟩
  rw [round, if_neg hnum.ne']
  simp only [Nat.pow_eq]
  rw [horder, Int.sign_eq_one_of_pos hnum, one_mul]
  split
  · exact .inl ⟨by simp [hq.le], by omega⟩
  · exact .inr rfl

/-- Not far from one, a fraction has all its places. -/
theorem round_eq {q : ℚ} (hq : 0 < q) (hlow : (2 : ℚ) ^ (-1000 : Int) ≤ q) (hhigh : q < 2 ^ 1000) :
    ∃ (place : Int) (m : Nat), (2 : ℚ) ^ (place + 52) ≤ q ∧
      m = roundHalfEven (q.num.natAbs * 2 ^ (-place).toNat) (q.den * 2 ^ place.toNat) ∧
      round q = finite (Dyadic.ofIntWithPrec m (-place)) := by
  obtain ⟨place, m, hle, hlt, hm, hround⟩ := round_cases hq
  have hplace : place ≠ -1074 := by
    rintro rfl
    have h := hlow.trans_lt hlt
    rw [zpow_lt_zpow_iff_right₀ one_lt_two] at h
    omega
  have hle := hle.resolve_right hplace
  have hfinite : ¬ 971 ≤ place := by
    have h := hle.trans_lt hhigh
    rw [← zpow_natCast, zpow_lt_zpow_iff_right₀ one_lt_two] at h
    omega
  exact ⟨place, m, hle, hm, hround.resolve_left fun h => hfinite h.2⟩

theorem toRat_scaled (m : Nat) (place : Int) :
    (Dyadic.ofIntWithPrec m (-place)).toRat = m * 2 ^ place := by
  rw [Dyadic.toRat_ofIntWithPrec_eq_mul_two_pow, neg_neg]
  rfl

/-- The nearest multiple of a power of two is off by half of it at most. -/
theorem roundHalfEven_scaled {q : ℚ} (hq : 0 < q) (place : Int) :
    |(roundHalfEven (q.num.natAbs * 2 ^ (-place).toNat) (q.den * 2 ^ place.toNat) : ℚ) * 2 ^ place -
      q| ≤ 2 ^ place / 2 := by
  have hden := scaled_pos q place
  obtain ⟨habove, hbelow⟩ := roundHalfEven_close
    (q.num.natAbs * 2 ^ (-place).toNat) (q.den * 2 ^ place.toNat) hden
  -- in units of the last place, the fraction is `N / D`
  have hscaled := scaled_eq hq place
  generalize roundHalfEven _ _ = m at habove hbelow
  generalize q.den * 2 ^ place.toNat = D at hden habove hbelow hscaled
  generalize q.num.natAbs * 2 ^ (-place).toNat = N at habove hbelow hscaled
  have hD_pos : (0 : ℚ) < D := by exact_mod_cast hden
  have hunit : (0 : ℚ) < 2 ^ place := by positivity
  have habove' : 2 * (N : ℚ) ≤ 2 * (m * D) + D := by exact_mod_cast habove
  have hbelow' : 2 * ((m : ℚ) * D) ≤ 2 * N + D := by exact_mod_cast hbelow
  have hup : 2 * q ≤ 2 * (m * 2 ^ place) + 2 ^ place := by
    refine le_of_mul_le_mul_right ?_ hD_pos
    calc 2 * q * D = 2 * N * 2 ^ place := by rw [mul_assoc, ← hscaled, mul_assoc]
      _ ≤ (2 * (m * D) + D) * 2 ^ place := mul_le_mul_of_nonneg_right habove' hunit.le
      _ = (2 * (m * 2 ^ place) + 2 ^ place) * D := by ring
  have hdown : 2 * ((m : ℚ) * 2 ^ place) ≤ 2 * q + 2 ^ place := by
    refine le_of_mul_le_mul_right ?_ hD_pos
    calc 2 * ((m : ℚ) * 2 ^ place) * D = 2 * (m * D) * 2 ^ place := by ring
      _ ≤ (2 * N + D) * 2 ^ place := mul_le_mul_of_nonneg_right hbelow' hunit.le
      _ = 2 * ((N : ℚ) * 2 ^ place) + D * 2 ^ place := by ring
      _ = (2 * q + 2 ^ place) * D := by rw [hscaled]; ring
  rw [abs_le]
  constructor
  · linarith
  · linarith

/-- A rounded number is off by one part in `2 ^ 53` at most. -/
theorem round_close {q : ℚ} (hq : 0 < q) (hlow : (2 : ℚ) ^ (-1000 : Int) ≤ q)
    (hhigh : q < 2 ^ 1000) :
    ∃ d, round q = finite d ∧ |d.toRat - q| ≤ q / 2 ^ 53 := by
  obtain ⟨place, m, hle, rfl, hround⟩ := round_eq hq hlow hhigh
  refine ⟨_, hround, ?_⟩
  rw [toRat_scaled]
  refine (roundHalfEven_scaled hq place).trans ?_
  -- half a unit of the last place is one part in `2 ^ 53` of the power of two below the fraction
  have h52 : (2 : ℚ) ^ (52 : Int) = 2 ^ 52 := by norm_cast
  rw [zpow_add₀ two_ne_zero, h52] at hle
  rw [le_div_iff₀ (by positivity)]
  linarith

theorem finite_inj_of_toRat {d : Dyadic} {n : Nat} (h : d.toRat = n) :
    finite d = finite ((n : Int) : Dyadic) := by
  rw [Dyadic.toRat_inj.mp (h.trans (Dyadic.toRat_intCast n).symm)]

theorem round_natCast {n : Nat} (hn : n < 2 ^ 53) :
    round (n : ℚ) = finite ((n : Int) : Dyadic) := by
  rcases Nat.eq_zero_or_pos n with rfl | hpos
  · rfl
  · have hone : (1 : ℚ) ≤ n := by exact_mod_cast hpos
    have hlow : (2 : ℚ) ^ (-1000 : Int) ≤ n := by
      refine le_trans ?_ hone
      exact zpow_le_one_of_nonpos₀ one_le_two (by decide)
    have hhigh : (n : ℚ) < 2 ^ 53 := by exact_mod_cast hn
    have hfar : (2 : ℚ) ^ 53 < 2 ^ 1000 := pow_lt_pow_right₀ one_lt_two (by decide)
    obtain ⟨place, m, hle, hm, hround⟩ := round_eq (by linarith) hlow (hhigh.trans hfar)
    -- its last place is one or less, so it is a multiple of that
    have hplace : place ≤ 0 := by
      have h := hle.trans_lt hhigh
      rw [← zpow_natCast, zpow_lt_zpow_iff_right₀ one_lt_two] at h
      push_cast at h
      omega
    rw [Rat.num_natCast, Rat.den_natCast, Int.toNat_of_nonpos hplace] at hm
    have hone' := roundHalfEven_mul (n * 2 ^ (-place).toNat) 1 one_pos
    rw [mul_one] at hone'
    simp only [Int.natAbs_natCast, pow_zero, mul_one] at hm
    rw [hone'] at hm
    rw [hround]
    refine finite_inj_of_toRat ?_
    rw [toRat_scaled, hm, eq_mul_place n hplace]

/-! ## The order -/

/-- A number is a whole one or more. -/
def Reaches (x : Number) (n : Nat) : Prop :=
  x = infinite false ∨ ∃ d, x = finite d ∧ (n : ℚ) ≤ d.toRat

/-- Rounding never falls below a whole number that the fraction is not below. -/
theorem reaches_round {n : Nat} (hn : n ≤ 2 ^ 53) {q : ℚ} (h : (n : ℚ) ≤ q) :
    (round q).Reaches n := by
  rcases (le_trans (Nat.cast_nonneg n) h).eq_or_lt with rfl | hq
  · exact .inr ⟨0, rfl, h⟩
  obtain ⟨place, m, hplace, -, rfl, ⟨hround, -⟩ | hround⟩ := round_cases hq
  · exact .inl hround
  refine .inr ⟨_, hround, ?_⟩
  rw [toRat_scaled]
  have hunit : (0 : ℚ) < 2 ^ place := by positivity
  rcases le_or_gt place 0 with hwhole | hlarge
  · rw [← eq_mul_place n hwhole] at h ⊢
    exact mul_le_mul_of_nonneg_right (by exact_mod_cast le_roundHalfEven_scaled hq h) hunit.le
  · -- such a last place is two or more, and there are all the digits in front of it
    have hfull : ((2 ^ 52 : Nat) : ℚ) * 2 ^ place ≤ q := by
      have hle := hplace.resolve_right (by omega)
      rw [zpow_add₀ two_ne_zero, mul_comm] at hle
      exact_mod_cast hle
    have htwo : (2 : ℚ) ≤ 2 ^ place := by
      simpa using zpow_le_zpow_right₀ one_le_two (by omega : 1 ≤ place)
    have hdigits : ((2 ^ 52 : Nat) : ℚ) ≤ _ := Nat.cast_le.mpr (le_roundHalfEven_scaled hq hfull)
    calc (n : ℚ) ≤ (2 ^ 53 : Nat) := by exact_mod_cast hn
      _ = (2 ^ 52 : Nat) * 2 := by norm_num
      _ ≤ _ := mul_le_mul hdigits htwo zero_le_two (Nat.cast_nonneg _)

/-- A part of one that is not too small is rounded to such a part. -/
theorem round_part {q : ℚ} (hlow : (2 : ℚ) ^ (-1074 : Int) ≤ q) (hhigh : q ≤ 1) :
    ∃ d, round q = finite d ∧ 0 < d.toRat ∧ d.toRat ≤ 1 := by
  have hq : 0 < q := lt_of_lt_of_le (by positivity) hlow
  obtain ⟨place, m, hplace, -, rfl, hround⟩ := round_cases hq
  have hunit : (0 : ℚ) < 2 ^ place := by positivity
  have hone : ((1 : Nat) : ℚ) * 2 ^ place ≤ q := by
    rw [Nat.cast_one, one_mul]
    rcases hplace with hplace | rfl
    · exact (zpow_le_zpow_right₀ one_le_two (by omega)).trans hplace
    · exact hlow
  have hwhole : place ≤ 0 := by
    rw [Nat.cast_one, one_mul] at hone
    have h := hone.trans hhigh
    rwa [← zpow_zero (2 : ℚ), zpow_le_zpow_iff_right₀ one_lt_two] at h
  have htop := eq_mul_place 1 hwhole
  rw [Nat.cast_one, one_mul] at htop
  refine ⟨_, hround.resolve_left fun h => by omega, ?_, ?_⟩
  · rw [toRat_scaled]
    exact mul_pos (by exact_mod_cast le_roundHalfEven_scaled hq hone) hunit
  · rw [toRat_scaled, ← htop]
    exact mul_le_mul_of_nonneg_right
      (by exact_mod_cast roundHalfEven_scaled_le hq (hhigh.trans htop.ge)) hunit.le

/-! ## Calculations with whole numbers -/

theorem ofInt_natCast {n : Nat} (hn : n < 2 ^ 53) : ofInt n = finite ((n : Int) : Dyadic) :=
  round_natCast hn

theorem toRat_of_toInt? {x : Number} {i : Int} (h : x.toInt? = some i) :
    ∃ d, x = finite d ∧ d.toRat = i := by
  cases x with
  | nan => exact nomatch h
  | infinite negative => exact nomatch h
  | finite d =>
    refine ⟨d, rfl, ?_⟩
    cases d with
    | zero =>
      cases h
      rfl
    | ofOdd n k hn =>
      rw [toInt?] at h
      split at h
      · rename_i hk
        cases h
        obtain ⟨j, hj⟩ := Int.eq_ofNat_of_zero_le (Int.neg_nonneg.mpr hk)
        rw [Dyadic.toRat_ofOdd_eq_mul_two_pow, hj, Nat.pow_eq]
        push_cast
        rfl
      · exact nomatch h

theorem toInt?_natCast (n : Nat) : toInt? (finite ((n : Int) : Dyadic)) = some (n : Int) := by
  have hrat := Dyadic.toRat_intCast n
  generalize ((n : Int) : Dyadic) = d at hrat
  cases d with
  | zero =>
    have hzero : ((n : Int) : ℚ) = 0 := hrat.symm
    rw [Int.cast_eq_zero.mp hzero]
    rfl
  | ofOdd m k hm =>
    rw [Dyadic.toRat_ofOdd_eq_mul_two_pow] at hrat
    have hk : k ≤ 0 := by
      by_contra hpos
      -- otherwise the odd part would be a multiple of two
      obtain ⟨j, rfl⟩ := Int.eq_ofNat_of_zero_le (show 0 ≤ k by omega)
      obtain ⟨j, rfl⟩ := Nat.exists_eq_succ_of_ne_zero (show j ≠ 0 by omega)
      have hodd : (m : ℚ) = n * 2 ^ (j + 1) := by
        rw [zpow_neg, zpow_natCast, ← div_eq_mul_inv, div_eq_iff (by positivity)] at hrat
        exact_mod_cast hrat
      have hodd' : m = 2 * (n * 2 ^ j) := by
        rw [pow_succ] at hodd
        have h : (m : ℚ) = ((2 * (n * 2 ^ j) : Int) : ℚ) := by
          rw [hodd]
          push_cast
          ring
        exact_mod_cast h
      omega
    obtain ⟨j, hj⟩ := Int.eq_ofNat_of_zero_le (Int.neg_nonneg.mpr hk)
    rw [hj, zpow_natCast] at hrat
    rw [toInt?, if_pos hk, hj]
    congr 1
    exact_mod_cast hrat

theorem toInt?_ofInt {n : Nat} (hn : n < 2 ^ 53) : (ofInt n).toInt? = some (n : Int) := by
  rw [ofInt_natCast hn, toInt?_natCast]

theorem add_whole {x y : Dyadic} {n m : Nat} (hx : x.toRat = n) (hy : y.toRat = m)
    (h : n + m < 2 ^ 53) : finite x + finite y = finite (((n + m : Nat) : Int) : Dyadic) := by
  show round (x.toRat + y.toRat) = _
  rw [hx, hy, ← round_natCast h, Nat.cast_add]

theorem mul_whole {x y : Dyadic} {n m : Nat} (hx : x.toRat = n) (hy : y.toRat = m)
    (h : n * m < 2 ^ 53) : finite x * finite y = finite (((n * m : Nat) : Int) : Dyadic) := by
  show round (x.toRat * y.toRat) = _
  rw [hx, hy, ← round_natCast h, Nat.cast_mul]

theorem sub_one {n : Nat} (hn : n < 2 ^ 53) :
    finite (((n + 1 : Nat) : Int) : Dyadic) - 1 = finite ((n : Int) : Dyadic) := by
  show round ((((n + 1 : Nat) : Int) : Dyadic).toRat + (-((1 : Int) : Dyadic)).toRat) = _
  rw [Dyadic.toRat_neg, Dyadic.toRat_intCast, Dyadic.toRat_intCast, ← round_natCast hn]
  push_cast
  congr 1
  ring

theorem ofInt_of_toInt? {x : Number} {n : Nat} (hx : x.toInt? = some (n : Int)) (hn : n < 2 ^ 53) :
    x = ofInt n := by
  obtain ⟨d, rfl, hd⟩ := toRat_of_toInt? hx
  rw [ofInt_natCast hn, finite_inj_of_toRat hd]

/-! ## The order of whole numbers -/

theorem finite_le_finite_iff {x y : Dyadic} : finite x ≤ finite y ↔ x.toRat ≤ y.toRat := by
  have hle : finite x ≤ finite y ↔ x.toRat < y.toRat ∨ finite x = finite y := by
    show le (finite x) (finite y) = true ↔ _
    simp [le, lt]
  rw [hle, le_iff_lt_or_eq, finite.injEq, Dyadic.toRat_inj]

theorem ofInt_le_iff {x : Number} {i : Int} {n : Nat} (hx : x.toInt? = some i) (hn : n < 2 ^ 53) :
    ofInt n ≤ x ↔ (n : Int) ≤ i := by
  obtain ⟨d, rfl, hd⟩ := toRat_of_toInt? hx
  rw [ofInt_natCast hn, finite_le_finite_iff, hd, Dyadic.toRat_intCast]
  exact Int.cast_le

theorem le_ofInt_iff {x : Number} {i : Int} {n : Nat} (hx : x.toInt? = some i) (hn : n < 2 ^ 53) :
    x ≤ ofInt n ↔ i ≤ (n : Int) := by
  obtain ⟨d, rfl, hd⟩ := toRat_of_toInt? hx
  rw [ofInt_natCast hn, finite_le_finite_iff, hd, Dyadic.toRat_intCast]
  exact Int.cast_le

/-! ## Calculations beyond those -/

/-- A sum is not rounded below whole numbers that it is not below. -/
theorem reaches_add {x y : Dyadic} {k n m : Nat} (hx : x.toRat = n) (hy : y.toRat = m)
    (hk : k ≤ 2 ^ 53) (h : k ≤ n + m) : (finite x + finite y).Reaches k := by
  refine reaches_round hk ?_
  rw [hx, hy]
  exact_mod_cast h

theorem reaches_sub_one {x : Number} {k n : Nat} (hx : x.toInt? = some ((n + 1 : Nat) : Int))
    (hk : k ≤ 2 ^ 53) (h : k ≤ n) : (x - 1).Reaches k := by
  obtain ⟨d, rfl, hd⟩ := toRat_of_toInt? hx
  show (round (d.toRat + (-((1 : Int) : Dyadic)).toRat)).Reaches k
  refine reaches_round hk ?_
  rw [hd, Dyadic.toRat_neg, Dyadic.toRat_intCast]
  push_cast
  rw [add_neg_cancel_right]
  exact_mod_cast h

theorem reaches_mul {x : Number} {y : Dyadic} {k n m : Nat} (hx : x.Reaches n) (hy : y.toRat = m)
    (hm : 0 < m) (hk : k ≤ 2 ^ 53) (h : k ≤ n * m) : (x * finite y).Reaches k := by
  have hm_pos : (0 : ℚ) < m := by exact_mod_cast hm
  obtain rfl | ⟨d, rfl, hd⟩ := hx
  · have hne : finite y ≠ 0 := by
      intro hzero
      have hzero : y = 0 := by injection hzero
      rw [hzero, Dyadic.toRat_zero] at hy
      exact hm_pos.ne hy
    have hpositive : (finite y).isNegative = false := by
      rw [isNegative, decide_eq_false_iff_not]
      show ¬ decide (y.toRat < (0 : Dyadic).toRat) = true
      rw [decide_eq_true_iff, Dyadic.toRat_zero, hy, not_lt]
      exact hm_pos.le
    refine .inl ?_
    show (if infinite false = 0 ∨ finite y = 0 then nan
      else infinite ((infinite false).isNegative != (finite y).isNegative)) = _
    rw [if_neg (not_or.mpr ⟨nofun, hne⟩), hpositive]
    rfl
  · refine reaches_round hk ?_
    rw [hy]
    calc (k : ℚ) ≤ n * m := by exact_mod_cast h
      _ ≤ d.toRat * m := mul_le_mul_of_nonneg_right hd hm_pos.le

/-! ## Quotients of whole numbers -/

section Quotients

variable {total l n : Nat}

/-- A quotient above a whole number is above it by one part in the divisor. -/
theorem add_one_div_le (hl : 0 < l) (h : n * l < total) : (n : ℚ) + 1 / l ≤ total / l := by
  have hl_pos : (0 : ℚ) < l := by exact_mod_cast hl
  have hstep : ((n * l + 1 : Nat) : ℚ) ≤ total := by exact_mod_cast h
  rw [le_div_iff₀ hl_pos, add_mul, one_div_mul_cancel hl_pos.ne']
  exact_mod_cast hstep

theorem div_add_one_le (hl : 0 < l) (h : total < n * l) : (total : ℚ) / l + 1 / l ≤ n := by
  have hl_pos : (0 : ℚ) < l := by exact_mod_cast hl
  have hstep : ((total + 1 : Nat) : ℚ) ≤ (n * l : Nat) := by exact_mod_cast h
  rw [← add_div, div_le_iff₀ hl_pos]
  exact_mod_cast hstep

/-- A quotient of one or more is not far from one. -/
theorem quotient_bounds (ht : total < 2 ^ 53) (hl : 0 < l) (h : l ≤ total) :
    (2 : ℚ) ^ (-1000 : Int) ≤ total / l ∧ (total : ℚ) / l < 2 ^ 1000 := by
  have hl_pos : (0 : ℚ) < l := by exact_mod_cast hl
  constructor
  · have hone : (1 : ℚ) ≤ total / l := (one_le_div hl_pos).mpr (by exact_mod_cast h)
    exact (zpow_le_one_of_nonpos₀ one_le_two (by decide)).trans hone
  · have hone : (1 : ℚ) ≤ l := by exact_mod_cast hl
    have hshort : (total : ℚ) < 2 ^ 53 := by exact_mod_cast ht
    have hle := div_le_self (show (0 : ℚ) ≤ total by positivity) hone
    have hfar : (2 : ℚ) ^ 53 < 2 ^ 1000 := pow_lt_pow_right₀ one_lt_two (by decide)
    exact (hle.trans_lt hshort).trans hfar

/-- A quotient up to one has the ceiling one, however far the divisor is from one. -/
theorem ceil_part (hpos : 0 < total) (hle : total ≤ l) (hl : l < 2 ^ 1024) :
    ∃ d, round ((total : ℚ) / l) = finite d ∧ d.toRat.ceil = 1 := by
  have hl_pos : (0 : ℚ) < l := by exact_mod_cast hpos.trans_le hle
  have hlow : (2 : ℚ) ^ (-1074 : Int) ≤ total / l := by
    have hone : (1 : ℚ) ≤ total := by exact_mod_cast hpos
    have hfar : (l : ℚ) ≤ 2 ^ 1074 :=
      calc (l : ℚ) ≤ 2 ^ 1024 := by exact_mod_cast hl.le
        _ ≤ 2 ^ 1074 := pow_le_pow_right₀ one_le_two (by decide)
    rw [zpow_neg, zpow_ofNat, inv_eq_one_div]
    exact div_le_div₀ (by positivity) hone hl_pos hfar
  have hhigh : (total : ℚ) / l ≤ 1 := (div_le_one hl_pos).mpr (by exact_mod_cast hle)
  obtain ⟨d, hd, hd_pos, hd_le⟩ := round_part hlow hhigh
  refine ⟨d, hd, le_antisymm (Rat.ceil_le_iff.mpr (by exact_mod_cast hd_le)) ?_⟩
  exact Int.add_one_le_iff.mpr (Rat.lt_ceil_iff.mpr (by exact_mod_cast hd_pos))

/-- A value between two whole numbers has the same ceiling after a move that is shorter than the way
to either. -/
theorem ceil_of_close {x q step : ℚ} (hclose : |x - q| < step) (hbelow : n + step ≤ q)
    (habove : q + step ≤ (n + 1 : Nat)) : x.ceil = (n + 1 : Nat) := by
  obtain ⟨hlow, hhigh⟩ := abs_lt.mp hclose
  have hle : x.ceil ≤ ((n + 1 : Nat) : Int) := by
    rw [Rat.ceil_le_iff]
    push_cast at habove ⊢
    linarith
  have hlt : (n : Int) < x.ceil := by
    rw [Rat.lt_ceil_iff]
    push_cast
    linarith
  omega

/-- The least whole number from a quotient on, though the quotient is rounded. -/
theorem ceil_div (ht : total < 2 ^ 53) (hl : 0 < l) (hl' : l < 2 ^ 1024) :
    ∃ d, round ((total : ℚ) / l) = finite d ∧ d.toRat.ceil = ((total + l - 1) / l : Nat) := by
  rcases Nat.eq_zero_or_pos total with rfl | hpos
  · refine ⟨0, ?_, ?_⟩
    · rw [Nat.cast_zero, zero_div]
      rfl
    · rw [Nat.zero_add, Nat.div_eq_of_lt (by omega)]
      rfl
  rcases le_total total l with hpart | hwhole
  · have hone : (total + l - 1) / l = 1 := by
      rw [Nat.div_eq_iff hl]
      omega
    rw [hone]
    exact ceil_part hpos hpart hl'
  · have hcount_le := Nat.div_mul_le_self (total + l - 1) l
    have hcount_lt : total + l - 1 < (total + l - 1) / l * l + l := Nat.lt_div_mul_add hl
    have hcount_pos : 0 < (total + l - 1) / l := Nat.div_pos (by omega) hl
    generalize (total + l - 1) / l = count at hcount_le hcount_lt hcount_pos
    obtain ⟨before, rfl⟩ := Nat.exists_eq_succ_of_ne_zero hcount_pos.ne'
    have hl_pos : (0 : ℚ) < l := by exact_mod_cast hl
    by_cases hexact : total = (before + 1) * l
    · have hwhole : (total : ℚ) / l = ((before + 1 : Nat) : ℚ) := by
        rw [hexact, Nat.cast_mul, mul_div_cancel_right₀ _ hl_pos.ne']
      have hshort : before + 1 < 2 ^ 53 := by
        have := Nat.le_mul_of_pos_right (before + 1) hl
        omega
      refine ⟨_, by rw [hwhole, round_natCast hshort], ?_⟩
      rw [Dyadic.toRat_intCast, Rat.ceil_intCast]
    · -- the quotient is not whole, and rounding moves it by less than the way to whole ones
      rw [Nat.succ_mul] at hcount_le hcount_lt
      have habove : total < (before + 1) * l := by
        rw [Nat.succ_mul] at hexact ⊢
        omega
      obtain ⟨hlow, hhigh⟩ := quotient_bounds ht hl hwhole
      have hq : (0 : ℚ) < total / l := div_pos (by exact_mod_cast hpos) hl_pos
      obtain ⟨d, hd, hclose⟩ := round_close hq hlow hhigh
      have hsmall : (total : ℚ) / l / 2 ^ 53 < 1 / l := by
        have h : (total : ℚ) < 2 ^ 53 := by exact_mod_cast ht
        rw [div_right_comm]
        exact div_lt_div_of_pos_right ((div_lt_one (by positivity)).mpr h) hl_pos
      exact ⟨d, hd, ceil_of_close (hclose.trans_lt hsmall) (add_one_div_le hl (by omega))
        (div_add_one_le hl habove)⟩

end Quotients

end NoticeLedger.Number
