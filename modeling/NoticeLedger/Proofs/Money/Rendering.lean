import NoticeLedger.Proofs.Money.Decimal

/-!
# NoticeLedger.Proofs.Money.Rendering

How amounts are shown.

* `Money.Shows text places units ds es` — `text` shows a number of units with `places` places, the
  digits `ds` before the point and `es` after it.
* `Money.shows_decimal` — the decimal of an amount shows it.
* `Money.equals_iff_text` — amounts are the same exactly if their texts are.
* `Money.decimal_faithful` — both, and that a decimal is read back, of every amount there is.
-/

namespace NoticeLedger

theorem Number.head?_toDigits_ne_zero {n : Nat} (hn : 0 < n) :
    (Nat.toDigits 10 n).head? ≠ some '0' := by
  induction n using Nat.strong_induction_on with
  | _ n ih =>
    by_cases hlarge : 10 ≤ n
    · have hhead := ih (n / 10) (by omega) (by omega)
      rw [Nat.toDigits_of_base_le (by decide) hlarge,
        List.head?_append_of_ne_nil _ Nat.toDigits_ne_nil]
      exact hhead
    · have hdigit : ∀ k < 10, 0 < k → [k.digitChar].head? ≠ some '0' := by decide
      rw [Nat.toDigits_of_lt_base (by omega)]
      exact hdigit n (by omega) hn

theorem Currency.eq_of_code {c c' : Currency} (h : c.code = c'.code) : c = c' := by
  have hnamed := named?_code c
  rw [h, named?_code] at hnamed
  exact (Option.some.inj hnamed).symm

namespace Money

/-- The number that digits before and after a point denote. -/
def decimalValue (ds es : List Char) : ℚ :=
  Nat.ofDigitChars 10 ds 0 + Nat.ofDigitChars 10 es 0 / 10 ^ es.length

/-- How a text shows units of a currency with so many places: all of them stand after the point,
which is left out if there are none; a zero in front stands alone; and the units are those of the
number that is written. -/
structure Shows (text : String) (places units : Nat) (ds es : List Char) : Prop where
  spells : Spells text.toList ds es
  length : es.length = places
  point : '.' ∈ text.toList ↔ 0 < places
  noLeadingZero : ds.head? = some '0' → ds = ['0']
  value : decimalValue ds es * 10 ^ places = units

theorem decimalValue_mul (ds es : List Char) :
    decimalValue ds es * 10 ^ es.length = Nat.ofDigitChars 10 (ds ++ es) 0 := by
  rw [Nat.ofDigitChars_append, Nat.ofDigitChars_eq_ofDigitChars_zero, decimalValue, add_mul,
    div_mul_cancel₀ _ (by positivity)]
  push_cast
  ring

theorem Spells.point_mem_iff {cs ds es : List Char} (h : Spells cs ds es) :
    '.' ∈ cs ↔ 0 < es.length := by
  cases h with
  | whole hds => simpa using fun hpoint => absurd (hds.2 _ hpoint) (by decide)
  | point _ hes => simpa using List.length_pos_iff.mpr hes.1

/-! ## Decimals of amounts -/

variable (m : Money)

/-- Zeros are filled in only where the digits are too few, and then one stands before the point. -/
theorem whole_noLeadingZero (h : m.whole.head? = some '0') : m.whole = ['0'] := by
  have hlength := m.padded_length
  by_cases hfew : (Nat.toDigits 10 m.amount).length ≤ m.currency.exponent
  · have hfill : m.currency.exponent + 1 - (Nat.toDigits 10 m.amount).length =
        m.currency.exponent - (Nat.toDigits 10 m.amount).length + 1 := by omega
    have hone : m.padded.length - m.currency.exponent = 1 := by
      simp only [padded, List.length_append, List.length_replicate]
      omega
    rw [whole, hone, padded, hfill, List.replicate_succ]
    rfl
  · have hdigits : m.padded = Nat.toDigits 10 m.amount := by
      rw [padded, Nat.sub_eq_zero_of_le (by omega), List.replicate_zero, List.nil_append]
    rcases Nat.eq_zero_or_pos m.amount with hzero | hpos
    · rw [hzero, Nat.toDigits_zero, List.length_singleton] at hfew
      have hplaces : m.currency.exponent = 0 := by omega
      rw [whole, hdigits, hplaces, hzero]
      rfl
    · rw [whole, hdigits, List.head?_take, if_neg (by rw [hdigits] at hlength; omega)] at h
      exact absurd h (Number.head?_toDigits_ne_zero hpos)

theorem shows_decimal :
    Shows m.decimal m.currency.exponent m.amount m.whole m.fraction := by
  have hspells : Spells m.decimal.toList m.whole m.fraction := by
    rw [decimal, String.toList_ofList]
    exact m.spells_decimalChars
  have hlength := m.fraction_length
  refine ⟨hspells, hlength, ?_, m.whole_noLeadingZero, ?_⟩
  · rw [hspells.point_mem_iff, hlength]
  · rw [← hlength, decimalValue_mul, whole_append_fraction, padded_value]

/-! ## Texts -/

variable {m m' : Money}

theorem equals_iff_eq : m.equals m' = true ↔ m = m' := by
  rw [equals, Bool.and_eq_true, beq_iff_eq, beq_iff_eq]
  constructor
  · rintro ⟨hamount, hcode⟩
    cases m
    cases m'
    cases hamount
    cases Currency.eq_of_code hcode
    rfl
  · rintro rfl
    exact ⟨rfl, rfl⟩

theorem decimal_inj (hc : m.currency = m'.currency) (h : m.decimal = m'.decimal) : m = m' := by
  have hread := m.parse_decimal
  rw [h, hc, parse_decimal] at hread
  exact (Except.ok.inj hread).symm

/-- Codes are of one length, so a text tells where the code ends. -/
theorem equals_iff_text : m.equals m' = true ↔ m.text = m'.text := by
  rw [equals_iff_eq]
  refine ⟨fun h => h ▸ rfl, fun h => ?_⟩
  have hchars := congrArg String.toList h
  simp only [text, String.toList_append, List.append_assoc] at hchars
  have hlength : m.currency.code.toList.length = m'.currency.code.toList.length := by
    rw [m.currency.code_isCode.2, m'.currency.code_isCode.2]
  obtain ⟨hcode, hrest⟩ := List.append_inj hchars hlength
  have hcurrency := Currency.eq_of_code (String.toList_inj.mp hcode)
  have hdecimal := List.append_cancel_left hrest
  exact decimal_inj hcurrency (String.toList_inj.mp hdecimal)

/-- Units that are no more than the greatest amount are money in every currency that a name of one
was sent for. -/
theorem of_natCast {name : String} {n : Nat} (hn : n ≤ Number.maxSafe)
    (hname : ∃ amount m, Money.of amount (.text name) = .ok m) :
    ∃ m, Money.of (some (.number (.ofInt n))) (.text name) = .ok m ∧ m.amount = n := by
  obtain ⟨amount, m, hm⟩ := hname
  obtain ⟨c, hc⟩ : ∃ c, currencyOf (.text name) = .ok c := by
    unfold Money.of at hm
    split at hm
    · exact nomatch hm
    · split at hm
      · exact nomatch hm
      · rename_i c hc
        exact ⟨c, hc⟩
  refine ⟨ofUnits ⟨n, hn⟩ c, ?_, rfl⟩
  rw [Money.of, unitsOf_natCast hn]
  simp only [hc]

/-- **Amounts are shown faithfully.** Amounts are the same exactly if their texts are. Of every
number of units up to the greatest amount and every name of a currency there is an amount; its
decimal has the places of the currency and no zeros that are not needed, it shows that number of
units, and it is read back as that amount. -/
theorem decimal_faithful :
    (∀ m m' : Money, m.equals m' = true ↔ m.text = m'.text) ∧
      ∀ (n : Nat) (name : String), n ≤ Number.maxSafe →
        (∃ amount m, Money.of amount (.text name) = .ok m) →
        ∃ m, Money.of (some (.number (.ofInt n))) (.text name) = .ok m ∧
          (∃ m', parse m.decimal (.text m.currency.code) = .ok m' ∧ m'.equals m = true) ∧
          ∃ ds es, Shows m.decimal m.currency.exponent n ds es := by
  refine ⟨fun m m' => equals_iff_text, fun n name hn hname => ?_⟩
  obtain ⟨m, hm, rfl⟩ := of_natCast hn hname
  exact ⟨m, hm, ⟨m, m.parse_decimal, equals_iff_eq.mpr rfl⟩, _, _, m.shows_decimal⟩

/-- Five hundredths of a euro, under a name in lower case. -/
theorem decimal_faithful_five :
    ∃ m, Money.of (some (.number (.ofInt (5 : Nat)))) (.text " eur") = .ok m ∧
      (∃ m', parse m.decimal (.text m.currency.code) = .ok m' ∧ m'.equals m = true) ∧
      ∃ ds es, Shows m.decimal m.currency.exponent 5 ds es :=
  decimal_faithful.2 5 " eur" (by decide) ⟨some (.number 1), _, rfl⟩

end Money

end NoticeLedger
