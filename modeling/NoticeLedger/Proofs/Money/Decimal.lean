import NoticeLedger.Money.Decimal
import NoticeLedger.Proofs.Number.Rounding

/-!
# NoticeLedger.Proofs.Money.Decimal

Money from sent values, and its decimal read back.

* `Number.decimal_eq`, `Number.spanDigits_append` — digits at the front of a text and what they
  denote.
* `Money.Spells` — how decimals are written, which is how they are read.
* `Currency.named?_code` — the code of a currency names it.
* `Money.of_eq_ok` — what was sent where there is money: its amount and a name of its currency.
* `Money.of_reason` — what is refused is refused with a reason.
* `Money.whole`, `Money.fraction` — the digits on the two sides of the point.
* `Money.parse_decimal` — the decimal of an amount, read in its currency, is that amount.
-/

namespace NoticeLedger

/-! ## Digits -/

theorem Number.digit?_of_isDigit {c : Char} (h : c.isDigit = true) :
    Number.digit? c = some (c.toNat - '0'.toNat) :=
  if_pos h

theorem Number.decimal_eq {cs : List Char} (h : ∀ c ∈ cs, c.isDigit = true) :
    Number.decimal cs = Nat.ofDigitChars 10 cs 0 := by
  have hdigits : cs.filterMap Number.digit? = cs.map fun c => c.toNat - '0'.toNat := by
    rw [← List.filterMap_eq_map]
    exact List.filterMap_congr fun c hc => digit?_of_isDigit (h c hc)
  rw [decimal, ofDigits, hdigits, List.foldl_map, Nat.ofDigitChars_eq_foldl]

/-- The digits at the front end where no digit follows. -/
theorem Number.spanDigits_append {ds rest : List Char} (hd : ∀ c ∈ ds, c.isDigit = true)
    (hr : ∀ c ∈ rest.head?, c.isDigit = false) : Number.spanDigits (ds ++ rest) = (ds, rest) := by
  have hrest : rest.takeWhile Char.isDigit = [] ∧ rest.dropWhile Char.isDigit = rest := by
    cases rest with
    | nil => exact ⟨rfl, rfl⟩
    | cons c cs => simp [hr c rfl]
  rw [spanDigits, List.span_eq_takeWhile_dropWhile, List.takeWhile_append_of_pos hd,
    List.dropWhile_append_of_pos hd, hrest.1, hrest.2, List.append_nil]

theorem Number.spanDigits_self {ds : List Char} (hd : ∀ c ∈ ds, c.isDigit = true) :
    Number.spanDigits ds = (ds, []) := by
  have hrest : ∀ c ∈ ([] : List Char).head?, c.isDigit = false := nofun
  have h := spanDigits_append hd hrest
  rwa [List.append_nil] at h

/-- The digits at the front are as many as there are. -/
theorem Number.spanDigits_eq {cs ds rest : List Char} (h : Number.spanDigits cs = (ds, rest)) :
    cs = ds ++ rest ∧ ∀ c ∈ ds, c.isDigit = true := by
  rw [spanDigits, List.span_eq_takeWhile_dropWhile, Prod.mk.injEq] at h
  obtain ⟨rfl, rfl⟩ := h
  exact ⟨List.takeWhile_append_dropWhile.symm, fun c hc => List.mem_takeWhile_imp hc⟩

/-! ## Decimals as they are written -/

namespace Money

/-- Digits, at least one of them. -/
def Digits (cs : List Char) : Prop :=
  cs ≠ [] ∧ ∀ c ∈ cs, c.isDigit = true

/-- How digits before a point and digits after it spell a decimal. Without a point there are none
after it. -/
inductive Spells : List Char → List Char → List Char → Prop where
  | whole {ds : List Char} (hds : Digits ds) : Spells ds ds []
  | point {ds es : List Char} (hds : Digits ds) (hes : Digits es) : Spells (ds ++ '.' :: es) ds es

theorem Spells.of_split {cs ds es : List Char} (h : splitDecimal? cs = some (ds, es)) :
    Spells cs ds es := by
  unfold splitDecimal? at h
  split at h
  · exact nomatch h
  · rename_i hne hspan
    obtain ⟨rfl, hdigits⟩ := Number.spanDigits_eq hspan
    cases h
    rw [List.append_nil]
    exact .whole ⟨hne, hdigits⟩
  · rename_i hne hspan
    obtain ⟨rfl, hdigits⟩ := Number.spanDigits_eq hspan
    split at h
    · rename_i hspan'
      obtain ⟨rfl, hdigits'⟩ := Number.spanDigits_eq hspan'
      cases h
      rw [List.append_nil]
      exact .point ⟨hne, hdigits⟩ ⟨List.cons_ne_nil _ _, hdigits'⟩
    · exact nomatch h
  · exact nomatch h

theorem Spells.split {cs ds es : List Char} (h : Spells cs ds es) :
    splitDecimal? cs = some (ds, es) := by
  cases h with
  | whole hds =>
    obtain ⟨d, ds, rfl⟩ := List.exists_cons_of_ne_nil hds.1
    rw [splitDecimal?, Number.spanDigits_self hds.2]
  | point hds hes =>
    obtain ⟨d, ds, rfl⟩ := List.exists_cons_of_ne_nil hds.1
    obtain ⟨e, es, rfl⟩ := List.exists_cons_of_ne_nil hes.1
    have hpoint : ∀ c ∈ ('.' :: e :: es).head?, c.isDigit = false := by
      rintro _ ⟨⟩
      rfl
    rw [splitDecimal?, Number.spanDigits_append hds.2 hpoint]
    simp only [Number.spanDigits_self hes.2]

theorem Spells.isDigit {cs ds es : List Char} (h : Spells cs ds es) :
    ∀ c ∈ ds ++ es, c.isDigit = true := by
  cases h with
  | whole hds =>
    rw [List.append_nil]
    exact hds.2
  | point hds hes => exact List.forall_mem_append.mpr ⟨hds.2, hes.2⟩

end Money

/-! ## Codes of currencies -/

namespace Text

theorem toList_trim (s : String) : (trim s).toList = trimChars s.toList :=
  String.toList_ofList

theorem trimChars_of_not_blank {cs : List Char} (h : ∀ c ∈ cs, isBlank c = false) :
    trimChars cs = cs := by
  have hdrop (l : List Char) (hl : ∀ c ∈ l, isBlank c = false) : dropBlank l = l := by
    cases l with
    | nil => rfl
    | cons c l => simp [dropBlank, hl c List.mem_cons_self]
  rw [trimChars, hdrop cs h, hdrop _ fun c hc => h c (List.mem_reverse.mp hc), List.reverse_reverse]

theorem isBlank_of_visible {c : Char} (hlow : 0x20 < c.toNat) (hhigh : c.toNat < 0x7F) :
    isBlank c = false := by
  simp only [isBlank, Bool.or_eq_false_iff, Bool.and_eq_false_iff, decide_eq_false_iff_not,
    beq_eq_false_iff_ne]
  omega

theorem isDigit_bounds {c : Char} (h : c.isDigit = true) : 48 ≤ c.toNat ∧ c.toNat ≤ 57 := by
  simp only [Char.isDigit, Bool.and_eq_true, decide_eq_true_eq, UInt32.le_iff_toNat_le] at h
  exact h

theorem isUpper_bounds {c : Char} (h : c.isUpper = true) : 65 ≤ c.toNat ∧ c.toNat ≤ 90 := by
  simp only [Char.isUpper, decide_eq_true_eq, UInt32.le_iff_toNat_le] at h
  exact h

theorem isBlank_of_isDigit {c : Char} (h : c.isDigit = true) : isBlank c = false := by
  obtain ⟨hlow, hhigh⟩ := isDigit_bounds h
  exact isBlank_of_visible (by omega) (by omega)

theorem isBlank_of_isUpper {c : Char} (h : c.isUpper = true) : isBlank c = false := by
  obtain ⟨hlow, hhigh⟩ := isUpper_bounds h
  exact isBlank_of_visible (by omega) (by omega)

theorem upperCode_capital : ∀ n < 91, 65 ≤ n → upperCode n = [n] := by
  decide +kernel

theorem upperChar_of_isUpper {c : Char} (h : c.isUpper = true) : upperChar c = [c] := by
  obtain ⟨hlow, hhigh⟩ := isUpper_bounds h
  rw [upperChar, upperCode_capital c.toNat (by omega) hlow, List.map_singleton, Char.ofNat_toNat]

/-- A code of capital letters is in its one spelling. -/
theorem canonical_of_isUpper {s : String} (h : ∀ c ∈ s.toList, c.isUpper = true) :
    canonical s = s := by
  have hupper : s.toList.flatMap upperChar = s.toList := by
    rw [List.flatMap_congr fun c hc => upperChar_of_isUpper (h c hc), List.flatMap_singleton']
  rw [canonical, trim, trimChars_of_not_blank fun c hc => isBlank_of_isUpper (h c hc),
    String.ofList_toList, upper, hupper, String.ofList_toList]

end Text

namespace Currency

theorem table_isCode :
    (table.all fun e => e.1.toList.all Char.isUpper && e.1.toList.length == 3) = true := by
  decide +kernel

/-- A code is three capital letters. -/
theorem code_isCode (c : Currency) :
    (∀ ch ∈ c.code.toList, ch.isUpper = true) ∧ c.code.toList.length = 3 := by
  obtain ⟨l, r, he, -⟩ := List.lookup_eq_some_iff.mp c.listed
  have hmem : (c.code, c.exponent) ∈ table := by
    rw [he]
    exact List.mem_append_right l List.mem_cons_self
  have hcode := List.all_eq_true.mp table_isCode _ hmem
  rw [Bool.and_eq_true, List.all_eq_true, beq_iff_eq] at hcode
  exact hcode

theorem canonical_code (c : Currency) : Text.canonical c.code = c.code :=
  Text.canonical_of_isUpper c.code_isCode.1

theorem find?_code (c : Currency) : find? c.code = some c := by
  unfold find?
  split
  · rename_i exponent h
    obtain rfl : exponent = c.exponent := Option.some.inj (h.symm.trans c.listed)
    rfl
  · rename_i h
    exact nomatch h.symm.trans c.listed

theorem named?_code (c : Currency) : named? c.code = some c := by
  rw [named?, canonical_code, find?_code]

/-- A currency has the code that its name spells. -/
theorem named?_eq_some {s : String} {c : Currency} (h : named? s = some c) :
    c.code = Text.canonical s := by
  unfold named? find? at h
  split at h
  · rw [← Option.some.inj h]
  · exact nomatch h

theorem named?_empty : named? "" = none := by
  decide +kernel

end Currency

/-! ## Money from sent values -/

namespace Money

/-- The largest amount is the last one that is not rounded. -/
theorem lt_of_le_maxSafe {n : Nat} (h : n ≤ Number.maxSafe) : n < 2 ^ 53 := by
  rw [Number.maxSafe, Nat.pow_eq] at h
  omega

theorem unitsOf_natCast {n : Nat} (h : n ≤ Number.maxSafe) :
    unitsOf (some (.number (.ofInt n))) = .ok ⟨n, h⟩ := by
  simp only [unitsOf, Number.toInt?_ofInt (lt_of_le_maxSafe h), dif_pos h]

theorem unitsOf_eq_ok {amount : Given} {units : { n : Nat // n ≤ Number.maxSafe }}
    (h : unitsOf amount = .ok units) : amount = some (.number (.ofInt units.val)) := by
  unfold unitsOf at h
  split at h
  · rename_i x
    split at h
    · rename_i n hx
      split at h
      · rename_i hn
        cases h
        rw [Number.ofInt_of_toInt? hx (lt_of_le_maxSafe hn)]
      · exact nomatch h
    · split at h
      · exact nomatch h
      · exact nomatch h
    · exact nomatch h
  · exact nomatch h

/-- A currency was sent under one of its names. -/
theorem currencyOf_eq_ok {currency : Given} {c : Currency} (h : currencyOf currency = .ok c) :
    ∃ name, currency = .text name ∧ c.code = Text.canonical name := by
  cases currency with
  | none =>
    simp only [currencyOf, Currency.named?_empty, reduceCtorEq] at h
  | some v =>
    cases v with
    | null => simp only [currencyOf, Currency.named?_empty, reduceCtorEq] at h
    | text name =>
      cases hname : Currency.named? name with
      | none => simp only [currencyOf, hname, reduceCtorEq] at h
      | some c' =>
        simp only [currencyOf, hname, Except.ok.injEq] at h
        exact ⟨name, rfl, Currency.named?_eq_some (h ▸ hname)⟩
    | _ => simp only [currencyOf, reduceCtorEq] at h

theorem currencyOf_code (c : Currency) : currencyOf (.text c.code) = .ok c := by
  simp only [currencyOf, Given.text, Currency.named?_code]

/-- What was sent where there is money. -/
theorem of_eq_ok {amount currency : Given} {m : Money} (h : Money.of amount currency = .ok m) :
    amount = some (.number (.ofInt m.amount)) ∧
      ∃ name, currency = .text name ∧ m.currency.code = Text.canonical name := by
  unfold Money.of at h
  split at h
  · exact nomatch h
  · rename_i units hunits
    split at h
    · exact nomatch h
    · rename_i c hcurrency
      cases h
      exact ⟨unitsOf_eq_ok hunits, currencyOf_eq_ok hcurrency⟩

/-! ## Reasons of refusals -/

/-- Units are refused with a reason. -/
theorem unitsOf_reason {amount : Given} {refusal : Refusal} (h : unitsOf amount = .error refusal) :
    refusal.message ≠ none := by
  unfold unitsOf at h
  repeat' split at h
  all_goals
    cases h
    try exact nofun

/-- So is a currency that is a text, or none at all. -/
theorem currencyOf_reason {currency : Given} {refusal : Refusal}
    (htext : ∀ v, currency = some v → v = .null ∨ ∃ s, v = .text s)
    (h : currencyOf currency = .error refusal) : refusal.message ≠ none := by
  cases currency with
  | none =>
    simp only [currencyOf] at h
    split at h <;> cases h
    exact nofun
  | some v =>
    obtain rfl | ⟨s, rfl⟩ := htext v rfl <;> simp only [currencyOf] at h <;>
      split at h <;> cases h <;> exact nofun

theorem of_reason {amount currency : Given} {refusal : Refusal}
    (htext : ∀ v, currency = some v → v = .null ∨ ∃ s, v = .text s)
    (h : Money.of amount currency = .error refusal) : refusal.message ≠ none := by
  unfold Money.of at h
  split at h
  · rename_i hunits
    cases h
    exact unitsOf_reason hunits
  · split at h
    · rename_i hcurrency
      cases h
      exact currencyOf_reason htext hcurrency
    · cases h

/-! ## Decimals of amounts -/

/-- The digits of an amount, filled up in front to one more than the places of its currency. -/
def padded (m : Money) : List Char :=
  let digits := Nat.toDigits 10 m.amount
  List.replicate (m.currency.exponent + 1 - digits.length) '0' ++ digits

/-- The digits before the point. -/
def whole (m : Money) : List Char :=
  m.padded.take (m.padded.length - m.currency.exponent)

/-- The digits after the point. -/
def fraction (m : Money) : List Char :=
  m.padded.drop (m.padded.length - m.currency.exponent)

theorem whole_append_fraction (m : Money) : m.whole ++ m.fraction = m.padded :=
  List.take_append_drop _ _

theorem padded_length (m : Money) : m.currency.exponent < m.padded.length := by
  simp only [padded, List.length_append, List.length_replicate]
  omega

theorem padded_isDigit (m : Money) : ∀ c ∈ m.padded, c.isDigit = true := by
  intro c hc
  rcases List.mem_append.mp hc with hc | hc
  · rw [List.eq_of_mem_replicate hc]
    rfl
  · exact Nat.isDigit_of_mem_toDigits (by decide) (by decide) hc

/-- The zeros in front do not count. -/
theorem padded_value (m : Money) : Nat.ofDigitChars 10 m.padded 0 = m.amount := by
  rw [padded, Nat.ofDigitChars_append, Nat.ofDigitChars_replicate_zero, Nat.mul_zero,
    Nat.ofDigitChars_ten_toDigits]

theorem fraction_length (m : Money) : m.fraction.length = m.currency.exponent := by
  have h := m.padded_length
  rw [fraction, List.length_drop]
  omega

theorem whole_ne_nil (m : Money) : m.whole ≠ [] := by
  have h := m.padded_length
  rw [whole, ← List.length_pos_iff, List.length_take]
  omega

theorem whole_isDigit (m : Money) : ∀ c ∈ m.whole, c.isDigit = true :=
  fun c hc => m.padded_isDigit c (List.mem_of_mem_take hc)

theorem fraction_isDigit (m : Money) : ∀ c ∈ m.fraction, c.isDigit = true :=
  fun c hc => m.padded_isDigit c (List.mem_of_mem_drop hc)

/-- A decimal has a point exactly if its currency has places. -/
theorem decimalChars_eq (m : Money) :
    m.decimalChars = m.whole ++ if m.fraction = [] then [] else '.' :: m.fraction := by
  have hlength := m.fraction_length
  by_cases hplaces : m.currency.exponent = 0
  · have hdigits : 0 < (Nat.toDigits 10 m.amount).length := Nat.length_toDigits_pos
    have hnone : m.fraction = [] := List.eq_nil_of_length_eq_zero (hlength.trans hplaces)
    have hpadded : m.padded = Nat.toDigits 10 m.amount := by
      rw [padded, hplaces, Nat.sub_eq_zero_of_le (by omega), List.replicate_zero, List.nil_append]
    rw [if_pos hnone, List.append_nil, ← List.append_nil m.whole, ← hnone,
      whole_append_fraction, hpadded, decimalChars, if_pos hplaces]
  · have hsome : m.fraction ≠ [] := by
      rintro hnone
      rw [hnone] at hlength
      exact hplaces hlength.symm
    rw [if_neg hsome, decimalChars, if_neg hplaces]
    rfl

theorem decimalChars_not_blank (m : Money) : ∀ c ∈ m.decimalChars, Text.isBlank c = false := by
  intro c hc
  rw [decimalChars_eq] at hc
  rcases List.mem_append.mp hc with hc | hc
  · exact Text.isBlank_of_isDigit (m.whole_isDigit c hc)
  · split at hc
    · exact nomatch hc
    · rcases List.mem_cons.mp hc with rfl | hc
      · rfl
      · exact Text.isBlank_of_isDigit (m.fraction_isDigit c hc)

theorem spells_decimalChars (m : Money) : Spells m.decimalChars m.whole m.fraction := by
  have hwhole : Digits m.whole := ⟨m.whole_ne_nil, m.whole_isDigit⟩
  rw [decimalChars_eq]
  -- with a point the digits end there, without one at the end of the text
  split
  · rename_i hnone
    rw [hnone, List.append_nil]
    exact .whole hwhole
  · rename_i hsome
    exact .point hwhole ⟨hsome, m.fraction_isDigit⟩

/-- The decimal of an amount, read in its currency, is that amount. -/
theorem parse_decimal (m : Money) : parse m.decimal (.text m.currency.code) = .ok m := by
  have htrim : Text.trimChars m.decimal.toList = m.decimalChars := by
    rw [decimal, String.toList_ofList, Text.trimChars_of_not_blank m.decimalChars_not_blank]
  have hlength := m.fraction_length
  have hvalue : Number.decimal (m.whole ++ m.fraction) = m.amount := by
    rw [whole_append_fraction, Number.decimal_eq m.padded_isDigit, padded_value]
  -- the fraction has every place of the currency, so nothing is filled up
  unfold parse
  simp only [currencyOf_code, htrim, m.spells_decimalChars.split, hlength, lt_irrefl, if_false,
    Nat.sub_self, List.replicate_zero, List.append_nil, hvalue, unitsOf_natCast m.amount_le]
  rfl

end Money

end NoticeLedger
