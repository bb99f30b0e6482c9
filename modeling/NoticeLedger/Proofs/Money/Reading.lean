import NoticeLedger.Failure
import NoticeLedger.Proofs.Money.Decimal

/-!
# NoticeLedger.Proofs.Money.Reading

Which texts are decimals of an amount, and of which one.

* `Money.Denotes value name c n` — the text `value` denotes `n` units of the currency `c`, which
  `name` names.
* `Number.toInt?_ofInt_of_lt` — a number that stands for a whole number beyond the greatest amount
  is beyond it as well, however it was rounded.
* `Money.parse_denotes` — a text is read as what it denotes, and refused with a reason if it denotes
  nothing.
-/

namespace NoticeLedger

/-- A number never comes back into the range of amounts by being rounded. -/
theorem Number.toInt?_ofInt_of_lt {n : Nat} (hn : maxSafe < n) {i : Int}
    (hi : (Number.ofInt n).toInt? = some i) : (maxSafe : Int) < i := by
  rw [maxSafe, Nat.pow_eq] at hn ⊢
  have hreach : (Number.ofInt n).Reaches (2 ^ 53) :=
    reaches_round le_rfl (by exact_mod_cast (by omega : 2 ^ 53 ≤ n))
  obtain ⟨d, hd, hvalue⟩ := toRat_of_toInt? hi
  obtain hfar | ⟨d', hd', hle⟩ := hreach
  · cases hd.symm.trans hfar
  · cases hd.symm.trans hd'
    rw [hvalue] at hle
    have : ((2 ^ 53 : Nat) : Int) ≤ i := by exact_mod_cast hle
    omega

theorem Currency.named?_eq_some_iff {s : String} {c : Currency} :
    named? s = some c ↔ c.code = Text.canonical s := by
  refine ⟨named?_eq_some, fun h => ?_⟩
  rw [named?, ← h, find?_code]

namespace Money

variable {value name : String} {m : Money} {c : Currency} {n : Nat} {refusal : Refusal}

/-- The units of an amount are those of the number that stands for them, and no others. -/
theorem unitsOf_ofInt {units : { n : Nat // n ≤ Number.maxSafe }}
    (h : unitsOf (some (.number (.ofInt n))) = .ok units) : units.val = n := by
  by_cases hn : n ≤ Number.maxSafe
  · rw [unitsOf_natCast hn] at h
    cases h
    rfl
  · simp only [unitsOf] at h
    split at h
    · rename_i k hk
      have := Number.toInt?_ofInt_of_lt (by omega) hk
      rw [dif_neg (by simpa using this)] at h
      cases h
    · split at h <;> cases h
    · cases h

/-- What a decimal in major units denotes. The places of the currency that it leaves out are filled
with zeros. -/
structure Denotes (value name : String) (c : Currency) (n : Nat) : Prop where
  code : c.code = Text.upper (Text.trim name)
  digits : ∃ whole fraction, Spells (Text.trim value).toList whole fraction ∧
    fraction.length ≤ c.exponent ∧
    n = Nat.ofDigitChars 10
      (whole ++ fraction ++ List.replicate (c.exponent - fraction.length) '0') 0
  safe : n ≤ 2 ^ 53 - 1

theorem currencyOf_text : currencyOf (.text name) = .ok c ↔ c.code = Text.canonical name := by
  rw [← Currency.named?_eq_some_iff]
  simp only [currencyOf, Given.text]
  cases Currency.named? name <;> simp

theorem decimal_filled {cs ds es : List Char} (h : Spells cs ds es) (k : Nat) :
    Number.decimal (ds ++ es ++ List.replicate k '0') =
      Nat.ofDigitChars 10 (ds ++ es ++ List.replicate k '0') 0 := by
  refine Number.decimal_eq fun c hc => ?_
  rcases List.mem_append.mp hc with hc | hc
  · exact h.isDigit c hc
  · rw [List.eq_of_mem_replicate hc]
    rfl

theorem Denotes.parse (h : Denotes value name m.currency m.amount) :
    parse value (.text name) = .ok m := by
  obtain ⟨ds, es, hspells, hplaces, hamount⟩ := h.digits
  have hsplit := hspells.split
  rw [Text.toList_trim] at hsplit
  have hunits := unitsOf_natCast m.amount_le
  rw [← decimal_filled hspells] at hamount
  unfold Money.parse
  simp only [currencyOf_text.mpr h.code, hsplit, if_neg (not_lt.mpr hplaces), ← hamount, hunits]
  rfl

theorem Denotes.of_parse (h : Money.parse value (.text name) = .ok m) :
    Denotes value name m.currency m.amount := by
  unfold Money.parse at h
  split at h
  · exact nomatch h
  rename_i c hcurrency
  split at h
  · exact nomatch h
  rename_i ds es hsplit
  split at h
  · exact nomatch h
  rename_i hplaces
  dsimp only at h
  split at h
  · exact nomatch h
  rename_i units hunits
  cases h
  have hspells := Spells.of_split hsplit
  rw [← Text.toList_trim] at hspells
  refine ⟨currencyOf_text.mp hcurrency, ⟨ds, es, hspells, not_lt.mp hplaces, ?_⟩, units.property⟩
  rw [← decimal_filled hspells]
  exact unitsOf_ofInt hunits

theorem parse_reason (h : Money.parse value (.text name) = .error refusal) :
    refusal.message ≠ none := by
  unfold Money.parse at h
  split at h
  · rename_i hcurrency
    cases h
    refine currencyOf_reason (fun v hv => ?_) hcurrency
    cases hv
    exact .inr ⟨name, rfl⟩
  split at h
  · cases h
    exact nofun
  split at h
  · cases h
    exact nofun
  dsimp only at h
  split at h
  · rename_i hunits
    cases h
    exact unitsOf_reason hunits
  · exact nomatch h

/-- **A decimal is read as what it denotes.** A text and a name of a currency are read as an amount
exactly if they denote it: there is no other way to write an amount, and no number of digits at
which another one is taken for it. Whatever denotes nothing is refused as no money. -/
theorem parse_denotes (value name : String) :
    (∀ m, Money.parse value (.text name) = .ok m ↔ Denotes value name m.currency m.amount) ∧
      ((∃ c n, Denotes value name c n) ∨ ∃ refusal message,
        Money.parse value (.text name) = .error refusal ∧
          Failure.ofRefusal refusal = .invalidMoney message) := by
  refine ⟨fun m => ⟨.of_parse, Denotes.parse⟩, ?_⟩
  cases hparse : Money.parse value (.text name) with
  | ok m => exact .inl ⟨_, _, .of_parse hparse⟩
  | error refusal =>
    obtain ⟨message, hmessage⟩ := Option.ne_none_iff_exists'.mp (parse_reason hparse)
    refine .inr ⟨refusal, message, rfl, ?_⟩
    rw [Failure.ofRefusal, hmessage]

/-- One unit more than the greatest amount. -/
example : Money.parse "90071992547409.92" (.text "eur") = .error .notWhole :=
  rfl

end Money

end NoticeLedger
