import Mathlib
import NoticeLedger.Number.Reader
import NoticeLedger.Text.Percent

/-!
# NoticeLedger.Proofs.Text.Percent

Segments of a path are decoded to the texts that they were encoded from.

* `decodeSegment?` — percent-decoding: `%XX` is an octet, any other character stands for the octets
  of its UTF-8 form, and the octets have to be the UTF-8 form of a text.
* `utf8_toNat` — the octets that a character is encoded as are those of its UTF-8 form.
* `isPlain_of_mem_encodeSegment` — a segment is made of unreserved characters and `%`, so it holds
  nothing that divides the parts of an address.
* `decodeSegment?_encodeSegment` — every text comes back.
-/

namespace NoticeLedger.Text

/-- The octets that a percent-encoded text stands for. -/
def decodeOctets? : List Char → Option (List UInt8)
  | [] => some []
  | '%' :: high :: low :: rest => do
    let high ← Number.digitIn? 16 high
    let low ← Number.digitIn? 16 low
    let octets ← decodeOctets? rest
    pure (UInt8.ofNat (16 * high + low) :: octets)
  | c :: rest =>
    if c = '%' then none else (decodeOctets? rest).map (String.utf8EncodeChar c ++ ·)

/-- The text that a percent-encoded text stands for, if it stands for one. -/
def decodeSegment? (s : String) : Option String :=
  (decodeOctets? s.toList).bind fun octets => String.fromUTF8? octets.toByteArray

/-! ## Octets -/

theorem digitIn?_hexDigit : ∀ n < 16, Number.digitIn? 16 (hexDigit n) = some n := by
  decide

theorem decodeOctets?_encodeOctet {n : Nat} (hn : n < 256) (rest : List Char) :
    decodeOctets? (encodeOctet n ++ rest) =
      (decodeOctets? rest).map (UInt8.ofNat n :: ·) := by
  have hhigh := digitIn?_hexDigit (n / 16) (by omega)
  have hlow := digitIn?_hexDigit (n % 16) (by omega)
  have hvalue : 16 * (n / 16) + n % 16 = n := Nat.div_add_mod n 16
  rw [encodeOctet, List.cons_append, List.cons_append, List.cons_append, List.nil_append,
    decodeOctets?, hhigh, hlow]
  simp only [Option.bind_eq_bind, Option.bind_some, hvalue]
  cases decodeOctets? rest <;> rfl

theorem decodeOctets?_flatMap_encodeOctet {octets : List Nat} (h : ∀ n ∈ octets, n < 256)
    (rest : List Char) :
    decodeOctets? (octets.flatMap encodeOctet ++ rest) =
      (decodeOctets? rest).map (octets.map UInt8.ofNat ++ ·) := by
  induction octets with
  | nil => simp
  | cons n octets ih =>
    obtain ⟨hn, hoctets⟩ := List.forall_mem_cons.mp h
    rw [List.flatMap_cons, List.append_assoc, decodeOctets?_encodeOctet hn, ih hoctets,
      Option.map_map]
    rfl

/-! ## Characters -/

theorem toNat_lt (c : Char) : c.toNat < 0x110000 := by
  rcases c.valid with h | h
  · exact Nat.lt_trans h (by decide)
  · exact h.2

theorem utf8_lt {n k : Nat} (hn : n < 0x110000) (hk : k ∈ utf8 n) : k < 256 := by
  unfold utf8 at hk
  split_ifs at hk <;> simp only [List.mem_cons, List.not_mem_nil, or_false] at hk <;> omega

/-- The octets of a character are those of its UTF-8 form; a code point in range fills no octet
beyond its mark. -/
theorem utf8_toNat (c : Char) : (utf8 c.toNat).map UInt8.ofNat = String.utf8EncodeChar c := by
  have hc := toNat_lt c
  have hval : c.val.toNat = c.toNat := rfl
  rw [String.utf8EncodeChar, utf8]
  simp only [hval]
  generalize c.toNat = n at hc
  split_ifs <;> first | omega | skip
  · rfl
  · have hhigh : n / 64 % 32 = n / 64 := Nat.mod_eq_of_lt (by omega)
    simp [hhigh, Nat.add_comm]
  · have hhigh : n / 4096 % 16 = n / 4096 := Nat.mod_eq_of_lt (by omega)
    simp [hhigh, Nat.add_comm]
  · have hhigh : n / 262144 % 8 = n / 262144 := Nat.mod_eq_of_lt (by omega)
    simp [hhigh, Nat.add_comm]

/-- What is neither reserved nor the mark of an octet. -/
theorem decodeOctets?_of_isUnreserved {c : Char} (h : isUnreserved c = true) (rest : List Char) :
    decodeOctets? (c :: rest) = (decodeOctets? rest).map (String.utf8EncodeChar c ++ ·) := by
  have hmark : c ≠ '%' := by
    rintro rfl
    exact absurd h (by decide)
  rw [decodeOctets?.eq_3 c rest fun _ _ _ he _ => hmark he, if_neg hmark]

theorem decodeOctets?_encodeChar (c : Char) (rest : List Char) :
    decodeOctets? (encodeChar c ++ rest) =
      (decodeOctets? rest).map (String.utf8EncodeChar c ++ ·) := by
  rw [encodeChar]
  by_cases h : isUnreserved c = true
  · rw [if_pos h]
    exact decodeOctets?_of_isUnreserved h rest
  · rw [if_neg h, decodeOctets?_flatMap_encodeOctet fun _ => utf8_lt (toNat_lt c), utf8_toNat]

theorem decodeOctets?_flatMap_encodeChar (cs : List Char) :
    decodeOctets? (cs.flatMap encodeChar) = some (cs.flatMap String.utf8EncodeChar) := by
  induction cs with
  | nil => rfl
  | cons c cs ih =>
    rw [List.flatMap_cons, decodeOctets?_encodeChar, ih, Option.map_some, List.flatMap_cons]

/-! ## Segments -/

/-- A character that is not reserved, or the mark of an octet. -/
def IsPlain (c : Char) : Prop :=
  isUnreserved c = true ∨ c = '%'

instance : DecidablePred IsPlain := fun c =>
  inferInstanceAs (Decidable (isUnreserved c = true ∨ c = '%'))

theorem isPlain_of_isAlphanum {c : Char} (h : c.isAlphanum = true) : IsPlain c :=
  .inl (by simp only [isUnreserved, h, Bool.true_or])

theorem isAlphanum_hexDigit : ∀ n < 16, (hexDigit n).isAlphanum = true := by
  decide

theorem mem_encodeOctets {c d : Char} (h : d ∈ (utf8 c.toNat).flatMap encodeOctet) :
    d = '%' ∨ d.isAlphanum = true := by
  obtain ⟨n, hn, hd⟩ := List.mem_flatMap.mp h
  have hbound := utf8_lt (toNat_lt c) hn
  simp only [encodeOctet, List.mem_cons, List.not_mem_nil, or_false] at hd
  rcases hd with rfl | rfl | rfl
  · exact .inl rfl
  · exact .inr (isAlphanum_hexDigit _ (by omega))
  · exact .inr (isAlphanum_hexDigit _ (by omega))

theorem mem_encodeChar {c d : Char} (h : d ∈ encodeChar c) :
    d = c ∧ isUnreserved c = true ∨ d = '%' ∨ d.isAlphanum = true := by
  rw [encodeChar] at h
  split at h
  · rename_i hc
    exact .inl ⟨List.mem_singleton.mp h, hc⟩
  · exact .inr (mem_encodeOctets h)

theorem isPlain_of_mem_encodeSegment {s : String} {c : Char}
    (h : c ∈ (encodeSegment s).toList) : IsPlain c := by
  rw [encodeSegment, String.toList_ofList] at h
  obtain ⟨d, -, hc⟩ := List.mem_flatMap.mp h
  rcases mem_encodeChar hc with ⟨rfl, hd⟩ | hmark | hc
  · exact .inl hd
  · exact .inr hmark
  · exact isPlain_of_isAlphanum hc

/-- A segment holds no character that is reserved. -/
theorem not_mem_encodeSegment {c : Char} (h : isUnreserved c = false) (hmark : c ≠ '%')
    (s : String) : c ∉ (encodeSegment s).toList := by
  intro hc
  rcases isPlain_of_mem_encodeSegment hc with hplain | hplain
  · rw [h] at hplain
    exact nomatch hplain
  · exact hmark hplain

theorem fromUTF8?_utf8Encode (s : String) : String.fromUTF8? s.toList.utf8Encode = some s := by
  rw [String.utf8Encode_toList, String.fromUTF8?, dif_pos s.isValidUTF8]
  rfl

/-- Every text comes back from its segment. -/
theorem decodeSegment?_encodeSegment (s : String) :
    decodeSegment? (encodeSegment s) = some s := by
  rw [decodeSegment?, encodeSegment, String.toList_ofList, decodeOctets?_flatMap_encodeChar]
  exact fromUTF8?_utf8Encode s

theorem encodeSegment_injective : encodeSegment.Injective := by
  intro s t h
  have hs := decodeSegment?_encodeSegment s
  rw [h, decodeSegment?_encodeSegment] at hs
  exact (Option.some.inj hs).symm

end NoticeLedger.Text
