import Mathlib
import NoticeLedger.Json.Printer
import NoticeLedger.Json.Reader

/-!
# NoticeLedger.Proofs.Json.Printing

The compact text of a value tells the value.

* `readText?_escaped` — a quoted text is read back as it was, whatever follows it.
* `quote_append_inj` — so two texts that start with quoted ones start with the same.
* `render_textMembers_inj` — objects of texts that are written alike are the same object.
-/

namespace NoticeLedger.Json

theorem digitIn?_digitChar : ∀ n < 16, Number.digitIn? 16 (Nat.digitChar n) = some n := by
  decide

/-- A control character is read back from its code. -/
theorem readEscape?_code {n : Nat} (hn : n < 0x20) (rest : List Char) :
    readEscape? ('0' :: '0' :: Nat.digitChar (n / 16) :: Nat.digitChar (n % 16) :: rest) =
      some (Char.ofNat n, rest) := by
  have hunit : readUnit? ('0' :: '0' :: Nat.digitChar (n / 16) :: Nat.digitChar (n % 16) :: rest) =
      some (n, rest) := by
    have hzero : Number.digitIn? 16 '0' = some 0 := by decide
    have hhigh := digitIn?_digitChar (n / 16) (by omega)
    have hlow := digitIn?_digitChar (n % 16) (by omega)
    have hvalue : Number.ofDigits 16 [0, 0, n / 16, n % 16] = n := by
      simp only [Number.ofDigits, List.foldl]
      omega
    simp [readUnit?, hzero, hhigh, hlow, hvalue]
  rw [readEscape?, hunit]
  show (if 0xD800 ≤ n ∧ n < 0xDC00 then _ else _) = _
  rw [if_neg (by omega), if_neg (by omega)]
  rfl

/-- One character is read back from what it is written as. -/
theorem readText?_escapeChar (fuel : Nat) (seen : List Char) (c : Char) (rest : List Char) :
    readText? (fuel + 1) seen (escapeChar c ++ rest) = readText? fuel (c :: seen) rest := by
  unfold escapeChar
  split
  case h_1 => rfl
  case h_2 => rfl
  case h_3 => rfl
  case h_4 => rfl
  case h_5 => rfl
  case h_6 => rfl
  case h_7 => rfl
  case h_8 hquote hslash _ _ _ _ _ =>
    split
    · rename_i hcontrol
      have hcode := readEscape?_code hcontrol rest
      have hchar : Char.ofNat c.toNat = c := Char.ofNat_toNat c
      simp only [List.cons_append, List.nil_append, readText?, hcode, hchar]
    · rename_i hplain
      rw [List.singleton_append, readText?, if_neg hplain]
      · exact hquote
      · exact fun _ _ h _ => hslash h

theorem readText?_escaped (cs : List Char) {fuel : Nat} (hfuel : cs.length < fuel)
    (seen rest : List Char) :
    readText? fuel seen (cs.flatMap escapeChar ++ '"' :: rest) =
      some (String.ofList (seen.reverse ++ cs), rest) := by
  induction cs generalizing fuel seen with
  | nil =>
    obtain ⟨fuel, rfl⟩ := Nat.exists_eq_succ_of_ne_zero (Nat.ne_of_gt hfuel)
    simp [readText?]
  | cons c cs ih =>
    obtain ⟨fuel, rfl⟩ := Nat.exists_eq_succ_of_ne_zero (Nat.ne_of_gt (Nat.zero_lt_of_lt hfuel))
    rw [List.length_cons] at hfuel
    rw [List.flatMap_cons, List.append_assoc, readText?_escapeChar, ih (by omega)]
    simp

theorem quote_toList (s : String) :
    (quote s).toList = '"' :: (s.toList.flatMap escapeChar ++ ['"']) := by
  simp [quote]

/-- What starts with a quoted text starts with no other. -/
theorem quote_append_inj {s t : String} {u v : List Char}
    (h : (quote s).toList ++ u = (quote t).toList ++ v) : s = t ∧ u = v := by
  have hs := readText?_escaped s.toList
    (by omega : s.toList.length < s.toList.length + t.toList.length + 1) [] u
  have ht := readText?_escaped t.toList
    (by omega : t.toList.length < s.toList.length + t.toList.length + 1) [] v
  have hbody : s.toList.flatMap escapeChar ++ '"' :: u =
      t.toList.flatMap escapeChar ++ '"' :: v := by
    simpa [quote_toList] using h
  rw [hbody, ht] at hs
  simp only [List.reverse_nil, List.nil_append, String.ofList_toList, Option.some.injEq,
    Prod.mk.injEq] at hs
  exact ⟨hs.1.symm, hs.2.symm⟩

def TextMembers (m : Members) : Prop :=
  ∀ e ∈ m, ∃ s, e.2 = text s

/-- The members of an object, with what closes it. -/
def closedMembers (m : Members) : List Char :=
  (",".intercalate (renderMembers m)).toList ++ ['\x7d']

theorem closedMembers_cons (name s : String) (m : Members) :
    closedMembers ((name, text s) :: m) = (quote name).toList ++
      ':' :: ((quote s).toList ++ if m.isEmpty then ['\x7d'] else ',' :: closedMembers m) := by
  cases m with
  | nil => simp [closedMembers, renderMembers, render]
  | cons e m =>
    obtain ⟨k, v⟩ := e
    simp [closedMembers, renderMembers, render, String.intercalate_cons_cons]

theorem closedMembers_inj {m n : Members} (hm : TextMembers m) (hn : TextMembers n)
    (h : closedMembers m = closedMembers n) : m = n := by
  have hempty : closedMembers [] = ['\x7d'] := rfl
  induction m generalizing n with
  | nil =>
    cases n with
    | nil => rfl
    | cons e n =>
      obtain ⟨name, v⟩ := e
      obtain ⟨s, rfl⟩ : ∃ s, v = text s := hn _ List.mem_cons_self
      rw [hempty, closedMembers_cons, quote_toList] at h
      simp at h
  | cons e m ih =>
    obtain ⟨name, v⟩ := e
    obtain ⟨s, rfl⟩ : ∃ s, v = text s := hm _ List.mem_cons_self
    cases n with
    | nil =>
      rw [hempty, closedMembers_cons, quote_toList] at h
      simp at h
    | cons e n =>
      obtain ⟨name', v⟩ := e
      obtain ⟨s', rfl⟩ : ∃ s, v = text s := hn _ List.mem_cons_self
      have hm' : TextMembers m := fun e he => hm e (List.mem_cons_of_mem _ he)
      have hn' : TextMembers n := fun e he => hn e (List.mem_cons_of_mem _ he)
      rw [closedMembers_cons, closedMembers_cons] at h
      obtain ⟨rfl, hvalue⟩ := quote_append_inj h
      obtain ⟨rfl, hrest⟩ := quote_append_inj (List.cons.inj hvalue).2
      -- a comma tells that more is to come
      cases m with
      | nil =>
        cases n with
        | nil => rfl
        | cons e n => simp at hrest
      | cons e m =>
        cases n with
        | nil => simp at hrest
        | cons e' n =>
          have htail : e :: m = e' :: n := ih hm' hn' (List.cons.inj hrest).2
          rw [htail]

/-- Objects of texts that are written alike are the same. -/
theorem render_textMembers_inj {m n : Members} (hm : TextMembers m) (hn : TextMembers n)
    (h : render (object m) = render (object n)) : m = n := by
  refine closedMembers_inj hm hn ?_
  have hchars := congrArg String.toList h
  simpa [render, closedMembers] using hchars

end NoticeLedger.Json
