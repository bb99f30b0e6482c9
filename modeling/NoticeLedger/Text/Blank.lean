/-!
# NoticeLedger.Text.Blank

White space at the ends of a text.

* `isBlank` — the white-space and line-end characters that are cut off.
* `trim` — a text without the blank characters at its two ends.

The set is that of the Unicode class of space separators, the line and paragraph separators, the
ASCII controls from tab to carriage return, and the byte order mark. A next-line control, a zero
width space and a Mongolian vowel separator are not blank. Nothing is left exactly of a text of
blanks (`trim_eq_empty_iff`).
-/

namespace NoticeLedger.Text

/-- The characters that `trim` cuts off. -/
def isBlank (c : Char) : Bool :=
  let n := c.toNat
  (0x09 ≤ n && n ≤ 0x0D) || n == 0x20 || n == 0xA0 || n == 0x1680 ||
    (0x2000 ≤ n && n ≤ 0x200A) || n == 0x2028 || n == 0x2029 || n == 0x202F ||
    n == 0x205F || n == 0x3000 || n == 0xFEFF

def dropBlank (cs : List Char) : List Char :=
  cs.dropWhile isBlank

def trimChars (cs : List Char) : List Char :=
  (dropBlank (dropBlank cs).reverse).reverse

/-- A text without the blank characters at its two ends. -/
def trim (s : String) : String :=
  String.ofList (trimChars s.toList)

theorem dropBlank_eq_nil_iff (cs : List Char) : dropBlank cs = [] ↔ ∀ c ∈ cs, isBlank c = true := by
  induction cs with
  | nil => simp [dropBlank]
  | cons c cs ih =>
    rw [dropBlank] at ih ⊢
    by_cases hc : isBlank c = true
    · rw [List.dropWhile_cons_of_pos hc, ih]
      simp [hc]
    · rw [List.dropWhile_cons_of_neg hc]
      simp [hc]

theorem trim_eq_empty_iff (s : String) : trim s = "" ↔ ∀ c ∈ s.toList, isBlank c = true := by
  have hchars : trim s = "" ↔ trimChars s.toList = [] := by
    simp [trim]
  rw [hchars, trimChars, List.reverse_eq_nil_iff, dropBlank_eq_nil_iff]
  simp only [List.mem_reverse]
  constructor
  · intro h
    -- what is left in front starts with a character that is not blank
    rw [← dropBlank_eq_nil_iff]
    rw [dropBlank] at h ⊢
    cases hd : s.toList.dropWhile isBlank with
    | nil => rfl
    | cons c cs =>
      have hc : isBlank c = true := h c (by simp [hd])
      have hne : s.toList.dropWhile isBlank ≠ [] := by simp [hd]
      have hhead := List.head_dropWhile_not isBlank hne
      simp [hd, hc] at hhead
  · intro h c hc
    exact h c ((List.dropWhile_sublist isBlank).mem hc)

end NoticeLedger.Text
