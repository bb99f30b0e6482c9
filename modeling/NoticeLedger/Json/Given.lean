import NoticeLedger.Json.Basic
import NoticeLedger.Number.Reader

/-!
# NoticeLedger.Json.Given

Values as they were given, where one may be left out.

* `Given` — a value, or none. One that is left out differs from `null`.
* `Given.orNull`, `Given.orElse` — what stands for a value that is nothing.
* `Given.display` — a given value inside a sentence.
* `Given.toNumber` — a given value in a calculation.
* `Members.update` — members changed by name; a value left out takes its name away. The last change
  of a name counts (`Members.get?_update`).
-/

namespace NoticeLedger

/-- A value as it was given; one that was left out is none. -/
abbrev Given := Option Json

namespace Given

def text (s : String) : Given := some (.text s)

def null : Given := some .null

/-- Whether nothing was given: no value, or `null`. -/
def isNothing : Given → Bool
  | none => true
  | some .null => true
  | some _ => false

/-- The value that was given; `null` stands for one that was left out. -/
def orNull : Given → Json
  | some v => v
  | none => .null

/-- The value that was given, or another one if it is nothing. -/
def orElse (g : Given) (other : Json) : Json :=
  match g with
  | some .null => other
  | some v => v
  | none => other

/-- The value that was given; an empty text says nothing. -/
def meaning : Given → Json
  | some (.text "") => .null
  | g => orNull g

/-- Whether a value was given that counts as present. -/
def isTruthy (g : Given) : Bool :=
  g.any Json.isTruthy

/-- A given value inside a sentence. -/
def display : Given → String
  | some v => v.display
  | none => "undefined"

def spread : Given → Members
  | some v => v.spread
  | none => []

def toNumber : Given → Number
  | none => .nan
  | some .null => 0
  | some (.bool b) => if b then 1 else 0
  | some (.number x) => x
  | some (.text s) => Number.read s
  | some (.array items) => Number.read (Json.display (.array items))
  | some (.object _) => .nan

theorem isNothing_iff (g : Given) : g.isNothing = true ↔ g.orNull = .null := by
  unfold isNothing orNull
  split <;> simp_all

end Given

namespace Members

def erase (m : Members) (name : String) : Members :=
  m.filter fun (n, _) => n != name

/-- The members with one value changed: put under its name, or taken away. -/
def change (m : Members) (name : String) (value : Given) : Members :=
  match value with
  | some v => m.put name v
  | none => m.erase name

def update (m : Members) (changes : List (String × Given)) : Members :=
  changes.foldl (fun m (name, value) => m.change name value) m

theorem get?_erase (m : Members) (name other : String) :
    (m.erase name).get? other = if name = other then none else m.get? other := by
  induction m with
  | nil => simp [erase]
  | cons p rest ih =>
    obtain ⟨n, v⟩ := p
    rw [erase] at ih ⊢
    by_cases h : n = name
    · subst h
      rw [List.filter_cons_of_neg (by simp), ih, get?_cons]
      by_cases hn : n = other <;> simp [hn]
    · rw [List.filter_cons_of_pos (by simpa using h), get?_cons, get?_cons, ih]
      by_cases hn : n = other
      · have h₂ : name ≠ other := fun e => h (hn.trans e.symm)
        simp [hn, h₂]
      · simp [hn]

/-- A changed name has the value that it was changed to, and no other name is touched. -/
theorem get?_change (m : Members) (name other : String) (value : Given) :
    (m.change name value).get? other = if name = other then value else m.get? other := by
  cases value with
  | none => simp [change, get?_erase]
  | some v => simp [change, get?_put]

theorem update_append (m : Members) (changes more : List (String × Given)) :
    m.update (changes ++ more) = (m.update changes).update more := by
  rw [update, update, update, List.foldl_append]

/-- Of the changes of one name the last one counts. -/
theorem get?_update (m : Members) (changes : List (String × Given)) (name : String) :
    (m.update changes).get? name = (changes.reverse.lookup name).getD (m.get? name) := by
  induction changes generalizing m with
  | nil => rfl
  | cons c changes ih =>
    obtain ⟨n, value⟩ := c
    have hcons : m.update ((n, value) :: changes) = (m.change n value).update changes := rfl
    rw [hcons, ih, List.reverse_cons, List.lookup_append, get?_change]
    by_cases hn : n = name
    · subst hn
      cases changes.reverse.lookup n <;> simp
    · have hne : (name == n) = false := by simpa using Ne.symm hn
      cases changes.reverse.lookup name <;> simp [List.lookup_cons, hn, hne]

theorem change_of_get? {m : Members} {name : String} {value : Given}
    (h : m.get? name = value) : m.change name value = m := by
  cases value with
  | none =>
    rw [change, erase, List.filter_eq_self]
    rintro ⟨n, v⟩ he
    have hkeys := List.lookup_eq_none_iff.mp h
    simpa using Ne.symm (by simpa using hkeys (n, v) he)
  | some v =>
    rw [change]
    induction m with
    | nil => exact nomatch h
    | cons e rest ih =>
      obtain ⟨n, u⟩ := e
      rw [get?_cons] at h
      rw [put]
      by_cases hn : n = name
      · rw [if_pos hn] at h
        rw [if_pos hn, ← hn, Option.some.inj h]
      · rw [if_neg hn] at h
        rw [if_neg hn, ih h]

/-- Changes to the values that are there change nothing. -/
theorem update_of_get? {m : Members} {changes : List (String × Given)}
    (h : ∀ c ∈ changes, m.get? c.1 = c.2) : m.update changes = m := by
  induction changes with
  | nil => rfl
  | cons c changes ih =>
    obtain ⟨hc, hrest⟩ := List.forall_mem_cons.mp h
    have hcons : m.update (c :: changes) = (m.change c.1 c.2).update changes := rfl
    rw [hcons, change_of_get? hc, ih hrest]

end Members

end NoticeLedger
