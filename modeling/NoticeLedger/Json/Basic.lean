import NoticeLedger.Number.Shortest

/-!
# NoticeLedger.Json.Basic

Values of the interchange format, with the members of an object in order.

* `Json` — a value; `Members` — the members of an object; values have decidable equality.
* `Members.get?`, `put`, `merge` — look-up and change by name; `Members.get?_put`, `get?_merge`.
* `Members.ordered` — the order in which members are kept: names that are array indexes first.
* `Json.isTruthy` — whether a value counts as present where a blank one means absent.
* `Json.spread` — the members that any value gives away.
* `Json.display` — a value inside a sentence.
* `Json.isWordless` — whether a value cannot stand inside a sentence.
-/

namespace NoticeLedger

inductive Json where
  | null
  | bool (value : Bool)
  | number (value : Number)
  | text (value : String)
  | array (items : List Json)
  | object (members : List (String × Json))
  deriving Inhabited

namespace Json

mutual

def same : Json → Json → Bool
  | null, null => true
  | bool a, bool b => a == b
  | number x, number y => x == y
  | text s, text t => s == t
  | array xs, array ys => sameItems xs ys
  | object m, object n => sameMembers m n
  | _, _ => false

def sameItems : List Json → List Json → Bool
  | [], [] => true
  | x :: xs, y :: ys => same x y && sameItems xs ys
  | _, _ => false

def sameMembers : List (String × Json) → List (String × Json) → Bool
  | [], [] => true
  | (n, x) :: xs, (k, y) :: ys => n == k && same x y && sameMembers xs ys
  | _, _ => false

end

mutual

theorem same_iff : (a b : Json) → (same a b = true ↔ a = b)
  | null, b => by cases b <;> simp [same]
  | bool _, b => by cases b <;> simp [same]
  | number _, b => by cases b <;> simp [same]
  | text _, b => by cases b <;> simp [same]
  | array xs, b => by
    cases b with
    | array ys => simp [same, sameItems_iff xs ys]
    | _ => simp [same]
  | object m, b => by
    cases b with
    | object n => simp [same, sameMembers_iff m n]
    | _ => simp [same]

theorem sameItems_iff : (xs ys : List Json) → (sameItems xs ys = true ↔ xs = ys)
  | [], ys => by cases ys <;> simp [sameItems]
  | x :: xs, ys => by
    cases ys with
    | nil => simp [sameItems]
    | cons y ys => simp [sameItems, same_iff x y, sameItems_iff xs ys]

theorem sameMembers_iff :
    (m n : List (String × Json)) → (sameMembers m n = true ↔ m = n)
  | [], n => by cases n <;> simp [sameMembers]
  | (k, x) :: m, n => by
    cases n with
    | nil => simp [sameMembers]
    | cons p n =>
      obtain ⟨l, y⟩ := p
      simp [sameMembers, same_iff x y, sameMembers_iff m n]

end

instance : DecidableEq Json := fun a b => decidable_of_iff _ (same_iff a b)

end Json

/-- Named values in order; a name stands once. -/
abbrev Members := List (String × Json)

namespace Members

def get? (m : Members) (name : String) : Option Json :=
  m.lookup name

/-- The members with a value put under a name: in the place of the old value, or at the end. -/
def put : Members → String → Json → Members
  | [], name, value => [(name, value)]
  | (n, v) :: rest, name, value =>
    if n = name then (name, value) :: rest else (n, v) :: put rest name value

/-- The members of the first list with those of the second put over them. -/
def merge (below above : Members) : Members :=
  above.foldl (fun m (name, value) => m.put name value) below

@[simp] theorem get?_nil (name : String) : get? [] name = none := rfl

theorem get?_cons (n : String) (v : Json) (rest : Members) (name : String) :
    get? ((n, v) :: rest) name = if n = name then some v else get? rest name := by
  by_cases h : n = name
  · simp [get?, h]
  · have h' : (name == n) = false := by simpa using fun e => h e.symm
    simp [get?, List.lookup_cons, h, h']

/-- A value that was put under a name is found there, and no other name is touched. -/
theorem get?_put (m : Members) (name other : String) (value : Json) :
    (m.put name value).get? other = if name = other then some value else m.get? other := by
  induction m with
  | nil => simp [put, get?_cons]
  | cons p rest ih =>
    obtain ⟨n, v⟩ := p
    by_cases h : n = name
    · rw [put, if_pos h, get?_cons, get?_cons, h]
      by_cases hn : name = other <;> simp [hn]
    · rw [put, if_neg h, get?_cons, get?_cons, ih]
      by_cases hn : n = other
      · have h₂ : name ≠ other := fun e => h (hn.trans e.symm)
        simp [hn, h₂]
      · simp [hn]

/-- A name has the value of the members that were put over the others, if it stands there. -/
theorem get?_merge {below above : Members} (h : (above.map Prod.fst).Nodup) (name : String) :
    (merge below above).get? name = (above.get? name).or (below.get? name) := by
  induction above generalizing below with
  | nil => rfl
  | cons p rest ih =>
    obtain ⟨n, v⟩ := p
    obtain ⟨hnew, hrest⟩ := List.nodup_cons.mp h
    have hmerge : merge below ((n, v) :: rest) = merge (below.put n v) rest := rfl
    rw [hmerge, ih hrest, get?_put, get?_cons]
    by_cases hn : n = name
    · subst hn
      have hnone : get? rest n = none := by
        refine List.lookup_eq_none_iff.mpr fun p hp => bne_iff_ne.mpr fun heq => ?_
        exact hnew (List.mem_map.mpr ⟨p, hp, heq.symm⟩)
      rw [if_pos rfl, if_pos rfl, hnone]
      rfl
    · rw [if_neg hn, if_neg hn]

/-- The index that a name is the decimal form of, below `2 ^ 32 - 1`. -/
def index? (name : String) : Option Nat :=
  match name.toList with
  | [] => none
  | ['0'] => some 0
  | c :: rest =>
    if c ≠ '0' ∧ (c :: rest).all Char.isDigit ∧ rest.length < 10 then
      let n := (c :: rest).foldl (fun n d => 10 * n + (d.toNat - '0'.toNat)) 0
      if n < Nat.pow 2 32 - 1 then some n else none
    else none

/-- The members in the order that objects keep: indexes ascending, then the other names as they
came. A name that came twice has its last value in its first place. -/
def ordered (pairs : Members) : Members :=
  let once := merge [] pairs
  let (indexed, named) := once.partition fun (name, _) => (index? name).isSome
  indexed.mergeSort (fun a b => (index? a.1).getD 0 ≤ (index? b.1).getD 0) ++ named

end Members

namespace Json

/-- Whether a value counts as present: `null`, `false`, the empty text, zero and `nan` do not. -/
def isTruthy : Json → Bool
  | null => false
  | bool b => b
  | number x => x != 0 && x != .nan
  | text s => s != ""
  | array _ => true
  | object _ => true

def text? : Json → Option String
  | text s => some s
  | _ => none

def bool? : Json → Option Bool
  | bool b => some b
  | _ => none

def number? : Json → Option Number
  | number x => some x
  | _ => none

def members? : Json → Option Members
  | object m => some m
  | _ => none

def characters (s : String) : List Json :=
  s.toList.map fun c => text (String.singleton c)

/-- The items of a list as members named by their places. -/
def placed (items : List Json) : Members :=
  items.zipIdx.map fun (item, i) => (toString i, item)

/-- The members that a value gives away: those of an object, the places of a list or of a text, and
none of anything else. -/
def spread : Json → Members
  | object m => m
  | array items => placed items
  | text s => placed (characters s)
  | _ => []

def items? : Json → Option (List Json)
  | array xs => some xs
  | _ => none

mutual

/-- A value inside a sentence: a text as it is, the items of a list divided by commas. -/
def display : Json → String
  | null => "null"
  | bool true => "true"
  | bool false => "false"
  | number x => x.text
  | text s => s
  | array items => ",".intercalate (displayItems items)
  | object _ => "[object Object]"

/-- The items of a list inside a sentence; a missing one is blank. -/
def displayItems : List Json → List String
  | [] => []
  | null :: rest => "" :: displayItems rest
  | item :: rest => display item :: displayItems rest

end

mutual

/-- Whether a value cannot stand inside a sentence. A member named `toString` hides the way to
words that every object has; a list has words if all its items have. -/
def isWordless : Json → Bool
  | array items => anyWordless items
  | object members => members.any fun (name, _) => name == "toString"
  | _ => false

def anyWordless : List Json → Bool
  | [] => false
  | item :: rest => isWordless item || anyWordless rest

end

end Json

end NoticeLedger
