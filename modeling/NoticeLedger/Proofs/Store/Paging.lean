import NoticeLedger.Proofs.Number.Rounding
import NoticeLedger.Store.Relational

/-!
# NoticeLedger.Proofs.Store.Paging

The parts of a listing.

* `Pagination.part`, `Pagination.numbered` — a part by its place or by the number of its page, and
  how much it holds at most.
* `Page.slice_part`, `Tables.cut_part` — records in memory and rows of tables give the same items
  for it.
* `Page.slice_numbered` — so do pages of any number, beyond the last one as well.
* `Pagination.pageCount_part` — how many parts there are.
* `length_part`, `length_last_part`, `part_beyond`, `first_part` — how much is in each.
* `flatMap_parts` — the parts one after another are the whole listing.

The numbers that parts are asked for with are rounded ones. They are exact as far as listings reach
(`start_part`), save for the place at which the last part would end (`position_stop_part`).
-/

namespace NoticeLedger

/-- The part that numbers of a page and of items ask for. -/
def Pagination.numbered (x limit : Number) : Pagination where
  page := some (.number x)
  limit := some (.number limit)

def Pagination.part (k : Nat) (limit : Number) : Pagination where
  page := some (.number (Number.ofInt (k + 1 : Nat)))
  limit := some (.number limit)

/-- A limit of a whole number of items, which a statement has a place for. -/
structure Number.Limits (limit : Number) (l : Nat) : Prop where
  whole : limit.toInt? = some (l : Int)
  pos : 0 < l
  short : l < 2 ^ 63

/-- A limit of a whole number of items, however large. -/
structure Number.Counts (limit : Number) (l : Nat) : Prop where
  whole : limit.toInt? = some (l : Int)
  pos : 0 < l
  finite : l < 2 ^ 1024

theorem Number.Limits.counts {limit : Number} {l : Nat} (h : limit.Limits l) : limit.Counts l where
  whole := h.whole
  pos := h.pos
  finite := by
    have := h.short
    omega

/-- How many parts a listing of so many items has. -/
def partCount (total l : Nat) : Nat :=
  (total + l - 1) / l

section Arithmetic

variable {total l k : Nat}

theorem le_partCount_mul (hl : 0 < l) : total ≤ partCount total l * l := by
  have h : total + l - 1 < partCount total l * l + l := Nat.lt_div_mul_add hl
  omega

theorem partCount_le (hl : 0 < l) : partCount total l ≤ total := by
  rw [partCount, Nat.div_le_iff_le_mul_add_pred hl]
  have := Nat.le_mul_of_pos_left total hl
  omega

theorem partCount_eq_zero_iff (hl : 0 < l) : partCount total l = 0 ↔ total = 0 := by
  rw [partCount, Nat.div_eq_zero_iff]
  omega

/-- The part before any part starts within the listing. -/
theorem mul_le_of_lt_partCount (hk : k < max (partCount total l) 1) : k * l ≤ total := by
  rcases Nat.eq_zero_or_pos k with rfl | hpos
  · rw [Nat.zero_mul]
    exact Nat.zero_le total
  · have hk' : k + 1 ≤ partCount total l := by omega
    have hmul : (k + 1) * l ≤ partCount total l * l := Nat.mul_le_mul_right l hk'
    have hdiv : partCount total l * l ≤ total + l - 1 := Nat.div_mul_le_self _ _
    rw [Nat.succ_mul] at hmul
    omega

/-- Parts of a list, one after another. -/
theorem flatMap_range_parts {α : Type} (items : List α) (l count : Nat) :
    ((List.range count).flatMap fun k => (items.drop (k * l)).take l) = items.take (count * l) := by
  induction count with
  | zero => rw [Nat.zero_mul, List.take_zero, List.range_zero, List.flatMap_nil]
  | succ count ih =>
    rw [List.range_succ, List.flatMap_append, ih, List.flatMap_singleton, Nat.succ_mul,
      List.take_add]

/-- Every part but the last is full. -/
theorem length_part {α : Type} {items : List α} (hl : 0 < l)
    (hk : k + 1 < partCount items.length l) : ((items.drop (k * l)).take l).length = l := by
  have hstart : (k + 1) * l ≤ items.length := mul_le_of_lt_partCount (by omega)
  rw [Nat.succ_mul] at hstart
  rw [List.length_take, List.length_drop]
  omega

theorem length_last_part {α : Type} {items : List α} (hl : 0 < l)
    (hk : k + 1 = partCount items.length l) :
    1 ≤ ((items.drop (k * l)).take l).length ∧ ((items.drop (k * l)).take l).length ≤ l := by
  have hbefore : (k + 1) * l ≤ items.length + l - 1 := hk ▸ Nat.div_mul_le_self _ _
  rw [Nat.succ_mul] at hbefore
  rw [List.length_take, List.length_drop]
  omega

theorem part_beyond {α : Type} {items : List α} (hl : 0 < l) (hk : partCount items.length l ≤ k) :
    (items.drop (k * l)).take l = [] := by
  rw [List.drop_of_length_le, List.take_nil]
  exact (le_partCount_mul hl).trans (Nat.mul_le_mul_right l hk)

/-- With room for all of it the first part is the listing. -/
theorem first_part {α : Type} {items : List α} (h : items.length ≤ l) :
    (items.drop (0 * l)).take l = items := by
  rw [Nat.zero_mul, List.drop_zero, List.take_of_length_le h]

/-- All the parts of a listing are the listing. -/
theorem flatMap_parts {α : Type} (items : List α) (hl : 0 < l) :
    ((List.range (max (partCount items.length l) 1)).flatMap fun k => (items.drop (k * l)).take l) =
      items := by
  rw [flatMap_range_parts]
  refine List.take_of_length_le ?_
  exact (le_partCount_mul hl).trans (Nat.mul_le_mul_right l (Nat.le_max_left _ _))

end Arithmetic

open Number

variable {limit : Number} {l k : Nat}

namespace Pagination

theorem start_part (hl : limit.Counts l) (hk : k * l < 2 ^ 53 - 1) :
    (part k limit).start = finite ((k * l : Nat) : Int) := by
  obtain ⟨d, rfl, hd⟩ := toRat_of_toInt? hl.whole
  have hbefore : k ≤ k * l := Nat.le_mul_of_pos_right k hl.pos
  show (ofInt (k + 1 : Nat) - 1) * finite d = _
  rw [ofInt_natCast (by omega), sub_one (by omega)]
  exact mul_whole (Dyadic.toRat_intCast _) hd (by omega)

theorem numbered_eq_part {x : Number} (hx : x.toInt? = some ((k + 1 : Nat) : Int))
    (hk : k < 2 ^ 53 - 1) : numbered x limit = part k limit := by
  rw [numbered, ofInt_of_toInt? hx (by omega)]
  rfl

/-- However large the number of a page is, the part does not start before its place. -/
theorem reaches_start {x : Number} {n : Nat} (hl : limit.Counts l)
    (hx : x.toInt? = some ((k + 1 : Nat) : Int)) (hn : n < 2 ^ 53) (h : n ≤ k * l) :
    (numbered x limit).start.Reaches n := by
  obtain ⟨d, rfl, hd⟩ := toRat_of_toInt? hl.whole
  have hbefore : (x - 1).Reaches (min k (2 ^ 53)) :=
    reaches_sub_one hx (Nat.min_le_right _ _) (Nat.min_le_left _ _)
  refine reaches_mul hbefore (by exact_mod_cast hd) hl.pos hn.le ?_
  rcases Nat.le_total k (2 ^ 53) with hk | hk
  · rwa [Nat.min_eq_left hk]
  · rw [Nat.min_eq_right hk]
    exact hn.le.trans (Nat.le_mul_of_pos_right _ hl.pos)

theorem pageCount_part {total : Nat} (hl : limit.Counts l) (ht : total < 2 ^ 53) :
    (part k limit).pageCount (ofInt total) = ofInt (partCount total l : Nat) := by
  obtain ⟨d, rfl, hd⟩ := toRat_of_toInt? hl.whole
  have hpos : (0 : Rat) < d.toRat := by
    rw [hd]
    exact_mod_cast hl.pos
  have habove : 0 < finite d := by
    show Number.lt (finite 0) (finite d) = true
    rw [Number.lt, decide_eq_true_iff, Dyadic.toRat_zero]
    exact hpos
  have hne : d ≠ 0 := by
    rintro rfl
    exact absurd hpos (by rw [Dyadic.toRat_zero]; exact lt_irrefl 0)
  obtain ⟨q, hq, hceil⟩ := ceil_div ht hl.pos hl.finite
  show (if 0 < finite d then (ofInt total / finite d).ceil else 0) = _
  rw [if_pos habove, ofInt_natCast ht]
  show (Number.div _ _).ceil = _
  rw [Number.div, if_neg hne, Dyadic.toRat_intCast, hd, Int.cast_natCast, Int.cast_natCast, hq,
    Number.ceil, hceil]
  rfl

end Pagination

namespace Page

theorem position_natCast (length n : Nat) :
    position length (finite ((n : Int) : Dyadic)) = min n length := by
  have hrat := Dyadic.toRat_intCast (n : Int)
  have hnonneg : ¬ ((n : Int) : Rat) < 0 := by
    rw [not_lt]
    exact_mod_cast Nat.zero_le n
  simp only [position, hrat]
  rw [if_neg hnonneg, Rat.floor_intCast, if_neg (by omega), Int.toNat_natCast]

/-- A number from the length on names the end. -/
theorem position_of_reaches {length : Nat} {x : Number} (h : x.Reaches length) :
    position length x = length := by
  obtain rfl | ⟨d, rfl, h⟩ := h
  · rfl
  have hnonneg : (0 : Rat) ≤ d.toRat := le_trans (by exact_mod_cast Nat.zero_le length) h
  have hfloor : (length : Int) ≤ d.toRat.floor := by
    rw [Rat.le_floor_iff]
    exact_mod_cast h
  simp only [position]
  rw [if_neg (not_lt.mpr hnonneg), if_neg (by omega)]
  omega

theorem position_stop_part {length : Nat} (hl : limit.Counts l) (ht : length < 2 ^ 53)
    (hk : k * l < 2 ^ 53 - 1) :
    position length (Pagination.part k limit).stop = min (k * l + l) length := by
  have hstart := Pagination.start_part hl hk
  obtain ⟨d, rfl, hd⟩ := toRat_of_toInt? hl.whole
  have hstop : (Pagination.part k (finite d)).stop = finite ((k * l : Nat) : Int) + finite d := by
    rw [← hstart]
    rfl
  have hd' : d.toRat = (l : Rat) := by exact_mod_cast hd
  have hstart' : (((k * l : Nat) : Int) : Dyadic).toRat = ((k * l : Nat) : Rat) := by
    rw [Dyadic.toRat_intCast]
    rfl
  by_cases hshort : k * l + l < 2 ^ 53
  · rw [hstop, add_whole hstart' hd' hshort, position_natCast]
  · -- the end is beyond every listing, though it need not be exact
    rw [hstop, position_of_reaches (reaches_add hstart' hd' (by omega) (by omega))]
    omega

theorem slice_part {α : Type} {items : List α} (hl : limit.Counts l)
    (ht : items.length < 2 ^ 53 - 1) (hk : k * l ≤ items.length) :
    slice items (Pagination.part k limit).start (Pagination.part k limit).stop =
      (items.drop (k * l)).take l := by
  rw [slice, Pagination.start_part hl (by omega), position_natCast,
    position_stop_part hl (by omega) (by omega), Nat.min_eq_left hk]
  rw [List.take_drop, ← List.take_eq_take_min]

/-- A part that starts from the end of records on. -/
theorem slice_of_reaches {α : Type} {items : List α} {first last : Number}
    (h : first.Reaches items.length) : slice items first last = [] := by
  rw [slice, position_of_reaches h]
  exact List.drop_of_length_le (List.length_take_le' _ _)

/-- The part that a page has, whichever page it is. -/
theorem slice_numbered {α : Type} {items : List α} {x : Number} (hl : limit.Counts l)
    (ht : items.length < 2 ^ 53 - 1) (hx : x.toInt? = some ((k + 1 : Nat) : Int)) :
    slice items (Pagination.numbered x limit).start (Pagination.numbered x limit).stop =
      (items.drop (k * l)).take l := by
  by_cases hk : k * l ≤ items.length
  · have hbefore : k ≤ k * l := Nat.le_mul_of_pos_right k hl.pos
    rw [Pagination.numbered_eq_part hx (by omega), slice_part hl ht hk]
  · rw [slice_of_reaches (Pagination.reaches_start hl hx (by omega) (by omega)),
      List.drop_of_length_le (by omega), List.take_nil]

end Page

namespace Tables

theorem wholeOf_natCast {n : Nat} (hn : n < 2 ^ 63) :
    wholeOf (finite ((n : Int) : Dyadic)) = .ok (n : Int) := by
  rw [wholeOf, toInt?_natCast]
  exact if_pos (by simpa using hn)

theorem cut_part {α : Type} {items : List α} (hl : limit.Limits l)
    (ht : items.length < 2 ^ 53 - 1) (hk : k * l ≤ items.length) :
    cut items (Pagination.part k limit) = .ok ((items.drop (k * l)).take l) := by
  have hstart := Pagination.start_part hl.counts (by omega : k * l < 2 ^ 53 - 1)
  have hlimit : wholeOf limit = .ok (l : Int) := by
    rw [wholeOf, hl.whole]
    exact if_pos (by simpa using hl.short)
  obtain ⟨d, rfl, -⟩ := toRat_of_toInt? hl.whole
  have hpos := hl.pos
  rw [cut, hstart]
  show (do
    let limit ← wholeOf (finite d)
    if limit = 0 then .ok []
    else
      let start ← wholeOf (finite ((k * l : Nat) : Int))
      .ok (if limit < 0 then items.drop start.toNat
        else (items.drop start.toNat).take limit.toNat)) = _
  rw [hlimit, wholeOf_natCast (by omega)]
  show (if (l : Int) = 0 then (.ok [] : Except Failure (List α))
    else .ok (if (l : Int) < 0 then items.drop (k * l) else (items.drop (k * l)).take l)) = _
  rw [if_neg (by omega), if_neg (by omega)]

end Tables

end NoticeLedger
