import NoticeLedger.Ledger.Request
import NoticeLedger.Proofs.Text.Parts
import NoticeLedger.Proofs.Text.Percent

/-!
# NoticeLedger.Proofs.Ledger.Resolved

Where a request is sent: its URL is resolved on the way.

* `Address`, `Address.ofUrl?` — the address that a URL is resolved to.
* `Address.resolve` — the segments of a path when `.` and `..` are worked off.
* `Address.written` — characters that have no place in a path or in a query are encoded.
* `Address.Slot`, `Address.slot` — the places that the paths behind one base take in their
  addresses.
* `Address.Slot.told_apart` — so the paths are told apart, if no segment of them is `.` or `..`.

Resolving leaves out the fragment, and whatever is blank at the ends of a URL. Of the authority only
the case is made the same: whatever else is done to it is done alike behind one base.
-/

namespace NoticeLedger

structure Address where
  isSecure : Bool
  authority : String
  /-- The segments of the path, each of which is behind a slash. -/
  path : List String
  query : Option String
  deriving DecidableEq, Repr

namespace Address

/-! ## How a URL is resolved -/

def isPadding (c : Char) : Bool :=
  c.toNat ≤ 0x20

def isBreak (c : Char) : Bool :=
  c == '\t' || c == '\n' || c == '\r'

/-- The characters of a URL that count. -/
def cleaned (url : String) : List Char :=
  let cs := url.toList.dropWhile isPadding
  (cs.reverse.dropWhile isPadding).reverse.filter (!isBreak ·)

/-- What is before the first mark, and what is behind it if there is one. -/
def cut (mark : Char) : List Char → List Char × Option (List Char)
  | [] => ([], none)
  | c :: cs =>
    if c = mark then ([], some cs)
    else
      let (before, behind) := cut mark cs
      (c :: before, behind)

/-- The forms of a segment that stands for the directory it is in. -/
def dots : List String := [".", "%2e", "%2E"]

/-- The forms of a segment that stands for the directory above. -/
def doubleDots : List String := dots.flatMap fun dot => dots.map (dot ++ ·)

/-- Segments worked off one by one, behind those that are done. A path never ends in dots: they
leave a slash at the end. -/
def resolve (done : List String) : List String → List String
  | [] => done ++ [""]
  | s :: rest =>
    if s ∈ doubleDots then resolve done.dropLast rest
    else if s ∈ dots then resolve done rest
    else if rest = [] then done ++ [s]
    else resolve (done ++ [s]) rest

/-- Whether a scheme is the secure one; of the others only one is sent by. -/
def isSecure? (scheme : List Char) : Option Bool :=
  match (String.ofList scheme).toLower with
  | "http" => some false
  | "https" => some true
  | _ => none

/-- The segments behind a scheme; a backslash counts as a slash. -/
def segments (rest : List Char) : List String :=
  let cs := (rest.map fun c => if c = '\\' then '/' else c).dropWhile (· == '/')
  Text.parts '/' (String.ofList cs)

/-- A character of an address: one outside ASCII, or one of some marks, is encoded. -/
def writeChar (marks : List Char) (c : Char) : List Char :=
  if 0x20 < c.toNat ∧ c.toNat < 0x7F ∧ c ∉ marks then [c]
  else (Text.utf8 c.toNat).flatMap Text.encodeOctet

def written (marks : List Char) (s : String) : String :=
  String.ofList (s.toList.flatMap (writeChar marks))

def pathMarks : List Char := ['"', '<', '>', '\x60', '\x7b', '\x7d']

def queryMarks : List Char := ['"', '\'', '<', '>']

def ofSegments? (isSecure : Bool) (query : Option String) : List String → Option Address
  | [] => none
  | authority :: path =>
    if authority = "" then none
    else some ⟨isSecure, authority.toLower, (resolve [] path).map (written pathMarks), query⟩

def ofStart? (start : List Char) (query : Option String) : Option Address :=
  match cut ':' start with
  | (_, none) => none
  | (scheme, some rest) =>
    (isSecure? scheme).bind fun isSecure => ofSegments? isSecure query (segments rest)

def ofUrl? (url : String) : Option Address :=
  let (start, query) := cut '?' (cut '#' (cleaned url)).1
  ofStart? start (query.map fun cs => written queryMarks (String.ofList cs))

end Address

/-- Where a request is sent, if it is sent at all. -/
def Request.address? (r : Request) : Option Address :=
  Address.ofUrl? r.url

namespace Address

/-! ## Paths that are kept -/

def pathOf (path : List String) : List Char :=
  path.flatMap fun s => '/' :: s.toList

/-- A segment that is kept: it is encoded already, and it is not worked off. -/
structure IsKept (s : String) : Prop where
  encoded : ∃ t, s = Text.encodeSegment t
  single : s ∉ dots
  double : s ∉ doubleDots

theorem IsKept.plain {s : String} (h : IsKept s) {c : Char} (hc : c ∈ s.toList) :
    Text.IsPlain c := by
  obtain ⟨t, rfl⟩ := h.encoded
  exact Text.isPlain_of_mem_encodeSegment hc

/-- A path of segments that are kept, behind a word. -/
structure Kept (path : List String) : Prop where
  word : ∃ w rest, path = w :: rest ∧ w ≠ ""
  segments : ∀ s ∈ path, IsKept s

/-- A character at which no URL is taken apart, unless it is a slash. -/
structure IsInert (c : Char) : Prop where
  padding : isPadding c = false
  lineBreak : isBreak c = false
  hash : c ≠ '#'
  question : c ≠ '?'
  colon : c ≠ ':'
  backslash : c ≠ '\\'

theorem isAlphanum_bounds {c : Char} (h : c.isAlphanum = true) :
    0x20 < c.toNat ∧ c.toNat < 0x7F := by
  simp only [Char.isAlphanum, Char.isAlpha, Char.isUpper, Char.isLower, Char.isDigit,
    Bool.or_eq_true, Bool.and_eq_true, decide_eq_true_eq, UInt32.le_iff_toNat_le, ge_iff_le] at h
  change ((65 ≤ c.toNat ∧ c.toNat ≤ 90) ∨ (97 ≤ c.toNat ∧ c.toNat ≤ 122)) ∨
    (48 ≤ c.toNat ∧ c.toNat ≤ 57) at h
  omega

theorem isPlain_bounds {c : Char} (h : Text.IsPlain c) : 0x20 < c.toNat ∧ c.toNat < 0x7F := by
  rcases h with h | rfl
  · simp only [Text.isUnreserved, Bool.or_assoc, Bool.or_eq_true, beq_iff_eq] at h
    rcases h with h | rfl | rfl | rfl | rfl | rfl | rfl | rfl | rfl | rfl
    · exact isAlphanum_bounds h
    all_goals decide
  · decide

theorem isInert_of_isPlain {c : Char} (h : Text.IsPlain c) : IsInert c := by
  have hne {m : Char} (hm : Text.isUnreserved m = false) (hmark : m ≠ '%') : c ≠ m := by
    rintro rfl
    rcases h with h | rfl
    · rw [hm] at h
      exact nomatch h
    · exact hmark rfl
  refine ⟨?_, ?_, hne rfl (by decide), hne rfl (by decide), hne rfl (by decide),
    hne rfl (by decide)⟩
  · rw [isPadding, decide_eq_false_iff_not]
    exact Nat.not_le.mpr (isPlain_bounds h).1
  · simp only [isBreak, Bool.or_eq_false_iff, beq_eq_false_iff_ne]
    exact ⟨⟨hne rfl (by decide), hne rfl (by decide)⟩, hne rfl (by decide)⟩

theorem isInert_of_mem_pathOf {path : List String} (h : ∀ s ∈ path, IsKept s) {c : Char}
    (hc : c ∈ pathOf path) : IsInert c := by
  obtain ⟨s, hs, hc⟩ := List.mem_flatMap.mp hc
  rcases List.mem_cons.mp hc with rfl | hc
  · exact ⟨rfl, rfl, by decide, by decide, by decide, by decide⟩
  · exact isInert_of_isPlain ((h s hs).plain hc)

theorem undivided_of_isPlain {s : String} (h : ∀ c ∈ s.toList, Text.IsPlain c) :
    Text.Undivided '/' s := by
  intro hc
  rcases h '/' hc with h | h
  · exact nomatch h
  · exact absurd h (by decide)

theorem IsKept.undivided {s : String} (h : IsKept s) : Text.Undivided '/' s :=
  undivided_of_isPlain fun _ => h.plain

/-- An encoded segment is worked off only if it was dots before. -/
theorem isKept_encodeSegment {s : String} (hsingle : s ≠ ".") (hdouble : s ≠ "..") :
    IsKept (Text.encodeSegment s) where
  encoded := ⟨s, rfl⟩
  single h := by
    have hdots : ∀ dot ∈ dots, Text.decodeSegment? dot = some "." := by decide +kernel
    have hs := hdots _ h
    rw [Text.decodeSegment?_encodeSegment] at hs
    exact hsingle (Option.some.inj hs)
  double h := by
    have hdots : ∀ dots ∈ doubleDots, Text.decodeSegment? dots = some ".." := by decide +kernel
    have hs := hdots _ h
    rw [Text.decodeSegment?_encodeSegment] at hs
    exact hdouble (Option.some.inj hs)

theorem isKept_of_isAlphanum {s : String} (h : s.toList.all Char.isAlphanum = true) :
    IsKept s := by
  have hencoded : Text.encodeSegment s = s := by
    have hchars : s.toList.flatMap Text.encodeChar = s.toList := by
      rw [List.flatMap_congr fun c hc => ?_, List.flatMap_singleton']
      rw [Text.encodeChar, Text.isUnreserved, List.all_eq_true.mp h c hc]
      rfl
    rw [Text.encodeSegment, hchars, String.ofList_toList]
  rw [← hencoded]
  refine isKept_encodeSegment ?_ ?_
  · rintro rfl
    exact absurd h (by decide)
  · rintro rfl
    exact absurd h (by decide)

theorem Kept.pathOf_ne_nil {path : List String} (h : Kept path) : pathOf path ≠ [] := by
  obtain ⟨w, rest, rfl, -⟩ := h.word
  exact List.cons_ne_nil _ _

theorem toList_intercalate (first : String) (path : List String) :
    ("/".intercalate (first :: path)).toList = first.toList ++ pathOf path := by
  induction path generalizing first with
  | nil => rw [String.intercalate_singleton, pathOf, List.flatMap_nil, List.append_nil]
  | cons s path ih =>
    rw [String.intercalate_cons_cons, String.toList_append, String.toList_append, ih, pathOf,
      pathOf, List.flatMap_cons, List.append_assoc]
    rfl

/-! ## What is written of a kept path -/

theorem writeChar_of_isPlain {marks : List Char} {c : Char} (h : Text.IsPlain c)
    (hc : c ∉ marks) : writeChar marks c = [c] :=
  if_pos ⟨(isPlain_bounds h).1, (isPlain_bounds h).2, hc⟩

theorem map_written_pathMarks {path : List String} (h : ∀ s ∈ path, IsKept s) :
    path.map (written pathMarks) = path := by
  have hmarks : ∀ m ∈ pathMarks, ¬ Text.IsPlain m :=
    List.forall_iff_forall_mem.mp (by decide)
  refine (List.map_congr_left fun s hs => ?_).trans (List.map_id path)
  have hchars : s.toList.flatMap (writeChar pathMarks) = s.toList := by
    rw [List.flatMap_congr fun c hc => writeChar_of_isPlain ((h s hs).plain hc)
      fun hm => hmarks c hm ((h s hs).plain hc), List.flatMap_singleton']
  rw [written, hchars, String.ofList_toList, id]

theorem isPlain_of_mem_written {marks : List Char} {s : String} (h : IsKept s) {c : Char}
    (hc : c ∈ (written marks s).toList) : Text.IsPlain c := by
  rw [written, String.toList_ofList] at hc
  obtain ⟨d, hd, hc⟩ := List.mem_flatMap.mp hc
  rw [writeChar] at hc
  split at hc
  · rw [List.mem_singleton.mp hc]
    exact h.plain hd
  · rcases Text.mem_encodeOctets hc with rfl | hc
    · exact .inr rfl
    · exact Text.isPlain_of_isAlphanum hc

/-- Of what is encoded already, a query encodes the apostrophe. -/
theorem decodeOctets?_written (c : Char) (rest : List Char) :
    Text.decodeOctets? ((Text.encodeChar c).flatMap (writeChar queryMarks) ++ rest) =
      (Text.decodeOctets? rest).map (String.utf8EncodeChar c ++ ·) := by
  have hmarks : ∀ m ∈ queryMarks, m ≠ '\'' → ¬ Text.IsPlain m :=
    List.forall_iff_forall_mem.mp (by decide)
  by_cases hc : c = '\''
  · rw [hc]
    exact Text.decodeOctets?_encodeOctet (n := 0x27) (by decide) rest
  · have hkept : (Text.encodeChar c).flatMap (writeChar queryMarks) = Text.encodeChar c := by
      refine (List.flatMap_congr fun d hd => ?_).trans (List.flatMap_singleton' _)
      rcases Text.mem_encodeChar hd with ⟨rfl, hd⟩ | rfl | hd
      · exact writeChar_of_isPlain (.inl hd) fun hm => hmarks d hm hc (.inl hd)
      · rfl
      · have hplain := Text.isPlain_of_isAlphanum hd
        refine writeChar_of_isPlain hplain fun hm => hmarks d hm ?_ hplain
        rintro rfl
        exact nomatch hd
    rw [hkept, Text.decodeOctets?_encodeChar]

theorem decodeSegment?_written (s : String) :
    Text.decodeSegment? (written queryMarks (Text.encodeSegment s)) = some s := by
  have hoctets (cs : List Char) :
      Text.decodeOctets? (cs.flatMap fun c =>
        (Text.encodeChar c).flatMap (writeChar queryMarks)) =
          some (cs.flatMap String.utf8EncodeChar) := by
    induction cs with
    | nil => rfl
    | cons c cs ih =>
      rw [List.flatMap_cons, decodeOctets?_written, ih, Option.map_some, List.flatMap_cons]
  rw [Text.decodeSegment?, written, Text.encodeSegment, String.toList_ofList,
    String.toList_ofList, List.flatMap_assoc, hoctets]
  exact Text.fromUTF8?_utf8Encode s

theorem map_written_inj {path path' : List String} (h : ∀ s ∈ path, IsKept s)
    (h' : ∀ s ∈ path', IsKept s)
    (heq : path.map (written queryMarks) = path'.map (written queryMarks)) : path = path' := by
  have hback {path : List String} (h : ∀ s ∈ path, IsKept s) :
      (path.map (written queryMarks)).map
        (fun s => (Text.decodeSegment? s).map Text.encodeSegment) = path.map some := by
    rw [List.map_map]
    refine List.map_congr_left fun s hs => ?_
    obtain ⟨t, rfl⟩ := (h s hs).encoded
    rw [Function.comp, decodeSegment?_written, Option.map_some]
  have hsome := (hback h).symm.trans ((congrArg _ heq).trans (hback h'))
  exact List.map_injective_iff.mpr (Option.some_injective _) hsome

theorem written_pathOf (before : List Char) (path : List String) :
    written queryMarks (String.ofList (before ++ pathOf path)) =
      written queryMarks (String.ofList before) ++
        String.ofList (pathOf (path.map (written queryMarks))) := by
  have hpath : (pathOf path).flatMap (writeChar queryMarks) =
      pathOf (path.map (written queryMarks)) := by
    rw [pathOf, pathOf, List.flatMap_assoc, List.flatMap_map]
    refine List.flatMap_congr fun s _ => ?_
    rw [written, String.toList_ofList, List.flatMap_cons]
    rfl
  rw [written, written, String.toList_ofList, String.toList_ofList, List.flatMap_append, hpath,
    String.ofList_append]

/-! ## Kept paths behind a base -/

section Behind

variable {α : Type} {p : α → Bool} {xs ys : List α} {mark : Char} {cs behind : List Char}

theorem dropWhile_before (hne : ys ≠ []) (h : ∀ y ∈ ys, p y = false) :
    (ys ++ xs).dropWhile p = ys ++ xs := by
  cases ys with
  | nil => exact absurd rfl hne
  | cons y ys =>
    rw [List.cons_append, List.dropWhile_cons_of_neg]
    rw [h y List.mem_cons_self]
    exact Bool.false_ne_true

theorem dropWhile_behind (hne : ys ≠ []) (h : ∀ y ∈ ys, p y = false) :
    (xs ++ ys).dropWhile p = xs.dropWhile p ++ ys := by
  have hys : (ys ++ []).dropWhile p = ys ++ [] := dropWhile_before hne h
  rw [List.append_nil] at hys
  rw [List.dropWhile_append, hys]
  split
  · rename_i hnil
    rw [List.isEmpty_iff.mp hnil, List.nil_append]
  · rfl

theorem cleaned_behind {url : String} (h : url.toList = cs ++ behind) (hne : behind ≠ [])
    (hbehind : ∀ c ∈ behind, IsInert c) :
    cleaned url = (cs.dropWhile isPadding).filter (!isBreak ·) ++ behind := by
  have hpadding : ∀ c ∈ behind, isPadding c = false := fun c hc => (hbehind c hc).padding
  have hreverse : ∀ c ∈ behind.reverse, isPadding c = false := fun c hc =>
    hpadding c (List.mem_reverse.mp hc)
  have hkept : behind.filter (!isBreak ·) = behind :=
    List.filter_eq_self.mpr fun c hc => by rw [(hbehind c hc).lineBreak, Bool.not_false]
  rw [cleaned, h, dropWhile_behind hne hpadding, List.reverse_append,
    dropWhile_before (mt List.reverse_eq_nil_iff.mp hne) hreverse, List.reverse_append,
    List.reverse_reverse, List.reverse_reverse, List.filter_append, hkept]

theorem cut_of_not_mem (h : mark ∉ cs) : cut mark cs = (cs, none) := by
  induction cs with
  | nil => rfl
  | cons c cs ih =>
    rw [List.mem_cons, not_or] at h
    rw [cut, if_neg (Ne.symm h.1), ih h.2]

/-- What is behind goes to the last piece. -/
theorem cut_behind (mark : Char) (cs : List Char) :
    (∃ before, ∀ behind, mark ∉ behind → cut mark (cs ++ behind) = (before ++ behind, none)) ∨
      ∃ before rest, ∀ behind, cut mark (cs ++ behind) = (before, some (rest ++ behind)) := by
  induction cs with
  | nil => exact .inl ⟨[], fun behind h => cut_of_not_mem h⟩
  | cons c cs ih =>
    by_cases hc : c = mark
    · refine .inr ⟨[], cs, fun behind => ?_⟩
      rw [List.cons_append, cut, if_pos hc]
    · rcases ih with ⟨before, ih⟩ | ⟨before, rest, ih⟩
      · refine .inl ⟨c :: before, fun behind h => ?_⟩
        rw [List.cons_append, cut, if_neg hc, ih behind h]
        rfl
      · refine .inr ⟨c :: before, rest, fun behind => ?_⟩
        rw [List.cons_append, cut, if_neg hc, ih behind]

end Behind

theorem parts_pathOf {path : List String} (h : ∀ s ∈ path, Text.Undivided '/' s)
    (cs : List Char) :
    Text.parts '/' (String.ofList (cs ++ pathOf path)) =
      Text.parts '/' (String.ofList cs) ++ path := by
  induction path generalizing cs with
  | nil => rw [pathOf, List.flatMap_nil, List.append_nil, List.append_nil]
  | cons s path ih =>
    obtain ⟨hs, hpath⟩ := List.forall_mem_cons.mp h
    have hone : Text.parts '/' (String.ofList (cs ++ '/' :: s.toList)) =
        Text.parts '/' (String.ofList cs) ++ [s] := by
      simp only [Text.parts, String.toList_ofList, List.splitOn]
      rw [List.splitOnP_append_cons (p := (· == '/')) _ _ (beq_self_eq_true '/'), ← List.splitOn,
        ← List.splitOn, List.splitOn_eq_singleton hs, List.map_append,
        List.map_singleton, String.ofList_toList]
    rw [pathOf, List.flatMap_cons, ← List.append_assoc, ← pathOf, ih hpath, hone,
      List.append_assoc, List.singleton_append]

theorem pathOf_injective {path path' : List String} (h : ∀ s ∈ path, Text.Undivided '/' s)
    (h' : ∀ s ∈ path', Text.Undivided '/' s) (heq : pathOf path = pathOf path') : path = path' := by
  have hparts := parts_pathOf h []
  rw [heq, parts_pathOf h' []] at hparts
  exact (List.append_cancel_left hparts).symm

/-- Behind a scheme, a path comes behind all segments, or they start with its word. -/
theorem segments_behind (rest : List Char) :
    ∃ front, ∀ path, Kept path → segments (rest ++ pathOf path) = front ++ path := by
  have hforward {path : List String} (h : Kept path) :
      (pathOf path).map (fun c => if c = '\\' then '/' else c) = pathOf path := by
    refine (List.map_congr_left fun c hc => ?_).trans (List.map_id _)
    exact if_neg (isInert_of_mem_pathOf h.segments hc).backslash
  generalize hcs : rest.map (fun c => if c = '\\' then '/' else c) = cs
  cases hdrop : cs.dropWhile (· == '/') with
  | nil =>
    refine ⟨[], fun path h => ?_⟩
    obtain ⟨w, path, rfl, hw⟩ := h.word
    obtain ⟨hword, hpath⟩ := List.forall_mem_cons.mp h.segments
    have hslash : (pathOf (w :: path)).dropWhile (· == '/') = w.toList ++ pathOf path := by
      rw [pathOf, List.flatMap_cons, List.cons_append,
        List.dropWhile_cons_of_pos (p := (· == '/')) (beq_self_eq_true '/')]
      refine dropWhile_before (fun hnil => hw (String.toList_eq_nil_iff.mp hnil)) fun c hc => ?_
      exact beq_eq_false_iff_ne.mpr fun he => hword.undivided (he ▸ hc)
    rw [segments, List.map_append, hforward h, hcs, List.dropWhile_append, hdrop,
      if_pos List.isEmpty_nil, hslash, parts_pathOf fun s hs => (hpath s hs).undivided, Text.parts,
      String.ofList_toList,
      List.splitOn_eq_singleton hword.undivided, List.map_singleton, String.ofList_toList]
    rfl
  | cons c rest' =>
    refine ⟨Text.parts '/' (String.ofList (c :: rest')), fun path h => ?_⟩
    rw [segments, List.map_append, hforward h, hcs, List.dropWhile_append, hdrop,
      if_neg (ne_true_of_eq_false List.isEmpty_cons),
      parts_pathOf fun s hs => (h.segments s hs).undivided]

theorem resolve_kept {path : List String} (hne : path ≠ []) (h : ∀ s ∈ path, IsKept s)
    (done : List String) : resolve done path = done ++ path := by
  induction path generalizing done with
  | nil => exact absurd rfl hne
  | cons s path ih =>
    obtain ⟨hs, hpath⟩ := List.forall_mem_cons.mp h
    rw [resolve, if_neg hs.double, if_neg hs.single]
    by_cases hnil : path = []
    · rw [if_pos hnil, hnil]
    · rw [if_neg hnil, ih hnil hpath, List.append_assoc, List.singleton_append]

/-- What is kept is not worked off by what stands before it. -/
theorem resolve_behind (front done : List String) :
    ∃ before, ∀ path, path ≠ [] → (∀ s ∈ path, IsKept s) →
      resolve done (front ++ path) = before ++ path := by
  induction front generalizing done with
  | nil => exact ⟨done, fun path hne h => resolve_kept hne h done⟩
  | cons s front ih =>
    by_cases hdouble : s ∈ doubleDots
    · obtain ⟨before, hbefore⟩ := ih done.dropLast
      refine ⟨before, fun path hne h => ?_⟩
      rw [List.cons_append, resolve, if_pos hdouble, hbefore path hne h]
    · by_cases hsingle : s ∈ dots
      · obtain ⟨before, hbefore⟩ := ih done
        refine ⟨before, fun path hne h => ?_⟩
        rw [List.cons_append, resolve, if_neg hdouble, if_pos hsingle, hbefore path hne h]
      · obtain ⟨before, hbefore⟩ := ih (done ++ [s])
        refine ⟨before, fun path hne h => ?_⟩
        rw [List.cons_append, resolve, if_neg hdouble, if_neg hsingle,
          if_neg (List.append_ne_nil_of_right_ne_nil front hne), hbefore path hne h]

/-! ## The addresses of one base -/

/-- The places that paths take in the addresses of one base. -/
inductive Slot (address? : List String → Option Address) : Prop where
  | nowhere : (∀ path, Kept path → address? path = none) → Slot address?
  /-- The base has a query, and the path is at its end. -/
  | query (a : Address) (before : String) : (∀ path, Kept path → address? path = some { a with
      query := some (before ++ String.ofList (pathOf (path.map (written queryMarks)))) }) →
      Slot address?
  | path (isSecure : Bool) (authority : String) (before : List String) : (∀ path, Kept path →
      address? path = some ⟨isSecure, authority, before ++ path, none⟩) → Slot address?
  /-- The base is nothing but a scheme, so the first word of the path is the authority. -/
  | authority (isSecure : Bool) : (∀ w rest, Kept (w :: rest) → address? (w :: rest) =
      some ⟨isSecure, w.toLower, resolve [] rest, none⟩) → Slot address?

theorem ofStart?_query (start : List Char) (query : Option String) :
    ofStart? start query = (ofStart? start none).map fun a => { a with query := query } := by
  unfold ofStart?
  rcases cut ':' start with ⟨scheme, _ | rest⟩
  · rfl
  · dsimp only
    cases isSecure? scheme with
    | none => rfl
    | some isSecure =>
      rw [Option.bind_some, Option.bind_some]
      rcases segments rest with _ | ⟨authority, path⟩
      · rfl
      · rw [ofSegments?, ofSegments?]
        split <;> rfl

theorem Slot.congr {address? other? : List String → Option Address} (h : Slot other?)
    (hsame : ∀ path, Kept path → address? path = other? path) : Slot address? := by
  cases h with
  | nowhere hnone => exact .nowhere fun path h => (hsame path h).trans (hnone path h)
  | query a before hquery =>
    exact .query a before fun path h => (hsame path h).trans (hquery path h)
  | path isSecure authority before hpath =>
    exact .path isSecure authority before fun path h => (hsame path h).trans (hpath path h)
  | authority isSecure hauthority =>
    exact .authority isSecure fun w rest h => (hsame _ h).trans (hauthority w rest h)

theorem slot_query (start rest : List Char) :
    Slot fun path => ofStart? start
      (some (written queryMarks (String.ofList (rest ++ pathOf path)))) := by
  cases hstart : ofStart? start none with
  | none => exact .nowhere fun path _ => by rw [ofStart?_query, hstart, Option.map_none]
  | some a =>
    refine .query a (written queryMarks (String.ofList rest)) fun path _ => ?_
    rw [ofStart?_query, hstart, Option.map_some, written_pathOf]

theorem slot_segments (isSecure : Bool) (front : List String) :
    Slot fun path => ofSegments? isSecure none (front ++ path) := by
  cases front with
  | nil =>
    refine .authority isSecure fun w rest h => ?_
    obtain ⟨_, _, ⟨⟩, hw⟩ := h.word
    have hrest := (List.forall_mem_cons.mp h.segments).2
    have hwritten : (resolve [] rest).map (written pathMarks) = resolve [] rest := by
      by_cases hnil : rest = []
      · rw [hnil]
        rfl
      · rw [resolve_kept hnil hrest, List.nil_append, map_written_pathMarks hrest]
    rw [List.nil_append, ofSegments?, if_neg hw, hwritten]
  | cons authority front =>
    by_cases hnone : authority = ""
    · exact .nowhere fun path _ => by rw [List.cons_append, ofSegments?, if_pos hnone]
    · obtain ⟨before, hbefore⟩ := resolve_behind front []
      refine .path isSecure authority.toLower (before.map (written pathMarks)) fun path h => ?_
      obtain ⟨w, rest, rfl, -⟩ := h.word
      rw [List.cons_append, ofSegments?, if_neg hnone,
        hbefore _ (List.cons_ne_nil w rest) h.segments, List.map_append,
        map_written_pathMarks h.segments]

theorem slot_start (start : List Char) : Slot fun path => ofStart? (start ++ pathOf path) none := by
  have hcolon {path : List String} (h : Kept path) : ':' ∉ pathOf path := fun hc =>
    (isInert_of_mem_pathOf h.segments hc).colon rfl
  rcases cut_behind ':' start with ⟨before, hscheme⟩ | ⟨scheme, rest, hscheme⟩
  · exact .nowhere fun path h => by rw [ofStart?, hscheme _ (hcolon h)]
  · obtain ⟨front, hfront⟩ := segments_behind rest
    cases hsecure : isSecure? scheme with
    | none =>
      refine .nowhere fun path _ => ?_
      rw [ofStart?, hscheme]
      dsimp only
      rw [hsecure, Option.bind_none]
    | some isSecure =>
      refine (slot_segments isSecure front).congr fun path h => ?_
      rw [ofStart?, hscheme]
      dsimp only
      rw [hsecure, Option.bind_some, hfront path h]

theorem cut_fragment {base : String} (hbase : '#' ∉ base.toList) :
    ∃ front, ∀ path, Kept path →
      cut '#' (cleaned (base ++ "/".intercalate ("" :: path))) = (front ++ pathOf path, none) := by
  refine ⟨(base.toList.dropWhile isPadding).filter (!isBreak ·), fun path h => ?_⟩
  have hinert {c : Char} (hc : c ∈ pathOf path) := isInert_of_mem_pathOf h.segments hc
  have hurl : (base ++ "/".intercalate ("" :: path)).toList = base.toList ++ pathOf path := by
    rw [String.toList_append, toList_intercalate]
    rfl
  rw [cleaned_behind hurl h.pathOf_ne_nil fun c hc => hinert hc, cut_of_not_mem]
  intro hc
  rcases List.mem_append.mp hc with hc | hc
  · exact hbase (List.dropWhile_subset _ (List.mem_filter.mp hc).1)
  · exact (hinert hc).hash rfl

/-- Every base without a fragment has its place for paths. -/
theorem slot {base : String} (hbase : '#' ∉ base.toList) :
    Slot fun path => ofUrl? (base ++ "/".intercalate ("" :: path)) := by
  obtain ⟨front, hfront⟩ := cut_fragment hbase
  have hquestion {path : List String} (h : Kept path) : '?' ∉ pathOf path := fun hc =>
    (isInert_of_mem_pathOf h.segments hc).question rfl
  rcases cut_behind '?' front with ⟨start, hstart⟩ | ⟨start, rest, hquery⟩
  · refine (slot_start start).congr fun path h => ?_
    rw [ofUrl?, hfront path h, hstart _ (hquestion h)]
    rfl
  · refine (slot_query start rest).congr fun path h => ?_
    rw [ofUrl?, hfront path h, hquery]
    rfl

variable {address? : List String → Option Address} {path path' : List String} {a : Address}

/-- Paths of one address start with the same word, whose case may differ, and the same is made of
what is behind it. -/
theorem Slot.told_apart (h : Slot address?) (hpath : Kept path) (hpath' : Kept path')
    (ha : address? path = some a) (ha' : address? path' = some a) :
    path.head?.map String.toLower = path'.head?.map String.toLower ∧
      resolve [] path.tail = resolve [] path'.tail := by
  have hboth := ha.trans ha'.symm
  cases h with
  | nowhere hnone => exact nomatch (hnone path hpath).symm.trans ha
  | query b before hquery =>
    rw [hquery path hpath, hquery path' hpath'] at hboth
    have hsame := String.ofList_injective (String.append_right_inj before |>.mp
      (Option.some.inj (Address.mk.inj (Option.some.inj hboth)).2.2.2))
    have hwritten {path : List String} (h : Kept path) :
        ∀ s ∈ path.map (written queryMarks), Text.Undivided '/' s :=
      List.forall_mem_map.mpr fun s hs =>
        undivided_of_isPlain fun _ => isPlain_of_mem_written (h.segments s hs)
    rw [map_written_inj hpath.segments hpath'.segments
      (pathOf_injective (hwritten hpath) (hwritten hpath') hsame)]
    exact ⟨rfl, rfl⟩
  | path isSecure authority before hslot =>
    rw [hslot path hpath, hslot path' hpath'] at hboth
    rw [List.append_cancel_left (Address.mk.inj (Option.some.inj hboth)).2.2.1]
    exact ⟨rfl, rfl⟩
  | authority isSecure hslot =>
    obtain ⟨w, rest, rfl, -⟩ := hpath.word
    obtain ⟨w', rest', rfl, -⟩ := hpath'.word
    rw [hslot w rest hpath, hslot w' rest' hpath'] at hboth
    obtain ⟨-, hw, hrest, -⟩ := Address.mk.inj (Option.some.inj hboth)
    exact ⟨congrArg some hw, hrest⟩

/-- The last segments of an address are those of a path, or the first one of them is its authority,
or its query ends with the path. -/
def EndsWith (a : Address) (path : List String) : Prop :=
  match a.query with
  | none => path <:+ a.path ∨ path.head?.map String.toLower = some a.authority ∧ a.path = path.tail
  | some query => pathOf (path.map (written queryMarks)) <:+ query.toList

/-- Paths of two segments and more are found again at the end of their addresses. -/
theorem Slot.endsWith (h : Slot address?) (hpath : Kept path) (htail : path.tail ≠ [])
    (ha : address? path = some a) : a.EndsWith path := by
  cases h with
  | nowhere hnone => exact nomatch (hnone path hpath).symm.trans ha
  | query b before hquery =>
    cases (hquery path hpath).symm.trans ha
    show pathOf (path.map (written queryMarks)) <:+
      (before ++ String.ofList (pathOf (path.map (written queryMarks)))).toList
    rw [String.toList_append, String.toList_ofList]
    exact List.suffix_append _ _
  | path isSecure authority before hslot =>
    cases (hslot path hpath).symm.trans ha
    exact .inl (List.suffix_append before path)
  | authority isSecure hslot =>
    obtain ⟨w, rest, rfl, -⟩ := hpath.word
    cases (hslot w rest hpath).symm.trans ha
    exact .inr ⟨rfl, resolve_kept htail (List.forall_mem_cons.mp hpath.segments).2 []⟩

end Address

end NoticeLedger
