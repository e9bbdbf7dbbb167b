import DocAccess.Remote.Url
import Mathlib.Data.List.TakeWhile

/-!
# Addresses of segments below a base

A path that is made of segments without separators is a path and nothing else: no query and no
fragment is cut off it. Its address shows the segments between a front and a back that the base
decides alone, except that dot segments take away what is in front of them. Segments are shown
escaped. An escape can be read back unless the text has percent signs of its own, so different
segments without percent signs never have one address.

## Main definitions

* `Url.Whole` — a segment without separators.
* `Url.octets` — reads an escaped text back.
* `Url.Frame` — what a base makes of segments below it.

## Main statements

* `escape_injective` — an escape that can be read back.
* `Base.join_segments` — the address of segments below a base.
* `Frame.address_inj` — segments below the same parent with one address.
* `Frame.address_of_plain` — segments that are all shown.
-/
namespace DocAccess.Url

/-! ## Cutting -/

/-- A text without separators is not cut. -/
theorem cut_of_forall {p : Char → Bool} {cs : List Char} (h : ∀ c ∈ cs, p c = false) :
    cut p cs = (cs, none) := by
  have hdrop : cs.dropWhile (fun c => !p c) = [] :=
    List.dropWhile_eq_nil_iff.mpr fun c hc => by simp [h c hc]
  simp only [cut, hdrop]

/-- A text is cut at its first separator. -/
theorem cut_append_cons {p : Char → Bool} {before : List Char} (h : ∀ c ∈ before, p c = false)
    {x : Char} (hx : p x = true) (after : List Char) :
    cut p (before ++ x :: after) = (before, some after) := by
  have hkept : ∀ c ∈ before, (!p c) = true := fun c hc => by simp [h c hc]
  have hdrop : (before ++ x :: after).dropWhile (fun c => !p c) = x :: after := by
    rw [List.dropWhile_append_of_pos hkept, List.dropWhile_cons_of_neg (by simp [hx])]
  have htake : (before ++ x :: after).takeWhile (fun c => !p c) = before := by
    rw [List.takeWhile_append_of_pos hkept, List.takeWhile_cons_of_neg (by simp [hx]),
      List.append_nil]
  simp only [cut, hdrop, htake]

/-- A text has no separator or a first one. -/
theorem cut_cases (p : Char → Bool) (cs : List Char) :
    (∀ c ∈ cs, p c = false) ∨
      ∃ before x after, cs = before ++ x :: after ∧ (∀ c ∈ before, p c = false) ∧ p x = true := by
  induction cs with
  | nil => exact .inl (by simp)
  | cons c cs ih =>
    cases hc : p c with
    | true => exact .inr ⟨[], c, cs, rfl, by simp, hc⟩
    | false =>
      rcases ih with hcs | ⟨before, x, after, rfl, hbefore, hx⟩
      · exact .inl (List.forall_mem_cons.mpr ⟨hc, hcs⟩)
      · exact .inr ⟨c :: before, x, after, rfl, List.forall_mem_cons.mpr ⟨hc, hbefore⟩, hx⟩

/-! ## Segments -/

theorem joinSegments_cons_cons (s t : List Char) (rest : List (List Char)) :
    joinSegments (s :: t :: rest) = s ++ '/' :: joinSegments (t :: rest) := rfl

theorem joinSegments_eq_intercalate (segs : List (List Char)) :
    joinSegments segs = ['/'].intercalate segs := by
  induction segs with
  | nil => rfl
  | cons s segs ih =>
    cases segs with
    | nil => simp [joinSegments]
    | cons t segs => simp [joinSegments_cons_cons, ih]

/-- Segments without slashes are read back. -/
theorem segments_joinSegments {segs : List (List Char)} (h : ∀ s ∈ segs, '/' ∉ s)
    (hne : segs ≠ []) : segments (joinSegments segs) = segs := by
  rw [segments, joinSegments_eq_intercalate, List.splitOn_intercalate '/' h hne]

/-- A path has one list of segments, but for the empty path: it has none or an empty one. -/
theorem joinSegments_injective {segs segs' : List (List Char)} (h : ∀ s ∈ segs, '/' ∉ s)
    (h' : ∀ s ∈ segs', '/' ∉ s) (hnil : segs = [] → segs' ≠ [[]]) (hnil' : segs' = [] → segs ≠ [[]])
    (heq : joinSegments segs = joinSegments segs') : segs = segs' := by
  have hread := congrArg segments heq
  have hempty : segments (joinSegments []) = [[]] := by decide
  by_cases hs : segs = []
  · by_cases hs' : segs' = []
    · rw [hs, hs']
    · rw [segments_joinSegments h' hs', hs, hempty] at hread
      exact absurd hread.symm (hnil hs)
  · by_cases hs' : segs' = []
    · rw [segments_joinSegments h hs, hs', hempty] at hread
      exact absurd hread (hnil' hs')
    · rwa [segments_joinSegments h hs, segments_joinSegments h' hs'] at hread

/-- A segment has no slash. -/
theorem not_mem_of_mem_segments {cs s : List Char} (h : s ∈ segments cs) : '/' ∉ s := by
  unfold segments at h
  induction cs generalizing s with
  | nil =>
    obtain rfl : s = [] := by simpa using h
    simp
  | cons c cs ih =>
    rw [List.splitOn_cons_eq_if_modifyHead] at h
    by_cases hc : c = '/'
    · subst hc
      rcases List.mem_cons.mp (by simpa using h) with rfl | h
      · simp
      · exact ih h
    · obtain ⟨first, rest, hsplit⟩ := List.exists_cons_of_ne_nil (List.splitOn_ne_nil '/' cs)
      simp only [beq_iff_eq, hc, if_false, hsplit, List.modifyHead_cons] at h
      rcases List.mem_cons.mp h with rfl | h
      · have hfirst := ih (s := first) (by simp [hsplit])
        simp [Ne.symm hc, hfirst]
      · exact ih (by simp [hsplit, h])

/-- What is in a path is in a segment or is a slash. -/
theorem mem_joinSegments {segs : List (List Char)} {x : Char} (h : x ∈ joinSegments segs) :
    x = '/' ∨ ∃ s ∈ segs, x ∈ s := by
  induction segs with
  | nil => cases h
  | cons s segs ih =>
    cases segs with
    | nil => exact .inr ⟨s, by simp, h⟩
    | cons t rest =>
      rw [joinSegments_cons_cons] at h
      rcases List.mem_append.mp h with h | h
      · exact .inr ⟨s, by simp, h⟩
      · rcases List.mem_cons.mp h with h | h
        · exact .inl h
        · exact (ih h).imp id fun ⟨u, hu, hx⟩ => ⟨u, List.mem_cons_of_mem s hu, hx⟩

/-- More segments behind others. -/
theorem joinSegments_append (segs : List (List Char)) {more : List (List Char)} (h : more ≠ []) :
    joinSegments (segs ++ more) = segs.flatMap (· ++ ['/']) ++ joinSegments more := by
  induction segs with
  | nil => rfl
  | cons s segs ih =>
    have hne : segs ++ more ≠ [] := List.append_ne_nil_of_right_ne_nil segs h
    obtain ⟨t, rest, htail⟩ := List.exists_cons_of_ne_nil hne
    rw [List.cons_append, htail, joinSegments_cons_cons, ← htail, ih]
    simp

/-! ## Escapes -/

theorem escape_append (special cs ds : List Char) :
    escape special (cs ++ ds) = escape special cs ++ escape special ds := List.flatMap_append

/-- What is not shown in an escaped text: what the text does not have and what is escaped, but for
the characters of escapes. -/
theorem not_mem_escape {special cs : List Char} {x : Char} (h : x ∉ cs ∨ x ∈ special)
    (hx : ∀ b : UInt8, x ∉ percent b) : x ∉ escape special cs := by
  intro hmem
  obtain ⟨c, hc, hmem⟩ := List.mem_flatMap.mp hmem
  by_cases hkept : c.toNat < 0x7F ∧ c ∉ special
  · rw [if_pos hkept, List.mem_singleton] at hmem
    subst hmem
    exact h.elim (· hc) (fun hspecial => hkept.2 hspecial)
  · rw [if_neg hkept] at hmem
    obtain ⟨b, -, hb⟩ := List.mem_flatMap.mp hmem
    exact hx b hb

/-- Segments are escaped one by one. -/
theorem escape_joinSegments (segs : List (List Char)) :
    escape pathSpecial (joinSegments segs) = joinSegments (segs.map (escape pathSpecial)) := by
  have hslash : escape pathSpecial ['/'] = ['/'] := by decide
  induction segs with
  | nil => rfl
  | cons s segs ih =>
    cases segs with
    | nil => rfl
    | cons t rest =>
      rw [joinSegments_cons_cons, List.append_cons, escape_append, escape_append, hslash, ih,
        ← List.append_cons]
      rfl

/-- An escape is a percent sign and two digits. -/
theorem percent_eq (b : UInt8) :
    percent b = ['%', (Quoted.hexDigit (b.toNat / 16 % 16)).toUpper,
      (Quoted.hexDigit (b.toNat % 16)).toUpper] := by
  simp [percent, Quoted.hexDigits]

/-- An escape has no separators. -/
theorem not_mem_percent (b : UInt8) : '/' ∉ percent b ∧ '?' ∉ percent b ∧ '#' ∉ percent b := by
  have hdigit : ∀ d < 16, (Quoted.hexDigit d).toUpper ≠ '/' ∧ (Quoted.hexDigit d).toUpper ≠ '?' ∧
      (Quoted.hexDigit d).toUpper ≠ '#' := by decide
  have hhigh := hdigit (b.toNat / 16 % 16) (Nat.mod_lt _ (by decide))
  have hlow := hdigit (b.toNat % 16) (Nat.mod_lt _ (by decide))
  rw [percent_eq]
  simp [hhigh.1.symm, hhigh.2.1.symm, hhigh.2.2.symm, hlow.1.symm, hlow.2.1.symm, hlow.2.2.symm]

/-- The value of a hexadecimal digit in upper case. -/
def hexValue (c : Char) : Nat := if c.toNat < 65 then c.toNat - 48 else c.toNat - 55

theorem hexValue_hexDigit : ∀ d < 16, hexValue (Quoted.hexDigit d).toUpper = d := by decide

/-- The octet of two digits. -/
theorem octet_hexDigits (b : UInt8) :
    UInt8.ofNat (16 * hexValue (Quoted.hexDigit (b.toNat / 16 % 16)).toUpper +
      hexValue (Quoted.hexDigit (b.toNat % 16)).toUpper) = b := by
  have hvalue : 16 * (b.toNat / 16 % 16) + b.toNat % 16 = b.toNat := by
    have hlt := b.toNat_lt
    omega
  have hhigh := hexValue_hexDigit (b.toNat / 16 % 16) (Nat.mod_lt _ (by decide))
  have hlow := hexValue_hexDigit (b.toNat % 16) (Nat.mod_lt _ (by decide))
  rw [hhigh, hlow, hvalue, UInt8.ofNat_toNat]

/-- The octets of an escaped text. -/
def octets : List Char → List UInt8
  | '%' :: a :: b :: rest => UInt8.ofNat (16 * hexValue a + hexValue b) :: octets rest
  | c :: rest => UInt8.ofNat c.toNat :: octets rest
  | [] => []

/-- An escape is read back. -/
theorem octets_percent_append (b : UInt8) (rest : List Char) :
    octets (percent b ++ rest) = b :: octets rest := by
  rw [percent_eq]
  simp only [List.cons_append, List.nil_append, octets, octet_hexDigits]

theorem octets_flatMap_percent_append (bs : List UInt8) (rest : List Char) :
    octets (bs.flatMap percent ++ rest) = bs ++ octets rest := by
  induction bs with
  | nil => rfl
  | cons b bs ih => rw [List.flatMap_cons, List.append_assoc, octets_percent_append, ih]; rfl

/-- **An escaped text is read back** as the octets of the text, which has no percent signs. -/
theorem octets_escape {special cs : List Char} (h : '%' ∉ cs) :
    octets (escape special cs) = cs.flatMap String.utf8EncodeChar := by
  induction cs with
  | nil => rfl
  | cons c cs ih =>
    obtain ⟨hc, hcs⟩ := not_or.mp (mt List.mem_cons.mpr h)
    rw [List.flatMap_cons, ← ih hcs]
    by_cases hkept : c.toNat < 0x7F ∧ c ∉ special
    · have hshown : escape special (c :: cs) = c :: escape special cs := by
        rw [escape, List.flatMap_cons, if_pos hkept]
        rfl
      have hsize : c.utf8Size = 1 := by
        rw [Char.utf8Size_eq_one_iff, UInt32.le_iff_toNat_le]
        exact Nat.le_of_lt hkept.1
      rw [hshown, octets, String.utf8EncodeChar_eq_singleton hsize]
      · rfl
      · exact fun _ _ _ hpercent => absurd hpercent (Ne.symm hc)
    · have hshown : escape special (c :: cs) =
          (String.utf8EncodeChar c).flatMap percent ++ escape special cs := by
        rw [escape, List.flatMap_cons, if_neg hkept]
        rfl
      rw [hshown, octets_flatMap_percent_append]

/-- The octets of a text are those of no other text. -/
theorem utf8_injective {cs ds : List Char}
    (h : cs.flatMap String.utf8EncodeChar = ds.flatMap String.utf8EncodeChar) : cs = ds := by
  have hencoded : cs.utf8Encode = ds.utf8Encode := by rw [List.utf8Encode, List.utf8Encode, h]
  have hdecoded := congrArg ByteArray.utf8Decode? hencoded
  simpa using hdecoded

/-- **Texts without percent signs have different escapes.** -/
theorem escape_injective {special cs ds : List Char} (hcs : '%' ∉ cs) (hds : '%' ∉ ds)
    (h : escape special cs = escape special ds) : cs = ds := by
  have hoctets := congrArg octets h
  rw [octets_escape hcs, octets_escape hds] at hoctets
  exact utf8_injective hoctets

/-! ## Segments below a base -/

/-- A text without separators: it is one segment of a path, and ends no path. -/
def Whole (cs : List Char) : Prop := ∀ c ∈ cs, c ≠ '/' ∧ c ≠ '?' ∧ c ≠ '#'

instance (cs : List Char) : Decidable (Whole cs) := List.decidableBAll _ cs

/-- What a base makes of segments below it. -/
structure Frame where
  front : List Char
  /-- The segments of the base that are left when its dot segments are resolved, newest first;
  nothing when dot segments stay. -/
  taken : Option (List (List Char))
  back : List Char

namespace Frame

/-- The segments that are left of those below a base. -/
def place (f : Frame) (segs : List (List Char)) : List (List Char) :=
  match f.taken with
  | none => segs
  | some taken => (segs.foldl takeSegment taken).reverse

/-- The address of segments below a base. -/
def address (f : Frame) (segs : List (List Char)) : List Char :=
  f.front ++ joinSegments (f.place segs) ++ f.back

end Frame

/-- What stands in front of the path of a base. -/
def Base.head (b : Base) : List Char :=
  (if b.scheme.isEmpty then [] else b.scheme ++ [':']) ++
    match b.authority with
    | some a => '/' :: '/' :: a
    | none => []

/-- What stands behind the query of a base. -/
def Base.tail (b : Base) : List Char :=
  match b.fragment with
  | some f => '#' :: f
  | none => []

/-- Whether dot segments stay below a base: where there is neither scheme nor authority. -/
def Base.keepsDots (b : Base) : Bool := b.scheme.isEmpty && b.authority.isNone

/-- The address of a path and a query. -/
def Base.reach (b : Base) (raw : List Char) : List Char :=
  b.head ++ withQuery (if b.keepsDots then (cut (· == '?') raw).1
    else resolveDots (cut (· == '?') raw).1) (cut (· == '?') raw).2 ++ b.tail

/-- The frame of a base. Dot segments stay in a query, too. -/
def Base.frame (b : Base) : Frame :=
  if b.keepsDots then ⟨b.head ++ b.rawPath, none, b.tail⟩
  else
    match cut (· == '?') b.rawPath with
    | (path, some query) => ⟨b.head ++ withQuery (resolveDots path) (some query), none, b.tail⟩
    | (path, none) => ⟨b.head, some ((segments path.dropLast).foldl takeSegment []), b.tail⟩

/-- An escape of a path has no separator but the slashes of the path. -/
theorem whole_escape {cs : List Char} (h : '/' ∉ cs) : Whole (escape pathSpecial cs) := by
  have hslash : '/' ∉ escape pathSpecial cs :=
    not_mem_escape (.inl h) fun b => (not_mem_percent b).1
  have hquestion : '?' ∉ escape pathSpecial cs :=
    not_mem_escape (.inr (by decide)) fun b => (not_mem_percent b).2.1
  have hhash : '#' ∉ escape pathSpecial cs :=
    not_mem_escape (.inr (by decide)) fun b => (not_mem_percent b).2.2
  intro c hc
  exact ⟨fun h => hslash (h ▸ hc), fun h => hquestion (h ▸ hc), fun h => hhash (h ▸ hc)⟩

theorem Whole.not_mem {cs : List Char} (h : Whole cs) : '/' ∉ cs := fun hmem => (h _ hmem).1 rfl

/-- Segments without separators make a path that is not cut. -/
theorem forall_joinSegments {segs : List (List Char)} (h : ∀ s ∈ segs, Whole s) :
    ∀ c ∈ joinSegments segs, (c == '?') = false ∧ (c == '#') = false := by
  intro c hc
  rcases mem_joinSegments hc with rfl | ⟨s, hs, hc⟩
  · decide
  · simp [(h s hs c hc).2.1, (h s hs c hc).2.2]

/-- The parts of a path without separators but slashes: there is only a path. -/
theorem split_joinSegments {segs : List (List Char)} (h : ∀ s ∈ segs, Whole s) :
    Parts.split ('/' :: joinSegments segs) =
      ⟨'/' :: joinSegments (segs.map (escape pathSpecial)), none, none⟩ := by
  have hforall := forall_joinSegments h
  have hslash : escape pathSpecial ['/'] = ['/'] := by decide
  have hhash : cut (· == '#') ('/' :: joinSegments segs) = ('/' :: joinSegments segs, none) :=
    cut_of_forall (List.forall_mem_cons.mpr ⟨by decide, fun c hc => (hforall c hc).2⟩)
  have hquestion : cut (· == '?') ('/' :: joinSegments segs) = ('/' :: joinSegments segs, none) :=
    cut_of_forall (List.forall_mem_cons.mpr ⟨by decide, fun c hc => (hforall c hc).1⟩)
  simp only [Parts.split, hhash, hquestion, Option.map_none]
  rw [← List.singleton_append, escape_append, hslash, escape_joinSegments]
  rfl

/-- Another path and query leave the rest of a base as it is. -/
theorem Base.eq_of_withRawPath {b b' : Base} {raw : List Char} (h : b.withRawPath raw = .ok b') :
    b' = { b with rawPath := raw } := by
  simp only [withRawPath] at h
  split at h
  · cases h
  · exact (Except.ok.inj h).symm

/-- The path of a base ends with a slash. -/
theorem Base.getLast?_of_parse {s : String} {b : Base} (h : Base.parse s = .ok b) :
    b.rawPath.getLast? = some '/' := by
  have hfinish : ∀ {scheme authority rest}, Base.parse.finish scheme authority rest = .ok b →
      b.rawPath.getLast? = some '/' := by
    intro scheme authority rest hfinish
    simp only [Base.parse.finish] at hfinish
    generalize withQuery _ _ = raw at hfinish
    split at hfinish
    · rename_i hlast
      cases hfinish
      exact hlast
    · rw [eq_of_withRawPath hfinish]
      exact List.getLast?_concat
  unfold Base.parse at h
  split at h
  · cases h
  · simp only at h
    split at h
    · split at h
      · cases h
      · exact hfinish h
    · exact hfinish h

variable {b : Base} {segs : List (List Char)}

/-- What follows a cut at a question mark is put back. -/
theorem withQuery_cut (cs : List Char) :
    withQuery (cut (· == '?') cs).1 (cut (· == '?') cs).2 = cs := by
  rcases cut_cases (· == '?') cs with hcs | ⟨before, x, after, rfl, hbefore, hx⟩
  · rw [cut_of_forall hcs]
    exact List.append_nil cs
  · rw [cut_append_cons hbefore hx, beq_iff_eq.mp hx]
    rfl

/-- A path of segments begins as its first segment does. -/
theorem exists_joinSegments_cons (c : Char) (first : List Char) (rest : List (List Char)) :
    ∃ cs, joinSegments ((c :: first) :: rest) = c :: cs := by
  cases rest with
  | nil => exact ⟨first, rfl⟩
  | cons t rest => exact ⟨_, rfl⟩

/-- Something is shown of every text but the empty one. -/
theorem escape_ne_nil (special : List Char) {cs : List Char} (h : cs ≠ []) :
    escape special cs ≠ [] := by
  obtain ⟨c, cs, rfl⟩ := List.exists_cons_of_ne_nil h
  obtain ⟨b, bs, hbs⟩ := List.exists_cons_of_ne_nil (String.utf8EncodeChar_ne_nil (c := c))
  by_cases hkept : c.toNat < 0x7F ∧ c ∉ special
  · simp [escape, hkept]
  · simp only [escape, List.flatMap_cons, hkept, if_false, hbs, percent, List.cons_append, ne_eq,
      reduceCtorEq, not_false_eq_true]

/-- Dots are resolved segment by segment. -/
theorem resolveDots_append {raw : List Char} (hraw : raw.getLast? = some '/')
    (hsegs : ∀ s ∈ segs, '/' ∉ s) (hne : segs ≠ []) :
    resolveDots (raw ++ joinSegments segs) = joinSegments
      (segs.foldl takeSegment ((segments raw.dropLast).foldl takeSegment [])).reverse := by
  obtain ⟨before, rfl⟩ := List.getLast?_eq_some_iff.mp hraw
  have happend : segments (before ++ ['/'] ++ joinSegments segs) = segments before ++ segs := by
    rw [segments, ← List.append_cons, List.splitOn_append_cons_self]
    exact congrArg _ (segments_joinSegments hsegs hne)
  rw [resolveDots, happend, List.foldl_append, List.dropLast_concat]

/-- What is joined to a base is put behind its path, without slashes in front. -/
theorem Base.eq_reach_of_join {relative : Text} {cs : List Char}
    (hchecked : checked relative = .ok cs) {url : String} (h : b.join relative = .ok url) :
    url.toList = b.reach (b.rawPath ++
      (withQuery (Parts.split cs).path (Parts.split cs).query).dropWhile (· == '/')) := by
  simp only [Base.join, hchecked] at h
  split at h
  · cases h
  · rename_i b' hb'
    rw [eq_of_withRawPath hb'] at h
    rw [← Except.ok.inj h, String.toList_ofList]
    rfl

/-- **Segments behind the path of a base** are shown in its frame. -/
theorem Base.reach_segments (hraw : b.rawPath.getLast? = some '/') (hwhole : ∀ s ∈ segs, Whole s)
    (hne : segs ≠ []) : b.reach (b.rawPath ++ joinSegments segs) = b.frame.address segs := by
  have hquestion : ∀ c ∈ joinSegments segs, (c == '?') = false :=
    fun c hc => (forall_joinSegments hwhole c hc).1
  have hslash : ∀ s ∈ segs, '/' ∉ s := fun s hs => (hwhole s hs).not_mem
  by_cases hkeeps : b.keepsDots = true
  · simp only [Base.reach, Base.frame, hkeeps, if_true, withQuery_cut, Frame.address, Frame.place,
      List.append_assoc]
  · simp only [Base.reach, Base.frame, hkeeps, Bool.false_eq_true, if_false]
    rcases cut_cases (· == '?') b.rawPath with hcs | ⟨before, x, after, hcs, hbefore, hx⟩
    · have hall : ∀ c ∈ b.rawPath ++ joinSegments segs, (c == '?') = false :=
        fun c hc => (List.mem_append.mp hc).elim (hcs c) (hquestion c)
      rw [cut_of_forall hcs, cut_of_forall hall]
      simp only [resolveDots_append hraw hslash hne, Frame.address, Frame.place, withQuery,
        List.append_nil]
    · have happend : b.rawPath ++ joinSegments segs =
          before ++ x :: (after ++ joinSegments segs) := by rw [hcs]; simp
      rw [happend, hcs, cut_append_cons hbefore hx, cut_append_cons hbefore hx]
      simp only [Frame.address, Frame.place, withQuery, List.append_assoc, List.cons_append]

/-- **The address of segments below a base.** -/
theorem Base.join_segments (hraw : b.rawPath.getLast? = some '/') {relative : Text}
    {first : List Char} {rest : List (List Char)} (hfirst : first ≠ [])
    (hwhole : ∀ s ∈ first :: rest, Whole s)
    (hchecked : checked relative = .ok ('/' :: joinSegments (first :: rest))) {url : String}
    (h : b.join relative = .ok url) :
    url.toList = b.frame.address ((first :: rest).map (escape pathSpecial)) := by
  have hshown : ∀ s ∈ (first :: rest).map (escape pathSpecial), Whole s := by
    intro s hs
    obtain ⟨t, ht, rfl⟩ := List.mem_map.mp hs
    exact whole_escape (hwhole t ht).not_mem
  have hdrop : (withQuery ('/' :: joinSegments ((first :: rest).map (escape pathSpecial)))
      none).dropWhile (· == '/') = joinSegments ((first :: rest).map (escape pathSpecial)) := by
    obtain ⟨c, cs, hc⟩ := List.exists_cons_of_ne_nil (escape_ne_nil pathSpecial hfirst)
    rw [List.map_cons, hc] at hshown ⊢
    obtain ⟨ds, hds⟩ := exists_joinSegments_cons c cs (rest.map (escape pathSpecial))
    have hslash : c ≠ '/' := (hshown (c :: cs) (by simp) c (by simp)).1
    simp [withQuery, hds, hslash]
  rw [Base.eq_reach_of_join hchecked h, split_joinSegments hwhole, hdrop]
  exact Base.reach_segments hraw hshown (by simp)

/-! ## Addresses below a base -/

/-- A segment that is no dot segment. -/
def Plain (s : List Char) : Prop := s ≠ ['.'] ∧ s ≠ ['.', '.']

instance (s : List Char) : Decidable (Plain s) :=
  inferInstanceAs (Decidable (s ≠ ['.'] ∧ s ≠ ['.', '.']))

/-- A segment is shown as a dot segment only if it is one. -/
theorem plain_escape {cs : List Char} (h : Plain cs) : Plain (escape pathSpecial cs) := by
  have hshown : ∀ ds, '%' ∉ ds → escape pathSpecial ds = ds → cs ≠ ds →
      escape pathSpecial cs ≠ ds := by
    intro ds hds hself hne heq
    by_cases hpercent : '%' ∈ cs
    · have hmem : '%' ∈ escape pathSpecial cs :=
        List.mem_flatMap.mpr ⟨'%', hpercent, by decide⟩
      exact hds (heq ▸ hmem)
    · exact hne (escape_injective hpercent hds (heq.trans hself.symm))
  exact ⟨hshown ['.'] (by decide) (by decide) h.1, hshown ['.', '.'] (by decide) (by decide) h.2⟩

theorem takeSegment_of_plain {s : List Char} (h : Plain s) (taken : List (List Char)) :
    takeSegment taken s = s :: taken := by
  rw [takeSegment, if_neg h.1, if_neg h.2]

theorem takeSegment_dot (taken : List (List Char)) : takeSegment taken ['.'] = taken := rfl

theorem takeSegment_dots {parent : List Char} (h : parent ≠ []) (taken : List (List Char)) :
    takeSegment (parent :: taken) ['.', '.'] = taken := by
  have hroot : parent :: taken ≠ [[]] := by simp [h]
  rw [takeSegment, if_neg (by decide), if_pos rfl, if_neg hroot]
  rfl

/-- Plain segments are all taken. -/
theorem foldl_takeSegment {segs : List (List Char)} (h : ∀ s ∈ segs, Plain s)
    (taken : List (List Char)) : segs.foldl takeSegment taken = segs.reverse ++ taken := by
  induction segs generalizing taken with
  | nil => rfl
  | cons s segs ih =>
    obtain ⟨hs, hsegs⟩ := List.forall_mem_cons.mp h
    rw [List.foldl_cons, takeSegment_of_plain hs, ih hsegs]
    simp

/-- What is taken was there or is the segment. -/
theorem mem_foldl_takeSegment {segs taken : List (List Char)} {s : List Char}
    (h : s ∈ segs.foldl takeSegment taken) : s ∈ segs ∨ s ∈ taken := by
  induction segs generalizing taken with
  | nil => exact .inr h
  | cons t segs ih =>
    have htake : ∀ u ∈ takeSegment taken t, u = t ∨ u ∈ taken := by
      intro u hu
      unfold takeSegment at hu
      split at hu
      · exact .inr hu
      · split at hu
        · split at hu
          · exact .inr hu
          · exact .inr (List.mem_of_mem_drop hu)
        · exact List.mem_cons.mp hu
    rcases ih h with hs | hs
    · exact .inl (List.mem_cons_of_mem t hs)
    · exact (htake s hs).imp (fun heq => by simp [heq]) id

namespace Frame

variable {f : Frame} {parent s s' : List Char} {more more' : List (List Char)}

/-- The segments of the base that are left, oldest first. -/
def kept (f : Frame) : List (List Char) := (f.taken.map List.reverse).getD []

/-- What is left of a segment and its parent. -/
def below (f : Frame) (parent s : List Char) : List (List Char) :=
  match f.taken with
  | none => [parent, s]
  | some _ => if s = ['.'] then [parent] else if s = ['.', '.'] then [] else [parent, s]

/-- Plain segments are all left. -/
theorem place_of_plain (f : Frame) (h : ∀ s ∈ more, Plain s) : f.place more = f.kept ++ more := by
  cases htaken : f.taken with
  | none => simp [place, kept, htaken]
  | some taken => simp [place, kept, htaken, foldl_takeSegment h]

/-- Dots take away their parent at most. -/
theorem place_below (f : Frame) (hparent : Plain parent) (hne : parent ≠ [])
    (hmore : ∀ s ∈ more, Plain s) :
    f.place (parent :: s :: more) = f.kept ++ (f.below parent s ++ more) := by
  cases htaken : f.taken with
  | none => simp [place, kept, below, htaken]
  | some taken =>
    simp only [place, kept, below, htaken, List.foldl_cons, takeSegment_of_plain hparent,
      foldl_takeSegment hmore, Option.map_some, Option.getD_some]
    by_cases hdot : s = ['.']
    · simp [hdot, takeSegment_dot]
    · by_cases hdots : s = ['.', '.']
      · simp [hdots, takeSegment_dots hne]
      · simp [hdot, hdots, takeSegment_of_plain ⟨hdot, hdots⟩]

/-- The segment of which so much is left: one of a dot, nothing of two dots. -/
def segmentOf : List (List Char) → List Char
  | [] => ['.', '.']
  | [_] => ['.']
  | _ :: s :: _ => s

/-- What is left of a segment tells the segment. -/
theorem segmentOf_below (f : Frame) (parent s : List Char) : segmentOf (f.below parent s) = s := by
  unfold below
  cases f.taken with
  | none => rfl
  | some taken =>
    by_cases hdot : s = ['.']
    · simp [hdot, segmentOf]
    · by_cases hdots : s = ['.', '.']
      · simp [hdots, segmentOf]
      · simp [hdot, hdots, segmentOf]

/-- Nothing comes in below a base but the segment and its parent. -/
theorem mem_below {u : List Char} (h : u ∈ f.below parent s) : u = parent ∨ u = s := by
  unfold below at h
  split at h
  · simpa using h
  · split at h
    · simp_all
    · split at h
      · cases h
      · simpa using h

/-- The parent comes first, if anything is left. -/
theorem below_ne (hne : parent ≠ []) : f.below parent s ≠ [[]] := by
  unfold below
  split
  · simp
  · split
    · simpa using hne
    · split <;> simp

/-- **Segments below one parent with one address** are the same. -/
theorem address_inj (hkept : ∀ s ∈ f.kept, '/' ∉ s) (hparent : Plain parent) (hne : parent ≠ [])
    (hslash : '/' ∉ parent) (hs : '/' ∉ s) (hs' : '/' ∉ s')
    (hmore : ∀ s ∈ more, Plain s ∧ '/' ∉ s) (hmore' : ∀ s ∈ more', Plain s ∧ '/' ∉ s)
    (hlength : more.length = more'.length) :
    f.address (parent :: s :: more) = f.address (parent :: s' :: more') ↔
      s = s' ∧ more = more' := by
  refine ⟨fun h => ?_, fun ⟨hs, hmore⟩ => by rw [hs, hmore]⟩
  have hslashes : ∀ {s more}, '/' ∉ s → (∀ s ∈ more, Plain s ∧ '/' ∉ s) →
      ∀ u ∈ f.kept ++ (f.below parent s ++ more), '/' ∉ u := by
    intro s more hs hmore u hu
    rcases List.mem_append.mp hu with hu | hu
    · exact hkept u hu
    · rcases List.mem_append.mp hu with hu | hu
      · rcases mem_below hu with rfl | rfl
        · exact hslash
        · exact hs
      · exact (hmore u hu).2
  -- Where nothing is left at all, the other path is not an empty segment either.
  have hnil : ∀ {s s' more more'}, more.length = more'.length →
      f.kept ++ (f.below parent s ++ more) = [] →
        f.kept ++ (f.below parent s' ++ more') ≠ [[]] := by
    intro s s' more more' hlength hnil
    obtain ⟨hkept, hrest⟩ := List.append_eq_nil_iff.mp hnil
    rw [(List.append_eq_nil_iff.mp hrest).2, List.length_nil] at hlength
    rw [hkept, List.eq_nil_of_length_eq_zero hlength.symm, List.nil_append, List.append_nil]
    exact below_ne hne
  rw [address, address, List.append_left_inj, List.append_right_inj,
    f.place_below hparent hne fun s hs => (hmore s hs).1,
    f.place_below hparent hne fun s hs => (hmore' s hs).1] at h
  have hplace := joinSegments_injective (hslashes hs hmore) (hslashes hs' hmore') (hnil hlength)
    (hnil hlength.symm) h
  obtain ⟨hbelow, hmore⟩ := List.append_inj' (List.append_cancel_left hplace) hlength
  refine ⟨?_, hmore⟩
  rw [← f.segmentOf_below parent s, hbelow, segmentOf_below]

/-- **Plain segments are all shown**, behind a front that does not depend on them. -/
theorem address_of_plain (f : Frame) (hmore : ∀ s ∈ more, Plain s) (hne : more ≠ []) :
    f.address more =
      f.front ++ f.kept.flatMap (· ++ ['/']) ++ joinSegments more ++ f.back := by
  rw [address, f.place_of_plain hmore, joinSegments_append _ hne, ← List.append_assoc]

end Frame

/-- What is left of a base are segments without slashes. -/
theorem Base.not_mem_of_mem_kept (b : Base) : ∀ s ∈ b.frame.kept, '/' ∉ s := by
  intro s hs
  rw [frame] at hs
  split at hs
  · cases hs
  · split at hs
    · cases hs
    · rename_i path hpath
      have htaken : s ∈ (segments path.dropLast).foldl takeSegment [] := by
        simpa [Frame.kept] using hs
      rcases mem_foldl_takeSegment htaken with hsegment | hnone
      · exact not_mem_of_mem_segments hsegment
      · cases hnone

end DocAccess.Url
