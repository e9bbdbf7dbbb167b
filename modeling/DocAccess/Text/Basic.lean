/-!
# Text as it arrives

Text decoded from escapes may hold surrogate code points, which no `String` can. `Text` keeps
the two cases apart: well-formed text is a `String`, anything else is its list of code points
with a proof that one of them is no character. Equal code points give equal values.

There are two sets of blanks: `isWhiteSpace` holds the twenty-five characters of the Unicode
property `White_Space`, and `isBlank` adds the four information separators U+001C to U+001F. Names
are stripped of blanks on both sides, numerals in settings only of white space, and addresses of
the slashes at their end.
-/
namespace DocAccess

/-- A sequence of code points. -/
inductive Text where
  /-- Every code point is a character. -/
  | wellFormed (s : String)
  /-- Some code point is no character. -/
  | illFormed (points : List Nat) (broken : ¬ ∀ p ∈ points, p.isValidChar)
  deriving DecidableEq

namespace Text

instance : Inhabited Text := ⟨.wellFormed ""⟩
instance : Coe String Text := ⟨.wellFormed⟩

/-- The text with exactly these code points. -/
def ofPoints (points : List Nat) : Text :=
  if h : ∀ p ∈ points, p.isValidChar then .wellFormed (String.ofList (points.map Char.ofNat))
  else .illFormed points h

/-- The code points of a text, in order. -/
def points : Text → List Nat
  | .wellFormed s => s.toList.map Char.toNat
  | .illFormed ps _ => ps

/-- The text as a `String`, when it is well formed. -/
def toString? : Text → Option String
  | .wellFormed s => some s
  | .illFormed .. => none

/-- Whether the text has no code points. -/
def isEmpty : Text → Bool
  | .wellFormed s => s.isEmpty
  | .illFormed .. => false

/-- A code point of a character is that of the character it stands for. -/
theorem toNat_ofNat_of_isValidChar {p : Nat} (h : p.isValidChar) : (Char.ofNat p).toNat = p := by
  rw [Char.ofNat, dif_pos h]
  rfl

@[simp] theorem points_ofPoints (ps : List Nat) : (ofPoints ps).points = ps := by
  unfold ofPoints
  split
  · rename_i hvalid
    have hpoints : ps.map (Char.toNat ∘ Char.ofNat) = ps.map id :=
      List.map_congr_left fun p hp => toNat_ofNat_of_isValidChar (hvalid p hp)
    rw [points, String.toList_ofList, List.map_map, hpoints, List.map_id]
  · rfl

@[simp] theorem ofPoints_points (t : Text) : ofPoints t.points = t := by
  cases t with
  | wellFormed s =>
    have hvalid : ∀ p ∈ s.toList.map Char.toNat, p.isValidChar := by
      intro p hp
      obtain ⟨c, -, rfl⟩ := List.mem_map.mp hp
      exact c.valid
    rw [points, ofPoints, dif_pos hvalid]
    simp [List.map_map, Function.comp_def]
  | illFormed ps broken => exact dif_neg broken

/-- Texts with the same code points are equal. -/
theorem points_injective : Function.Injective points := fun t u h => by
  rw [← ofPoints_points t, h, ofPoints_points]

/-- Texts are well formed when all of their code points are characters. -/
theorem exists_wellFormed_iff (t : Text) :
    (∃ s, t = wellFormed s) ↔ ∀ p ∈ t.points, p.isValidChar := by
  cases t with
  | wellFormed s =>
    refine iff_of_true ⟨s, rfl⟩ fun p hp => ?_
    obtain ⟨c, -, rfl⟩ := List.mem_map.mp hp
    exact c.valid
  | illFormed ps broken => exact iff_of_false (by rintro ⟨s, ⟨⟩⟩) broken

/-- Texts are ordered by their first code points that differ. -/
def le (a b : Text) : Bool := !b.points.lex a.points Nat.blt

/-- Two texts joined; two halves of a pair that meet here stay two code points. -/
def append : Text → Text → Text
  | .wellFormed a, .wellFormed b => .wellFormed (a ++ b)
  | a, b => ofPoints (a.points ++ b.points)

instance : Append Text := ⟨append⟩

end Text

/-! ## Blanks -/

/-- The code points with the Unicode property `White_Space`. -/
def isWhiteSpace (p : Nat) : Bool :=
  (0x09 ≤ p && p ≤ 0x0D) || p == 0x20 || p == 0x85 || p == 0xA0 || p == 0x1680 ||
    (0x2000 ≤ p && p ≤ 0x200A) || p == 0x2028 || p == 0x2029 || p == 0x202F || p == 0x205F ||
    p == 0x3000

/-- White space and the information separators. -/
def isBlank (p : Nat) : Bool := isWhiteSpace p || (0x1C ≤ p && p ≤ 0x1F)

/-- Drops the longest leading and the longest trailing run of elements that satisfy `f`. -/
def trimWhile {α : Type} (f : α → Bool) (xs : List α) : List α :=
  ((xs.dropWhile f).reverse.dropWhile f).reverse

/-- The text without leading and trailing blanks. -/
def Text.strip (t : Text) : Text := .ofPoints (trimWhile isBlank t.points)

/-- The string without the slashes at its end. -/
def dropTrailingSlashes (s : String) : String :=
  String.ofList (s.toList.reverse.dropWhile (· == '/')).reverse

end DocAccess
