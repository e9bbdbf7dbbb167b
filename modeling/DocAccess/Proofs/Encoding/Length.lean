import DocAccess.Encoding.Charset

/-!
# Octets and code points

Octets have no more code points than they are, in every charset: a character takes an octet at
least, and so does each malformed run.

## Main statements

* `Charset.length_scan_le` — no more code points and marks than octets.
* `Charset.length_decode?_le` — no more code points of well-formed octets than octets.
-/
namespace DocAccess

namespace Utf8

/-- What the machine has yielded, with the character that is open. -/
def Machine.width (m : Machine) : Nat :=
  m.yielded.length + match m.state with
    | .between => 0
    | .inside .. => 1

/-- An octet between characters yields a point or a mark, or opens a character. -/
theorem Machine.width_start (surrogates : Bool) (b : Nat) (out : List (Option Nat)) :
    (Machine.start surrogates b out).width ≤ out.length + 1 := by
  unfold Machine.start
  split
  · simp [width]
  · rename_i s _
    cases s <;> simp [width]
  · simp [width]

/-- An octet widens what is read by one at most. -/
theorem Machine.width_step (surrogates : Bool) (m : Machine) (octet : UInt8) :
    (m.step surrogates octet).width ≤ m.width + 1 := by
  obtain ⟨state, yielded⟩ := m
  cases state with
  | between => exact width_start surrogates _ _
  | inside owed low high value =>
    simp only [step]
    split
    · split
      · simp [width]
      · simp [width]
    · exact width_start surrogates _ _

/-- Octets widen what is read by no more than they are. -/
theorem Machine.width_foldl (surrogates : Bool) (octets : List UInt8) (m : Machine) :
    (octets.foldl (Machine.step surrogates) m).width ≤ m.width + octets.length := by
  induction octets generalizing m with
  | nil => exact Nat.le_refl _
  | cons b octets ih =>
    have hstep := width_step surrogates m b
    have hrest := ih (m.step surrogates b)
    rw [List.foldl_cons, List.length_cons]
    omega

/-- No more code points than octets. -/
theorem length_scan_le (surrogates : Bool) (octets : List UInt8) :
    (scan surrogates octets).length ≤ octets.length := by
  have h := Machine.width_foldl surrogates octets ⟨.between, []⟩
  rw [scan]
  generalize octets.foldl (Machine.step surrogates) ⟨.between, []⟩ = m at h
  obtain ⟨state, yielded⟩ := m
  cases state with
  | between => simpa [Machine.width] using h
  | inside owed low high value => simpa [Machine.width] using h

end Utf8

namespace Wide

/-- Units of two octets, and an octet that is left over. -/
theorem length_units16 (order : Endian) (octets : List UInt8) :
    (units16 order octets).1.length + (units16 order octets).2.toNat ≤ octets.length := by
  fun_induction units16 order octets with
  | case1 a b rest us ragged hrest u ih =>
    rw [hrest] at ih
    simp only [List.length_cons] at ih ⊢
    omega
  | case2 a => exact Nat.le_refl _
  | case3 => exact Nat.le_refl _

/-- Units of four octets, and octets that are left over. -/
theorem length_units32 (order : Endian) (octets : List UInt8) :
    (units32 order octets).1.length + (units32 order octets).2.toNat ≤ octets.length := by
  fun_induction units32 order octets with
  | case1 a b c d rest us ragged hrest u ih =>
    rw [hrest] at ih
    simp only [List.length_cons] at ih ⊢
    omega
  | case2 => exact Nat.le_refl _
  | case3 octets _ hne =>
    have hpos : octets.length ≠ 0 := fun h => hne (List.length_eq_zero_iff.mp h)
    simp only [List.length_nil, Bool.toNat_true]
    omega

/-- No more code points than units. -/
theorem length_points16 (surrogates : Bool) (units : List Nat) :
    (points16 surrogates units).length ≤ units.length := by
  fun_induction points16 surrogates units with
  | case1 => exact Nat.le_refl _
  | case2 u => exact Nat.le_refl _
  | case3 u v rest _ ih =>
    simp only [List.length_cons]
    omega
  | case4 u v rest _ one ih =>
    simp only [List.length_cons] at ih ⊢
    omega

/-- No more code points than octets of UTF-16. -/
theorem length_scan16_le (surrogates : Bool) (order : Endian) (octets : List UInt8) :
    (scan16 surrogates order octets).length ≤ octets.length := by
  have hunits := length_units16 order octets
  have hpoints := length_points16 surrogates (units16 order octets).1
  rw [scan16]
  generalize units16 order octets = units at hunits hpoints
  obtain ⟨us, ragged⟩ := units
  cases ragged with
  | false =>
    simp at hunits hpoints ⊢
    omega
  | true =>
    simp at hunits hpoints ⊢
    split <;> simp <;> omega

/-- No more code points than octets of UTF-32. -/
theorem length_scan32_le (surrogates : Bool) (order : Endian) (octets : List UInt8) :
    (scan32 surrogates order octets).length ≤ octets.length := by
  have hunits := length_units32 order octets
  rw [scan32]
  generalize units32 order octets = units at hunits
  obtain ⟨us, ragged⟩ := units
  cases ragged with
  | false => simpa using hunits
  | true => simpa using hunits

end Wide

namespace Charset

/-- No more code points and marks than octets. -/
theorem length_scan_le (surrogates : Bool) (c : Charset) (octets : List UInt8) :
    (c.scan surrogates octets).length ≤ octets.length := by
  unfold scan
  split
  · exact Utf8.length_scan_le _ _
  · split
    · refine Nat.le_trans (Utf8.length_scan_le _ _) ?_
      rw [List.length_drop]
      omega
    · exact Utf8.length_scan_le _ _
  · exact Wide.length_scan16_le _ _ _
  · split
    · exact Nat.le_trans (Wide.length_scan16_le _ _ _) (by simp only [List.length_cons]; omega)
    · exact Nat.le_trans (Wide.length_scan16_le _ _ _) (by simp only [List.length_cons]; omega)
    · exact Wide.length_scan16_le _ _ _
  · exact Wide.length_scan32_le _ _ _
  · split
    · exact Nat.le_trans (Wide.length_scan32_le _ _ _) (by simp only [List.length_cons]; omega)
    · exact Nat.le_trans (Wide.length_scan32_le _ _ _) (by simp only [List.length_cons]; omega)
    · exact Wide.length_scan32_le _ _ _

/-- Marks aside, code points are as many as they were. -/
theorem length_of_mapM_id {scanned : List (Option Nat)} {points : List Nat}
    (h : scanned.mapM id = some points) : points.length = scanned.length := by
  induction scanned generalizing points with
  | nil =>
    cases h
    rfl
  | cons one scanned ih =>
    rw [List.mapM_cons] at h
    obtain ⟨p, -, h⟩ := Option.bind_eq_some_iff.mp h
    obtain ⟨ps, hps, h⟩ := Option.bind_eq_some_iff.mp h
    cases h
    rw [List.length_cons, List.length_cons, ih hps]

/-- **No more code points than octets.** -/
theorem length_decode?_le {c : Charset} {octets : List UInt8} {points : List Nat}
    (h : c.decode? octets = some points) : points.length ≤ octets.length :=
  length_of_mapM_id h ▸ length_scan_le true c octets

end Charset
end DocAccess
