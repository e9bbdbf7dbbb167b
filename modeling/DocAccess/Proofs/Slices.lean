import DocAccess.Batch
import Mathlib.Tactic.Linarith
import Mathlib.Tactic.Ring

/-!
# Batches as slices

A source hands out its list slice by slice: batch `i` holds the identifiers from position
`i * size` on, `size` of them or as many as are left, and carries the number `i`. How many slices
there are is known beforehand: `batchCount` is the only number of slices that hold the whole list
and of which none is too many.
-/
namespace DocAccess

/-- The `i`-th slice of `size` identifiers; the last one may be shorter. -/
def slice (size : Nat) (docIds : List Text) (i : Nat) : List Text :=
  (docIds.drop (i * size)).take size

/-- Number of slices: the length divided by `size`, rounded up. -/
def sliceCount (size total : Nat) : Nat := (total + size - 1) / size

/-- All slices, in order. -/
def slices (size : Nat) (docIds : List Text) : List (List Text) :=
  (List.range (sliceCount size docIds.length)).map (slice size docIds)

@[simp] theorem length_slices (size : Nat) (docIds : List Text) :
    (slices size docIds).length = sliceCount size docIds.length := by simp [slices]

@[simp] theorem sliceCount_zero (size : Nat) (h : 0 < size) : sliceCount size 0 = 0 := by
  rw [sliceCount]
  exact Nat.div_eq_of_lt (by omega)

/-- The slices hold the whole list. -/
theorem le_mul_sliceCount {size : Nat} (h : 0 < size) (total : Nat) :
    total ≤ size * sliceCount size total := by
  have hdiv := Nat.div_add_mod (total + size - 1) size
  have hmod := Nat.mod_lt (total + size - 1) h
  rw [sliceCount]
  omega

/-- Every slice is needed: without the last one some identifier is left. -/
theorem mul_sliceCount_lt {size : Nat} (h : 0 < size) (total : Nat) :
    size * sliceCount size total < total + size := by
  have hdiv := Nat.div_add_mod (total + size - 1) size
  rw [sliceCount]
  omega

/-- Taking off the first slice leaves one slice fewer. -/
theorem sliceCount_of_pos {size total : Nat} (h : 0 < size) (ht : 0 < total) :
    sliceCount size total = sliceCount size (total - size) + 1 := by
  unfold sliceCount
  by_cases hle : size ≤ total
  · have hsum : total + size - 1 = (total - size + size - 1) + size := by omega
    rw [hsum, Nat.add_div_right _ h]
  · have hz : total - size = 0 := by omega
    rw [hz, Nat.div_eq_of_lt (by omega : 0 + size - 1 < size)]
    exact Nat.div_eq_of_lt_le (by omega) (by omega)

/-- The slices of a list after its first one are those of the rest. -/
theorem slice_succ (size : Nat) (docIds : List Text) (i : Nat) :
    slice size docIds (i + 1) = slice size (docIds.drop size) i := by
  rw [slice, slice, List.drop_drop]
  congr 2
  ring

/-- The slices of a list are its first one and those of the rest. -/
theorem slices_of_ne_nil {size : Nat} (h : 0 < size) {docIds : List Text} (hne : docIds ≠ []) :
    slices size docIds = docIds.take size :: slices size (docIds.drop size) := by
  have hpos : 0 < docIds.length := List.length_pos_iff.mpr hne
  rw [slices, sliceCount_of_pos h hpos, List.range_succ_eq_map, List.map_cons, List.map_map,
    slices, List.length_drop]
  refine congrArg₂ List.cons (by simp [slice]) (List.map_congr_left fun i _ => ?_)
  exact slice_succ size docIds i

/-- **The slices of a list make up the list.** -/
theorem flatten_slices {size : Nat} (h : 0 < size) (docIds : List Text) :
    (slices size docIds).flatten = docIds := by
  induction hn : docIds.length using Nat.strong_induction_on generalizing docIds with
  | h n ih =>
    by_cases hne : docIds = []
    · simp [hne, slices, h]
    · have hlt : (docIds.drop size).length < n := by
        have hpos := List.length_pos_iff.mpr hne
        rw [List.length_drop]
        omega
      rw [slices_of_ne_nil h hne, List.flatten_cons, ih _ hlt _ rfl, List.take_append_drop]

/-- Each slice is a stretch of the list. -/
theorem slice_infix (size : Nat) (docIds : List Text) (i : Nat) :
    slice size docIds i <:+: docIds :=
  (List.take_prefix _ _).isInfix.trans (List.drop_suffix _ _).isInfix

/-- There are never more slices than identifiers. -/
theorem sliceCount_le {size total : Nat} (h : 0 < size) : sliceCount size total ≤ total := by
  induction total using Nat.strong_induction_on with
  | h total ih =>
    by_cases ht : total = 0
    · simp [ht, h]
    · rw [sliceCount_of_pos h (by omega)]
      have hrest := ih (total - size) (by omega)
      omega

/-- **The number of batches** is that of the full batches that hold all identifiers when one full
batch fewer does not. -/
theorem batchCount_eq_some_iff {total cap k : Int} (h : 1 ≤ cap) :
    batchCount total cap = some k ↔ (k - 1) * cap < total ∧ total ≤ k * cap := by
  have hne : cap ≠ 0 := by omega
  rw [batchCount, if_neg hne, Option.some.injEq, Int.fdiv_eq_ediv_of_nonneg _ (by omega)]
  -- Rounding the negated total down rounds the total up.
  constructor
  · rintro rfl
    have hle := Int.ediv_mul_le (-total) hne
    have hlt := Int.lt_ediv_add_one_mul_self (-total) (by omega : 0 < cap)
    constructor <;> linarith
  · rintro ⟨hlt, hle⟩
    have hquot : (-total) / cap = -k := by
      apply le_antisymm
      · apply Int.lt_add_one_iff.mp
        rw [Int.ediv_lt_iff_lt_mul (by omega)]
        linarith
      · rw [Int.le_ediv_iff_mul_le (by omega)]
        linarith
    omega

/-- The announced number of batches is the number of slices. -/
theorem batchCount_of_pos {total : Nat} {cap : Int} (h : 1 ≤ cap) :
    batchCount total cap = some ((sliceCount cap.toNat total : Nat) : Int) := by
  obtain ⟨c, rfl⟩ : ∃ c : Nat, cap = c := ⟨cap.toNat, by omega⟩
  have hc : 0 < c := by omega
  have hle : (total : Int) ≤ c * sliceCount c total := by
    exact_mod_cast le_mul_sliceCount hc total
  have hlt : (c : Int) * sliceCount c total < total + c := by
    exact_mod_cast mul_sliceCount_lt hc total
  rw [batchCount_eq_some_iff h, Int.toNat_natCast]
  constructor <;> linarith

/-- The batches carry the numbers from `first` on, in order. -/
def Numbered (first : Nat) (bs : List Batch) : Prop :=
  ∀ (i : Nat) (b : Batch), bs[i]? = some b → b.index = (first : Int) + i

namespace Numbered

theorem head {first : Nat} {b : Batch} {bs : List Batch} (h : Numbered first (b :: bs)) :
    b.index = first := by simpa using h 0 b rfl

theorem tail {first : Nat} {b : Batch} {bs : List Batch} (h : Numbered first (b :: bs)) :
    Numbered (first + 1) bs := by
  intro i c hc
  rw [h (i + 1) c hc]
  push_cast
  ring

end Numbered

namespace BatchSource

theorem drain_of_none {s s' : BatchSource} (h : s.next = (none, s')) : s.drain = ([], s') := by
  rw [drain]
  split
  · rename_i t ht
    rw [h] at ht
    cases ht
    rfl
  · rename_i b t ht
    rw [h] at ht
    cases ht

theorem drain_of_some {s s' : BatchSource} {b : Batch} (h : s.next = (some b, s')) :
    s.drain = (b :: s'.drain.1, s'.drain.2) := by
  rw [drain]
  split
  · rename_i t ht
    rw [h] at ht
    cases ht
  · rename_i c t ht
    rw [h] at ht
    cases ht
    rfl

/-- Without pending identifiers there is no batch. -/
theorem drain_of_pending_nil {s : BatchSource} (h : s.pending = []) : s.drain.1 = [] := by
  by_cases he : s.ended
  · have hnext : s.next = (none, s) := by simp [next, he]
    rw [drain_of_none hnext]
  · have hnext : s.next = (none, { s with ended := true }) := by simp [next, he, h]
    rw [drain_of_none hnext]

/-- The next batch is the first slice of what is pending. -/
theorem next_of_pending {s : BatchSource} (he : s.ended = false) (hp : s.pending ≠ []) :
    ∃ b s', s.next = (some b, s') ∧ b.index = s.handedOut ∧
      b.docIds = slice s.cap.size s.pending 0 ∧ s'.cap = s.cap ∧
      s'.handedOut = s.handedOut + 1 ∧ s'.pending = s.pending.drop s.cap.size ∧
      (s'.ended = true → s'.pending = []) := by
  have hpos := s.cap.positive
  cases hc : s.pending.take s.cap.size with
  | nil =>
    rcases List.take_eq_nil_iff.mp hc with h | h
    · omega
    · exact absurd h hp
  | cons id ids =>
    have hlen : ids.length + 1 = min s.cap.size s.pending.length := by
      rw [← List.length_take, hc, List.length_cons]
    have hnext : s.next = (some ⟨s.handedOut, s.consumed, id :: ids, List.cons_ne_nil id ids⟩,
        { s with
          pending := s.pending.drop s.cap.size
          handedOut := s.handedOut + 1
          consumed := s.consumed + (ids.length + 1)
          ended := ids.length + 1 < s.cap.size }) := by
      simp [next, he, hc]
    refine ⟨_, _, hnext, rfl, ?_, rfl, rfl, rfl, ?_⟩
    · simp [slice, hc]
    · intro hend
      have hshort : ids.length + 1 < s.cap.size := by simpa using hend
      exact List.drop_eq_nil_iff.mpr (by omega)

/-- **A source hands out the slices of its list, numbered in order.** -/
theorem drain_slices (s : BatchSource) (hs : s.ended = true → s.pending = []) :
    s.drain.1.length = sliceCount s.cap.size s.pending.length ∧
    ∀ (i : Nat) (b : Batch), s.drain.1[i]? = some b →
      b.index = (s.handedOut : Int) + i ∧ b.docIds = slice s.cap.size s.pending i := by
  induction hn : s.pending.length using Nat.strong_induction_on generalizing s with
  | h n ih =>
    have hpos := s.cap.positive
    by_cases hp : s.pending = []
    · have hzero : n = 0 := by rw [← hn, hp, List.length_nil]
      rw [drain_of_pending_nil hp, hzero, sliceCount_zero _ hpos]
      simp
    · have he : s.ended = false := by
        cases h : s.ended with
        | false => rfl
        | true => exact absurd (hs h) hp
      have hlt : 0 < n := by rw [← hn]; exact List.length_pos_iff.mpr hp
      obtain ⟨b, s', hnext, hindex, hids, hcap, hout, hpend, hend⟩ := next_of_pending he hp
      have hlen : s'.pending.length = n - s.cap.size := by rw [hpend, List.length_drop, hn]
      obtain ⟨hcount, hget⟩ := ih s'.pending.length (by omega) s' hend rfl
      rw [drain_of_some hnext]
      constructor
      · rw [List.length_cons, hcount, hcap, hlen, sliceCount_of_pos hpos hlt]
      · intro i c hc
        cases i with
        | zero =>
          rw [List.getElem?_cons_zero, Option.some.injEq] at hc
          subst hc
          exact ⟨by simpa using hindex, hids⟩
        | succ i =>
          rw [List.getElem?_cons_succ] at hc
          obtain ⟨hi, hd⟩ := hget i c hc
          rw [hcap, hpend] at hd
          exact ⟨by rw [hi, hout]; push_cast; ring, by rw [hd, slice_succ]⟩

/-- There are as many batches as slices. -/
theorem length_drain (cap : BatchCap) (docIds : List Text) :
    (ofList cap docIds).drain.1.length = sliceCount cap.size docIds.length :=
  (drain_slices (ofList cap docIds) (by simp [ofList])).1

/-- The batches of a list are numbered from zero. -/
theorem numbered_drain (cap : BatchCap) (docIds : List Text) :
    Numbered 0 (ofList cap docIds).drain.1 := by
  intro i b hb
  simpa [ofList] using ((drain_slices (ofList cap docIds) (by simp [ofList])).2 i b hb).1

/-- Batch `i` holds slice `i`. -/
theorem docIds_drain (cap : BatchCap) {docIds : List Text} {i : Nat} {b : Batch}
    (h : (ofList cap docIds).drain.1[i]? = some b) : b.docIds = slice cap.size docIds i :=
  ((drain_slices (ofList cap docIds) (by simp [ofList])).2 i b h).2

/-- The batches of a list hold its slices. -/
theorem map_docIds_drain (cap : BatchCap) (docIds : List Text) :
    (ofList cap docIds).drain.1.map Batch.docIds = slices cap.size docIds := by
  apply List.ext_getElem
  · rw [List.length_map, length_slices, length_drain]
  · intro i hi hi'
    rw [List.length_map] at hi
    simp only [slices, List.getElem_map, List.getElem_range]
    exact docIds_drain cap (List.getElem?_eq_getElem hi)

end BatchSource

/-- The query for some documents; nothing without any. -/
def QueryRequest.ofIds? (docIds : List Text) : Option QueryRequest :=
  (MembershipPredicate.ofValues? repositorySchema.documentColumn docIds).map fun p =>
    { predicate := p }

/-- The queries for the slices of a list, in order. -/
def questions (size : Nat) (docIds : List Text) : List QueryRequest :=
  (slices size docIds).filterMap QueryRequest.ofIds?

/-- The query of a batch asks about its documents. -/
theorem ofIds?_docIds (b : Batch) : QueryRequest.ofIds? b.docIds = some b.query := by
  simp [QueryRequest.ofIds?, MembershipPredicate.ofValues?, b.nonempty, Batch.query,
    Batch.predicate]

/-- The queries of the batches of a list are those for its slices. -/
theorem map_query_drain (cap : BatchCap) (docIds : List Text) :
    (BatchSource.ofList cap docIds).drain.1.map Batch.query = questions cap.size docIds := by
  rw [questions, ← BatchSource.map_docIds_drain, List.filterMap_map]
  simp only [Function.comp_def, ofIds?_docIds, List.filterMap_eq_map']

end DocAccess
