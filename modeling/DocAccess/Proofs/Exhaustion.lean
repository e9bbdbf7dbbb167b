import DocAccess.Proofs.Feed
import DocAccess.Proofs.Slices

/-!
# Driving a feed to its end

The batches of a list are fetched one after another until there is none left. The `n`-th fetch
brings the `n`-th of them, and every later one reports the end; fetching all at once brings the
same. How many there are is announced beforehand by `batchCount`. A cap at the limit or above it
announces batches as well, but then no fetch brings any.

## Main statements

* `fetch_afterFetches` — what the `n`-th fetch brings.
* `batchCount_of_exhausted` — the number announced is the number brought.
-/
namespace DocAccess

namespace BatchSource

/-- A batch does not change the cap. -/
theorem cap_next (s : BatchSource) : s.next.2.cap = s.cap := by
  unfold next
  split
  · rfl
  · split <;> rfl

/-- Once there is no next batch, there is none left. -/
theorem drain_of_next_eq_none {s s' : BatchSource} (h : s.next = (none, s')) :
    s'.drain.1 = [] := by
  cases hended : s.ended with
  | true =>
    rw [next_of_ended hended] at h
    obtain ⟨-, rfl⟩ := Prod.mk.inj h
    rw [drain_of_none (next_of_ended hended)]
  | false =>
    by_cases hpending : s.pending = []
    · refine drain_of_pending_nil ?_
      rw [next_of_open hended] at h
      obtain ⟨-, rfl⟩ := Prod.mk.inj h
      simp [hpending]
    · obtain ⟨b, t, hnext, -⟩ := next_of_pending hended hpending
      rw [hnext] at h
      cases h

/-- The next batch is the first of those that are left. -/
theorem getElem?_drain_zero (s : BatchSource) : s.drain.1[0]? = s.next.1 := by
  cases hnext : s.next with
  | mk b? s' =>
    cases b? with
    | none => rw [drain_of_none hnext]; rfl
    | some b => rw [drain_of_some hnext]; rfl

/-- The batches after the next one are those of the source as it is then. -/
theorem getElem?_drain_succ (s : BatchSource) (n : Nat) :
    s.drain.1[n + 1]? = s.next.2.drain.1[n]? := by
  cases hnext : s.next with
  | mk b? s' =>
    cases b? with
    | none => rw [drain_of_none hnext, drain_of_next_eq_none hnext]; rfl
    | some b => rw [drain_of_some hnext]; rfl

end BatchSource

namespace Feed

/-- The feed after `n` fetches. -/
def afterFetches (f : Feed) (n : Nat) : Feed :=
  (History.run observe f (List.replicate n .fetch)).world

@[simp] theorem afterFetches_zero (f : Feed) : f.afterFetches 0 = f := rfl

/-- The first fetch comes before the others. -/
theorem afterFetches_succ (f : Feed) (n : Nat) :
    f.afterFetches (n + 1) = f.fetch.2.afterFetches n := by
  rw [afterFetches, List.replicate_succ, History.world_run_cons]
  rfl

/-- **The `n`-th fetch brings the `n`-th batch**, and reports the end when there is none. -/
theorem fetch_afterFetches {f : Feed} (hlimit : f.source.cap.size < BatchCap.limit) (n : Nat) :
    (f.afterFetches n).fetch.1 = .ok f.source.drain.1[n]? := by
  induction n generalizing f with
  | zero => rw [afterFetches_zero, fetch, if_pos hlimit, BatchSource.getElem?_drain_zero]
  | succ n ih =>
    have hfetch : f.fetch.2 = { f with source := f.source.next.2 } := by
      rw [fetch, if_pos hlimit]
    rw [afterFetches_succ, hfetch, BatchSource.getElem?_drain_succ]
    refine ih ?_
    rw [BatchSource.cap_next]
    exact hlimit

/-- Fetching all brings what is left. -/
theorem fetchAll_of_lt {f : Feed} (hlimit : f.source.cap.size < BatchCap.limit) :
    f.fetchAll.1 = .ok f.source.drain.1 := by
  rw [fetchAll, if_pos hlimit]

/-- A cap at the limit is refused when all is fetched. -/
theorem fetchAll_of_le {f : Feed} (hlimit : BatchCap.limit ≤ f.source.cap.size) :
    f.fetchAll.1 = .error .tooLarge := by
  rw [fetchAll, if_neg (Nat.not_lt.mpr hlimit)]

/-- A cap at the limit is refused at every fetch. -/
theorem fetch_afterFetches_of_le {f : Feed} (hlimit : BatchCap.limit ≤ f.source.cap.size)
    (n : Nat) : (f.afterFetches n).fetch.1 = .error .tooLarge := by
  have hfetch : f.fetch = (.error .tooLarge, f) := by
    rw [fetch, if_neg (Nat.not_lt.mpr hlimit)]
  induction n with
  | zero => rw [afterFetches_zero, hfetch]
  | succ n ih => rw [afterFetches_succ, hfetch, ih]

/-- **The number of batches announced is the number brought.** What is announced for any total is
the one number of batches that hold it when one batch fewer does not. A feed whose cap is below the
limit brings so many batches, one with each fetch, and then reports the end; at the limit and above
it every fetch is refused. -/
theorem batchCount_of_exhausted (cap : BatchCap) :
    (∀ total : Int, ∃ k, batchCount total cap.size = some k ∧
      ∀ j : Int, (j - 1) * cap.size < total ∧ total ≤ j * cap.size ↔ j = k) ∧
    ∀ docIds : List Text,
      (cap.size < BatchCap.limit → ∃ bs : List Batch,
        batchCount docIds.length cap.size = some (bs.length : Int) ∧
        (ofList cap docIds).fetchAll.1 = .ok bs ∧
        ∀ n, ((ofList cap docIds).afterFetches n).fetch.1 = .ok bs[n]?) ∧
      (BatchCap.limit ≤ cap.size →
        (ofList cap docIds).fetchAll.1 = .error .tooLarge ∧
        ∀ n, ((ofList cap docIds).afterFetches n).fetch.1 = .error .tooLarge) := by
  have hcap : (1 : Int) ≤ cap.size := by exact_mod_cast cap.positive
  have hne : (cap.size : Int) ≠ 0 := by omega
  refine ⟨fun total => ⟨_, if_neg hne, fun j => ?_⟩,
    fun docIds => ⟨fun hlimit => ?_, fun hlimit => ?_⟩⟩
  · rw [← batchCount_eq_some_iff hcap, batchCount, if_neg hne, Option.some.injEq, eq_comm]
  · have hcapped : (ofList cap docIds).source.cap.size < BatchCap.limit := hlimit
    refine ⟨(BatchSource.ofList cap docIds).drain.1, ?_, ?_, ?_⟩
    · rw [batchCount_of_pos hcap, BatchSource.length_drain, Int.toNat_natCast]
    · exact fetchAll_of_lt hcapped
    · exact fetch_afterFetches hcapped
  · have hcapped : BatchCap.limit ≤ (ofList cap docIds).source.cap.size := hlimit
    exact ⟨fetchAll_of_le hcapped, fetch_afterFetches_of_le hcapped⟩

/-- **At the limit a batch is announced, and none is brought.** -/
theorem announced_batch_refused :
    batchCount (["a"] : List Text).length BatchCap.limit = some 1 ∧
      (ofList ⟨BatchCap.limit, by decide⟩ ["a"]).fetch.1 = .error .tooLarge ∧
      ¬∃ bs : List Batch, (ofList ⟨BatchCap.limit, by decide⟩ ["a"]).fetchAll.1 = .ok bs ∧
        batchCount (["a"] : List Text).length BatchCap.limit = some (bs.length : Int) := by
  refine ⟨by decide +kernel, rfl, ?_⟩
  rintro ⟨bs, hbs, -⟩
  cases hbs

end Feed
end DocAccess
