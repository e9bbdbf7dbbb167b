import DocAccess.Batch
import DocAccess.Proofs.Session.History
import Mathlib.Algebra.Ring.Nat

/-!
# Histories of a feed

Batches are fetched from a list that grows in between. What was seen of the steps tells which
batches were handed out and what was added to the list. As long as every fetch brought a full batch,
the next one goes on where the last one stopped, also into what was added since; the first fetch
that comes back short or empty has seen the end, and what is added later is never handed out.

## Main definitions

* `Feed.Step`, `Feed.Seen` — steps, and what is seen of them.
* `Feed.batches`, `Feed.handedOut`, `Feed.appended`, `Feed.ended` — what a history tells.
* `Feed.Consecutive` — batches are consecutive stretches of the list.

## Main statements

* `Kept.observe` — a step keeps the source as it is told.
* `consecutive_of_history` — after all steps batches are consecutive stretches of the list.
-/
namespace DocAccess

/-! ## One fetch -/

/-- A batch holds the identifiers that it was made of. -/
theorem Batch.docIds_ofIds? (index offset : Int) (docIds : List Text) :
    (Batch.ofIds? index offset docIds).toList.flatMap Batch.docIds = docIds := by
  unfold Batch.ofIds?
  split
  · rename_i h
    simp [h]
  · simp

namespace BatchSource

/-- A source that has seen the end hands out nothing. -/
theorem next_of_ended {s : BatchSource} (h : s.ended = true) : s.next = (none, s) := by
  simp [next, h]

/-- A source that has not seen the end hands out what is pending, up to its cap; a short chunk is
the last. -/
theorem next_of_open {s : BatchSource} (h : s.ended = false) :
    let chunk := s.pending.take s.cap.size
    let batch? := Batch.ofIds? s.handedOut s.consumed chunk
    s.next = (batch?, { s with
      pending := s.pending.drop s.cap.size
      handedOut := s.handedOut + batch?.toList.length
      consumed := s.consumed + chunk.length
      ended := decide (chunk.length < s.cap.size) }) := by
  have hpos := s.cap.positive
  cases hc : s.pending.take s.cap.size with
  | nil =>
    have hpending : s.pending = [] := by
      rcases List.take_eq_nil_iff.mp hc with hzero | hnil
      · omega
      · exact hnil
    simp [next, h, hpending, Batch.ofIds?, hpos]
  | cons id ids => simp [next, h, hc, Batch.ofIds?]

end BatchSource

namespace Feed

/-! ## Steps and what is seen of them -/

/-- A step. -/
inductive Step where
  | fetch
  | append (docIds : List Text)

/-- What is seen of a step. -/
inductive Seen where
  | fetched (outcome : Except CapError (Option Batch))
  | appended (docIds : List Text)

/-- Makes a step. -/
def observe : Step → Feed → Seen × Feed
  | .fetch, f => (.fetched f.fetch.1, f.fetch.2)
  | .append docIds, f => (.appended docIds, f.append docIds)

namespace Seen

/-- The batch that was fetched. -/
def batch? : Seen → Option Batch
  | fetched (.ok b) => b
  | _ => none

/-- What was added to the list. -/
def added : Seen → List Text
  | appended docIds => docIds
  | fetched _ => []

/-- Whether a fetch came back short or empty. -/
def isShort (cap : BatchCap) : Seen → Bool
  | fetched (.ok none) => true
  | fetched (.ok (some b)) => b.size < cap.size
  | _ => false

end Seen

/-- The batches that were handed out, in order. -/
def batches (es : List Seen) : List Batch := es.reverse.filterMap Seen.batch?

/-- The identifiers that were handed out, in order. -/
def handedOut (es : List Seen) : List Text := (batches es).flatMap Batch.docIds

/-- The identifiers that were added to the list, in order. -/
def appended (es : List Seen) : List Text := es.reverse.flatMap Seen.added

/-- Whether a fetch has come back short or empty. -/
def ended (cap : BatchCap) (es : List Seen) : Bool := es.any (Seen.isShort cap)

variable {cap : BatchCap} {docIds : List Text} {es : List Seen} {f : Feed}

theorem batches_cons (e : Seen) (es : List Seen) :
    batches (e :: es) = batches es ++ e.batch?.toList := by
  simp only [batches, List.reverse_cons, List.filterMap_append, List.filterMap_cons,
    List.filterMap_nil]
  cases e.batch? <;> rfl

theorem handedOut_cons (e : Seen) (es : List Seen) :
    handedOut (e :: es) = handedOut es ++ e.batch?.toList.flatMap Batch.docIds := by
  rw [handedOut, batches_cons, List.flatMap_append, handedOut]

theorem appended_cons (e : Seen) (es : List Seen) :
    appended (e :: es) = appended es ++ e.added := by
  simp [appended]

theorem ended_cons (cap : BatchCap) (e : Seen) (es : List Seen) :
    ended cap (e :: es) = (e.isShort cap || ended cap es) := rfl

/-! ## What a history tells -/

/-- The batch has its place: its number is `k`, its offset counts the identifiers of the batches
before it, and it is full unless it is the last one. -/
structure InPlace (cap : BatchCap) (bs : List Batch) (k : Nat) (b : Batch) : Prop where
  index_eq : b.index = k
  offset_eq : b.offset = (((bs.take k).map Batch.size).sum : Nat)
  size_pos : 1 ≤ b.size
  size_le : b.size ≤ cap.size
  full : k + 1 < bs.length → b.size = cap.size

/-- The source is as its history tells. -/
structure Kept (cap : BatchCap) (docIds : List Text) (es : List Seen) (f : Feed) : Prop where
  cap_eq : f.source.cap = cap
  listed : f.listed = docIds ++ appended es
  pending : handedOut es ++ f.source.pending = f.listed
  count : f.source.handedOut = (batches es).length
  consumed : f.source.consumed = (handedOut es).length
  ended : f.source.ended = Feed.ended cap es
  batches : ∀ k b, (batches es)[k]? = some b → InPlace cap (batches es) k b
  full : Feed.ended cap es = false → ∀ b ∈ Feed.batches es, b.size = cap.size
  limit : Feed.ended cap es = true → cap.size < BatchCap.limit
  after_end : ∀ newer e older, es = newer ++ e :: older → e.isShort cap = true →
    Feed.ended cap older = false →
    (∀ o, .fetched o ∈ newer → o = .ok none) ∧ f.source.pending = appended newer

/-- Nothing has happened before the first step. -/
theorem kept_ofList (cap : BatchCap) (docIds : List Text) :
    Kept cap docIds [] (ofList cap docIds) where
  cap_eq := rfl
  listed := (List.append_nil docIds).symm
  pending := rfl
  count := rfl
  consumed := rfl
  ended := rfl
  batches k b hb := by simp [Feed.batches] at hb
  full _ b hb := by cases hb
  limit h := by cases h
  after_end newer e older h := by simp at h

/-- Every identifier that was handed out is in a batch. -/
theorem length_handedOut (es : List Seen) :
    (handedOut es).length = ((batches es).map Batch.size).sum := by
  rw [handedOut, List.length_flatMap]
  rfl

/-- A batch that is full keeps its place when others follow. -/
theorem InPlace.append {bs : List Batch} {k : Nat} {b : Batch} (h : InPlace cap bs k b)
    (hk : k < bs.length) (hfull : b.size = cap.size) (cs : List Batch) :
    InPlace cap (bs ++ cs) k b where
  index_eq := h.index_eq
  offset_eq := by rw [h.offset_eq, List.take_append_of_le_length (Nat.le_of_lt hk)]
  size_pos := h.size_pos
  size_le := h.size_le
  full _ := hfull

/-- A step without a batch, which is no fetch that sees the end, leaves the batches in place. -/
theorem Kept.of_no_batch (h : Kept cap docIds es f) {e : Seen} (hbatch : e.batch? = none)
    (hshort : e.isShort cap = true → Feed.ended cap es = true)
    (hafter : Feed.ended cap es = true → ∀ o, e = .fetched o → o = .ok none) :
    Kept cap docIds (e :: es) (f.append e.added) := by
  have hbatches : Feed.batches (e :: es) = Feed.batches es := by simp [batches_cons, hbatch]
  have hhanded : handedOut (e :: es) = handedOut es := by simp [handedOut, hbatches]
  have hended : Feed.ended cap (e :: es) = Feed.ended cap es := by
    rw [ended_cons, Bool.or_eq_right_iff_imp]
    exact hshort
  refine ⟨h.cap_eq, ?_, ?_, ?_, ?_, ?_, ?_, ?_, ?_, ?_⟩
  · rw [appended_cons, ← List.append_assoc, ← h.listed]
    rfl
  · rw [hhanded]
    change _ ++ (f.source.pending ++ e.added) = f.listed ++ e.added
    rw [← List.append_assoc, h.pending]
  · rw [hbatches]
    exact h.count
  · rw [hhanded]
    exact h.consumed
  · rw [hended]
    exact h.ended
  · rw [hbatches]
    exact h.batches
  · rw [hended, hbatches]
    exact h.full
  · rw [hended]
    exact h.limit
  · intro newer x older hes hx hfirst
    cases newer with
    | nil =>
      obtain ⟨rfl, rfl⟩ := List.cons.inj hes
      rw [hshort hx] at hfirst
      cases hfirst
    | cons y newer =>
      rw [List.cons_append] at hes
      obtain ⟨rfl, hrest⟩ := List.cons.inj hes
      obtain ⟨hfetches, hpending⟩ := h.after_end newer x older hrest hx hfirst
      refine ⟨fun o ho => ?_, ?_⟩
      · rcases List.mem_cons.mp ho with heq | ho
        · refine hafter ?_ o heq.symm
          rw [hrest]
          exact List.any_eq_true.mpr ⟨x, by simp, hx⟩
        · exact hfetches o ho
      · rw [appended_cons, ← hpending]
        rfl

/-- The identifiers that the next batch would hold. -/
def chunk (f : Feed) : List Text := f.source.pending.take f.source.cap.size

/-- The batch that is next before the end. -/
def batch? (f : Feed) : Option Batch :=
  Batch.ofIds? f.source.handedOut f.source.consumed f.chunk

/-- A fetch before the end takes the next chunk off the list. -/
theorem observe_fetch (hlimit : f.source.cap.size < BatchCap.limit)
    (hopen : f.source.ended = false) :
    observe .fetch f = (.fetched (.ok f.batch?), { f with
      source := { f.source with
        pending := f.source.pending.drop f.source.cap.size
        handedOut := f.source.handedOut + f.batch?.toList.length
        consumed := f.source.consumed + f.chunk.length
        ended := decide (f.chunk.length < f.source.cap.size) } }) := by
  simp only [observe, fetch, hlimit, if_true, BatchSource.next_of_open hopen]
  rfl

/-- A fetch is short when its chunk does not fill a batch. -/
theorem isShort_batch? (f : Feed) (cap : BatchCap) :
    (Seen.fetched (.ok f.batch?)).isShort cap = decide (f.chunk.length < cap.size) := by
  have hpos := cap.positive
  unfold batch? Batch.ofIds?
  split
  · rename_i h
    simp [Seen.isShort, h, hpos]
  · rfl

/-- Full batches stay in place when the next one follows. -/
theorem inPlace_concat {bs : List Batch} (hbs : ∀ k b, bs[k]? = some b → InPlace cap bs k b)
    (hfull : ∀ b ∈ bs, b.size = cap.size) {next? : Option Batch}
    (hnext : ∀ b ∈ next?, InPlace cap (bs ++ next?.toList) bs.length b) (k : Nat) (b : Batch)
    (hb : (bs ++ next?.toList)[k]? = some b) : InPlace cap (bs ++ next?.toList) k b := by
  by_cases hk : k < bs.length
  · rw [List.getElem?_append_left hk] at hb
    exact (hbs k b hb).append hk (hfull b (List.mem_of_getElem? hb)) _
  · rw [List.getElem?_append_right (Nat.le_of_not_lt hk)] at hb
    cases hnone : next? with
    | none => simp [hnone] at hb
    | some c =>
      have hlast : k - bs.length = 0 ∧ c = b := by
        cases hi : k - bs.length with
        | zero => simpa [hnone, hi] using hb
        | succ i => simp [hnone, hi] at hb
      obtain ⟨hzero, rfl⟩ := hlast
      have hkeq : k = bs.length := by omega
      rw [hkeq, ← hnone]
      exact hnext c hnone

/-- What the next batch is. -/
theorem eq_of_mem_batch? {b : Batch} (hb : b ∈ f.batch?) :
    b.index = f.source.handedOut ∧ b.offset = f.source.consumed ∧ b.docIds = f.chunk := by
  unfold batch? Batch.ofIds? at hb
  split at hb
  · cases hb
  · cases hb
    exact ⟨rfl, rfl, rfl⟩

/-- The next batch comes in place. -/
theorem Kept.inPlace_batch? (h : Kept cap docIds es f) {b : Batch} (hb : b ∈ f.batch?) :
    InPlace cap (Feed.batches es ++ f.batch?.toList) (Feed.batches es).length b := by
  obtain ⟨hindex, hoffset, hids⟩ := eq_of_mem_batch? hb
  refine ⟨?_, ?_, List.length_pos_iff.mpr b.nonempty, ?_, fun hlt => ?_⟩
  · rw [hindex, h.count]
  · rw [hoffset, h.consumed, List.take_left, length_handedOut]
  · rw [Batch.size, hids, ← h.cap_eq]
    exact List.length_take_le _ _
  · rw [List.length_append, Option.mem_def.mp hb] at hlt
    simp at hlt

/-- A fetch before the end hands out the next chunk of the list. -/
theorem Kept.of_chunk (h : Kept cap docIds es f) (hlimit : cap.size < BatchCap.limit)
    (hopen : Feed.ended cap es = false) :
    Kept cap docIds ((observe .fetch f).1 :: es) (observe .fetch f).2 := by
  have hcap := h.cap_eq
  rw [observe_fetch (by rwa [hcap]) (h.ended.trans hopen)]
  have hbatches : Feed.batches (.fetched (.ok f.batch?) :: es) =
      Feed.batches es ++ f.batch?.toList := batches_cons _ es
  have hhanded : handedOut (.fetched (.ok f.batch?) :: es) = handedOut es ++ f.chunk := by
    rw [handedOut_cons]
    exact congrArg (handedOut es ++ ·) (Batch.docIds_ofIds? _ _ _)
  have hended : Feed.ended cap (.fetched (.ok f.batch?) :: es) =
      decide (f.chunk.length < cap.size) := by
    rw [ended_cons, isShort_batch?, hopen, Bool.or_false]
  refine ⟨hcap, ?_, ?_, ?_, ?_, ?_, ?_, ?_, fun _ => hlimit, ?_⟩
  · rw [appended_cons]
    simpa [Seen.added] using h.listed
  · rw [hhanded, List.append_assoc, chunk, List.take_append_drop]
    exact h.pending
  · rw [hbatches, List.length_append, ← h.count]
  · rw [hhanded, List.length_append, ← h.consumed]
  · rw [hended, hcap]
  · rw [hbatches]
    exact inPlace_concat h.batches (h.full hopen) fun b hb => h.inPlace_batch? hb
  · intro hfull b hb
    rw [hended, decide_eq_false_iff_not] at hfull
    rw [hbatches] at hb
    rcases List.mem_append.mp hb with hb | hb
    · exact h.full hopen b hb
    · obtain ⟨-, -, hids⟩ := eq_of_mem_batch? (Option.mem_toList.mp hb)
      have hle : f.chunk.length ≤ f.source.cap.size := List.length_take_le _ _
      rw [hcap] at hle
      rw [Batch.size, hids]
      omega
  · intro newer x older hes hx hfirst
    cases newer with
    | nil =>
      obtain ⟨rfl, rfl⟩ := List.cons.inj hes
      refine ⟨by simp, ?_⟩
      rw [isShort_batch?, decide_eq_true_eq, chunk, List.length_take, hcap] at hx
      refine List.drop_eq_nil_iff.mpr ?_
      rw [hcap]
      omega
    | cons y newer =>
      rw [List.cons_append] at hes
      obtain ⟨-, hrest⟩ := List.cons.inj hes
      -- An earlier fetch that came back short would have ended the feed.
      have hsome : Feed.ended cap es = true := by
        rw [hrest]
        exact List.any_eq_true.mpr ⟨x, by simp, hx⟩
      rw [hopen] at hsome
      cases hsome

/-- **A step keeps the source as it is told.** -/
theorem Kept.observe (h : Kept cap docIds es f) (step : Step) :
    Kept cap docIds ((Feed.observe step f).1 :: es) (Feed.observe step f).2 := by
  have hcap := h.cap_eq
  cases step with
  | append more =>
    refine h.of_no_batch (e := .appended more) rfl (fun hshort => ?_) (fun _ o ho => ?_)
    · cases hshort
    · cases ho
  | fetch =>
    by_cases hlimit : cap.size < BatchCap.limit
    · cases hended : Feed.ended cap es with
      | false => exact h.of_chunk hlimit hended
      | true =>
        have hnext := BatchSource.next_of_ended (h.ended.trans hended)
        have hseen : Feed.observe .fetch f = (.fetched (.ok none), f.append []) := by
          simp [Feed.observe, fetch, hcap, hlimit, hnext]
        rw [hseen]
        exact h.of_no_batch rfl (fun _ => hended) (by simp)
    · have hseen : Feed.observe .fetch f = (.fetched (.error .tooLarge), f.append []) := by
        simp [Feed.observe, fetch, hcap, hlimit]
      rw [hseen]
      refine h.of_no_batch rfl (fun hshort => ?_) fun hended => absurd (h.limit hended) hlimit
      cases hshort

/-! ## Histories -/

/-- Batches are consecutive stretches of the list. -/
structure Consecutive (cap : BatchCap) (docIds : List Text) (es : List Seen) (f : Feed) :
    Prop where
  /-- The list holds what it held first and what was added. -/
  listed : f.listed = docIds ++ appended es
  /-- The batches make up the beginning of the list. -/
  beginning : handedOut es <+: f.listed
  /-- Each batch has its place. -/
  inPlace : ∀ k b, (batches es)[k]? = some b → InPlace cap (batches es) k b
  /-- What was consumed is in the batches. -/
  consumed : f.source.consumed = ((batches es).map Batch.size).sum
  /-- Before the end the next fetch goes on where the batches stop; after it there is nothing. -/
  fetch : f.fetch.1 =
    if cap.size < BatchCap.limit then
      .ok (if ended cap es then none
        else Batch.ofIds? (batches es).length (handedOut es).length
          ((f.listed.drop (handedOut es).length).take cap.size))
    else .error .tooLarge
  /-- After a fetch that comes back short or empty every later one reports the end. -/
  after_end : ∀ newer e older, es = newer ++ e :: older → e.isShort cap = true →
    ∀ o, .fetched o ∈ newer → o = .ok none
  /-- All that is not handed out is what was added after the first such fetch. -/
  left_out : ∀ newer e older, es = newer ++ e :: older → e.isShort cap = true →
    ended cap older = false → f.listed = handedOut es ++ appended newer
  /-- A full batch is no end. -/
  after_full : ∀ newer b older, es = newer ++ .fetched (.ok (some b)) :: older →
    b.size = cap.size → (∀ o, .fetched o ∉ newer) → ended cap es = false

/-- A feed that has ended has a first fetch that saw the end. -/
theorem exists_end (h : ended cap es = true) : ∃ newer e older, es = newer ++ e :: older ∧
    e.isShort cap = true ∧ ended cap older = false := by
  induction es with
  | nil => cases h
  | cons x es ih =>
    cases hes : ended cap es with
    | false =>
      rw [ended_cons, hes, Bool.or_false] at h
      exact ⟨[], x, es, rfl, h, hes⟩
    | true =>
      obtain ⟨newer, e, older, rfl, he, hfirst⟩ := ih hes
      exact ⟨x :: newer, e, older, rfl, he, hfirst⟩

/-- Once the feed has ended, fetches report the end. -/
theorem Kept.ends (h : Kept cap docIds es f) {newer older : List Seen} (hes : es = newer ++ older)
    (hended : Feed.ended cap older = true) (o : Except CapError (Option Batch))
    (ho : .fetched o ∈ newer) : o = .ok none := by
  obtain ⟨later, e, first, rfl, he, hfirst⟩ := exists_end hended
  refine (h.after_end (newer ++ later) e first ?_ he hfirst).1 o (List.mem_append_left _ ho)
  rw [hes, List.append_assoc]

/-- A source that is as told hands out consecutive stretches. -/
theorem Kept.consecutive (h : Kept cap docIds es f) : Consecutive cap docIds es f where
  listed := h.listed
  beginning := ⟨_, h.pending⟩
  inPlace := h.batches
  consumed := h.consumed.trans (length_handedOut es)
  fetch := by
    have hrest : f.listed.drop (handedOut es).length = f.source.pending := by
      rw [← h.pending, List.drop_left]
    rw [Feed.fetch, h.cap_eq, hrest]
    split
    · cases hended : Feed.ended cap es with
      | true =>
        rw [BatchSource.next_of_ended (h.ended.trans hended)]
        rfl
      | false =>
        rw [BatchSource.next_of_open (h.ended.trans hended), h.count, h.consumed, h.cap_eq]
        rfl
    · rfl
  after_end newer e older hes he := h.ends hes (by rw [ended_cons, he, Bool.true_or])
  left_out newer e older hes he hfirst := by
    rw [← (h.after_end newer e older hes he hfirst).2, h.pending]
  after_full newer b older hes hb hnone := by
    have hbefore : Feed.ended cap older = false := by
      cases hended : Feed.ended cap older with
      | false => rfl
      | true =>
        have hsplit : es = (newer ++ [.fetched (.ok (some b))]) ++ older := by simp [hes]
        cases h.ends hsplit hended _ (List.mem_append_right _ List.mem_cons_self)
    have hnewer : Feed.ended cap newer = false := by
      refine List.any_eq_false.mpr fun x hx hshort => ?_
      cases x with
      | fetched o => exact hnone o hx
      | appended more => cases hshort
    rw [hes, Feed.ended, List.any_append, ← Feed.ended, hnewer, List.any_cons, ← Feed.ended,
      hbefore]
    simp [Seen.isShort, hb]

/-- **After any fetches and additions batches are consecutive stretches of the list**, in order and
without a gap, up to the first fetch that came back short or empty. -/
theorem consecutive_of_history (cap : BatchCap) (docIds : List Text) (steps : List Step) :
    let h := History.run Feed.observe (ofList cap docIds) steps
    Consecutive cap docIds h.entries h.world :=
  (History.invariant Feed.observe (kept_ofList cap docIds)
    (fun step _ _ h => h.observe step) steps).consecutive

/-- What is added after a full batch is handed out; what is added after a short one is not. -/
example : (batches (History.run Feed.observe (ofList ⟨2, by decide⟩ ["a", "b"])
    [.fetch, .append ["c"], .fetch, .append ["d"], .fetch]).entries).map Batch.docIds =
      ([["a", "b"], ["c"]] : List (List Text)) := by decide

end Feed
end DocAccess
