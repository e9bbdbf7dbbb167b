import DocAccess.Aggregate
import DocAccess.Authorization
import DocAccess.Proofs.Session.History
import Mathlib.Data.List.Forall2

/-!
# What an aggregator makes of answers

A document of a batch is authorized when some row names it. Beyond that rows do not matter: neither
their order, nor how often a document is named, nor rows for other documents, which are warned of
and nothing else. A batch that is not the next one is refused and leaves no trace.

## Main definitions

* `Aggregator.decided`, `Aggregator.confirmed`, `Aggregator.strays` — what rows say of a batch.
* `Aggregator.Rearranged` — rows in another order, repeated, or with rows for other documents.
* `Aggregator.Absorbs` — the state is as its history tells, and so is what a call does.

## Main statements

* `Told.observe` — a call keeps the state as it is told.
* `outcomes_of_agreement` — answers that name the same documents come to the same.
* `absorbs_of_history` — after any calls the state is as its history tells.
-/
namespace DocAccess

/-- The row names the document. -/
def Row.Names (r : Row) (id : Text) : Prop := r.docId = id

instance (r : Row) (id : Text) : Decidable (r.Names id) :=
  inferInstanceAs (Decidable (r.docId = id))

namespace Aggregator

/-! ## What rows say of a batch -/

/-- One decision for each document of the batch, in order: whether some row names it. -/
def decided (b : Batch) (rows : List Row) : List Decision :=
  b.docIds.map fun id => ⟨id, decide (∃ r ∈ rows, r.Names id)⟩

/-- The documents of the batch that some row names, in order and with repetitions. -/
def confirmed (b : Batch) (rows : List Row) : List Text :=
  b.docIds.filter fun id => ∃ r ∈ rows, r.Names id

/-- The rows that name no document of the batch, in order. -/
def strays (b : Batch) (rows : List Row) : List Row :=
  rows.filter fun r => ∀ id ∈ b.docIds, ¬ r.Names id

/-- The warnings of the strays, if there is a logger. -/
def warnings (logger : Option Fields) (b : Batch) (rows : List Row) : List Event :=
  match logger with
  | none => []
  | some bound => (strays b rows).map (strayWarning bound b)

theorem confirms_eq (rows : List Row) (id : Text) :
    Aggregate.confirms rows id = decide (∃ r ∈ rows, r.Names id) := by
  rw [Bool.eq_iff_iff, decide_eq_true_iff, Aggregate.confirms, List.any_eq_true]
  simp only [beq_iff_eq, Row.Names]

theorem not_asked_eq (b : Batch) (r : Row) :
    (!Aggregate.asked b r) = decide (∀ id ∈ b.docIds, ¬ r.Names id) := by
  rw [Bool.eq_iff_iff, decide_eq_true_iff]
  simp only [Aggregate.asked, Row.Names, Bool.not_eq_true', List.contains_eq_mem,
    decide_eq_false_iff_not]
  constructor
  · rintro hr id hid rfl
    exact hr hid
  · exact fun hall hr => hall r.docId hr rfl

/-- What is authorized is what is confirmed. -/
theorem map_filter_decided (b : Batch) (rows : List Row) :
    ((decided b rows).filter Decision.isAuthorized).map Decision.docId = confirmed b rows := by
  rw [decided, List.filter_map, List.map_map]
  exact List.map_id'' (fun _ => rfl) _

/-- A batch that is not the next one changes nothing. -/
theorem absorb_of_ne {a : Aggregator} {b : Batch} (h : b.index ≠ a.aggregate.absorbed)
    (rows : List Row) :
    a.absorb b rows = (.error (.value (a.aggregate.outOfOrderMessage b)), a) := by
  simp [absorb, Aggregate.absorb, h]

/-- The next batch is decided by what its rows name. -/
theorem absorb_of_eq {a : Aggregator} {b : Batch} (h : b.index = a.aggregate.absorbed)
    (rows : List Row) :
    a.absorb b rows = (.ok (decided b rows), { a with
      aggregate := ⟨a.aggregate.authorized.extend (confirmed b rows), a.aggregate.absorbed + 1⟩
      written := a.written ++ warnings a.logger b rows }) := by
  have hconfirms : Aggregate.confirms rows = fun id => decide (∃ r ∈ rows, r.Names id) :=
    funext (confirms_eq rows)
  have hasked : (fun r => !Aggregate.asked b r) = fun r => decide (∀ id ∈ b.docIds, ¬ r.Names id) :=
    funext (not_asked_eq b)
  simp only [absorb, Aggregate.absorb, h, if_true, hconfirms, hasked]
  rfl

/-- A request warns of strays as an aggregator does on a logger with the fields of the request. -/
theorem absorb_of_request (policy : AuthorizationPolicy) (request : AuthorizationRequest)
    {a : Aggregate} {b : Batch} {rows : List Row} {step : Absorbed}
    (h : a.absorb b rows = .ok step) (written : List Event) :
    let logger := some (Authorization.bound policy request)
    Aggregator.absorb ⟨logger, a, written⟩ b rows =
      (.ok step.decisions, ⟨logger, step.next,
        written ++ step.strays.map (Authorization.strayEvent policy request b)⟩) := by
  simp only [absorb, h]
  rfl

/-! ## Rows that make no difference -/

/-- The answers name the same documents of the batch. -/
def Agree (b : Batch) (rows rows' : List Row) : Prop :=
  ∀ id ∈ b.docIds, (∃ r ∈ rows, r.Names id) ↔ ∃ r ∈ rows', r.Names id

/-- The second answer has the rows of the first in another order, repeats some of them, or has more
rows that name no document of the batch. -/
inductive Rearranged (b : Batch) : List Row → List Row → Prop
  | permuted {rows rows' : List Row} : rows.Perm rows' → Rearranged b rows rows'
  | repeated {rows : List Row} {r : Row} : r ∈ rows → Rearranged b rows (r :: rows)
  | foreign {rows : List Row} {r : Row} :
      (∀ id ∈ b.docIds, ¬ r.Names id) → Rearranged b rows (r :: rows)
  | trans {rows rows' rows'' : List Row} :
      Rearranged b rows rows' → Rearranged b rows' rows'' → Rearranged b rows rows''

/-- Rows that are rearranged name the same documents. -/
theorem Rearranged.agree {b : Batch} {rows rows' : List Row} (h : Rearranged b rows rows') :
    Agree b rows rows' := by
  induction h with
  | permuted hperm =>
    intro id _
    simp only [hperm.mem_iff]
  | repeated hr =>
    rintro id -
    refine ⟨fun ⟨x, hx, hnames⟩ => ⟨x, List.mem_cons_of_mem _ hx, hnames⟩, ?_⟩
    rintro ⟨x, hx, hnames⟩
    rcases List.mem_cons.mp hx with rfl | hx
    · exact ⟨x, hr, hnames⟩
    · exact ⟨x, hx, hnames⟩
  | foreign hr =>
    intro id hid
    refine ⟨fun ⟨x, hx, hnames⟩ => ⟨x, List.mem_cons_of_mem _ hx, hnames⟩, ?_⟩
    rintro ⟨x, hx, hnames⟩
    rcases List.mem_cons.mp hx with rfl | hx
    · exact absurd hnames (hr id hid)
    · exact ⟨x, hx, hnames⟩
  | trans _ _ ih ih' => exact fun id hid => (ih id hid).trans (ih' id hid)

theorem Agree.decided_eq {b : Batch} {rows rows' : List Row} (h : Agree b rows rows') :
    decided b rows = decided b rows' :=
  List.map_congr_left fun id hid => by simp only [h id hid]

theorem Agree.confirmed_eq {b : Batch} {rows rows' : List Row} (h : Agree b rows rows') :
    confirmed b rows = confirmed b rows' :=
  List.filter_congr fun id hid => by simp only [h id hid]

/-! ## Calls and what is seen of them -/

/-- What is seen of a call: the batch, the rows that answer it, and how it came out. -/
structure Entry where
  batch : Batch
  rows : List Row
  outcome : Except Fault (List Decision)

/-- Makes a call. -/
def observe (call : Batch × List Row) (a : Aggregator) : Entry × Aggregator :=
  (⟨call.1, call.2, (a.absorb call.1 call.2).1⟩, (a.absorb call.1 call.2).2)

namespace Entry

/-- Whether the batch was absorbed. -/
def accepted (e : Entry) : Bool :=
  match e.outcome with
  | .ok _ => true
  | .error _ => false

/-- The documents that were authorized. -/
def granted (e : Entry) : List Text :=
  match e.outcome with
  | .ok ds => (ds.filter Decision.isAuthorized).map Decision.docId
  | .error _ => []

/-- The warnings that were due. -/
def warned (logger : Option Fields) (e : Entry) : List Event :=
  match e.outcome with
  | .ok _ => warnings logger e.batch e.rows
  | .error _ => []

end Entry

/-- Number of batches absorbed. -/
def accepted (es : List Entry) : Nat := es.countP Entry.accepted

/-- The documents authorized, in order. -/
def granted (es : List Entry) : List Text := es.reverse.flatMap Entry.granted

/-- The warnings written, in order. -/
def warned (logger : Option Fields) (es : List Entry) : List Event :=
  es.reverse.flatMap (Entry.warned logger)

variable {logger : Option Fields} {es : List Entry} {a : Aggregator}

/-- The state is as its history tells. -/
structure Told (logger : Option Fields) (es : List Entry) (a : Aggregator) : Prop where
  logger_eq : a.logger = logger
  absorbed : a.aggregate.absorbed = accepted es
  authorized : a.aggregate.authorized.docIds = granted es
  written : a.written = warned logger es

/-- Nothing has happened before the first call. -/
theorem told_start (logger : Option Fields) : Told logger [] (start logger) := ⟨rfl, rfl, rfl, rfl⟩

/-- **A call keeps the state as it is told.** -/
theorem Told.observe (h : Told logger es a) (call : Batch × List Row) :
    Told logger ((Aggregator.observe call a).1 :: es) (Aggregator.observe call a).2 := by
  obtain ⟨b, rows⟩ := call
  obtain ⟨hlogger, habsorbed, hauthorized, hwritten⟩ := h
  by_cases hindex : b.index = a.aggregate.absorbed
  · simp only [Aggregator.observe, absorb_of_eq hindex rows]
    refine ⟨hlogger, ?_, ?_, ?_⟩
    · rw [habsorbed]
      exact (List.countP_cons_of_pos rfl).symm
    · simp [granted, Entry.granted, map_filter_decided, hauthorized]
    · simp [warned, Entry.warned, hwritten, hlogger]
  · simp only [Aggregator.observe, absorb_of_ne hindex rows]
    refine ⟨hlogger, ?_, ?_, ?_⟩
    · rw [habsorbed]
      exact (List.countP_cons_of_neg (by simp [Entry.accepted])).symm
    · simp [granted, Entry.granted, hauthorized]
    · simp [warned, Entry.warned, hwritten]

/-! ## Histories -/

/-- The state is as its history tells, and so is what the next call does. -/
structure Absorbs (logger : Option Fields) (es : List Entry) (a : Aggregator) : Prop where
  /-- The number of batches absorbed. -/
  absorbed : a.aggregate.absorbed = accepted es
  /-- The result holds what was authorized, call by call. -/
  authorized : a.aggregate.authorized.docIds = granted es
  /-- The log holds the warnings of the batches absorbed, call by call. -/
  written : a.written = warned logger es
  /-- A call raises exactly when its batch is not the next one. -/
  raises_iff : ∀ (b : Batch) (rows : List Row),
    (∃ f : Fault, f.kind = .value ∧ (a.absorb b rows).1 = .error f) ↔ b.index ≠ accepted es
  /-- Then it changes nothing. -/
  unchanged : ∀ (b : Batch) (rows : List Row), b.index ≠ accepted es → (a.absorb b rows).2 = a
  /-- Else it decides each document of the batch, adds those that some row names to the result, and
  warns of each row that names none. -/
  absorbs : ∀ (b : Batch) (rows : List Row), b.index = accepted es →
    a.absorb b rows = (.ok (decided b rows), { a with
      aggregate := ⟨⟨granted es ++ confirmed b rows⟩, accepted es + 1⟩
      written := warned logger es ++ warnings logger b rows })

/-- A state that is as told absorbs as told. -/
theorem Told.absorbs (h : Told logger es a) : Absorbs logger es a where
  absorbed := h.absorbed
  authorized := h.authorized
  written := h.written
  raises_iff b rows := by
    by_cases hindex : b.index = a.aggregate.absorbed
    · rw [absorb_of_eq hindex, ← h.absorbed]
      simp [hindex]
    · rw [absorb_of_ne hindex, ← h.absorbed]
      exact ⟨fun _ => hindex, fun _ => ⟨_, rfl, rfl⟩⟩
  unchanged b rows hindex := by rw [absorb_of_ne (h.absorbed ▸ hindex)]
  absorbs b rows hindex := by
    rw [absorb_of_eq (h.absorbed ▸ hindex), AuthorizedDocuments.extend, h.authorized, h.absorbed,
      h.written, h.logger_eq]

/-- Calls with the same batch whose answers agree come to the same decisions and result. -/
theorem absorb_of_agree {a' : Aggregator} (haggregate : a.aggregate = a'.aggregate) {b : Batch}
    {rows rows' : List Row} (h : Agree b rows rows') :
    (a.absorb b rows).1 = (a'.absorb b rows').1 ∧
      (a.absorb b rows).2.aggregate = (a'.absorb b rows').2.aggregate := by
  by_cases hindex : b.index = a.aggregate.absorbed
  · rw [absorb_of_eq hindex, absorb_of_eq (haggregate ▸ hindex), h.decided_eq, h.confirmed_eq,
      haggregate]
    exact ⟨rfl, rfl⟩
  · rw [absorb_of_ne hindex, absorb_of_ne (haggregate ▸ hindex)]
    exact ⟨by rw [haggregate], haggregate⟩

/-- **Answers that name the same documents come to the same**, call by call and in the result. -/
theorem outcomes_of_agreement (logger : Option Fields) {calls calls' : List (Batch × List Row)}
    (h : List.Forall₂ (fun c c' => c.1 = c'.1 ∧ Agree c.1 c.2 c'.2) calls calls') :
    let h := History.run Aggregator.observe (start logger) calls
    let h' := History.run Aggregator.observe (start logger) calls'
    h.entries.map Entry.outcome = h'.entries.map Entry.outcome ∧
      h.world.aggregate = h'.world.aggregate := by
  let Alike := fun h h' : History Aggregator Entry =>
    h.entries.map Entry.outcome = h'.entries.map Entry.outcome ∧
      h.world.aggregate = h'.world.aggregate
  have hstep : ∀ h h', Alike h h' → ∀ c c' : Batch × List Row,
      c.1 = c'.1 ∧ Agree c.1 c.2 c'.2 →
      Alike (History.next Aggregator.observe h c) (History.next Aggregator.observe h' c') := by
    rintro h h' ⟨hentries, hworld⟩ ⟨b, rows⟩ ⟨-, rows'⟩ ⟨rfl, hagree⟩
    obtain ⟨houtcome, haggregate⟩ := absorb_of_agree hworld hagree
    exact ⟨congrArg₂ List.cons houtcome hentries, haggregate⟩
  exact List.rel_foldl hstep ⟨rfl, rfl⟩ h

/-- **After any calls the state is as its history tells**, and so is what the next call does. Rows
in another order, repeated rows and rows for other documents change neither decisions nor result. -/
theorem absorbs_of_history (logger : Option Fields) (calls : List (Batch × List Row)) :
    let h := History.run Aggregator.observe (start logger) calls
    Absorbs logger h.entries h.world ∧
    ∀ calls', List.Forall₂ (fun c c' => c.1 = c'.1 ∧ Rearranged c.1 c.2 c'.2) calls calls' →
      let h' := History.run Aggregator.observe (start logger) calls'
      h.entries.map Entry.outcome = h'.entries.map Entry.outcome ∧
        h.world.aggregate = h'.world.aggregate := by
  have htold := History.invariant Aggregator.observe (told_start logger)
    (fun call es a h => h.observe call) calls
  refine ⟨htold.absorbs, fun calls' hcalls => ?_⟩
  exact outcomes_of_agreement logger (hcalls.imp fun _ _ h => ⟨h.1, h.2.agree⟩)

end Aggregator
end DocAccess
