import DocAccess.Documents
import DocAccess.Proofs.Session.History
import Mathlib.Logic.Function.Basic

/-!
# Histories of authorized documents

Documents are added, one by one or many at once, while others go through them. Every list of the
documents that was taken on the way is the beginning of every later one. Whoever goes through the
documents visits those that were there at the beginning, and comes to an end, whatever is added in
between: so adding the documents to themselves doubles them, and adding one at each visit ends.

## Main definitions

* `AuthorizedDocuments.Step`, `AuthorizedDocuments.Seen` — steps, and what is seen of them.
* `appended`, `begun`, `visits` — what a history tells.
* `Growing` — the documents and the cursors over them are as their history tells.

## Main statements

* `docIds_act` — a step adds at the end.
* `Kept.observe` — a step keeps the documents and the cursors as they are told.
* `growing_of_history` — after all steps they are as their history tells.
-/
namespace DocAccess
namespace AuthorizedDocuments

/-! ## Steps and what is seen of them -/

/-- Documents, and the cursors that go through them, by number. -/
structure Reading where
  documents : AuthorizedDocuments
  cursors : Nat → Cursor

/-- Documents that nobody goes through. -/
def Reading.ofList (docIds : List Text) : Reading := ⟨⟨docIds⟩, fun _ => ⟨[]⟩⟩

/-- A step. -/
inductive Step where
  | add (id : Text)
  | extend (ids : List Text)
  | extendSelf
  | iterateAdding (f : Text → Text)
  /-- Cursor `k` is put before the first document. -/
  | start (k : Nat)
  /-- Cursor `k` moves on. -/
  | move (k : Nat)

/-- What is seen of a step. -/
structure Seen where
  step : Step
  /-- The identifiers visited on the way. -/
  visited : List Text
  /-- The identifiers listed afterwards. -/
  listed : List Text

/-- Makes a step. The result holds the identifiers visited on the way. -/
def act : Step → Reading → List Text × Reading
  | .add id, r => ([], { r with documents := r.documents.add id })
  | .extend ids, r => ([], { r with documents := r.documents.extend ids })
  | .extendSelf, r => ([], { r with documents := r.documents.extendSelf })
  | .iterateAdding f, r =>
    let (visited, documents) := r.documents.iterateAdding f
    (visited, { r with documents := documents })
  | .start k, r => ([], { r with cursors := Function.update r.cursors k r.documents.cursor })
  | .move k, r =>
    let (id?, cursor) := (r.cursors k).next
    (id?.toList, { r with cursors := Function.update r.cursors k cursor })

/-- Makes a step and looks at the documents. -/
def observe (step : Step) (r : Reading) : Seen × Reading :=
  (⟨step, (act step r).1, (act step r).2.documents.docIds⟩, (act step r).2)

namespace Step

/-- What the step is to add to the documents listed. -/
def appends (listed : List Text) : Step → List Text
  | add id => [id]
  | extend ids => ids
  | extendSelf => listed
  | iterateAdding f => listed.map f
  | start _ | move _ => []

/-- Whether the step puts cursor `k` before the first document. -/
def starts (k : Nat) : Step → Bool
  | start j => j == k
  | _ => false

/-- Whether the step moves cursor `k` on. -/
def moves (k : Nat) : Step → Bool
  | move j => j == k
  | _ => false

end Step

section Histories

variable (docIds : List Text) (k : Nat)

/-- The identifiers listed last. -/
def standing : List Seen → List Text
  | [] => docIds
  | e :: _ => e.listed

/-- All lists that were taken, newest first. -/
def snapshots (es : List Seen) : List (List Text) := es.map Seen.listed ++ [docIds]

/-- All that was to be added, in order. -/
def appended : List Seen → List Text
  | [] => []
  | e :: es => appended es ++ e.step.appends (standing docIds es)

/-- The identifiers that were listed when cursor `k` was put before the first of them. -/
def begun : List Seen → List Text
  | [] => []
  | e :: es => if e.step.starts k then standing docIds es else begun es

/-- What cursor `k` has visited since, move by move. -/
def visits : List Seen → List (List Text)
  | [] => []
  | e :: es =>
    if e.step.starts k then []
    else if e.step.moves k then visits es ++ [e.visited] else visits es

end Histories

/-! ## One step -/

/-- **A step adds at the end** what it is to add, and takes nothing away. -/
theorem docIds_act (step : Step) (r : Reading) :
    (act step r).2.documents.docIds =
      r.documents.docIds ++ step.appends r.documents.docIds := by
  cases step <;> simp [act, Step.appends]

/-- Going through the documents visits those that are there. -/
theorem fst_act_iterateAdding (f : Text → Text) (r : Reading) :
    (act (.iterateAdding f) r).1 = r.documents.docIds := fst_iterateAdding r.documents f

namespace Cursor

/-- The next visit is to the first identifier that is left. -/
theorem fst_next (c : Cursor) : c.next.1 = c.pending[0]? := by
  obtain ⟨_ | _⟩ := c <;> rfl

/-- A visit leaves the other identifiers. -/
theorem pending_next (c : Cursor) : c.next.2.pending = c.pending.drop 1 := by
  obtain ⟨_ | _⟩ := c <;> rfl

/-- The cursor has made its visits to the documents listed, one identifier at each and then none,
and has the others before it. -/
structure Follows (c : Cursor) (listed : List Text) (visited : List (List Text)) : Prop where
  pending_eq : c.pending = listed.drop visited.length
  visited_eq : ∀ (i : Nat) (ids : List Text), visited[i]? = some ids → ids = listed[i]?.toList

/-- A cursor begins before the first document. -/
theorem follows_cursor (d : AuthorizedDocuments) : d.cursor.Follows d.docIds [] where
  pending_eq := rfl
  visited_eq _ _ hids := by cases hids

/-- The next visit is to the next document. -/
theorem Follows.next {c : Cursor} {listed : List Text} {visited : List (List Text)}
    (h : c.Follows listed visited) : c.next.2.Follows listed (visited ++ [c.next.1.toList]) where
  pending_eq := by
    rw [pending_next, h.pending_eq, List.drop_drop, List.length_append, List.length_singleton]
  visited_eq i ids hids := by
    rcases Nat.lt_trichotomy i visited.length with hlt | rfl | hgt
    · rw [List.getElem?_append_left hlt] at hids
      exact h.visited_eq i ids hids
    · rw [List.getElem?_concat_length, Option.some.injEq] at hids
      rw [← hids, fst_next, h.pending_eq, List.getElem?_drop, Nat.add_zero]
    · have hlen : (visited ++ [c.next.1.toList]).length ≤ i := by
        rw [List.length_append, List.length_singleton]
        exact hgt
      rw [List.getElem?_eq_none hlen] at hids
      cases hids

end Cursor

/-! ## What a history tells -/

variable {docIds : List Text} {es : List Seen} {r : Reading}

/-- The documents and the cursors are as their history tells. -/
structure Kept (docIds : List Text) (es : List Seen) (r : Reading) : Prop where
  standing_eq : r.documents.docIds = standing docIds es
  appended_eq : r.documents.docIds = docIds ++ appended docIds es
  snapshots : (snapshots docIds es).Pairwise fun later earlier => earlier <+: later
  grown : ∀ newer e older, es = newer ++ e :: older →
    e.listed = standing docIds older ++ e.step.appends (standing docIds older)
  iterated : ∀ newer e older f, es = newer ++ e :: older → e.step = .iterateAdding f →
    e.visited = standing docIds older
  cursors : ∀ k, (r.cursors k).Follows (begun docIds k es) (visits k es)

/-- Nothing has happened before the first step. -/
theorem kept_ofList (docIds : List Text) : Kept docIds [] (.ofList docIds) where
  standing_eq := rfl
  appended_eq := (List.append_nil docIds).symm
  snapshots := List.pairwise_singleton _ _
  grown newer e older h := by simp at h
  iterated newer e older f h := by simp at h
  cursors _ := Cursor.follows_cursor ⟨[]⟩

/-- The list taken last comes first. -/
theorem exists_snapshots_eq (docIds : List Text) (es : List Seen) :
    ∃ rest, snapshots docIds es = standing docIds es :: rest := by
  cases es with
  | nil => exact ⟨[], rfl⟩
  | cons e es => exact ⟨_, rfl⟩

/-- Every list taken is the beginning of the one taken last. -/
theorem Kept.prefix_standing (h : Kept docIds es r) {earlier : List Text}
    (hearlier : earlier ∈ AuthorizedDocuments.snapshots docIds es) :
    earlier <+: standing docIds es := by
  obtain ⟨rest, hrest⟩ := exists_snapshots_eq docIds es
  have hpairs := h.snapshots
  rw [hrest] at hpairs hearlier
  rcases List.mem_cons.mp hearlier with rfl | hmem
  · exact List.prefix_refl _
  · exact (List.pairwise_cons.mp hpairs).1 earlier hmem

/-- A step keeps each cursor on the documents that were there when it began. -/
theorem Kept.cursors_observe (h : Kept docIds es r) (step : Step) (k : Nat) :
    ((act step r).2.cursors k).Follows (begun docIds k ((observe step r).1 :: es))
      (visits k ((observe step r).1 :: es)) := by
  have hcursor := h.cursors k
  cases step with
  | start j =>
    by_cases hj : j = k
    · subst hj
      have hbegins := Cursor.follows_cursor r.documents
      rw [h.standing_eq] at hbegins
      simpa [observe, act, begun, visits, Step.starts] using hbegins
    · simpa [observe, act, begun, visits, Step.starts, Step.moves, hj,
        Function.update_of_ne (Ne.symm hj)] using hcursor
  | move j =>
    by_cases hj : j = k
    · subst hj
      simpa [observe, act, begun, visits, Step.starts, Step.moves] using hcursor.next
    · simpa [observe, act, begun, visits, Step.starts, Step.moves, hj,
        Function.update_of_ne (Ne.symm hj)] using hcursor
  | _ => exact hcursor

/-- **A step keeps the documents and the cursors as they are told.** -/
theorem Kept.observe (h : Kept docIds es r) (step : Step) :
    Kept docIds ((AuthorizedDocuments.observe step r).1 :: es)
      (AuthorizedDocuments.observe step r).2 := by
  have hlisted := docIds_act step r
  have hgrown : (AuthorizedDocuments.observe step r).1.listed =
      standing docIds es ++ step.appends (standing docIds es) := by
    rw [← h.standing_eq]
    exact hlisted
  refine ⟨rfl, ?_, ?_, ?_, ?_, h.cursors_observe step⟩
  · change (act step r).2.documents.docIds = docIds ++ (appended docIds es ++
      step.appends (standing docIds es))
    rw [hlisted, ← h.standing_eq, ← List.append_assoc, ← h.appended_eq]
  · refine List.pairwise_cons.mpr ⟨fun earlier hearlier => ?_, h.snapshots⟩
    rw [hgrown]
    exact (h.prefix_standing hearlier).trans (List.prefix_append _ _)
  · intro newer e older hes
    cases newer with
    | nil =>
      obtain ⟨rfl, rfl⟩ := List.cons.inj hes
      exact hgrown
    | cons x newer => exact h.grown newer e older (List.cons.inj hes).2
  · intro newer e older f hes hstep
    cases newer with
    | nil =>
      obtain ⟨rfl, rfl⟩ := List.cons.inj hes
      obtain rfl : step = .iterateAdding f := hstep
      exact (fst_act_iterateAdding f r).trans h.standing_eq
    | cons x newer => exact h.iterated newer e older f (List.cons.inj hes).2 hstep

/-! ## Histories -/

/-- The documents only ever grow, and whoever goes through them visits what was there. -/
structure Growing (docIds : List Text) (es : List Seen) (r : Reading) : Prop where
  /-- The documents are the first ones and all that was to be added, in order. -/
  docIds_eq : r.documents.docIds = docIds ++ appended docIds es
  /-- Every list that was taken is the beginning of every later one. -/
  snapshots : (snapshots docIds es).Pairwise fun later earlier => earlier <+: later
  /-- Each step has added at the end what it was to add. The documents added to themselves are
  there twice. -/
  grown : ∀ newer e older, es = newer ++ e :: older →
    e.listed = standing docIds older ++ e.step.appends (standing docIds older)
  /-- Adding one document at each visit visits those that were there. -/
  iterated : ∀ newer e older f, es = newer ++ e :: older → e.step = .iterateAdding f →
    e.visited = standing docIds older
  /-- The `i`-th move of a cursor visits the `i`-th of the documents that were there when it began,
  and none after the last of them, whatever has been added since. -/
  visited : ∀ (k i : Nat) (ids : List Text), (visits k es)[i]? = some ids →
    ids = (begun docIds k es)[i]?.toList
  size_eq : r.documents.size = r.documents.docIds.length
  decisions_docId : r.documents.decisions.map Decision.docId = r.documents.docIds
  decisions_isAuthorized : ∀ x ∈ r.documents.decisions, x.isAuthorized = true
  contains_iff : ∀ id, r.documents.contains id = true ↔ id ∈ r.documents.docIds
  eq_iff : ∀ other : AuthorizedDocuments,
    (r.documents == other) = true ↔ r.documents.docIds = other.docIds

/-- Documents that are as they are told only ever grow. -/
theorem Kept.growing (h : Kept docIds es r) : Growing docIds es r where
  docIds_eq := h.appended_eq
  snapshots := h.snapshots
  grown := h.grown
  iterated := h.iterated
  visited k := (h.cursors k).visited_eq
  size_eq := rfl
  decisions_docId := by simp [decisions, Function.comp_def]
  decisions_isAuthorized x hx := by
    obtain ⟨id, -, rfl⟩ := List.mem_map.mp hx
    rfl
  contains_iff id := List.contains_iff_mem
  eq_iff other := by rw [beq_iff_eq, AuthorizedDocuments.mk.injEq]

/-- **After any steps the documents are the first ones and all that was added**, every list taken on
the way is the beginning of the later ones, and every way through the documents leads to those that
were there when it began, and ends after them. -/
theorem growing_of_history (docIds : List Text) (steps : List Step) :
    let h := History.run observe (.ofList docIds) steps
    Growing docIds h.entries h.world :=
  (History.invariant observe (kept_ofList docIds) (fun step _ _ h => h.observe step) steps).growing

/-- A document that is added on the way is listed, and visited from the next beginning on. -/
example :
    let h := History.run observe (.ofList ["a"])
      [.start 0, .add "b", .move 0, .start 1, .move 0, .move 1, .move 1]
    visits 0 h.entries = ([["a"], []] : List (List Text)) ∧
      visits 1 h.entries = ([["a"], ["b"]] : List (List Text)) := by decide

end AuthorizedDocuments
end DocAccess
