import DocAccess.Proofs.Session.AtOnce

/-!
# Taking turns

Programs that share a repository may go on one call at a time, in any order. A party is such a
program between two of its calls; `Program.advance?` is its next call. `Program.Bounded` says how
many calls a program still makes and of which kind, so that enough turns end it.
-/
namespace DocAccess

variable {σ α β : Type}

/-- A call that a party made: how it came out, and the world in which it was made. -/
structure Deed (σ : Type) where
  call : Call
  outcome : Except Fault call.Answer
  world : σ

/-- The session that the call opened. -/
def Deed.opened? : Deed σ → Option Session
  | ⟨.openSession, .ok (.ok session), _⟩ => some session
  | _ => none

/-- A program that takes turns with others: what is left of it, and the calls that it made. -/
structure Party (σ α : Type) where
  rest : Program α
  deeds : List (Deed σ)

namespace Program

variable (repository : Repository σ)

/-- The result of a program without further calls. -/
def result? : Program α → Option α
  | .done a => some a
  | .log _ rest => rest.result?
  | .call .. => none

/-- The next call of a program, the world that it leaves and what is left of the program. -/
def advance? : Program α → σ → Option (Deed σ × σ × Program α)
  | .done _, _ => none
  | .log _ rest, w => rest.advance? w
  | .call c next, w =>
    let f := repository.perform c w
    some (⟨c, f.outcome, w⟩, f.world, next (.ofExcept f.outcome))

/-- A program has a next call until it has a result. -/
theorem advance?_eq_none_iff {p : Program α} {w : σ} :
    p.advance? repository w = none ↔ p.result? ≠ none := by
  induction p with
  | done a => simp [advance?, result?]
  | log e rest ih => exact ih
  | call c next _ => simp [advance?, result?]

/-- A program without further calls evaluates to its result. -/
theorem eval_of_result? {p : Program α} {a : α} (h : p.result? = some a) (w : σ) :
    (p.eval repository w).1 = a := by
  induction p with
  | done b => exact Option.some.inj h
  | log e rest ih => exact ih h
  | call c next _ => cases h

/-- The result of a program that goes on without further calls. -/
theorem result?_bind (p : Program α) (f : α → Program β) :
    (p.bind f).result? = p.result?.bind fun a => (f a).result? := by
  induction p with
  | done a => rfl
  | log e rest ih => exact ih
  | call c next _ => rfl

/-- A program without further calls ends at once, over every repository. -/
theorem run_of_result? {p : Program α} {a : α} (h : p.result? = some a) (deadline : Option Int)
    (now : Nat) (w : σ) :
    (p.run repository deadline now w).result = some a ∧
      (p.run repository deadline now w).world = w := by
  induction p with
  | done b => exact ⟨h, rfl⟩
  | log e rest ih => exact ih h
  | call c next _ => cases h

/-- A program that goes on without further calls ends as it does, with the result changed. -/
theorem run_bind (p : Program α) {f : α → Program β} {g : α → β}
    (h : ∀ a, (f a).result? = some (g a)) (deadline : Option Int) (now : Nat) (w : σ) :
    ((p.bind f).run repository deadline now w).result =
        (p.run repository deadline now w).result.map g ∧
      ((p.bind f).run repository deadline now w).world =
        (p.run repository deadline now w).world := by
  induction p generalizing deadline now w with
  | done a => exact run_of_result? repository (h a) deadline now w
  | log e rest ih => exact ih deadline now w
  | call c next ih =>
    simp only [call_bind, run]
    cases (repository.start c w).wait.under deadline now with
    | elapsed clock => exact ih _ _ _ _
    | expired clock => exact ih _ _ _ _
    | never => exact ⟨rfl, rfl⟩

/-- The program makes at most `k` calls, all of the kind `P`, however they end. -/
inductive Bounded (P : Call → Prop) : Nat → Program α → Prop
  | done {k : Nat} (a : α) : Bounded P k (.done a)
  | log {k : Nat} {e : Event} {p : Program α} : Bounded P k p → Bounded P k (.log e p)
  | call {k : Nat} {c : Call} {next : Ended c.Answer → Program α} : P c →
      (∀ ended, Bounded P k (next ended)) → Bounded P (k + 1) (.call c next)

namespace Bounded

variable {P : Call → Prop} {k : Nat} {p : Program α}

/-- A bound may be raised. -/
theorem mono (h : Bounded P k p) {l : Nat} (hle : k ≤ l) : Bounded P l p := by
  induction h generalizing l with
  | done a => exact .done a
  | log _ ih => exact .log (ih hle)
  | call hc _ ih =>
    obtain ⟨j, rfl⟩ : ∃ j, l = j + 1 := ⟨l - 1, by omega⟩
    exact .call hc fun ended => ih ended (by omega)

/-- Calls of a kind are calls of every wider kind. -/
theorem imp (h : Bounded P k p) {Q : Call → Prop} (himp : ∀ c, P c → Q c) : Bounded Q k p := by
  induction h with
  | done a => exact .done a
  | log _ ih => exact .log ih
  | call hc _ ih => exact .call (himp _ hc) ih

/-- What a program goes on with adds its calls. -/
theorem bind (h : Bounded P k p) {f : α → Program β} {l : Nat} (hf : ∀ a, Bounded P l (f a)) :
    Bounded P (k + l) (p.bind f) := by
  induction h with
  | done a => exact (hf a).mono (by omega)
  | log _ ih => exact .log ih
  | @call j c next hc _ ih =>
    rw [call_bind, Nat.add_right_comm]
    exact .call hc ih

/-- Events are no calls. -/
theorem logAll (h : Bounded P k p) (es : List Event) : Bounded P k (p.logAll es) := by
  induction es with
  | nil => exact h
  | cons e es ih => exact .log ih

/-- A program that makes no call has a result. -/
theorem result?_ne_none (h : Bounded P 0 p) : p.result? ≠ none := by
  generalize hk : 0 = k at h
  induction h with
  | done a => simp [result?]
  | log _ ih => exact ih hk
  | call => cases hk

/-- A call of the program is of its kind and leaves one call less. -/
theorem advance {repository : Repository σ} (h : Bounded P k p) {w v : σ} {deed : Deed σ}
    {rest : Program α} (hadvance : p.advance? repository w = some (deed, v, rest)) :
    ∃ j, k = j + 1 ∧ P deed.call ∧ Bounded P j rest := by
  induction h with
  | done a => cases hadvance
  | log _ ih => exact ih hadvance
  | @call j c next hc hnext _ =>
    cases hadvance
    exact ⟨j, rfl, hc, hnext _⟩

end Bounded

end Program
end DocAccess
