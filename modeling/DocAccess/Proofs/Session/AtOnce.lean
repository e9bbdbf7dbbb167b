import DocAccess.Session.Run

/-!
# Repositories that never wait

When no call waits, neither the clock nor a deadline has any part in a run: it is the
evaluation of its program, one call after another.
-/
namespace DocAccess

variable {σ α : Type}

namespace Repository

variable (repository : Repository σ)

/-- No call waits. -/
def AtOnce : Prop := ∀ c w, (repository.start c w).wait = .immediate

/-- The answer of a call that does not wait, and the world that it leaves; or its fault. -/
def ask (c : Call) (w : σ) : Except Fault (c.Answer × σ) :=
  let f := repository.perform c w
  f.outcome.map fun answer => (answer, f.world)

/-- A call that answers ended by returning. -/
theorem perform_of_ask {c : Call} {w v : σ} {answer : c.Answer}
    (h : repository.ask c w = .ok (answer, v)) :
    (repository.perform c w).outcome = .ok answer ∧ (repository.perform c w).world = v := by
  rw [ask] at h
  cases ho : (repository.perform c w).outcome with
  | error f =>
    rw [ho] at h
    cases h
  | ok a =>
    rw [ho] at h
    obtain ⟨ha, hv⟩ := Prod.mk.inj (Except.ok.inj h)
    exact ⟨by rw [ha], hv⟩

end Repository

/-- A sequence of steps returns when each of them does. -/
theorem bind_eq_ok_iff {ε β γ : Type} {x : Except ε β} {f : β → Except ε γ} {c : γ} :
    x >>= f = .ok c ↔ ∃ b, x = .ok b ∧ f b = .ok c := by
  cases x with
  | error e =>
    constructor
    · intro h
      cases h
    · rintro ⟨b, hb, -⟩
      cases hb
  | ok b =>
    constructor
    · intro h
      exact ⟨b, rfl, h⟩
    · rintro ⟨b', hb, hf⟩
      cases hb
      exact hf

namespace Program

variable (repository : Repository σ)

/-- The result of a program whose calls do not wait, and the world that it leaves. -/
def eval : Program α → σ → α × σ
  | .done a, w => (a, w)
  | .log _ rest, w => rest.eval w
  | .call c next, w =>
    let f := repository.perform c w
    (next (.ofExcept f.outcome)).eval f.world

@[simp] theorem eval_done (a : α) (w : σ) : (done a).eval repository w = (a, w) := rfl

@[simp] theorem eval_log (e : Event) (p : Program α) (w : σ) :
    (log e p).eval repository w = p.eval repository w := rfl

@[simp] theorem eval_logAll (es : List Event) (p : Program α) (w : σ) :
    (logAll es p).eval repository w = p.eval repository w := by
  induction es with
  | nil => rfl
  | cons e es ih => exact ih

/-- A call that answers goes on with its answer, in the world that it leaves. -/
theorem eval_call {c : Call} {w v : σ} {answer : c.Answer}
    (h : repository.ask c w = .ok (answer, v)) (next : Ended c.Answer → Program α) :
    (call c next).eval repository w = (next (.returned answer)).eval repository v := by
  obtain ⟨houtcome, hworld⟩ := repository.perform_of_ask h
  rw [eval, houtcome, hworld]
  rfl

/-- **A run whose calls do not wait is the evaluation of its program**, whatever the deadline. -/
theorem run_of_atOnce (h : repository.AtOnce) (p : Program α) (deadline : Option Int)
    (now : Nat) (w : σ) :
    (p.run repository deadline now w).result = some (p.eval repository w).1 ∧
      (p.run repository deadline now w).world = (p.eval repository w).2 ∧
      (p.run repository deadline now w).clock = now := by
  induction p generalizing w with
  | done a => exact ⟨rfl, rfl, rfl⟩
  | log e rest ih => exact ih w
  | call c next ih =>
    simp only [run, h c w, Wait.under_immediate]
    exact ih _ _

end Program
end DocAccess
