import DocAccess.Proofs.Repository.Scripted
import DocAccess.Proofs.Session.Trail

/-!
# Repositories that differ in closing only

Two repositories over worlds of their own may be alike in every call but the one that closes a
session. A program then makes the same calls in both, at the same instants and with the same
ends, until it closes one.

## Main definitions

* `Repository.Twins` — repositories that are alike until a session is closed.
* `Program.Reaches` — a run that goes on as that of another program after some visits.

## Main statements

* `Twins.call` — a call that closes no session ends alike in both, or in neither.
* `Script.twins` — scripts that differ in closing only.
-/
namespace DocAccess

variable {σ τ α : Type}

/-- Repositories that are alike until a session is closed: in worlds that belong together every
other call waits as long, ends in the same way and leads to worlds that belong together, also when
it is cancelled. -/
structure Repository.Twins (first : Repository σ) (second : Repository τ) (rel : σ → τ → Prop) :
    Prop where
  wait : ∀ {c w v}, (∀ n, c ≠ .closeSession n) → rel w v →
    (first.start c w).wait = (second.start c v).wait
  outcome : ∀ {c w v}, (∀ n, c ≠ .closeSession n) → rel w v →
    (first.perform c w).outcome = (second.perform c v).outcome
  performed : ∀ {c w v}, (∀ n, c ≠ .closeSession n) → rel w v →
    rel (first.perform c w).world (second.perform c v).world
  cancelled : ∀ {c w v}, (∀ n, c ≠ .closeSession n) → rel w v →
    rel ((first.start c w).cancel (first.start c w).world)
      ((second.start c v).cancel (second.start c v).world)

namespace Program

/-- The run of `p` goes on as that of `q` after the visits. -/
structure Reaches (repository : Repository σ) (p : Program α) (deadline : Option Int) (now : Nat)
    (w : σ) (visits : List Visit) (q : Program α) (left : Option Int) (clock : Nat) (w' : σ) :
    Prop where
  result : (p.run repository deadline now w).result = (q.run repository left clock w').result
  visits : (p.trail repository deadline now w).visits =
    visits ++ (q.trail repository left clock w').visits

variable {repository : Repository σ} {p q r : Program α} {deadline left left' : Option Int}
  {now clock clock' : Nat} {w w' w'' : σ} {us vs : List Visit}

/-- A run goes on as itself. -/
theorem Reaches.refl : Reaches repository p deadline now w [] p deadline now w := ⟨rfl, rfl⟩

/-- A run goes on as the one that its continuation goes on as. -/
theorem Reaches.trans (h : Reaches repository p deadline now w us q left clock w')
    (h' : Reaches repository q left clock w' vs r left' clock' w'') :
    Reaches repository p deadline now w (us ++ vs) r left' clock' w'' where
  result := h.result.trans h'.result
  visits := by rw [h.visits, h'.visits, List.append_assoc]

/-- An event is no visit. -/
theorem Reaches.log (h : Reaches repository p deadline now w us q left clock w') (e : Event) :
    Reaches repository (.log e p) deadline now w us q left clock w' := ⟨h.result, h.visits⟩

end Program

namespace Repository.Twins

variable {first : Repository σ} {second : Repository τ} {rel : σ → τ → Prop}

/-- **A call that closes no session ends in both runs alike**, and they go on in worlds that belong
together, or it ends in neither. -/
theorem call (h : first.Twins second rel) {c : Call} (hc : ∀ n, c ≠ .closeSession n)
    (next : Ended c.Answer → Program α) (deadline : Option Int) (now : Nat) {w : σ} {v : τ}
    (hrel : rel w v) :
    (((Program.call c next).run first deadline now w).result = none ∧
      ((Program.call c next).run second deadline now v).result = none) ∨
    ∃ (ended : Nat) (how : Ended c.Answer) (left : Option Int) (w' : σ) (v' : τ), rel w' v' ∧
      (Program.call c next).Reaches first deadline now w [⟨c, now, some (ended, how)⟩] (next how)
        left ended w' ∧
      (Program.call c next).Reaches second deadline now v [⟨c, now, some (ended, how)⟩] (next how)
        left ended v' := by
  have hwait := h.wait hc hrel
  cases hu : (second.start c v).wait.under deadline now with
  | elapsed clock =>
    refine .inr ⟨clock, .ofExcept (second.perform c v).outcome, deadline,
      (first.perform c w).world, (second.perform c v).world, h.performed hc hrel, ?_, ?_⟩
    · rw [← h.outcome hc hrel]
      constructor <;> simp only [Program.run, Program.trail, hwait, hu] <;> rfl
    · constructor <;> simp only [Program.run, Program.trail, hu] <;> rfl
  | expired clock =>
    refine .inr ⟨clock, .cancelled, none, _, _, h.cancelled hc hrel, ?_, ?_⟩
    · constructor <;> simp only [Program.run, Program.trail, hwait, hu] <;> rfl
    · constructor <;> simp only [Program.run, Program.trail, hu] <;> rfl
  | never =>
    refine .inl ⟨?_, ?_⟩
    · simp only [Program.run, hwait, hu]
    · simp only [Program.run, hu]

end Repository.Twins

/-- **Scripts that differ in closing only** play repositories that are alike until a session is
closed. -/
theorem Script.twins (s : Script) (closing : ScriptStep) (name : String) :
    (s.repository name).Twins (repository { s with closing } name) Eq := by
  have hstart : ∀ (c : Call) (w : ScriptState), (∀ n, c ≠ .closeSession n) →
      (s.repository name).start c w = (repository { s with closing } name).start c w := by
    intro c w hc
    cases c with
    | closeSession n => exact absurd rfl (hc n)
    | _ => rfl
  constructor
  · rintro c w - hc rfl
    rw [hstart c w hc]
  · rintro c w - hc rfl
    rw [Repository.perform, Repository.perform, hstart c w hc]
  · rintro c w - hc rfl
    rw [Repository.perform, Repository.perform, hstart c w hc]
  · rintro c w - hc rfl
    rw [hstart c w hc]

end DocAccess
