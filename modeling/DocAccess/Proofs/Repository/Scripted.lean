import DocAccess.Repository.Scripted
import DocAccess.Proofs.Session.AtOnce
import DocAccess.Proofs.Session.Deadline

/-!
# Scripts and their repositories

What all steps of a script have in common, all calls on its repository have, however many
queries it gets: a script without waits answers at once, and one whose faults do not say that
time ran out never says so.
-/
namespace DocAccess

/-- Whether a step does not say that time ran out. -/
def StepEffect.isTimely : StepEffect → Bool
  | .raise f => !f.isTimeout
  | _ => true

namespace Script

/-- Every step of a script. -/
def steps (s : Script) : List ScriptStep :=
  s.opening :: s.impersonation :: s.closing :: s.defaultQuery.step ::
    s.queries.map ScriptedQuery.step

/-- The step of any query is one of the script. -/
theorem step_queryStep_mem (s : Script) (k : Nat) : (s.queryStep k).step ∈ s.steps := by
  rw [queryStep, steps]
  cases hq : s.queries[k]? with
  | none => simp
  | some q =>
    have hmem : q ∈ s.queries := List.mem_of_getElem? hq
    simp only [Option.getD_some, List.mem_cons, List.mem_map]
    exact .inr (.inr (.inr (.inr ⟨q, hmem, rfl⟩)))

/-- A script without waits never waits. -/
theorem atOnce (s : Script) (name : String) (h : ∀ step ∈ s.steps, step.wait = .immediate) :
    (s.repository name).AtOnce := by
  intro c w
  cases c with
  | openSession => exact h s.opening (by simp [steps])
  | setTimeout => rfl
  | impersonate => exact h s.impersonation (by simp [steps])
  | query number request => exact h _ (s.step_queryStep_mem _)
  | closeSession => exact h s.closing (by simp [steps])

/-- A step whose fault does not say that time ran out plays a call that does not say so. -/
theorem isTimely_play {α : Type} {step : ScriptStep} (h : step.effect.isTimely = true)
    (f : ScriptState → α × ScriptState) (failed : RepositoryError → α) (w v : ScriptState) :
    (Ended.ofExcept ((play step w f failed).finish v).outcome).IsTimely := by
  unfold play
  cases heffect : step.effect with
  | succeed => trivial
  | fail e => trivial
  | raise fault =>
    rw [heffect] at h
    change fault.isTimeout = false
    simpa [StepEffect.isTimely] using h

/-- A script whose faults do not say that time ran out plays a repository that never says so. -/
theorem timely (s : Script) (name : String) (h : ∀ step ∈ s.steps, step.effect.isTimely = true) :
    (s.repository name).Timely := by
  intro c w v
  cases c <;> simp only [repository]
  case openSession => exact isTimely_play (h s.opening (by simp [steps])) _ _ w v
  case setTimeout => trivial
  case impersonate => exact isTimely_play (h s.impersonation (by simp [steps])) _ _ w v
  case query => exact isTimely_play (h _ (s.step_queryStep_mem _)) _ _ _ v
  case closeSession => exact isTimely_play (h s.closing (by simp [steps])) _ _ w v

end Script
end DocAccess
