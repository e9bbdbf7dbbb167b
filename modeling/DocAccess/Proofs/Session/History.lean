import Mathlib.Data.List.Induction

/-!
# Histories

Steps that are made one after another in a world, with what is seen of each of them. What one step
preserves, a whole history has.

## Main statements

* `History.invariant` — the step lemma lifted to histories.
-/
namespace DocAccess

/-- What was seen of some steps, newest first, and the world that they lead to. -/
structure History (σ ε : Type) where
  entries : List ε
  world : σ

namespace History

variable {σ ε α : Type} {step : α → σ → ε × σ}

/-- A history with one more step. -/
def next (step : α → σ → ε × σ) (h : History σ ε) (a : α) : History σ ε :=
  ⟨(step a h.world).1 :: h.entries, (step a h.world).2⟩

/-- The history of steps that are made in order. -/
def run (step : α → σ → ε × σ) (w : σ) (as : List α) : History σ ε := as.foldl (next step) ⟨[], w⟩

/-- What was seen before does not matter for the world. -/
theorem world_foldl (h : History σ ε) (as : List α) :
    (as.foldl (next step) h).world = (run step h.world as).world := by
  unfold run
  induction as using List.reverseRecOn with
  | nil => rfl
  | append_singleton as a ih =>
    simp only [List.foldl_append, List.foldl_cons, List.foldl_nil, next, ih]

/-- The world after a first step and others. -/
theorem world_run_cons (w : σ) (a : α) (as : List α) :
    (run step w (a :: as)).world = (run step (step a w).2 as).world :=
  world_foldl (next step ⟨[], w⟩ a) as

/-- A history grows at its end. -/
theorem run_append (w : σ) (as bs : List α) :
    run step w (as ++ bs) = bs.foldl (next step) (run step w as) := by
  rw [run, List.foldl_append, run]

/-- What is seen later comes on top. -/
theorem entries_run_append (w : σ) (as bs : List α) :
    (run step w as).entries <:+ (run step w (as ++ bs)).entries := by
  rw [run_append]
  induction bs using List.reverseRecOn with
  | nil => exact List.suffix_refl _
  | append_singleton bs b ih =>
    rw [List.foldl_append]
    exact ih.trans (List.suffix_cons _ _)

/-- **What each step preserves, a history has.** -/
theorem invariant (step : α → σ → ε × σ) {I : List ε → σ → Prop} {w : σ} (hstart : I [] w)
    (hstep : ∀ a es v, I es v → I ((step a v).1 :: es) (step a v).2) (as : List α) :
    I (run step w as).entries (run step w as).world := by
  let J : History σ ε → Prop := fun h => I h.entries h.world
  have hempty : J ⟨[], w⟩ := hstart
  exact List.foldlRecOn as (next step) hempty fun h hJ a _ => hstep a h.entries h.world hJ

end History
end DocAccess
