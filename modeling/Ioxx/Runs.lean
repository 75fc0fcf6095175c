import Mathlib.Logic.Function.Basic

/-!
# Finite runs of a partial transition system

An action either fires and yields the next state, or is not enabled. Every
choice an environment makes (a scheduler, a kernel, a failing call) is part of
the action, so a run is a list of actions and nothing else. `Reach` restricts
the runs to those whose actions meet a condition on the action and on the state
it fires in; `Reachable` is the unrestricted case.
-/

namespace Runs

variable {σ ι : Type}

/-- Fire a finite schedule; `none` means that some action of it was not enabled. -/
def run (step : ι → σ → Option σ) : List ι → σ → Option σ
  | [], s => some s
  | a :: rest, s => (step a s).bind (run step rest)

/-- The states reached from `s₀` by enabled actions that all meet `ok`. -/
inductive Reach (step : ι → σ → Option σ) (ok : ι → σ → Prop) (s₀ : σ) : σ → Prop where
  | refl : Reach step ok s₀ s₀
  | tail {s t : σ} (a : ι) : Reach step ok s₀ s → ok a s → step a s = some t → Reach step ok s₀ t

/-- The states reached by any enabled actions at all. -/
abbrev Reachable (step : ι → σ → Option σ) (s₀ : σ) : σ → Prop := Reach step (fun _ _ => True) s₀

variable {step : ι → σ → Option σ} {ok : ι → σ → Prop} {s₀ s t : σ}

/-- The invariant rule: what holds initially and survives every admitted step
holds in every state of every admitted run. -/
theorem Reach.invariant {I : σ → Prop} (h : Reach step ok s₀ s) (start : I s₀)
    (keep : ∀ a u v, I u → ok a u → step a u = some v → I v) : I s := by
  induction h with
  | refl => exact start
  | tail a _ hok hstep ih => exact keep a _ _ ih hok hstep

theorem Reach.trans (h : Reach step ok s₀ s) (h' : Reach step ok s t) : Reach step ok s₀ t := by
  induction h' with
  | refl => exact h
  | tail a _ hok hstep ih => exact .tail a ih hok hstep

/-- A schedule of admitted actions that fires to its end witnesses reachability. -/
theorem reach_of_run (actions : List ι) (admitted : ∀ a ∈ actions, ∀ u, ok a u)
    (h : run step actions s₀ = some s) : Reach step ok s₀ s := by
  induction actions generalizing s₀ with
  | nil =>
    cases h
    exact .refl
  | cons a rest ih =>
    obtain ⟨u, hu, hrest⟩ := Option.bind_eq_some_iff.mp h
    have hfirst : Reach step ok s₀ u := .tail a .refl (admitted a List.mem_cons_self s₀) hu
    exact hfirst.trans (ih (fun b hb => admitted b (List.mem_cons_of_mem a hb)) hrest)

theorem reachable_of_run (actions : List ι) (h : run step actions s₀ = some s) :
    Reachable step s₀ s :=
  reach_of_run actions (fun _ _ _ => trivial) h

/-- The simulation rule: when every step from a state that meets the invariant is a step
of another system between the images, a whole run is a run of that system. -/
theorem run_simulates {τ : Type} {step' : ι → τ → Option τ} {image : σ → τ} {I : σ → Prop}
    (simulates : ∀ a u v, I u → step a u = some v → step' a (image u) = some (image v) ∧ I v)
    (actions : List ι) (start : I s₀) (h : run step actions s₀ = some s) :
    run step' actions (image s₀) = some (image s) := by
  induction actions generalizing s₀ with
  | nil =>
    cases h
    rfl
  | cons a rest ih =>
    obtain ⟨u, hu, hrest⟩ := Option.bind_eq_some_iff.mp h
    obtain ⟨hstep, hkept⟩ := simulates a s₀ u start hu
    rw [run, hstep, Option.bind_some]
    exact ih hkept hrest

/-- The variant rule: steps that keep the invariant and make the weight smaller are at most as
many as the weight. -/
theorem run_decreases {I : σ → Prop} {w : σ → Nat}
    (decreases : ∀ a u v, I u → step a u = some v → I v ∧ w v < w u)
    (actions : List ι) (start : I s₀) (h : run step actions s₀ = some s) :
    I s ∧ actions.length + w s ≤ w s₀ := by
  induction actions generalizing s₀ with
  | nil =>
    cases h
    exact ⟨start, Nat.le_of_eq (Nat.zero_add _)⟩
  | cons a rest ih =>
    obtain ⟨u, hu, hrest⟩ := Option.bind_eq_some_iff.mp h
    obtain ⟨hkept, hless⟩ := decreases a s₀ u start hu
    obtain ⟨hend, hlength⟩ := ih hkept hrest
    refine ⟨hend, ?_⟩
    rw [List.length_cons]
    omega

end Runs
