import Mathlib.Logic.Basic

/-!
# Programs that make calls

A program ends with a value, or makes a call and goes on with the answer. What the
environment may answer depends on its state, which each answered call changes, so
`Run` relates a program and a state to every value it may end with and the state it
leaves. The lemmas take the run of a compound program apart, one call at a time.
-/

namespace Programs

/-- A call `c` is answered with an `A c`. -/
inductive Prog (C : Type) (A : C → Type) (α : Type) where
  | done (a : α)
  | call (c : C) (next : A c → Prog C A α)

variable {C : Type} {A : C → Type} {α β σ : Type}

def Prog.bind : Prog C A α → (α → Prog C A β) → Prog C A β
  | .done a, f => f a
  | .call c next, f => .call c fun answer => (next answer).bind f

instance : Monad (Prog C A) where
  pure := .done
  bind := Prog.bind

/-- A single call. -/
def perform (c : C) : Prog C A (A c) := .call c .done

structure Environment (C : Type) (A : C → Type) (σ : Type) where
  answers : σ → (c : C) → A c → Prop
  after : σ → (c : C) → A c → σ

/-- The environment with fewer answers. -/
def Environment.restrict (env : Environment C A σ) (may : σ → (c : C) → A c → Prop) :
    Environment C A σ where
  answers s c answer := env.answers s c answer ∧ may s c answer
  after := env.after

inductive Run (env : Environment C A σ) : Prog C A α → σ → α → σ → Prop where
  | done (a : α) (s : σ) : Run env (.done a) s a s
  | call {c : C} {next : A c → Prog C A α} {s t : σ} {a : α} (answer : A c)
      (h : env.answers s c answer) (rest : Run env (next answer) (env.after s c answer) a t) :
      Run env (.call c next) s a t

variable {env : Environment C A σ}

theorem run_pure {a b : α} {s t : σ} :
    Run env (pure a : Prog C A α) s b t ↔ b = a ∧ t = s := by
  constructor
  · intro h
    cases h
    exact ⟨rfl, rfl⟩
  · rintro ⟨rfl, rfl⟩
    exact .done b t

theorem run_perform {c : C} {a : A c} {s t : σ} :
    Run env (perform c) s a t ↔ env.answers s c a ∧ t = env.after s c a := by
  constructor
  · intro h
    cases h with
    | call answer h rest =>
      cases rest
      exact ⟨h, rfl⟩
  · rintro ⟨h, rfl⟩
    exact .call a h (.done _ _)

/-- A compound program runs its first part and then its second. -/
theorem run_bind {p : Prog C A α} {f : α → Prog C A β} {s u : σ} {b : β} :
    Run env (p >>= f) s b u ↔ ∃ a t, Run env p s a t ∧ Run env (f a) t b u := by
  constructor
  · intro h
    induction p generalizing s with
    | done a => exact ⟨a, s, .done a s, h⟩
    | call c next ih =>
      cases h with
      | call answer hanswer rest =>
        obtain ⟨a, t, hfirst, hsecond⟩ := ih answer rest
        exact ⟨a, t, .call answer hanswer hfirst, hsecond⟩
  · rintro ⟨a, t, hfirst, hsecond⟩
    induction hfirst with
    | done a s => exact hsecond
    | call answer hanswer rest ih => exact .call answer hanswer (ih hsecond)

/-- What runs with fewer answers runs with all of them. -/
theorem Run.of_restrict {may : σ → (c : C) → A c → Prop} {p : Prog C A α} {s t : σ} {a : α}
    (h : Run (env.restrict may) p s a t) : Run env p s a t := by
  induction h with
  | done a s => exact .done a s
  | call answer hanswer rest ih => exact .call answer hanswer.1 ih

end Programs
