import Mathlib.Logic.Function.Basic

/-!
# Partial maps and their updates

A partial map is a function to an option. After one key got a new entry, or lost
its own, an entry that is found is the new one or an old one of another key.
-/

namespace Maps

variable {κ α : Type} [DecidableEq κ] {map : κ → Option α} {key other : κ} {a : α}

/-- An entry of an updated map is the new one, or an old one of another key. -/
theorem update_eq_some {entry : Option α} (h : Function.update map key entry other = some a) :
    (other = key ∧ entry = some a) ∨ (other ≠ key ∧ map other = some a) := by
  by_cases hk : other = key
  · subst hk
    rw [Function.update_self] at h
    exact .inl ⟨rfl, h⟩
  · rw [Function.update_of_ne hk] at h
    exact .inr ⟨hk, h⟩

theorem update_some_eq_some {b : α} (h : Function.update map key (some b) other = some a) :
    (other = key ∧ a = b) ∨ (other ≠ key ∧ map other = some a) := by
  rcases update_eq_some h with ⟨hk, hnew⟩ | hold
  · exact .inl ⟨hk, (Option.some.inj hnew).symm⟩
  · exact .inr hold

theorem update_none_eq_some (h : Function.update map key none other = some a) :
    other ≠ key ∧ map other = some a := by
  rcases update_eq_some h with ⟨_, hnew⟩ | hold
  · cases hnew
  · exact hold

end Maps
