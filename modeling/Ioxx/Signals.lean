import Ioxx.Runs
import Ioxx.Maps
import Mathlib.Data.Finset.Basic

/-!
# Signals through `signalfd`

The Linux `Signals::Impl` of `signals.cpp`, for any number of objects of one
process. The process has one mask of blocked signals; `add` blocks, and `remove`
and the destructor unblock without looking at the other objects or at what was
blocked before. All system calls succeed, so an `Impl` is its mask.
-/

namespace Signalfd

open Runs Maps

def SIGKILL : Nat := 9
def SIGSTOP : Nat := 19

/-- A valid signal that can be caught. -/
abbrev Signal := { signum : Nat // 1 ≤ signum ∧ signum ≤ 64 ∧ signum ≠ SIGKILL ∧ signum ≠ SIGSTOP }

/-- A `Signals` variable is empty before its construction and once it is destroyed
or moved from. `added` are the signals that any object ever added. -/
structure Process where
  blocked : Finset Signal
  objects : Nat → Option (Finset Signal)
  added : Finset Signal

/-- A process that had blocked some signals before its first `Signals` object. -/
def initial (before : Finset Signal) : Process := ⟨before, fun _ => none, ∅⟩

/-- `~Impl`, if the variable owns one. -/
def Process.reset (i : Nat) (p : Process) : Process :=
  match p.objects i with
  | none => p
  | some mask => { p with
      blocked := p.blocked \ mask, objects := Function.update p.objects i none }

/-- `Impl::add`: the whole mask is blocked again. -/
def Process.add (i : Nat) (signum : Signal) (mask : Finset Signal) (p : Process) : Process :=
  { blocked := p.blocked ∪ insert signum mask
    objects := Function.update p.objects i (some (insert signum mask))
    added := insert signum p.added }

def Process.remove (i : Nat) (signum : Signal) (mask : Finset Signal) (p : Process) : Process :=
  { p with
    blocked := p.blocked \ {signum}
    objects := Function.update p.objects i (some (mask.erase signum)) }

/-- The `unique_ptr` of one variable goes to another, which loses its own. -/
def Process.move (source target : Nat) (p : Process) : Process :=
  { p.reset target with
    objects := Function.update (Function.update p.objects target (p.objects source)) source none }

inductive Action where
  | construct (i : Nat)
  | add (i : Nat) (signum : Signal)
  | remove (i : Nat) (signum : Signal)
  | move (source target : Nat)
  | destroy (i : Nat)

def step : Action → Process → Option Process
  | .construct i, p => match p.objects i with
    | none => some { p with objects := Function.update p.objects i (some ∅) }
    | some _ => none
  | .add i signum, p => (p.objects i).map fun mask => p.add i signum mask
  | .remove i signum, p => (p.objects i).map fun mask => p.remove i signum mask
  | .move source target, p => some (if source = target then p else p.move source target)
  | .destroy i, p => some (p.reset i)

/-- What the class is for: a watched signal is blocked, and so is one that was
blocked before and is none of its business. -/
structure Watched (before : Finset Signal) (p : Process) : Prop where
  watched : ∀ i mask, p.objects i = some mask → mask ⊆ p.blocked
  earlier : ∀ signum ∈ before, signum ∉ p.added → signum ∈ p.blocked

/-- Whatever an object watches was added. -/
def Known (p : Process) : Prop := ∀ i mask, p.objects i = some mask → mask ⊆ p.added

/-- No other object watches a signal of this one. -/
def Alone (i : Nat) (p : Process) : Prop :=
  ∀ mask, p.objects i = some mask → ∀ j other, j ≠ i → p.objects j = some other → Disjoint mask other

/-- The steps that unblock nothing that is still needed. -/
def Admissible (before : Finset Signal) : Action → Process → Prop
  | .remove i signum, p =>
      (∀ j other, j ≠ i → p.objects j = some other → signum ∉ other) ∧
      (signum ∈ before → signum ∈ p.added)
  | .move source target, p => source ≠ target → Alone target p
  | .destroy i, p => Alone i p
  | _, _ => True

variable {before : Finset Signal} {p q : Process}

theorem known_initial : Known (initial before) := nofun

theorem reset_of_none {i : Nat} (h : p.objects i = none) : p.reset i = p := by
  simp [Process.reset, h]

theorem reset_of_some {i : Nat} {mask : Finset Signal} (h : p.objects i = some mask) :
    p.reset i = { p with
      blocked := p.blocked \ mask, objects := Function.update p.objects i none } := by
  simp [Process.reset, h]

/-- The objects that are left after one is gone. -/
theorem reset_objects (i j : Nat) (p : Process) :
    (p.reset i).objects j = if j = i then none else p.objects j := by
  cases h : p.objects i with
  | none =>
    rw [reset_of_none h]
    by_cases hj : j = i
    · rw [if_pos hj, hj, h]
    · rw [if_neg hj]
  | some mask =>
    rw [reset_of_some h]
    by_cases hj : j = i
    · rw [if_pos hj, hj]
      exact Function.update_self ..
    · rw [if_neg hj]
      exact Function.update_of_ne hj ..

theorem reset_added (i : Nat) (p : Process) : (p.reset i).added = p.added := by
  unfold Process.reset
  cases p.objects i <;> rfl

theorem move_objects (source target j : Nat) (p : Process) :
    (p.move source target).objects j =
      if j = source then none else if j = target then p.objects source else p.objects j := by
  change Function.update (Function.update p.objects target (p.objects source)) source none j = _
  by_cases hj : j = source
  · rw [if_pos hj, hj, Function.update_self]
  · rw [if_neg hj, Function.update_of_ne hj]
    by_cases ht : j = target
    · rw [if_pos ht, ht, Function.update_self]
    · rw [if_neg ht, Function.update_of_ne ht]

/-- Everything a step can do. -/
inductive Steps (p : Process) : Action → Process → Prop where
  | construct {i : Nat} (h : p.objects i = none) :
      Steps p (.construct i) { p with objects := Function.update p.objects i (some ∅) }
  | add {i : Nat} {signum : Signal} {mask : Finset Signal} (h : p.objects i = some mask) :
      Steps p (.add i signum) (p.add i signum mask)
  | remove {i : Nat} {signum : Signal} {mask : Finset Signal} (h : p.objects i = some mask) :
      Steps p (.remove i signum) (p.remove i signum mask)
  | move {source target : Nat} (h : source ≠ target) :
      Steps p (.move source target) (p.move source target)
  | stay {i : Nat} : Steps p (.move i i) p
  | destroy {i : Nat} : Steps p (.destroy i) (p.reset i)

theorem step_steps {a : Action} (h : step a p = some q) : Steps p a q := by
  cases a with
  | construct i =>
    simp only [step] at h
    split at h
    · rename_i hnone
      obtain rfl := Option.some.inj h
      exact .construct hnone
    · cases h
  | add i signum =>
    obtain ⟨mask, hmask, rfl⟩ := Option.map_eq_some_iff.mp h
    exact .add hmask
  | remove i signum =>
    obtain ⟨mask, hmask, rfl⟩ := Option.map_eq_some_iff.mp h
    exact .remove hmask
  | move source target =>
    obtain rfl := Option.some.inj h
    by_cases hsame : source = target
    · subst hsame
      rw [if_pos rfl]
      exact .stay
    · rw [if_neg hsame]
      exact .move hsame
  | destroy i =>
    obtain rfl := Option.some.inj h
    exact .destroy

theorem reset_objects_some {i j : Nat} {mask : Finset Signal}
    (h : (p.reset i).objects j = some mask) : j ≠ i ∧ p.objects j = some mask := by
  rw [reset_objects] at h
  split at h
  · cases h
  · rename_i hj
    exact ⟨hj, h⟩

theorem move_objects_some {source target j : Nat} {mask : Finset Signal}
    (hne : source ≠ target) (h : (p.move source target).objects j = some mask) :
    ∃ k, (p.reset target).objects k = some mask := by
  rw [move_objects] at h
  split at h
  · cases h
  split at h
  · refine ⟨source, ?_⟩
    rw [reset_objects, if_neg hne]
    exact h
  · rename_i ht
    refine ⟨j, ?_⟩
    rw [reset_objects, if_neg ht]
    exact h

theorem Known.step {a : Action} (h : Known p) (hstep : Steps p a q) : Known q := by
  cases hstep with
  | construct hnone =>
    intro j mask hj
    rcases update_some_eq_some hj with ⟨-, rfl⟩ | ⟨-, hj⟩
    · exact Finset.empty_subset _
    · exact h j mask hj
  | add hi =>
    intro j mask hj
    rcases update_some_eq_some hj with ⟨-, rfl⟩ | ⟨-, hj⟩
    · exact Finset.insert_subset_insert _ (h _ _ hi)
    · exact (h j mask hj).trans (Finset.subset_insert _ _)
  | remove hi =>
    intro j mask hj
    rcases update_some_eq_some hj with ⟨-, rfl⟩ | ⟨-, hj⟩
    · exact (Finset.erase_subset _ _).trans (h _ _ hi)
    · exact h j mask hj
  | move hne =>
    intro j mask hj
    obtain ⟨k, hk⟩ := move_objects_some hne hj
    change mask ⊆ (p.reset _).added
    rw [reset_added]
    exact h k mask (reset_objects_some hk).2
  | stay => exact h
  | destroy =>
    intro j mask hj
    rw [reset_added]
    exact h j mask (reset_objects_some hj).2

/-- Destroying an object unblocks what it watches, and nothing else. -/
theorem watched_reset_iff {i : Nat} (hknown : Known p) (h : Watched before p) :
    Watched before (p.reset i) ↔ Alone i p := by
  cases hi : p.objects i with
  | none =>
    rw [reset_of_none hi]
    refine ⟨fun _ mask hmask => ?_, fun _ => h⟩
    rw [hi] at hmask
    cases hmask
  | some mask =>
    rw [reset_of_some hi]
    constructor
    · intro hafter mask' hmask' j other hj hother
      rw [hi] at hmask'
      cases hmask'
      have hkept : Function.update p.objects i none j = some other := by
        rw [Function.update_of_ne hj]
        exact hother
      have hsub := hafter.watched j other hkept
      exact (Finset.disjoint_of_subset_left hsub Finset.sdiff_disjoint).symm
    · intro halone
      refine ⟨?_, ?_⟩
      · intro j other hother
        obtain ⟨hj, hother⟩ := update_none_eq_some hother
        refine Finset.subset_sdiff.mpr ⟨h.watched j other hother, ?_⟩
        exact (halone mask hi j other hj hother).symm
      · intro signum hbefore hadded
        refine Finset.mem_sdiff.mpr ⟨h.earlier signum hbefore hadded, ?_⟩
        intro hmask
        exact hadded (hknown i mask hi hmask)

/-- A move destroys the target's object and renames the source's. -/
theorem watched_move_iff {source target : Nat} (hne : source ≠ target) :
    Watched before (p.move source target) ↔ Watched before (p.reset target) := by
  constructor
  · rintro ⟨hwatched, hearlier⟩
    refine ⟨fun j mask hj => ?_, hearlier⟩
    obtain ⟨htarget, hj⟩ := reset_objects_some hj
    by_cases hs : j = source
    · refine hwatched target mask ?_
      rw [move_objects, if_neg (Ne.symm hne), if_pos rfl, ← hs]
      exact hj
    · refine hwatched j mask ?_
      rw [move_objects, if_neg hs, if_neg htarget]
      exact hj
  · rintro ⟨hwatched, hearlier⟩
    refine ⟨fun j mask hj => ?_, hearlier⟩
    obtain ⟨k, hk⟩ := move_objects_some hne hj
    exact hwatched k mask hk

theorem watched_add {i : Nat} {signum : Signal} {mask : Finset Signal} (h : Watched before p) :
    Watched before (p.add i signum mask) := by
  refine ⟨?_, ?_⟩
  · intro j other hj
    rcases update_some_eq_some hj with ⟨-, rfl⟩ | ⟨-, hj⟩
    · exact Finset.subset_union_right
    · exact (h.watched j other hj).trans Finset.subset_union_left
  · intro other hbefore hadded
    have hnot : other ∉ p.added := fun hmem => hadded (Finset.mem_insert_of_mem hmem)
    exact Finset.mem_union_left _ (h.earlier other hbefore hnot)

/-- Removing a signal unblocks it, whoever else watches it or had blocked it. -/
theorem watched_remove_iff {i : Nat} {signum : Signal} {mask : Finset Signal}
    (hi : p.objects i = some mask) (h : Watched before p) :
    Watched before (p.remove i signum mask) ↔ Admissible before (.remove i signum) p := by
  constructor
  · rintro ⟨hwatched, hearlier⟩
    constructor
    · intro j other hj hother hmem
      have hkept : (p.remove i signum mask).objects j = some other := by
        rw [← hother]
        exact Function.update_of_ne hj ..
      have hblocked := hwatched j other hkept hmem
      exact (Finset.mem_sdiff.mp hblocked).2 (Finset.mem_singleton_self signum)
    · intro hbefore
      by_contra hadded
      have hblocked := hearlier signum hbefore hadded
      exact (Finset.mem_sdiff.mp hblocked).2 (Finset.mem_singleton_self signum)
  · rintro ⟨hothers, hadded⟩
    refine ⟨?_, ?_⟩
    · intro j other hj
      rcases update_some_eq_some hj with ⟨-, rfl⟩ | ⟨hne, hj⟩
      · refine Finset.subset_sdiff.mpr ⟨?_, ?_⟩
        · exact (Finset.erase_subset _ _).trans (h.watched i mask hi)
        · exact Finset.disjoint_singleton_right.mpr (Finset.notMem_erase _ _)
      · refine Finset.subset_sdiff.mpr ⟨h.watched j other hj, ?_⟩
        exact Finset.disjoint_singleton_right.mpr (hothers j other hne hj)
    · intro other hbefore hnot
      refine Finset.mem_sdiff.mpr ⟨h.earlier other hbefore hnot, ?_⟩
      rw [Finset.mem_singleton]
      rintro rfl
      exact hnot (hadded hbefore)

/-- One step keeps what the class is for exactly when it is admissible. -/
theorem watched_step_iff {a : Action} (hknown : Known p) (h : Watched before p)
    (hstep : Steps p a q) : Watched before q ↔ Admissible before a p := by
  cases hstep with
  | construct hnone =>
    refine iff_of_true ⟨?_, h.earlier⟩ trivial
    intro j mask hj
    rcases update_some_eq_some hj with ⟨-, rfl⟩ | ⟨-, hj⟩
    · exact Finset.empty_subset _
    · exact h.watched j mask hj
  | add hi => exact iff_of_true (watched_add h) trivial
  | remove hi => exact watched_remove_iff hi h
  | move hne =>
    rw [watched_move_iff hne, watched_reset_iff hknown h]
    exact ⟨fun halone _ => halone, fun hmove => hmove hne⟩
  | stay => exact iff_of_true h fun hne => absurd rfl hne
  | destroy => exact watched_reset_iff hknown h

/-- In a run of admissible steps every watched signal is blocked, and so is every
signal that was blocked before and that no object added; and the next step keeps
it so exactly when it is admissible. -/
theorem watched_signals_stay_blocked (before : Finset Signal) (p : Process)
    (h : Reach step (Admissible before) (initial before) p) :
    (∀ i mask, p.objects i = some mask → mask ⊆ p.blocked) ∧
    (∀ signum ∈ before, signum ∉ p.added → signum ∈ p.blocked) ∧
    ∀ a q, step a p = some q → (Watched before q ↔ Admissible before a p) := by
  have hstart : Watched before (initial before) := ⟨nofun, fun _ hbefore _ => hbefore⟩
  have hp : Known p ∧ Watched before p := by
    refine Reach.invariant (I := fun p => Known p ∧ Watched before p) h ⟨known_initial, hstart⟩ ?_
    intro a u v hu hok hstep
    have hsteps := step_steps hstep
    exact ⟨hu.1.step hsteps, (watched_step_iff hu.1 hu.2 hsteps).mpr hok⟩
  refine ⟨hp.2.watched, hp.2.earlier, ?_⟩
  intro a q hstep
  exact watched_step_iff hp.1 hp.2 (step_steps hstep)

def SIGINT : Signal := ⟨2, by decide⟩
def SIGTERM : Signal := ⟨15, by decide⟩

/-- Two objects with a signal each; one is destroyed. -/
theorem watched_signals_two_owners : ∃ p : Process, p.objects 0 = some {SIGINT} ∧
    p.objects 1 = none ∧ ∀ i mask, p.objects i = some mask → mask ⊆ p.blocked := by
  have h₁ : Reach step (Admissible ∅) (initial ∅) _ := .tail (.construct 0) .refl trivial rfl
  have h₂ : Reach step (Admissible ∅) (initial ∅) _ := .tail (.add 0 SIGINT) h₁ trivial rfl
  have h₃ : Reach step (Admissible ∅) (initial ∅) _ := .tail (.construct 1) h₂ trivial rfl
  have h₄ : Reach step (Admissible ∅) (initial ∅) _ := .tail (.add 1 SIGTERM) h₃ trivial rfl
  refine ⟨_, rfl, rfl, (watched_signals_stay_blocked ∅ _ (.tail (.destroy 1) h₄ ?_ rfl)).1⟩
  intro mask hmask j other hj hother
  cases hmask
  -- the contents of the variables, from the last written to the first
  rcases update_some_eq_some hother with ⟨rfl, -⟩ | ⟨-, hother⟩
  · exact absurd rfl hj
  rcases update_some_eq_some hother with ⟨rfl, -⟩ | ⟨-, hother⟩
  · exact absurd rfl hj
  rcases update_some_eq_some hother with ⟨-, rfl⟩ | ⟨hj₀, hother⟩
  · decide
  rcases update_some_eq_some hother with ⟨rfl, -⟩ | ⟨-, hother⟩
  · exact absurd rfl hj₀
  · cases hother

/-- Two objects watch a signal; the first that lets it go unblocks it for both. -/
theorem removed_signal_unblocked_for_other : ∃ p : Process,
    Reachable step (initial ∅) p ∧ p.objects 1 = some {SIGINT} ∧ SIGINT ∉ p.blocked := by
  have h : Reachable step (initial ∅) _ := reachable_of_run
    [.construct 0, .add 0 SIGINT, .construct 1, .add 1 SIGINT, .remove 0 SIGINT] rfl
  exact ⟨_, h, rfl, by decide⟩

end Signalfd
