import Ioxx.Core
import Ioxx.Runs
import Ioxx.Signals
import Mathlib.Data.Finset.Basic

/-!
# Failing calls of `Signals` on Linux

One `Signals::Impl` with the three sets that its `add` and `remove` change one after
the other: its own mask, the set of its `signalfd`, and the signals that the process
blocks. Each call of theirs may fail, and what `sigaddset`, `sigdelset` and the
`sigprocmask` of `remove` return is not looked at. The kernel leaves `SIGKILL` and
`SIGSTOP` out of its two sets without an error.
-/

namespace SignalSets

open Core Runs

/-- The numbers that a `sigset_t` has room for. -/
abbrev IsSignal (signum : Int) : Prop := 1 ≤ signum ∧ signum ≤ 64

abbrev SigSet := Finset { signum : Int // IsSignal signum }

/-- `sigismember`. -/
def In (signum : Int) (set : SigSet) : Prop := ∃ h : IsSignal signum, ⟨signum, h⟩ ∈ set

/-- `sigaddset`; it refuses every other number, and may refuse those that the C
library keeps for itself. -/
def sigaddset (accepted : Bool) (signum : Int) (set : SigSet) : SigSet :=
  if h : IsSignal signum then if accepted then insert ⟨signum, h⟩ set else set else set

def sigdelset (accepted : Bool) (signum : Int) (set : SigSet) : SigSet :=
  if h : IsSignal signum then if accepted then set.erase ⟨signum, h⟩ else set else set

/-- What the kernel keeps of a set. -/
def catchable (set : SigSet) : SigSet :=
  set.filter fun signum => signum.val ≠ Signalfd.SIGKILL ∧ signum.val ≠ Signalfd.SIGSTOP

/-- `watched` is the set of the `signalfd`, if there is one; `blocked` is of the process. -/
structure State where
  mask : SigSet
  watched : Option SigSet
  blocked : SigSet

/-- What the native calls of one function answer. -/
structure Answers where
  addset : Bool
  delset : Bool
  procmask : Option Errno
  signalfd : Option Errno

/-- `signalfd(sfd, &mask, ...)`. -/
def signalfd (answer : Option Errno) (s : State) : Option ErrorCode × State :=
  match answer with
  | some errno => (some (.ofErrno errno), s)
  | none => (none, { s with watched := some (catchable s.mask) })

/-- The constructor: a first `signalfd`, without signals. -/
def construct (answer : Option Errno) (blocked : SigSet) : Option ErrorCode × State :=
  signalfd answer ⟨∅, none, blocked⟩

/-- `Impl::add`. -/
def add (answers : Answers) (signum : Int) (s : State) : Option ErrorCode × State :=
  let mask := sigaddset answers.addset signum s.mask
  match answers.procmask with
  | some errno => (some (.ofErrno errno), { s with mask := mask })
  | none =>
    signalfd answers.signalfd { s with mask := mask, blocked := s.blocked ∪ catchable mask }

/-- `Impl::remove`. -/
def remove (answers : Answers) (signum : Int) (s : State) : Option ErrorCode × State :=
  let unblock := sigaddset answers.addset signum ∅
  let blocked := if answers.procmask = none then s.blocked \ unblock else s.blocked
  signalfd answers.signalfd
    { s with mask := sigdelset answers.delset signum s.mask, blocked := blocked }

/-- The set of the `signalfd`; an object without one watches nothing. -/
def State.watchedSet (s : State) : SigSet := s.watched.getD ∅

/-- A failing `add` changes nothing, and a successful one puts the signal in all three sets. -/
def AddExact (answers : Answers) (signum : Int) (s : State) : Prop :=
  match add answers signum s with
  | (some _, t) => t = s
  | (none, t) => IsSignal signum ∧ In signum t.mask ∧ In signum t.watchedSet ∧ In signum t.blocked

/-- A failing `remove` changes nothing, and a successful one leaves the signal in none
of the sets. -/
def RemoveExact (answers : Answers) (signum : Int) (s : State) : Prop :=
  match remove answers signum s with
  | (some _, t) => t = s
  | (none, t) => ¬ In signum t.mask ∧ ¬ In signum t.watchedSet ∧ ¬ In signum t.blocked

/-- The signal can be watched at all. -/
def Catchable (signum : Int) : Prop :=
  IsSignal signum ∧ signum ≠ Signalfd.SIGKILL ∧ signum ≠ Signalfd.SIGSTOP

/-- `sigaddset` takes the number. -/
def Taken (answers : Answers) (signum : Int) : Prop := IsSignal signum ∧ answers.addset = true

/-- `sigdelset` takes the number. -/
def Deleted (answers : Answers) (signum : Int) : Prop := IsSignal signum ∧ answers.delset = true

/-- A failing `add` finds its signal in the mask already, or not taken, and if
`sigprocmask` succeeds also nothing in the mask that is not blocked; a successful
one has a signal that can be watched, and that is taken or in the mask. -/
def AddKept (answers : Answers) (signum : Int) (s : State) : Prop :=
  if answers.procmask ≠ none then ¬ Taken answers signum ∨ In signum s.mask
  else if answers.signalfd ≠ none then
    (¬ Taken answers signum ∨ In signum s.mask) ∧ catchable s.mask ⊆ s.blocked
  else Catchable signum ∧ (Taken answers signum ∨ In signum s.mask)

/-- `remove` has nothing to take out of the mask and of the blocked signals if it
fails, and takes the signal out of both if it succeeds. -/
def RemoveKept (answers : Answers) (signum : Int) (s : State) : Prop :=
  if answers.signalfd ≠ none then
    (¬ Deleted answers signum ∨ ¬ In signum s.mask) ∧
      (answers.procmask ≠ none ∨ ¬ Taken answers signum ∨ ¬ In signum s.blocked)
  else (Deleted answers signum ∨ ¬ In signum s.mask) ∧
    ((answers.procmask = none ∧ Taken answers signum) ∨ ¬ In signum s.blocked)

/-! The sets. -/

section Sets

variable {signum : Int} {accepted : Bool} {set : SigSet}

theorem sigaddset_taken (h : IsSignal signum) (ha : accepted = true) :
    sigaddset accepted signum set = insert ⟨signum, h⟩ set := by
  rw [sigaddset, dif_pos h, if_pos ha]

theorem sigaddset_refused (h : ¬ (IsSignal signum ∧ accepted = true)) :
    sigaddset accepted signum set = set := by
  rw [sigaddset]
  split
  · rename_i hsignal
    exact if_neg fun ha => h ⟨hsignal, ha⟩
  · rfl

theorem sigdelset_deleted (h : IsSignal signum) (ha : accepted = true) :
    sigdelset accepted signum set = set.erase ⟨signum, h⟩ := by
  rw [sigdelset, dif_pos h, if_pos ha]

theorem sigdelset_refused (h : ¬ (IsSignal signum ∧ accepted = true)) :
    sigdelset accepted signum set = set := by
  rw [sigdelset]
  split
  · rename_i hsignal
    exact if_neg fun ha => h ⟨hsignal, ha⟩
  · rfl

/-- A number that is a signal is in a set exactly as an element of it. -/
theorem in_iff (h : IsSignal signum) : In signum set ↔ ⟨signum, h⟩ ∈ set :=
  ⟨fun ⟨_, hmem⟩ => hmem, fun hmem => ⟨h, hmem⟩⟩

theorem in_sigaddset : In signum (sigaddset accepted signum set) ↔
    (IsSignal signum ∧ accepted = true) ∨ In signum set := by
  by_cases h : IsSignal signum ∧ accepted = true
  · rw [sigaddset_taken h.1 h.2]
    exact iff_of_true ⟨h.1, Finset.mem_insert_self _ _⟩ (.inl h)
  · rw [sigaddset_refused h]
    simp [h]

theorem sigaddset_eq_iff : sigaddset accepted signum set = set ↔
    ¬ (IsSignal signum ∧ accepted = true) ∨ In signum set := by
  by_cases h : IsSignal signum ∧ accepted = true
  · rw [sigaddset_taken h.1 h.2, in_iff h.1, Finset.insert_eq_self]
    simp [h]
  · simp [sigaddset_refused h, h]

theorem in_sigdelset : In signum (sigdelset accepted signum set) ↔
    ¬ (IsSignal signum ∧ accepted = true) ∧ In signum set := by
  by_cases h : IsSignal signum ∧ accepted = true
  · rw [sigdelset_deleted h.1 h.2, in_iff h.1]
    simp [h]
  · rw [sigdelset_refused h]
    simp [h]

theorem sigdelset_eq_iff : sigdelset accepted signum set = set ↔
    ¬ (IsSignal signum ∧ accepted = true) ∨ ¬ In signum set := by
  by_cases h : IsSignal signum ∧ accepted = true
  · rw [sigdelset_deleted h.1 h.2, in_iff h.1, Finset.erase_eq_self]
    simp [h]
  · simp [sigdelset_refused h, h]

theorem in_catchable : In signum (catchable set) ↔ Catchable signum ∧ In signum set := by
  simp only [In, catchable, Catchable, Finset.mem_filter]
  constructor
  · rintro ⟨h, hmem, hnot⟩
    exact ⟨⟨h, hnot⟩, h, hmem⟩
  · rintro ⟨⟨-, hnot⟩, h, hmem⟩
    exact ⟨h, hmem, hnot⟩

theorem in_union {set' : SigSet} : In signum (set ∪ set') ↔ In signum set ∨ In signum set' := by
  simp only [In, Finset.mem_union, exists_or]

/-- The set that `remove` unblocks holds at most its signal. -/
theorem in_unblocked : In signum (set \ sigaddset accepted signum ∅) ↔
    ¬ (IsSignal signum ∧ accepted = true) ∧ In signum set := by
  by_cases h : IsSignal signum ∧ accepted = true
  · rw [sigaddset_taken h.1 h.2, in_iff h.1]
    simp [h]
  · rw [sigaddset_refused h]
    simp [h]

theorem unblocked_eq_iff : set \ sigaddset accepted signum ∅ = set ↔
    ¬ (IsSignal signum ∧ accepted = true) ∨ ¬ In signum set := by
  by_cases h : IsSignal signum ∧ accepted = true
  · rw [sigaddset_taken h.1 h.2, in_iff h.1, Finset.sdiff_eq_self_iff_disjoint]
    simp [h]
  · rw [sigaddset_refused h]
    simp [h]

end Sets

/-! The two functions. -/

section Calls

variable {answers : Answers} {signum : Int} {s : State}

theorem add_exact_iff : AddExact answers signum s ↔ AddKept answers signum s := by
  rw [AddExact, AddKept, add]
  cases hprocmask : answers.procmask with
  | some errno =>
    rw [if_pos (Option.some_ne_none errno)]
    have hsame : { s with mask := sigaddset answers.addset signum s.mask } = s ↔
        sigaddset answers.addset signum s.mask = s.mask := by
      cases s
      simp
    exact hsame.trans sigaddset_eq_iff
  | none =>
    rw [if_neg fun h => h rfl]
    cases hsignalfd : answers.signalfd with
    | some errno =>
      rw [if_pos (Option.some_ne_none errno)]
      change ({ s with mask := _, blocked := _ } : State) = s ↔ _
      have hsame : ({ s with
          mask := sigaddset answers.addset signum s.mask
          blocked := s.blocked ∪ catchable (sigaddset answers.addset signum s.mask) } : State) = s ↔
          sigaddset answers.addset signum s.mask = s.mask ∧
          s.blocked ∪ catchable (sigaddset answers.addset signum s.mask) = s.blocked := by
        cases s
        simp
      rw [hsame]
      constructor
      · rintro ⟨hmask, hblocked⟩
        rw [hmask] at hblocked
        exact ⟨sigaddset_eq_iff.mp hmask, Finset.union_eq_left.mp hblocked⟩
      · rintro ⟨hmask, hblocked⟩
        have hadd := sigaddset_eq_iff.mpr hmask
        rw [hadd]
        exact ⟨rfl, Finset.union_eq_left.mpr hblocked⟩
    | none =>
      rw [if_neg fun h => h rfl]
      change IsSignal signum ∧ In signum (sigaddset _ _ _) ∧ In signum (catchable _) ∧
        In signum (s.blocked ∪ catchable _) ↔ _
      rw [in_union, in_catchable, in_sigaddset, Taken]
      constructor
      · rintro ⟨-, -, h, -⟩
        exact h
      · rintro ⟨hcatchable, hin⟩
        exact ⟨hcatchable.1, hin, ⟨hcatchable, hin⟩, .inr ⟨hcatchable, hin⟩⟩

theorem remove_exact_iff : RemoveExact answers signum s ↔ RemoveKept answers signum s := by
  rw [RemoveExact, RemoveKept, remove]
  cases hsignalfd : answers.signalfd with
  | some errno =>
    rw [if_pos (Option.some_ne_none errno)]
    change ({ s with mask := _, blocked := _ } : State) = s ↔ _
    have hsame : ({ s with
        mask := sigdelset answers.delset signum s.mask
        blocked := if answers.procmask = none then s.blocked \ sigaddset answers.addset signum ∅
          else s.blocked } : State) = s ↔
        sigdelset answers.delset signum s.mask = s.mask ∧
        (if answers.procmask = none then s.blocked \ sigaddset answers.addset signum ∅
          else s.blocked) = s.blocked := by
      cases s
      simp
    rw [hsame, sigdelset_eq_iff]
    by_cases hprocmask : answers.procmask = none
    · rw [if_pos hprocmask, unblocked_eq_iff, Deleted, Taken]
      simp only [hprocmask, ne_eq, not_true_eq_false, false_or]
    · rw [if_neg hprocmask, Deleted]
      simp [hprocmask]
  | none =>
    rw [if_neg (show ¬ ((none : Option Errno) ≠ none) from fun h => h rfl)]
    change ¬ In signum (sigdelset _ _ _) ∧ ¬ In signum (catchable _) ∧
      ¬ In signum (if answers.procmask = none then _ else _) ↔ _
    have hmask : ¬ In signum (sigdelset answers.delset signum s.mask) ↔
        Deleted answers signum ∨ ¬ In signum s.mask := by
      rw [in_sigdelset, not_and_or, not_not, Deleted]
    have hblocked : ¬ In signum (if answers.procmask = none
          then s.blocked \ sigaddset answers.addset signum ∅ else s.blocked) ↔
        (answers.procmask = none ∧ Taken answers signum) ∨ ¬ In signum s.blocked := by
      by_cases hprocmask : answers.procmask = none
      · rw [if_pos hprocmask, in_unblocked, not_and_or, not_not, Taken]
        simp [hprocmask]
      · rw [if_neg hprocmask]
        simp [hprocmask]
    rw [hblocked, hmask, in_catchable]
    constructor
    · rintro ⟨hm, -, hb⟩
      exact ⟨hm, hb⟩
    · rintro ⟨hm, hb⟩
      exact ⟨hm, fun h => hmask.mpr hm h.2, hb⟩

end Calls

/-! Whole runs. -/

/-- A call, or a change of the blocked signals by other code of the process. -/
inductive Action where
  | add (answers : Answers) (signum : Int)
  | remove (answers : Answers) (signum : Int)
  | others (blocked : SigSet)

def step : Action → State → Option State
  | .add answers signum, s => some (add answers signum s).2
  | .remove answers signum, s => some (remove answers signum s).2
  | .others blocked, s => some { s with blocked := blocked }

/-- The step meets the condition of its function. -/
def Kept : Action → State → Prop
  | .add answers signum, s => AddKept answers signum s
  | .remove answers signum, s => RemoveKept answers signum s
  | .others _, _ => True

/-- The `signalfd` has the mask, all of which can be watched. -/
structure Matches (s : State) : Prop where
  watched : s.watchedSet = s.mask
  catchable : catchable s.mask = s.mask

theorem matches_construct (answer : Option Errno) (blocked : SigSet) :
    Matches (construct answer blocked).2 := by
  cases answer <;> exact ⟨rfl, rfl⟩

theorem catchable_eq_iff {set : SigSet} :
    catchable set = set ↔ ∀ signum ∈ set, Catchable signum.val := by
  rw [catchable, Finset.filter_eq_self]
  constructor
  · intro h signum hmem
    exact ⟨signum.property, h signum hmem⟩
  · intro h signum hmem
    exact (h signum hmem).2

/-- A successful `add` of a signal that can be watched leaves a mask of such signals. -/
theorem catchable_sigaddset {accepted : Bool} {signum : Int} {set : SigSet}
    (h : catchable set = set) (hsignum : Catchable signum) :
    catchable (sigaddset accepted signum set) = sigaddset accepted signum set := by
  rw [catchable_eq_iff] at h ⊢
  by_cases htaken : IsSignal signum ∧ accepted = true
  · rw [sigaddset_taken htaken.1 htaken.2]
    intro other hother
    rcases Finset.mem_insert.mp hother with rfl | hmem
    · exact hsignum
    · exact h other hmem
  · rw [sigaddset_refused htaken]
    exact h

theorem catchable_sigdelset {accepted : Bool} {signum : Int} {set : SigSet} (h : catchable set = set) :
    catchable (sigdelset accepted signum set) = sigdelset accepted signum set := by
  rw [catchable_eq_iff] at h ⊢
  by_cases hdeleted : IsSignal signum ∧ accepted = true
  · rw [sigdelset_deleted hdeleted.1 hdeleted.2]
    intro other hother
    exact h other (Finset.mem_of_mem_erase hother)
  · rw [sigdelset_refused hdeleted]
    exact h

/-- A call that changes nothing if it fails, and has failed. -/
theorem unchanged_of_failed {x : Option ErrorCode × State} {s : State} {P : State → Prop}
    (h : match x with
      | (some _, t) => t = s
      | (none, t) => P t) (hfailed : x.1 ≠ none) : x.2 = s := by
  obtain ⟨ec | ec, t⟩ := x
  · exact absurd rfl hfailed
  · exact h

/-- A call that meets its condition keeps the `signalfd` and the mask the same. -/
theorem Matches.add {answers : Answers} {signum : Int} {s : State} (h : Matches s)
    (hkept : AddKept answers signum s) : Matches (add answers signum s).2 := by
  by_cases hfailed : (SignalSets.add answers signum s).1 = none
  · rw [AddKept] at hkept
    rw [SignalSets.add] at hfailed ⊢
    cases hprocmask : answers.procmask with
    | some errno =>
      rw [hprocmask] at hfailed
      cases hfailed
    | none =>
      cases hsignalfd : answers.signalfd with
      | some errno =>
        rw [hprocmask, hsignalfd] at hfailed
        cases hfailed
      | none =>
        simp only [hprocmask, hsignalfd, ne_eq, not_true_eq_false, if_false] at hkept
        have hmask : SignalSets.catchable (sigaddset answers.addset signum s.mask) =
            sigaddset answers.addset signum s.mask := catchable_sigaddset h.catchable hkept.1
        exact ⟨hmask, hmask⟩
  · have hexact : AddExact answers signum s := add_exact_iff.mpr hkept
    rw [unchanged_of_failed hexact hfailed]
    exact h

theorem Matches.remove {answers : Answers} {signum : Int} {s : State} (h : Matches s)
    (hkept : RemoveKept answers signum s) : Matches (remove answers signum s).2 := by
  by_cases hfailed : (SignalSets.remove answers signum s).1 = none
  · rw [SignalSets.remove] at hfailed ⊢
    cases hsignalfd : answers.signalfd with
    | some errno =>
      rw [hsignalfd] at hfailed
      cases hfailed
    | none =>
      have hmask : SignalSets.catchable (sigdelset answers.delset signum s.mask) =
          sigdelset answers.delset signum s.mask := catchable_sigdelset h.catchable
      exact ⟨hmask, hmask⟩
  · have hexact : RemoveExact answers signum s := remove_exact_iff.mpr hkept
    rw [unchanged_of_failed hexact hfailed]
    exact h

theorem Matches.step {a : Action} {s t : State} (h : Matches s) (hkept : Kept a s)
    (hstep : step a s = some t) : Matches t := by
  cases a with
  | add answers signum =>
    obtain rfl := Option.some.inj hstep
    exact h.add hkept
  | remove answers signum =>
    obtain rfl := Option.some.inj hstep
    exact h.remove hkept
  | others blocked =>
    obtain rfl := Option.some.inj hstep
    exact ⟨h.watched, h.catchable⟩

/-- In every state, a call is atomic and exact precisely under its condition, and as
long as all calls meet theirs, the `signalfd` has the mask of the object. -/
theorem signal_calls_exact_iff (answers : Answers) (signum : Int) (s : State) :
    (AddExact answers signum s ↔ AddKept answers signum s) ∧
    (RemoveExact answers signum s ↔ RemoveKept answers signum s) ∧
    (∀ answer blocked, Reach step Kept (construct answer blocked).2 s → s.watchedSet = s.mask) := by
  refine ⟨add_exact_iff, remove_exact_iff, ?_⟩
  intro answer blocked h
  have hmatches : Matches s := h.invariant (matches_construct answer blocked)
    fun a u v hu hkept hstep => hu.step hkept hstep
  exact hmatches.watched

/-- `add(1000)`: the number is refused, and the call reports success. -/
theorem refused_signal_reported_added :
    ¬ ∀ (answers : Answers) (signum : Int) (s : State), AddExact answers signum s := by
  intro h
  have hexact := h ⟨false, true, none, none⟩ 1000 ⟨∅, some ∅, ∅⟩
  exact absurd hexact.1.2 (by decide)

end SignalSets
