import Ioxx.Selector

/-!
# The epoll backend, and calls on it from several threads

`Epoll.backend` makes the selector a Linux one. `State` runs the same sections
from any number of threads: the mutex covers the table half of a call only, so
`step` fires the table section, the `epoll_ctl` and the rollback of a failed
`add` separately. Table and epoll set agree whenever nothing is in progress,
provided that no two calls on one handle overlap.
-/

namespace Epoll

open Core Detail Runs Maps

def epollIn : BitVec 32 := 0x001
def epollPri : BitVec 32 := 0x002
def epollOut : BitVec 32 := 0x004
def epollErr : BitVec 32 := 0x008
def epollHup : BitVec 32 := 0x010
def epollRdHup : BitVec 32 := 0x2000
def epollEt : BitVec 32 := 0x80000000

def toEpollEvents (interests : Interest) : BitVec 32 :=
  epollErr ||| epollHup ||| epollEt |||
  (if interests.isReadable then epollIn ||| epollRdHup else 0) |||
  (if interests.isWritable then epollOut else 0) |||
  (if interests.isPriority then epollPri else 0)

/-- The kernel's interest set: the event mask of every descriptor in it. -/
abbrev EpollSet := NativeHandle → Option (BitVec 32)

inductive CtlOp where
  | add
  | mod
  | del
  deriving DecidableEq, Repr

/-- `epoll_ctl`; a `refusal` stands for a failure that does not depend on the set. -/
def epollCtl (refusal : Option Errno) (op : CtlOp) (handle : NativeHandle) (events : BitVec 32)
    (set : EpollSet) : Option Errno × EpollSet :=
  match refusal, op, set handle with
  | some errno, _, _ => (some errno, set)
  | none, .add, none => (none, Function.update set handle (some events))
  | none, .add, some _ => (some EEXIST, set)
  | none, .mod, some _ => (none, Function.update set handle (some events))
  | none, .del, some _ => (none, Function.update set handle none)
  | none, _, none => (some ENOENT, set)

def addToBackend (refusal : Option Errno) (handle : NativeHandle) (interests : Interest)
    (set : EpollSet) : Except Exception (Option AfdRef) × EpollSet :=
  match epollCtl refusal .add handle (toEpollEvents interests) set with
  | (some errno, set) => (.error (.systemError (.ofErrno errno) "epoll_ctl(ADD)"), set)
  | (none, set) => (.ok none, set)

def updateBackend (refusal : Option Errno) (handle : NativeHandle) (interests : Interest)
    (set : EpollSet) : Except Exception Unit × EpollSet :=
  match epollCtl refusal .mod handle (toEpollEvents interests) set with
  | (some errno, set) => (.error (.systemError (.ofErrno errno) "epoll_ctl(MOD)"), set)
  | (none, set) => (.ok (), set)

def removeFromBackend (refusal : Option Errno) (registration : Registration) (set : EpollSet) :
    EpollSet :=
  (epollCtl refusal .del registration.handle 0 set).2

def backend : Backend EpollSet (Option Errno) where
  platform := .linux
  addToBackend refusal handle _ _ interests := addToBackend refusal handle interests
  updateBackend refusal _ handle _ _ interests := updateBackend refusal handle interests
  removeFromBackend := removeFromBackend

/-- The constructor of a Linux selector. -/
def initialSelector : Selector EpollSet := ⟨fun _ => none, -1, false, fun _ => none⟩

/-- What a call in progress does next, after its table section. -/
inductive Phase where
  | adding (handle : NativeHandle) (interests : Interest)
  | rollingBack (handle : NativeHandle)
  | updating (handle : NativeHandle) (interests : Interest)
  | removing (registration : Registration)
  deriving DecidableEq, Repr

def Phase.handle : Phase → NativeHandle
  | .adding handle _ => handle
  | .rollingBack handle => handle
  | .updating handle _ => handle
  | .removing registration => registration.handle

/-- One selector and the threads that use it. `modFailed` records that an
`epoll_ctl(MOD)` has failed. -/
structure State where
  selector : Selector EpollSet
  calls : Nat → Option Phase
  modFailed : Bool

def initial : State := ⟨initialSelector, fun _ => none, false⟩

/-- The validation and the guarded section of a call; `none` when they throw. -/
def beginCall (call : Call) (s : Selector EpollSet) : Option (Phase × Selector EpollSet) :=
  match call with
  | .add handle kind token interests autoDrain =>
    match validate .linux handle interests,
        emplace ⟨handle, kind, token, interests, autoDrain, none⟩ s.registrations with
    | .ok _, .ok table => some (.adding handle interests, { s with registrations := table })
    | _, _ => none
  | .update handle kind token interests =>
    match validate .linux handle interests, assign handle kind token interests s.registrations with
    | .ok _, .ok table => some (.updating handle interests, { s with registrations := table })
    | _, _ => none
  | .remove handle =>
    match take .linux handle s with
    | .ok (registration, s) => some (.removing registration, s)
    | .error _ => none

inductive Action where
  | enter (thread : Nat) (call : Call)
  | ctl (thread : Nat) (refusal : Option Errno)
  | rollback (thread : Nat)
  deriving DecidableEq, Repr

/-- The thread's call goes on as `next`, or returns. -/
def State.continue (s : State) (thread : Nat) (next : Option Phase) (selector : Selector EpollSet) :
    State :=
  { s with selector := selector, calls := Function.update s.calls thread next }

/-- The `epoll_ctl` of a call. A deletion is refused for absence only, since the
descriptors stay open. -/
def ctlStep (thread : Nat) (refusal : Option Errno) (s : State) : Option State :=
  match s.calls thread with
  | some (.adding handle interests) =>
    match epollCtl refusal .add handle (toEpollEvents interests) s.selector.backend with
    | (none, set) => some (s.continue thread none { s.selector with backend := set })
    | (some _, set) =>
      some (s.continue thread (some (.rollingBack handle)) { s.selector with backend := set })
  | some (.updating handle interests) =>
    match epollCtl refusal .mod handle (toEpollEvents interests) s.selector.backend with
    | (none, set) => some (s.continue thread none { s.selector with backend := set })
    | (some _, set) => some { s.continue thread none { s.selector with backend := set } with
        modFailed := true }
  | some (.removing registration) =>
    some (s.continue thread none { s.selector with
      backend := removeFromBackend none registration s.selector.backend })
  | _ => none

def step : Action → State → Option State
  | .enter thread call, s =>
    match s.calls thread with
    | some _ => none
    | none => match beginCall call s.selector with
      | none => some s
      | some (phase, selector) => some (s.continue thread (some phase) selector)
  | .ctl thread refusal, s => ctlStep thread refusal s
  | .rollback thread, s =>
    match s.calls thread with
    | some (.rollingBack handle) => some (s.continue thread none { s.selector with
        registrations := erase handle s.selector.registrations })
    | _ => none

/-- The kernel's mask of a handle is the one the table asks for; neither has the
handle, or both do. -/
def Agrees (s : Selector EpollSet) (handle : NativeHandle) : Prop :=
  s.backend handle = (s.registrations handle).map fun r => toEpollEvents r.interests

@[simp] theorem continue_calls (s : State) (thread : Nat) (next : Option Phase)
    (selector : Selector EpollSet) :
    (s.continue thread next selector).calls = Function.update s.calls thread next := rfl

@[simp] theorem continue_selector (s : State) (thread : Nat) (next : Option Phase)
    (selector : Selector EpollSet) : (s.continue thread next selector).selector = selector := rfl

@[simp] theorem continue_continue (s : State) (thread : Nat) (next next' : Option Phase)
    (selector selector' : Selector EpollSet) :
    (s.continue thread next selector).continue thread next' selector' =
      s.continue thread next' selector' := by
  simp only [State.continue, Function.update_idem]

/-- A thread that returns to idle leaves the calls in progress as they were. -/
theorem update_calls_idle {s : State} {thread : Nat} (hidle : s.calls thread = none) :
    Function.update s.calls thread none = s.calls := by
  rw [← hidle, Function.update_eq_self]

theorem enter_reached {s : State} {thread : Nat} (hidle : s.calls thread = none) (call : Call)
    {phase : Phase} {selector : Selector EpollSet}
    (hb : beginCall call s.selector = some (phase, selector)) :
    Reachable step s (s.continue thread (some phase) selector) :=
  .tail (.enter thread call) .refl trivial (by simp only [step, hidle, hb])

theorem add_reached {s : State} {thread : Nat} (hidle : s.calls thread = none)
    (refusal : Option Errno) (handle : NativeHandle) (kind : SourceKind) (token : Token)
    (interests : Interest) (autoDrain : Bool) :
    ∃ t, Reachable step s t ∧ t.calls = s.calls ∧ t.selector =
      (Detail.add backend refusal handle kind token interests autoDrain s.selector).2 := by
  cases hv : validate .linux handle interests with
  | error e => exact ⟨s, .refl, rfl, by simp [Detail.add, backend, hv]⟩
  | ok u =>
    cases hr : s.selector.registrations handle with
    | some r => exact ⟨s, .refl, rfl, by simp [Detail.add, backend, hv, emplace, hr]⟩
    | none =>
      have hfirst := enter_reached hidle (.add handle kind token interests autoDrain)
        (by simp only [beginCall, hv, emplace, hr]; rfl)
      cases he : epollCtl refusal .add handle (toEpollEvents interests) s.selector.backend with
      | mk result set =>
        cases result with
        | none =>
          have hlast := Reach.tail (.ctl thread refusal) hfirst trivial
            (by simp [step, ctlStep, he]; rfl)
          refine ⟨_, hlast, by simpa using update_calls_idle hidle, ?_⟩
          simp [Detail.add, backend, hv, emplace, hr, addToBackend, he, attach]
        | some errno =>
          have hctl := Reach.tail (.ctl thread refusal) hfirst trivial
            (by simp [step, ctlStep, he]; rfl)
          have hlast := Reach.tail (.rollback thread) hctl trivial (by simp [step]; rfl)
          refine ⟨_, hlast, by simpa using update_calls_idle hidle, ?_⟩
          simp [Detail.add, backend, hv, emplace, hr, addToBackend, he]

theorem update_reached {s : State} {thread : Nat} (hidle : s.calls thread = none)
    (refusal : Option Errno) (handle : NativeHandle) (kind : SourceKind) (token : Token)
    (interests : Interest) :
    ∃ t, Reachable step s t ∧ t.calls = s.calls ∧ t.selector =
      (Detail.update backend refusal handle kind token interests s.selector).2 := by
  cases hv : validate .linux handle interests with
  | error e => exact ⟨s, .refl, rfl, by simp [Detail.update, backend, hv]⟩
  | ok u =>
    cases hr : s.selector.registrations handle with
    | none => exact ⟨s, .refl, rfl, by simp [Detail.update, backend, hv, assign, hr]⟩
    | some r =>
      have hfirst := enter_reached hidle (.update handle kind token interests)
        (by simp only [beginCall, hv, assign, hr]; rfl)
      cases he : epollCtl refusal .mod handle (toEpollEvents interests) s.selector.backend with
      | mk result set =>
        cases result with
        | none =>
          have hlast := Reach.tail (.ctl thread refusal) hfirst trivial
            (by simp [step, ctlStep, he]; rfl)
          refine ⟨_, hlast, by simpa using update_calls_idle hidle, ?_⟩
          simp [Detail.update, backend, hv, assign, hr, updateBackend, he]
        | some errno =>
          have hlast := Reach.tail (.ctl thread refusal) hfirst trivial
            (by simp [step, ctlStep, he]; rfl)
          refine ⟨_, hlast, by simpa using update_calls_idle hidle, ?_⟩
          simp [Detail.update, backend, hv, assign, hr, updateBackend, he]

theorem remove_reached {s : State} {thread : Nat} (hidle : s.calls thread = none)
    (handle : NativeHandle) :
    ∃ t, Reachable step s t ∧ t.calls = s.calls ∧
      t.selector = (Detail.remove backend none handle s.selector).2 := by
  cases hr : s.selector.registrations handle with
  | none => exact ⟨s, .refl, rfl, by simp [Detail.remove, take, hr]⟩
  | some r =>
    have hfirst := enter_reached hidle (.remove handle)
      (by simp only [beginCall, take, hr]; rfl)
    have hlast := Reach.tail (.ctl thread none) hfirst trivial (by simp [step, ctlStep]; rfl)
    refine ⟨_, hlast, by simpa using update_calls_idle hidle, ?_⟩
    simp [Detail.remove, backend, take, hr]

/-- The steps of one thread, with nothing in between, make up the sequential call. -/
theorem perform_reached (s : State) (thread : Nat) (hidle : s.calls thread = none)
    (refusal : Option Errno) (call : Call) (hopen : ∀ handle, call = .remove handle → refusal = none) :
    ∃ t, Reachable step s t ∧ t.calls = s.calls ∧
      t.selector = (call.perform backend refusal s.selector).2 := by
  cases call with
  | add handle kind token interests autoDrain =>
    exact add_reached hidle refusal handle kind token interests autoDrain
  | update handle kind token interests =>
    exact update_reached hidle refusal handle kind token interests
  | remove handle =>
    rw [hopen handle rfl]
    exact remove_reached hidle handle

/-- `epoll_ctl` touches no other handle. -/
theorem epollCtl_other (refusal : Option Errno) (op : CtlOp) (handle : NativeHandle)
    (events : BitVec 32) (set : EpollSet) {other : NativeHandle} (h : other ≠ handle) :
    (epollCtl refusal op handle events set).2 other = set other := by
  unfold epollCtl
  split
  all_goals first | rfl | exact Function.update_of_ne h _ _

/-- A failing `epoll_ctl` changes nothing. -/
theorem epollCtl_failed {refusal : Option Errno} {op : CtlOp} {handle : NativeHandle}
    {events : BitVec 32} {set set' : EpollSet} {errno : Errno}
    (h : epollCtl refusal op handle events set = (some errno, set')) : set' = set := by
  unfold epollCtl at h
  split at h
  all_goals first | (cases h; rfl) | cases h

/-- A successful `ADD` or `MOD` leaves exactly the given mask. -/
theorem epollCtl_stored {refusal : Option Errno} {op : CtlOp} {handle : NativeHandle}
    {events : BitVec 32} {set set' : EpollSet} (hop : op ≠ .del)
    (h : epollCtl refusal op handle events set = (none, set')) : set' handle = some events := by
  unfold epollCtl at h
  split at h
  all_goals first | exact absurd rfl hop | (cases h; exact Function.update_self _ _ _) | cases h

theorem addToBackend_stored {refusal : Option Errno} {handle : NativeHandle} {interests : Interest}
    {set set' : EpollSet} {afdState : Option AfdRef}
    (h : addToBackend refusal handle interests set = (.ok afdState, set')) :
    afdState = none ∧ set' handle = some (toEpollEvents interests) := by
  unfold addToBackend at h
  split at h
  · cases h
  · rename_i hctl
    cases h
    exact ⟨rfl, epollCtl_stored (by decide) hctl⟩

theorem removeFromBackend_absent (registration : Registration) (set : EpollSet) :
    removeFromBackend none registration set registration.handle = none := by
  unfold removeFromBackend epollCtl
  cases h : set registration.handle with
  | none => exact h
  | some events => exact Function.update_self _ _ _

/-- What the table section of a call leaves behind. -/
theorem beginCall_cases {call : Call} {s t : Selector EpollSet} {phase : Phase}
    (h : beginCall call s = some (phase, t)) :
    t.backend = s.backend ∧ ((∃ registration, s.registrations call.handle = none ∧
      phase = .adding call.handle registration.interests ∧ registration.handle = call.handle ∧
      t.registrations = Function.update s.registrations call.handle (some registration)) ∨
    (∃ registration updated, s.registrations call.handle = some registration ∧
      phase = .updating call.handle updated.interests ∧ updated.handle = registration.handle ∧
      t.registrations = Function.update s.registrations call.handle (some updated)) ∨
    (∃ registration, s.registrations call.handle = some registration ∧
      phase = .removing registration ∧ t.registrations = erase call.handle s.registrations)) := by
  cases call with
  | add handle kind token interests autoDrain =>
    simp only [beginCall, emplace] at h
    cases hr : s.registrations handle with
    | some registration => cases hv : validate .linux handle interests <;> simp [hr, hv] at h
    | none =>
      cases hv : validate .linux handle interests with
      | error e => simp [hr, hv] at h
      | ok u =>
        simp only [hr, hv, Option.some.injEq, Prod.mk.injEq] at h
        obtain ⟨rfl, rfl⟩ := h
        exact ⟨rfl, .inl ⟨⟨handle, kind, token, interests, autoDrain, none⟩, hr, rfl, rfl, rfl⟩⟩
  | update handle kind token interests =>
    simp only [beginCall, assign] at h
    cases hr : s.registrations handle with
    | none => cases hv : validate .linux handle interests <;> simp [hr, hv] at h
    | some registration =>
      cases hv : validate .linux handle interests with
      | error e => simp [hr, hv] at h
      | ok u =>
        simp only [hr, hv, Option.some.injEq, Prod.mk.injEq] at h
        obtain ⟨rfl, rfl⟩ := h
        exact ⟨rfl, .inr (.inl ⟨registration, reassigned kind token interests registration,
          hr, rfl, rfl, rfl⟩)⟩
  | remove handle =>
    simp only [beginCall, take] at h
    cases hr : s.registrations handle with
    | none => simp [hr] at h
    | some registration =>
      simp only [hr, Option.some.injEq, Prod.mk.injEq] at h
      obtain ⟨rfl, rfl⟩ := h
      exact ⟨rfl, .inr (.inr ⟨registration, hr, rfl, rfl⟩)⟩

/-- What a call in progress may rely on. -/
def Expects (s : Selector EpollSet) : Phase → Prop
  | .adding handle interests => (∃ r, s.registrations handle = some r ∧ r.interests = interests) ∧
      s.backend handle = none
  | .rollingBack handle => s.backend handle = none
  | .updating handle interests => ∃ r, s.registrations handle = some r ∧ r.interests = interests
  | .removing registration => s.registrations registration.handle = none

theorem Expects.frame {s t : Selector EpollSet} {phase : Phase} (h : Expects s phase)
    (hr : t.registrations phase.handle = s.registrations phase.handle)
    (hb : t.backend phase.handle = s.backend phase.handle) : Expects t phase := by
  cases phase with
  | adding handle interests =>
    obtain ⟨⟨r, hs, hi⟩, hn⟩ := h
    exact ⟨⟨r, hr.trans hs, hi⟩, hb.trans hn⟩
  | rollingBack handle => exact hb.trans h
  | updating handle interests =>
    obtain ⟨r, hs, hi⟩ := h
    exact ⟨r, hr.trans hs, hi⟩
  | removing registration => exact hr.trans h

/-- The invariant while no `MOD` has failed: every entry is stored under its own
handle, no two calls in progress share a handle, each finds what it expects, and
a handle without a call in progress agrees with the kernel. -/
structure Consistent (s : State) : Prop where
  keyed : Keyed s.selector.registrations
  apart : ∀ thread thread' phase phase', s.calls thread = some phase →
    s.calls thread' = some phase' → phase.handle = phase'.handle → thread = thread'
  expected : ∀ thread phase, s.calls thread = some phase → Expects s.selector phase
  agreed : ∀ handle, (∀ thread phase, s.calls thread = some phase → phase.handle ≠ handle) →
    Agrees s.selector handle

theorem consistent_initial : Consistent initial :=
  ⟨by simp [Keyed, initial, initialSelector], by simp [initial], by simp [initial],
    fun _ _ => rfl⟩

/-- A step of one thread on one handle, which no other thread is using. -/
theorem Consistent.continue {s : State} (h : Consistent s) (thread : Nat) (handle : NativeHandle)
    (next : Option Phase) (selector : Selector EpollSet)
    (hframe : ∀ other, other ≠ handle → selector.registrations other = s.selector.registrations other ∧
      selector.backend other = s.selector.backend other)
    (hown : ∀ u phase, s.calls u = some phase → (phase.handle = handle ↔ u = thread))
    (hkeyed : ∀ r, selector.registrations handle = some r → r.handle = handle)
    (hnext : ∀ phase, next = some phase → phase.handle = handle ∧ Expects selector phase)
    (hdone : next = none → Agrees selector handle) :
    Consistent (s.continue thread next selector) := by
  refine ⟨?_, ?_, ?_, ?_⟩
  · intro other r hr
    by_cases ho : other = handle
    · subst ho; exact hkeyed r hr
    · exact h.keyed other r ((hframe other ho).1 ▸ hr)
  · intro u u' phase phase' hu hu' hsame
    rcases update_eq_some hu with ⟨ht, hn⟩ | ⟨ht, hold⟩
    · rcases update_eq_some hu' with ⟨ht', _⟩ | ⟨ht', hold'⟩
      · exact ht.trans ht'.symm
      · have hmine := (hnext phase hn).1
        exact absurd ((hown u' phase' hold').mp (hsame.symm.trans hmine)) ht'
    · rcases update_eq_some hu' with ⟨_, hn'⟩ | ⟨_, hold'⟩
      · have hmine := (hnext phase' hn').1
        exact absurd ((hown u phase hold).mp (hsame.trans hmine)) ht
      · exact h.apart u u' phase phase' hold hold' hsame
  · intro u phase hu
    rcases update_eq_some hu with ⟨_, hn⟩ | ⟨ht, hold⟩
    · exact (hnext phase hn).2
    · have hne : phase.handle ≠ handle := fun hh => ht ((hown u phase hold).mp hh)
      exact (h.expected u phase hold).frame (hframe _ hne).1 (hframe _ hne).2
  · intro other hfree
    by_cases ho : other = handle
    · subst ho
      apply hdone
      cases hn : next with
      | none => rfl
      | some phase =>
        have hc : (s.continue thread next selector).calls thread = some phase := by
          simp only [State.continue, Function.update_self, hn]
        exact absurd (hnext phase hn).1 (hfree thread phase hc)
    · have hs : Agrees s.selector other := by
        apply h.agreed
        intro u phase hu
        by_cases ht : u = thread
        · subst ht
          intro hh
          exact ho (hh.symm.trans ((hown u phase hu).mpr rfl))
        · exact hfree u phase (by simpa only [State.continue, Function.update_of_ne ht] using hu)
      change Agrees selector other
      rw [Agrees, (hframe other ho).1, (hframe other ho).2]
      exact hs

theorem Consistent.own {s : State} (h : Consistent s) {thread : Nat} {phase : Phase}
    (hc : s.calls thread = some phase) (u : Nat) (phase' : Phase) (hu : s.calls u = some phase') :
    phase'.handle = phase.handle ↔ u = thread := by
  constructor
  · intro hh; exact h.apart u thread phase' phase hu hc hh
  · intro he
    subst he
    rw [hc] at hu
    cases hu
    rfl

/-- A call on a handle starts only when no call on that handle is in progress. -/
def alone : Action → State → Prop
  | .enter _ call, s => ∀ thread phase, s.calls thread = some phase → phase.handle ≠ call.handle
  | _, _ => True

theorem enter_consistent {s : State} (h : Consistent s) (thread : Nat) (call : Call)
    (hidle : s.calls thread = none) (halone : alone (.enter thread call) s) {phase : Phase}
    {selector : Selector EpollSet} (hb : beginCall call s.selector = some (phase, selector)) :
    Consistent (s.continue thread (some phase) selector) := by
  have hown : ∀ u phase, s.calls u = some phase → (phase.handle = call.handle ↔ u = thread) := by
    intro u phase hu
    constructor
    · intro hh; exact absurd hh (halone u phase hu)
    · intro he; rw [he, hidle] at hu; cases hu
  have hfree : Agrees s.selector call.handle := h.agreed _ halone
  obtain ⟨hback, hcases⟩ := beginCall_cases hb
  rcases hcases with ⟨registration, hr, hp, hh, ht⟩ | ⟨registration, updated, hr, hp, hh, ht⟩ |
    ⟨registration, hr, hp, ht⟩
  · refine h.continue thread call.handle _ selector ?_ hown ?_ ?_ (by simp)
    · intro other ho; exact ⟨by rw [ht, Function.update_of_ne ho], by rw [hback]⟩
    · intro r hs
      rw [ht, Function.update_self] at hs
      cases hs
      exact hh
    · intro next hn
      cases hn
      subst hp
      refine ⟨rfl, ⟨registration, by rw [ht, Function.update_self], rfl⟩, ?_⟩
      rw [hback]
      simpa only [Agrees, hr, Option.map_none] using hfree
  · refine h.continue thread call.handle _ selector ?_ hown ?_ ?_ (by simp)
    · intro other ho; exact ⟨by rw [ht, Function.update_of_ne ho], by rw [hback]⟩
    · intro r hs
      rw [ht, Function.update_self] at hs
      cases hs
      exact hh.trans (h.keyed _ _ hr)
    · intro next hn
      cases hn
      subst hp
      exact ⟨rfl, updated, by rw [ht, Function.update_self], rfl⟩
  · have hkey : registration.handle = call.handle := h.keyed _ _ hr
    refine h.continue thread call.handle _ selector ?_ hown ?_ ?_ (by simp)
    · intro other ho; exact ⟨by rw [ht, erase, Function.update_of_ne ho], by rw [hback]⟩
    · intro r hs
      rw [ht, erase, Function.update_self] at hs
      cases hs
    · intro next hn
      cases hn
      subst hp
      refine ⟨hkey, ?_⟩
      change selector.registrations registration.handle = none
      rw [ht, hkey, erase, Function.update_self]

/-- The `epoll_ctl` of a call touches the call's own handle only. -/
theorem Consistent.ctl {s : State} (h : Consistent s) {thread : Nat} {phase : Phase}
    (hc : s.calls thread = some phase) {refusal : Option Errno} {op : CtlOp} {events : BitVec 32}
    {result : Option Errno} {set : EpollSet}
    (he : epollCtl refusal op phase.handle events s.selector.backend = (result, set))
    (next : Option Phase)
    (hnext : ∀ phase', next = some phase' →
      phase'.handle = phase.handle ∧ Expects { s.selector with backend := set } phase')
    (hdone : next = none → Agrees { s.selector with backend := set } phase.handle) :
    Consistent (s.continue thread next { s.selector with backend := set }) := by
  refine h.continue thread phase.handle next _ ?_ (h.own hc) (h.keyed phase.handle) hnext hdone
  intro other ho
  have hframe := epollCtl_other refusal op phase.handle events s.selector.backend ho
  rw [he] at hframe
  exact ⟨rfl, hframe⟩

theorem ctl_consistent {s t : State} (h : Consistent s) (thread : Nat) (refusal : Option Errno)
    (hstep : ctlStep thread refusal s = some t) : t.modFailed = true ∨ Consistent t := by
  unfold ctlStep at hstep
  cases hc : s.calls thread with
  | none => simp [hc] at hstep
  | some phase =>
    have hexp := h.expected thread phase hc
    cases phase with
    | adding handle interests =>
      right
      obtain ⟨⟨r, hr, hi⟩, hn⟩ := hexp
      cases he : epollCtl refusal .add handle (toEpollEvents interests) s.selector.backend with
      | mk result set =>
        simp only [hc, he] at hstep
        cases result with
        | none =>
          cases hstep
          refine h.ctl hc he none (by simp) ?_
          intro _
          simp only [Agrees, Phase.handle, hr, Option.map_some, hi]
          exact epollCtl_stored (by decide) he
        | some errno =>
          cases hstep
          refine h.ctl hc he (some (.rollingBack handle)) ?_ (by simp)
          intro next hnext
          cases hnext
          refine ⟨rfl, ?_⟩
          change set handle = none
          rw [epollCtl_failed he]
          exact hn
    | rollingBack handle => simp [hc] at hstep
    | updating handle interests =>
      obtain ⟨r, hr, hi⟩ := hexp
      cases he : epollCtl refusal .mod handle (toEpollEvents interests) s.selector.backend with
      | mk result set =>
        simp only [hc, he] at hstep
        cases result with
        | some errno => cases hstep; exact .inl rfl
        | none =>
          cases hstep
          right
          refine h.ctl hc he none (by simp) ?_
          intro _
          simp only [Agrees, Phase.handle, hr, Option.map_some, hi]
          exact epollCtl_stored (by decide) he
    | removing registration =>
      right
      simp only [hc] at hstep
      cases hstep
      have he : epollCtl none .del registration.handle 0 s.selector.backend =
        (_, removeFromBackend none registration s.selector.backend) := rfl
      refine h.ctl hc he none (by simp) ?_
      intro _
      have hgone : s.selector.registrations registration.handle = none := hexp
      simp only [Agrees, Phase.handle, hgone, Option.map_none]
      exact removeFromBackend_absent registration s.selector.backend

theorem rollback_consistent {s : State} (h : Consistent s) (thread : Nat) (handle : NativeHandle)
    (hc : s.calls thread = some (.rollingBack handle)) :
    Consistent (s.continue thread none { s.selector with
      registrations := erase handle s.selector.registrations }) := by
  have hgone : erase handle s.selector.registrations handle = none := Function.update_self _ _ _
  refine h.continue thread handle none _ ?_ (h.own hc) ?_ (by simp) ?_
  · intro other ho; exact ⟨Function.update_of_ne ho _ _, rfl⟩
  · intro r hs; cases hgone.symm.trans hs
  · intro _
    have hn : s.selector.backend handle = none := h.expected thread _ hc
    simp only [Agrees, hgone, Option.map_none, hn]

/-- A failed `MOD` is never forgotten. -/
theorem step_modFailed (a : Action) {s t : State} (h : s.modFailed = true)
    (hstep : step a s = some t) : t.modFailed = true := by
  cases a with
  | enter thread call =>
    simp only [step] at hstep
    split at hstep
    · cases hstep
    · split at hstep
      · cases hstep; exact h
      · cases hstep; exact h
  | ctl thread refusal =>
    simp only [step, ctlStep] at hstep
    split at hstep
    · split at hstep
      · cases hstep; exact h
      · cases hstep; exact h
    · split at hstep
      · cases hstep; exact h
      · cases hstep; rfl
    · cases hstep; exact h
    · cases hstep
  | rollback thread =>
    simp only [step] at hstep
    split at hstep
    · cases hstep; exact h
    · cases hstep

theorem step_consistent (a : Action) {s t : State} (h : s.modFailed = true ∨ Consistent s)
    (halone : alone a s) (hstep : step a s = some t) : t.modFailed = true ∨ Consistent t := by
  rcases h with hfailed | h
  · exact .inl (step_modFailed a hfailed hstep)
  cases a with
  | enter thread call =>
    simp only [step] at hstep
    split at hstep
    · cases hstep
    · rename_i hidle
      split at hstep
      · cases hstep; exact .inr h
      · rename_i phase selector hb
        cases hstep
        exact .inr (enter_consistent h thread call hidle halone hb)
  | ctl thread refusal => exact ctl_consistent h thread refusal hstep
  | rollback thread =>
    simp only [step] at hstep
    split at hstep
    · rename_i handle hc
      cases hstep
      exact .inr (rollback_consistent h thread handle hc)
    · cases hstep

/-- No call is in progress and no `MOD` has failed so far. -/
def Quiet (s : State) : Prop := (∀ thread, s.calls thread = none) ∧ s.modFailed = false

/-- While calls on one handle do not overlap, any interleaving of calls on
different handles leaves table and epoll set in agreement. -/
theorem table_matches_epoll_set (s : State) (h : Reach step alone initial s) (hquiet : Quiet s)
    (handle : NativeHandle) : Agrees s.selector handle := by
  have hinv : s.modFailed = true ∨ Consistent s :=
    h.invariant (.inr consistent_initial) fun a _ _ hs hok hstep => step_consistent a hs hok hstep
  rcases hinv with hfailed | hc
  · rw [hquiet.2] at hfailed; cases hfailed
  · apply hc.agreed
    intro thread phase hphase
    rw [hquiet.1 thread] at hphase
    cases hphase

theorem table_matches_epoll_set_added :
    ∃ s, Reach step alone initial s ∧ Quiet s ∧ (s.selector.registrations 5).isSome ∧
      Agrees s.selector 5 := by
  have h₁ : Reach step alone initial _ :=
    .tail (.enter 1 (.add 5 .rawDescriptor ⟨1⟩ Interest.READABLE false)) .refl
      (by simp [alone, initial]) rfl
  have h₂ : Reach step alone initial _ := .tail (.ctl 1 none) h₁ trivial rfl
  have hidle := fun thread => show Function.update (Function.update initial.calls 1
      (some (.adding 5 Interest.READABLE))) 1 none thread = none by
    simp [initial, Function.update_apply]
  exact ⟨_, h₂, ⟨hidle, rfl⟩, rfl, table_matches_epoll_set _ h₂ ⟨hidle, rfl⟩ 5⟩

/-- Two updates of one handle whose table sections and `epoll_ctl` calls run in
opposite orders leave the kernel with the interests of the first. -/
theorem crossed_updates_disagree :
    ¬ ∀ s, Reachable step initial s → Quiet s → ∀ handle, Agrees s.selector handle := by
  intro hall
  have h := hall _ (reachable_of_run [
    .enter 1 (.add 5 .rawDescriptor ⟨1⟩ Interest.READABLE false), .ctl 1 none,
    .enter 1 (.update 5 .rawDescriptor ⟨1⟩ Interest.READABLE),
    .enter 2 (.update 5 .rawDescriptor ⟨2⟩ Interest.WRITABLE), .ctl 2 none, .ctl 1 none] rfl)
    ⟨fun thread => by simp +contextual [State.continue, initial, Function.update_apply], rfl⟩ 5
  revert h
  unfold Agrees
  decide

end Epoll
