import Ioxx.Net
import Ioxx.Select

/-!
# Edge-triggered notifications and would-block I/O

The epoll set of `Epoll` with what decides when a descriptor is reported: its
readiness, and whether it is queued. A descriptor is queued when its readiness
changes and when `epoll_ctl` finds it ready, and a wait takes it off the queue.
Every I/O call that would block sends an `epoll_ctl(MOD)` for all interests of its
source, so a direction that poll has reported, and that is still ready, is
reported again although nothing has changed.
-/

namespace EdgeTriggered

open Core Detail Registry Runs Maps Epoll Select

structure Kernel where
  set : EpollSet
  readiness : NativeHandle → BitVec 32
  queued : NativeHandle → Bool

/-- What a wait reports for a descriptor: its readiness within its mask. -/
def Kernel.flags (k : Kernel) (handle : NativeHandle) : BitVec 32 :=
  match k.set handle with
  | some mask => k.readiness handle &&& mask
  | none => 0

/-- `epoll_ctl` has changed a mask: the descriptor is queued if it is ready. -/
def Kernel.examine (k : Kernel) (handle : NativeHandle) : Kernel :=
  { k with queued := Function.update k.queued handle (k.queued handle || k.flags handle != 0#32) }

def addToBackend (refusal : Option Errno) (handle : NativeHandle) (interests : Interest)
    (k : Kernel) : Except Exception (Option AfdRef) × Kernel :=
  match Epoll.addToBackend refusal handle interests k.set with
  | (.error e, set) => (.error e, { k with set := set })
  | (.ok afdState, set) => (.ok afdState, { k with set := set }.examine handle)

def updateBackend (refusal : Option Errno) (handle : NativeHandle) (interests : Interest)
    (k : Kernel) : Except Exception Unit × Kernel :=
  match Epoll.updateBackend refusal handle interests k.set with
  | (.error e, set) => (.error e, { k with set := set })
  | (.ok _, set) => (.ok (), { k with set := set }.examine handle)

/-- A descriptor that leaves the set also leaves the queue. -/
def removeFromBackend (refusal : Option Errno) (registration : Registration) (k : Kernel) : Kernel :=
  let set := Epoll.removeFromBackend refusal registration k.set
  { k with
    set := set
    queued := Function.update k.queued registration.handle
      (k.queued registration.handle && (set registration.handle).isSome) }

def backend : Backend Kernel (Option Errno) where
  platform := .linux
  addToBackend refusal handle _ _ interests := addToBackend refusal handle interests
  updateBackend refusal _ handle _ _ interests := updateBackend refusal handle interests
  removeFromBackend := removeFromBackend

/-- The directions of readiness that an event distinguishes on Linux. -/
inductive Direction where
  | readable
  | writable
  | priority
  deriving DecidableEq, Repr

def Direction.holds (readiness : Interest) : Direction → Bool
  | .readable => readiness.isReadable
  | .writable => readiness.isWritable
  | .priority => readiness.isPriority

/-- A raw event with these flags reports the direction. -/
def shows (flags : BitVec 32) (direction : Direction) : Bool :=
  direction.holds (fromEpollEvents flags)

/-- A program, its kernel, and how often poll has reported each direction of a
descriptor since its readiness last changed or the user last registered it. -/
structure State where
  world : Net.World Kernel
  count : NativeHandle → Direction → Nat

def State.kernel (s : State) : Kernel := s.world.selector.backend

inductive Action (A : Type) where
  | calls (a : Net.Action (Option Errno) A)
  | changes (handle : NativeHandle) (readiness : BitVec 32)
  | polls (handles : List NativeHandle)

/-- No registration yet; the descriptors may be ready for anything. -/
def initial (sources : Nat → Source) (readiness : NativeHandle → BitVec 32) : State :=
  ⟨⟨⟨fun _ => none, -1, false, ⟨fun _ => none, readiness, fun _ => false⟩⟩, sources⟩, fun _ _ => 0⟩

variable {A : Type} [Inhabited A]

/-- The handle-level call behind a call of the program; I/O makes none of its own. -/
def handleCall (w : Net.World Kernel) :
    Net.Action (Option Errno) A → Option (HandleCall × Option Errno)
  | .register id token interests refusal _ =>
    some (.register (w.sources id).handle (sourceKind .linux (w.sources id).type) token interests,
      refusal)
  | .reregister id token interests refusal _ =>
    some (.reregister (w.sources id).handle (sourceKind .linux (w.sources id).type) token interests,
      refusal)
  | .deregister id refusal _ => some (.deregister (w.sources id).handle, refusal)
  | .handle call refusal => some (call, refusal)
  | .io .. => none

/-- The handle that a call registers or reregisters. -/
def renews : HandleCall → Option NativeHandle
  | .register handle _ _ _ => some handle
  | .reregister handle _ _ _ => some handle
  | .deregister _ => none

/-- The handle that the user registers or reregisters by a call of the program. -/
def registered (w : Net.World Kernel) (a : Net.Action (Option Errno) A) : Option NativeHandle :=
  (handleCall w a).bind fun call => renews call.1

def reset (handle : Option NativeHandle) (count : NativeHandle → Direction → Nat) :
    NativeHandle → Direction → Nat :=
  fun other direction => if handle = some other then 0 else count other direction

/-- The event that `select_epoll` pushes for a descriptor it is handed. -/
def eventOf (s : Selector Kernel) (handle : NativeHandle) : Option Event :=
  if s.backend.flags handle = 0#32 then none
  else (s.registrations handle).map fun r => epollEvent r ⟨s.backend.flags handle, handle⟩

def reportsTo (s : Selector Kernel) (handles : List NativeHandle) (handle : NativeHandle)
    (direction : Direction) : Bool :=
  decide (handle ∈ handles) && (eventOf s handle).any fun event => direction.holds event.readiness

/-- A wait takes the given descriptors off the queue; one that is not ready any
more is not reported. -/
def step : Action A → State → Option State
  | .calls a, s => (Net.step backend a s.world).map fun world =>
      ⟨world, reset (registered s.world a) s.count⟩
  | .changes handle readiness, s => some {
      world := { s.world with
        selector := { s.world.selector with
          backend := { s.kernel with
            readiness := Function.update s.kernel.readiness handle readiness
            queued := Function.update s.kernel.queued handle
              (s.kernel.queued handle || (s.kernel.set handle).isSome) } } }
      count := reset (some handle) s.count }
  | .polls handles, s =>
    if ∀ handle ∈ handles, s.kernel.queued handle = true then some {
      world := { s.world with
        selector := { s.world.selector with
          backend := { s.kernel with
            queued := fun handle => s.kernel.queued handle && decide (handle ∉ handles) } } }
      count := fun handle direction => s.count handle direction +
        if reportsTo s.world.selector handles handle direction then 1 else 0 }
    else none

/-- Without readiness and queue, the backend is that of `Epoll`. -/
theorem perform_set (call : Detail.Call) (refusal : Option Errno) (s : Selector Kernel) :
    call.perform Epoll.backend refusal (s.map Kernel.set) =
      ((call.perform backend refusal s).1, (call.perform backend refusal s).2.map Kernel.set) := by
  refine Call.perform_map Kernel.set rfl ?_ ?_ ?_ call refusal s
  · intro refusal handle kind token interests k
    simp only [backend, addToBackend, Epoll.backend]
    split
    · rename_i hb
      rw [hb]
    · rename_i hb
      rw [hb]
      rfl
  · intro refusal registration handle kind token interests k
    simp only [backend, updateBackend, Epoll.backend]
    split
    · rename_i hb
      rw [hb]
    · rename_i hb
      rw [hb]
      rfl
  · intro refusal registration k
    rfl

/-- What the kernel hands to a wait for these descriptors. -/
def rawEvents (k : Kernel) (handles : List NativeHandle) : List EpollEvent :=
  (handles.filter fun handle => k.flags handle ≠ 0#32).map fun handle => ⟨k.flags handle, handle⟩

theorem obtained_rawEvents (s : Selector Kernel) (handles : List NativeHandle) :
    obtained epollWaiting s.registrations (rawEvents s.backend handles) =
      handles.filterMap (eventOf s) := by
  induction handles with
  | nil => rfl
  | cons handle handles ih =>
    by_cases hflags : s.backend.flags handle = 0#32
    · have hraw : rawEvents s.backend (handle :: handles) = rawEvents s.backend handles := by
        rw [rawEvents, List.filter_cons_of_neg (by simpa using hflags)]
        rfl
      rw [hraw, ih, List.filterMap_cons_none (by rw [eventOf, if_pos hflags])]
    · have hraw : rawEvents s.backend (handle :: handles) =
          ⟨s.backend.flags handle, handle⟩ :: rawEvents s.backend handles := by
        rw [rawEvents, List.filter_cons_of_pos (by simpa using hflags)]
        rfl
      have hevent : eventOf s handle = (s.registrations handle).map fun r =>
          epollEvent r ⟨s.backend.flags handle, handle⟩ := if_neg hflags
      rw [hraw, List.filterMap_cons, hevent, ← ih]
      cases hentry : s.registrations handle <;> simp [obtained, epollWaiting, hentry]

/-- The events counted by a poll are those `select_epoll` pushes when the kernel
hands out these descriptors. -/
theorem selectEpoll_events (growth : Growth) (s : Selector Kernel) (handles : List NativeHandle)
    (reads : NativeHandle → List Nat) (events : Events) (unread : NativeHandle → Nat)
    (hroom : (rawEvents s.backend handles).length ≤ (maxEvents events.capacity).toNat)
    (hcapacity : 0 < maxEvents events.capacity) :
    (selectEpoll growth s.registrations (.ok (rawEvents s.backend handles).length) reads events
      ⟨rawEvents s.backend handles, unread⟩).2.1 =
        events.pushAll growth (handles.filterMap (eventOf s)) := by
  have hwait : epollWait (.ok (rawEvents s.backend handles).length) (maxEvents events.capacity)
      ⟨rawEvents s.backend handles, unread⟩ = (.ok (rawEvents s.backend handles), ⟨[], unread⟩) := by
    rw [epollWait, if_neg (by omega), Kernel.wait]
    simp [Nat.min_eq_left hroom]
  rw [selectEpoll, selectRaw, show epollWaiting.wait = epollWait from rfl, hwait]
  dsimp only
  rw [foldl_report, obtained_rawEvents]

/-- The kernel after a successful `ADD` or `MOD`. -/
def Kernel.masked (k : Kernel) (handle : NativeHandle) (interests : Interest) : Kernel :=
  { k with set := Function.update k.set handle (some (toEpollEvents interests)) }.examine handle

theorem addToBackend_cases (refusal : Option Errno) (handle : NativeHandle) (interests : Interest)
    (k : Kernel) :
    (∃ e, addToBackend refusal handle interests k = (.error e, k)) ∨
      addToBackend refusal handle interests k = (.ok none, k.masked handle interests) := by
  unfold addToBackend Epoll.addToBackend epollCtl
  cases refusal with
  | some errno => exact .inl ⟨_, rfl⟩
  | none =>
    cases hset : k.set handle with
    | some mask => exact .inl ⟨_, rfl⟩
    | none => exact .inr rfl

theorem updateBackend_cases (refusal : Option Errno) (handle : NativeHandle) (interests : Interest)
    (k : Kernel) :
    (∃ e, updateBackend refusal handle interests k = (.error e, k)) ∨
      updateBackend refusal handle interests k = (.ok (), k.masked handle interests) := by
  unfold updateBackend Epoll.updateBackend epollCtl
  cases refusal with
  | some errno => exact .inl ⟨_, rfl⟩
  | none =>
    cases hset : k.set handle with
    | some mask => exact .inr rfl
    | none => exact .inl ⟨_, rfl⟩

/-- Two kernels have the same to say about a descriptor. -/
structure Same (handle : NativeHandle) (k k' : Kernel) : Prop where
  flags : k'.flags handle = k.flags handle
  queued : k'.queued handle = k.queued handle

theorem Same.refl (handle : NativeHandle) (k : Kernel) : Same handle k k := ⟨rfl, rfl⟩

theorem masked_other (k : Kernel) {handle other : NativeHandle} (interests : Interest)
    (h : other ≠ handle) : Same other k (k.masked handle interests) := by
  refine ⟨?_, Function.update_of_ne h _ _⟩
  simp only [Kernel.flags, Kernel.masked, Kernel.examine, Function.update_of_ne h]

theorem masked_flags (k : Kernel) (handle : NativeHandle) (interests : Interest) :
    (k.masked handle interests).flags handle = k.readiness handle &&& toEpollEvents interests := by
  simp only [Kernel.flags, Kernel.masked, Kernel.examine, Function.update_self]

theorem masked_queued (k : Kernel) (handle : NativeHandle) (interests : Interest) :
    (k.masked handle interests).queued handle =
      (k.queued handle || (k.masked handle interests).flags handle != 0#32) :=
  Function.update_self _ _ _

theorem removed_other (refusal : Option Errno) (registration : Registration) (k : Kernel)
    {other : NativeHandle} (h : other ≠ registration.handle) :
    Same other k (removeFromBackend refusal registration k) := by
  refine ⟨?_, Function.update_of_ne h _ _⟩
  simp only [Kernel.flags, removeFromBackend, Epoll.removeFromBackend, epollCtl_other _ _ _ _ _ h]

/-- A descriptor that is still queued after its removal was not removed. -/
theorem removed_queued (refusal : Option Errno) (registration : Registration) (k : Kernel)
    (h : (removeFromBackend refusal registration k).queued registration.handle = true) :
    Same registration.handle k (removeFromBackend refusal registration k) := by
  have hqueued : (removeFromBackend refusal registration k).queued registration.handle =
      (k.queued registration.handle &&
        (Epoll.removeFromBackend refusal registration k.set registration.handle).isSome) :=
    Function.update_self _ _ _
  obtain ⟨hbefore, hkept⟩ := Bool.and_eq_true_iff.mp (hqueued.symm.trans h)
  refine ⟨?_, h.trans hbefore.symm⟩
  cases refusal with
  | some errno => rfl
  | none =>
    rw [removeFromBackend_absent] at hkept
    cases hkept

/-- What a call may do to the kernel: one descriptor gets a mask or is removed. -/
inductive Change (handle : NativeHandle) (k : Kernel) : Kernel → Prop where
  | nothing : Change handle k k
  | mask (interests : Interest) : Change handle k (k.masked handle interests)
  | remove (refusal : Option Errno) (registration : Registration)
      (own : registration.handle = handle) : Change handle k (removeFromBackend refusal registration k)

theorem Change.other {handle other : NativeHandle} {k k' : Kernel} (h : Change handle k k')
    (hother : other ≠ handle) : Same other k k' := by
  cases h with
  | nothing => exact .refl other k
  | mask interests => exact masked_other k interests hother
  | remove refusal registration own => exact removed_other refusal registration k (own ▸ hother)

/-- The kernel after a handle-level call; a deregistration queues nothing. -/
theorem perform_change (call : HandleCall) (refusal : Option Errno) (s : Selector Kernel)
    (hkeyed : Keyed s.registrations) :
    Change call.handle s.backend (call.perform backend refusal s).2.backend ∧
      ∀ handle, call = .deregister handle →
        (call.perform backend refusal s).2.backend.queued handle = true →
        Same handle s.backend (call.perform backend refusal s).2.backend := by
  cases call with
  | register handle kind token interests =>
    refine ⟨?_, fun _ hcall => HandleCall.noConfusion hcall⟩
    simp only [HandleCall.perform, registerHandle]
    rcases add_cases backend refusal handle kind token interests false s with ⟨e, _, he⟩ |
      ⟨_, _, ⟨e, k, hk, he⟩ | ⟨afdState, k, hk, he⟩⟩
    · rw [he]; exact .nothing
    · rw [he]
      rcases addToBackend_cases refusal handle interests s.backend with ⟨e', hb⟩ | hb
      · rw [show k = s.backend from (congrArg Prod.snd (hk.symm.trans hb))]
        exact .nothing
      · cases hk.symm.trans hb
    · rw [he]
      rcases addToBackend_cases refusal handle interests s.backend with ⟨e', hb⟩ | hb
      · cases hk.symm.trans hb
      · rw [show k = s.backend.masked handle interests from (congrArg Prod.snd (hk.symm.trans hb))]
        exact .mask interests
  | reregister handle kind token interests =>
    refine ⟨?_, fun _ hcall => HandleCall.noConfusion hcall⟩
    simp only [HandleCall.perform, reregisterHandle]
    rcases update_cases backend refusal handle kind token interests s with ⟨e, _, he⟩ |
      ⟨_, r, result, k, _, hk, he⟩
    · rw [he]; exact .nothing
    · have hchange : Change handle s.backend k := by
        rcases updateBackend_cases refusal handle interests s.backend with ⟨e', hb⟩ | hb
        · rw [show k = s.backend from (congrArg Prod.snd (hk.symm.trans hb))]
          exact .nothing
        · rw [show k = s.backend.masked handle interests from (congrArg Prod.snd (hk.symm.trans hb))]
          exact .mask interests
      rw [he]
      cases result <;> exact hchange
  | deregister handle =>
    simp only [HandleCall.perform, deregisterHandle]
    rcases remove_cases backend refusal handle s with ⟨e, _, he⟩ | ⟨r, hr, he⟩
    · rw [he]
      exact ⟨.nothing, fun _ _ _ => .refl _ _⟩
    · rw [he]
      have hown : r.handle = handle := hkeyed handle r hr
      refine ⟨.remove refusal r hown, ?_⟩
      rintro other ⟨⟩ hqueued
      subst hown
      exact removed_queued refusal r s.backend hqueued

def Kinds (w : Net.World Kernel) : Prop := ∀ id, keepsCopy (w.sources id).type = true

theorem Kinds.not_signals {w : Net.World Kernel} (h : Kinds w) (id : Nat) :
    (w.sources id).type ≠ .signals := by
  intro htype
  have hkind := h id
  rw [htype] at hkind
  cases hkind

/-- A source-level call that returned has made its handle-level call. -/
theorem called_returned {w v : Net.World Kernel} (hkinds : Kinds w) (id : Nat)
    {outcome : Option ErrorCode × Selector Kernel} {refresh : Source → Source}
    {callback : Selector Kernel → Except Exception Unit × Selector Kernel}
    (hrefresh : (refreshed refresh (w.sources id)).type = (w.sources id).type)
    (h : w.called id (withHook (w.sources id) outcome (hook refresh callback (w.sources id))) = some v) :
    v.selector = outcome.2 ∧ Kinds v := by
  cases hreturned : withHook (w.sources id) outcome (hook refresh callback (w.sources id)) with
  | terminated =>
    rw [hreturned] at h
    cases h
  | returned result =>
    obtain ⟨ec, source', t⟩ := result
    rw [hreturned] at h
    cases h
    obtain ⟨rfl, hsource⟩ := withHook_returned (hkinds.not_signals id) hreturned
    have htype : source'.type = (w.sources id).type := by
      rcases hsource with rfl | rfl
      · rfl
      · exact hrefresh
    refine ⟨rfl, fun other => ?_⟩
    by_cases hother : other = id
    · subst hother
      simp only [Function.update_self, htype]
      exact hkinds other
    · simp only [Function.update_of_ne hother]
      exact hkinds other

/-- Every call but I/O does to the selector what its handle-level call does. -/
theorem step_handleCall {a : Net.Action (Option Errno) A} {w v : Net.World Kernel} (hkinds : Kinds w)
    (hstep : Net.step backend a w = some v) {call : HandleCall} {refusal : Option Errno}
    (hcall : handleCall w a = some (call, refusal)) :
    v.selector = (call.perform backend refusal w.selector).2 ∧ Kinds v := by
  cases a with
  | register id token interests ω ω' =>
    cases hcall
    exact called_returned hkinds id (refreshed_remember_type token interests _) hstep
  | reregister id token interests ω ω' =>
    cases hcall
    exact called_returned hkinds id (refreshed_remember_type token interests _) hstep
  | deregister id ω ω' =>
    cases hcall
    exact called_returned hkinds id (refreshed_forget_type _) hstep
  | handle call' ω =>
    cases hcall
    cases hstep
    exact ⟨rfl, hkinds⟩
  | io id call' ω => cases hcall

/-- A would-block call re-arms its source: it has a copy of its registration. -/
def Rearms (w : Net.World Kernel) (id : Nat) (call : Net.IoCall A) : Prop :=
  (∃ ec, Net.WouldBlock backend call (w.sources id) ec) ∧ (w.sources id).registered = true ∧
    (w.sources id).interests.empty = false

/-- The world after a source has been re-armed. -/
def rearmed (w : Net.World Kernel) (id : Nat) (r : Registration) : Net.World Kernel :=
  { w with selector := { w.selector with
    registrations := Function.update w.selector.registrations (w.sources id).handle
      (some (reassigned (sourceKind .linux (w.sources id).type) (w.sources id).token
        (w.sources id).interests r))
    backend := w.selector.backend.masked (w.sources id).handle (w.sources id).interests } }

theorem rearm_returned {source : Source} {refusal : Option Errno} {s t : Selector Kernel} {u : Unit}
    (hcopy : source.registered = true ∧ source.interests.empty = false)
    (h : Net.rearmAfterWouldBlock backend refusal source s = (.ok u, t)) :
    ∃ r, s.registrations source.handle = some r ∧ t = { s with
      registrations := Function.update s.registrations source.handle (some (reassigned
        (sourceKind .linux source.type) source.token source.interests r))
      backend := s.backend.masked source.handle source.interests } := by
  obtain ⟨r, k, hr, hk, rfl⟩ := Net.rearm_ok backend refusal hcopy h
  refine ⟨r, hr, ?_⟩
  rcases updateBackend_cases refusal source.handle source.interests s.backend with ⟨e, hb⟩ | hb
  · cases hk.symm.trans hb
  · rw [show k = _ from congrArg Prod.snd (hk.symm.trans hb)]
    rfl

/-- An I/O call that returned has re-armed its source if it would block and there
is a copy, and has changed nothing otherwise. -/
theorem step_io {id : Nat} {call : Net.IoCall A} {refusal : Option Errno} {w v : Net.World Kernel}
    (hstep : Net.step backend (.io id call refusal) w = some v) :
    (Rearms w id call → ∃ r, w.selector.registrations (w.sources id).handle = some r ∧
      v = rearmed w id r) ∧ (¬ Rearms w id call → v = w) := by
  simp only [Net.step] at hstep
  split at hstep
  · split at hstep
    · cases hstep
    · rename_i ec value selector hreturned
      cases hstep
      constructor
      · rintro ⟨⟨error, hblock⟩, hcopy⟩
        obtain ⟨fallback, _, hperform⟩ :=
          Net.perform_wouldBlock backend refusal call (w.sources id) w.selector hblock
        rw [hperform] at hreturned
        split at hreturned
        · rename_i u t hrearm
          cases hreturned
          obtain ⟨r, hr, rfl⟩ := rearm_returned hcopy hrearm
          exact ⟨r, hr, rfl⟩
        · cases hreturned
      · intro hnot
        rcases Net.perform_selector backend refusal call (w.sources id) w.selector selector hreturned
          with rfl | ⟨hblock, u, hrearm⟩
        · rfl
        · rw [Net.rearmAfterWouldBlock, if_neg fun hcopy => hnot ⟨hblock, hcopy⟩] at hrearm
          cases hrearm
          rfl
  · cases hstep

/-- What a run keeps: nothing is reported twice, and no queued descriptor shows a
direction that has been reported. -/
structure Good (s : State) : Prop where
  kinds : Kinds s.world
  keyed : Keyed s.world.selector.registrations
  once : ∀ handle direction, s.count handle direction ≤ 1
  unreported : ∀ handle direction, s.kernel.queued handle = true →
    shows (s.kernel.flags handle) direction = true → s.count handle direction = 0

theorem initial_good {sources : Nat → Source} (hkinds : ∀ id, keepsCopy (sources id).type = true)
    (readiness : NativeHandle → BitVec 32) : Good (initial sources readiness) :=
  ⟨hkinds, nofun, fun _ _ => Nat.zero_le 1, nofun⟩

/-- A step that counts nothing: each descriptor starts anew, or shows nothing that
has been reported. -/
theorem Good.uncounted {s t : State} (h : Good s) (hkinds : Kinds t.world)
    (hkeyed : Keyed t.world.selector.registrations)
    (hcount : ∀ handle, (∀ direction, t.count handle direction = 0) ∨
      (∀ direction, t.count handle direction = s.count handle direction) ∧
        (t.kernel.queued handle = true → ∀ direction,
          shows (t.kernel.flags handle) direction = true → s.count handle direction = 0)) :
    Good t := by
  refine ⟨hkinds, hkeyed, ?_, ?_⟩
  · intro handle direction
    rcases hcount handle with hzero | ⟨hsame, _⟩
    · rw [hzero direction]
      exact Nat.zero_le 1
    · rw [hsame direction]
      exact h.once handle direction
  · intro handle direction hqueued hshows
    rcases hcount handle with hzero | ⟨hsame, hunreported⟩
    · exact hzero direction
    · rw [hsame direction]
      exact hunreported hqueued direction hshows

/-- A descriptor about which the kernel says the same shows nothing reported. -/
theorem Good.same {s : State} (h : Good s) {handle : NativeHandle} {k : Kernel}
    (hsame : Same handle s.kernel k) (hqueued : k.queued handle = true) (direction : Direction)
    (hshows : shows (k.flags handle) direction = true) : s.count handle direction = 0 :=
  h.unreported handle direction (hsame.queued ▸ hqueued) (hsame.flags ▸ hshows)

theorem reset_of_ne {handle other : NativeHandle} (h : other ≠ handle)
    (count : NativeHandle → Direction → Nat) (direction : Direction) :
    reset (some handle) count other direction = count other direction :=
  if_neg fun he => h (Option.some.inj he).symm

/-- A change of readiness starts its descriptor anew. -/
theorem Good.changes {s t : State} (h : Good s) {handle : NativeHandle} {readiness : BitVec 32}
    (hstep : step (A := A) (.changes handle readiness) s = some t) : Good t := by
  cases hstep
  refine h.uncounted h.kinds h.keyed fun other => ?_
  by_cases hother : other = handle
  · subst hother
    exact .inl fun direction => if_pos rfl
  · have hsame : Same other s.kernel { s.kernel with
        readiness := Function.update s.kernel.readiness handle readiness
        queued := Function.update s.kernel.queued handle
          (s.kernel.queued handle || (s.kernel.set handle).isSome) } := by
      refine ⟨?_, Function.update_of_ne hother _ _⟩
      simp only [Kernel.flags, Function.update_of_ne hother]
    exact .inr ⟨reset_of_ne hother s.count, fun hqueued => h.same hsame hqueued⟩

/-- A call that registers or reregisters starts its descriptor anew, and one that
deregisters queues nothing. -/
theorem Good.handleCall {s t : State} (h : Good s) {a : Net.Action (Option Errno) A}
    {call : HandleCall} {refusal : Option Errno}
    (hcall : EdgeTriggered.handleCall s.world a = some (call, refusal))
    (hstep : step (.calls a) s = some t) : Good t := by
  obtain ⟨v, hv, rfl⟩ := Option.map_eq_some_iff.mp hstep
  obtain ⟨hselector, hkinds⟩ := step_handleCall h.kinds hv hcall
  obtain ⟨hchange, hderegister⟩ := perform_change call refusal s.world.selector h.keyed
  have hrenews : registered s.world a = renews call := by rw [registered, hcall]; rfl
  refine h.uncounted hkinds ?_ ?_
  · change Keyed v.selector.registrations
    rw [hselector]
    exact call.perform_keyed backend refusal h.keyed
  · intro handle
    change (∀ direction, reset (registered s.world a) s.count handle direction = 0) ∨
      (∀ direction, reset (registered s.world a) s.count handle direction = s.count handle direction) ∧
        (v.selector.backend.queued handle = true → ∀ direction,
          shows (v.selector.backend.flags handle) direction = true → s.count handle direction = 0)
    rw [hrenews, hselector]
    by_cases hother : handle = call.handle
    · subst hother
      cases call with
      | register handle kind token interests => exact .inl fun _ => if_pos rfl
      | reregister handle kind token interests => exact .inl fun _ => if_pos rfl
      | deregister handle =>
        exact .inr ⟨fun _ => if_neg nofun, fun hqueued => h.same (hderegister handle rfl hqueued) hqueued⟩
    · refine .inr ⟨fun direction => ?_, fun hqueued => h.same (hchange.other hother) hqueued⟩
      cases call with
      | register handle' kind token interests => exact reset_of_ne hother s.count direction
      | reregister handle' kind token interests => exact reset_of_ne hother s.count direction
      | deregister handle' => exact if_neg nofun

/-- No would-block call re-arms a source while its descriptor is ready in a
direction of its interests that poll has reported. -/
def Unspent : Action A → State → Prop
  | .calls (.io id call _), s => Rearms s.world id call → ∀ direction,
      shows (s.kernel.readiness (s.world.sources id).handle &&&
        toEpollEvents (s.world.sources id).interests) direction = true →
      s.count (s.world.sources id).handle direction = 0
  | _, _ => True

theorem Good.io {s t : State} (h : Good s) {id : Nat} {call : Net.IoCall A} {refusal : Option Errno}
    (hok : Unspent (.calls (.io id call refusal)) s)
    (hstep : step (.calls (.io id call refusal)) s = some t) : Good t := by
  obtain ⟨v, hv, rfl⟩ := Option.map_eq_some_iff.mp hstep
  obtain ⟨hrearms, hquiet⟩ := step_io hv
  have hcount : ∀ handle direction,
      reset (registered s.world (.io id call refusal)) s.count handle direction =
        s.count handle direction := fun _ _ => if_neg nofun
  by_cases hrearm : Rearms s.world id call
  · obtain ⟨r, hr, rfl⟩ := hrearms hrearm
    refine h.uncounted h.kinds ?_ fun handle => .inr ⟨hcount handle, ?_⟩
    · refine h.keyed.update _ _ fun r' hr' => ?_
      cases hr'
      exact h.keyed _ r hr
    · intro hqueued direction hshows
      by_cases hother : handle = (s.world.sources id).handle
      · subst hother
        refine hok hrearm direction ?_
        rw [← masked_flags]
        exact hshows
      · exact h.same (masked_other _ _ hother) hqueued direction hshows
  · cases hquiet hrearm
    refine h.uncounted h.kinds h.keyed fun handle => .inr ⟨hcount handle, ?_⟩
    exact fun hqueued direction hshows => h.unreported handle direction hqueued hshows

theorem shows_zero (direction : Direction) : shows 0#32 direction = false := by
  cases direction <;> decide

theorem reportsTo_iff {s : Selector Kernel} {handles : List NativeHandle} {handle : NativeHandle}
    {direction : Direction} :
    reportsTo s handles handle direction = true ↔ handle ∈ handles ∧
      (s.registrations handle).isSome = true ∧ shows (s.backend.flags handle) direction = true := by
  unfold reportsTo eventOf
  by_cases hflags : s.backend.flags handle = 0#32
  · rw [if_pos hflags, hflags, shows_zero]
    simp
  · rw [if_neg hflags]
    cases s.registrations handle <;> simp [shows, epollEvent]

/-- A wait takes what it reports off the queue. -/
theorem Good.polls {s t : State} (h : Good s) {handles : List NativeHandle}
    (hstep : step (A := A) (.polls handles) s = some t) : Good t := by
  simp only [step] at hstep
  split at hstep
  · rename_i hqueued
    cases hstep
    refine ⟨h.kinds, h.keyed, ?_, ?_⟩
    · intro handle direction
      change s.count handle direction + _ ≤ 1
      split
      · rename_i hreports
        obtain ⟨hmem, _, hshows⟩ := reportsTo_iff.mp hreports
        rw [h.unreported handle direction (hqueued handle hmem) hshows]
      · exact h.once handle direction
    · intro handle direction hstill hshows
      obtain ⟨hbefore, hout⟩ := Bool.and_eq_true_iff.mp hstill
      have hsilent : ¬ reportsTo s.world.selector handles handle direction = true :=
        fun hreports => of_decide_eq_true hout (reportsTo_iff.mp hreports).1
      change s.count handle direction + (if _ then 1 else 0) = 0
      rw [if_neg hsilent]
      exact h.unreported handle direction hbefore hshows
  · cases hstep

theorem step_good {a : Action A} {s t : State} (h : Good s) (hok : Unspent a s)
    (hstep : step a s = some t) : Good t := by
  cases a with
  | changes handle readiness => exact h.changes hstep
  | polls handles => exact h.polls hstep
  | calls a =>
    cases a with
    | io id call refusal => exact h.io hok hstep
    | register id token interests ω ω' => exact h.handleCall rfl hstep
    | reregister id token interests ω ω' => exact h.handleCall rfl hstep
    | deregister id ω ω' => exact h.handleCall rfl hstep
    | handle call ω => exact h.handleCall rfl hstep

/-- From a good state, a would-block call lets the next poll repeat a direction
exactly when it re-arms a ready direction that has been reported. -/
theorem Good.io_unspent_iff {s t : State} (h : Good s) {id : Nat} {call : Net.IoCall A}
    {refusal : Option Errno} (hstep : step (.calls (.io id call refusal)) s = some t) :
    (∀ handles u, step (A := A) (.polls handles) t = some u →
      ∀ handle direction, u.count handle direction ≤ 1) ↔ Unspent (.calls (.io id call refusal)) s := by
  constructor
  · intro hall hrearm direction hshows
    obtain ⟨v, hv, rfl⟩ := Option.map_eq_some_iff.mp hstep
    obtain ⟨r, hr, rfl⟩ := (step_io hv).1 hrearm
    have hflags : shows ((s.kernel.masked (s.world.sources id).handle
        (s.world.sources id).interests).flags (s.world.sources id).handle) direction = true := by
      rw [masked_flags]
      exact hshows
    have hready : (s.kernel.masked (s.world.sources id).handle
        (s.world.sources id).interests).flags (s.world.sources id).handle ≠ 0#32 := by
      intro hzero
      rw [hzero, shows_zero] at hflags
      cases hflags
    have hqueued : (s.kernel.masked (s.world.sources id).handle
        (s.world.sources id).interests).queued (s.world.sources id).handle = true := by
      rw [masked_queued]
      simp [hready]
    have hreports : reportsTo (rearmed s.world id r).selector [(s.world.sources id).handle]
        (s.world.sources id).handle direction = true := by
      refine reportsTo_iff.mpr ⟨List.mem_singleton_self _, ?_, hflags⟩
      simp only [rearmed, Function.update_self, Option.isSome_some]
    have hbound := hall [(s.world.sources id).handle] _
      (if_pos fun handle hmem => by rw [List.mem_singleton.mp hmem]; exact hqueued)
      (s.world.sources id).handle direction
    change s.count (s.world.sources id).handle direction + (if _ then 1 else 0) ≤ 1 at hbound
    rw [if_pos hreports] at hbound
    omega
  · intro hok handles u hpoll handle direction
    exact ((h.io hok hstep).polls hpoll).once handle direction

/-- Poll reports each direction of a descriptor at most once between two changes of
its readiness or registrations by the user, in every run whose would-block calls
re-arm no source that is ready in a direction already reported; and a call that
does lets the next poll repeat it. -/
theorem reported_at_most_once {sources : Nat → Source}
    (hkinds : ∀ id, keepsCopy (sources id).type = true) (readiness : NativeHandle → BitVec 32)
    {s : State} (h : Reach (step (A := A)) Unspent (initial sources readiness) s) :
    (∀ handle direction, s.count handle direction ≤ 1) ∧
    ∀ id (call : Net.IoCall A) refusal t, step (.calls (.io id call refusal)) s = some t →
      ((∀ handles u, step (A := A) (.polls handles) t = some u →
        ∀ handle direction, u.count handle direction ≤ 1) ↔
          Unspent (.calls (.io id call refusal)) s) := by
  have hgood : Good s := h.invariant (initial_good hkinds readiness)
    fun a _ _ hu hok hstep => step_good hu hok hstep
  exact ⟨hgood.once, fun id call refusal t hstep => hgood.io_unspent_iff hstep⟩

/-- A stream on descriptor 5, which can always be written to. -/
def writableStream : State :=
  initial (fun id => { type := .tcpStream, handle := if id = 0 then 5 else -1 })
    fun handle => if handle = 5 then epollOut else 0

/-- A read that would block before the first poll repeats nothing. -/
theorem reported_at_most_once_read_first :
    ∃ s, Reach (step (A := Unit)) Unspent writableStream s ∧ s.count 5 .writable = 1 ∧
      ∀ handle direction, s.count handle direction ≤ 1 := by
  have h : Reach (step (A := Unit)) Unspent writableStream _ :=
    .tail (.polls [5]) (.tail (.calls (.io 0 (.read (.error Net.again)) none))
      (.tail (.calls (.register 0 ⟨1⟩ (Interest.READABLE ||| Interest.WRITABLE) none none)) .refl trivial
        rfl) (fun _ _ _ => rfl) rfl) trivial rfl
  exact ⟨_, h, rfl, (reported_at_most_once (fun _ => rfl) _ h).1⟩

/-- Once poll has reported the stream writable, a read that would block makes it
report that again. -/
theorem would_block_read_repeats_writable :
    ¬ ∀ s, Reachable (step (A := Unit)) writableStream s →
      ∀ handle direction, s.count handle direction ≤ 1 := by
  intro hall
  have h := hall _ (reachable_of_run [
    .calls (.register 0 ⟨1⟩ (Interest.READABLE ||| Interest.WRITABLE) none none), .polls [5],
    .calls (.io 0 (.read (.error Net.again)) none), .polls [5]] rfl) 5 .writable
  revert h
  decide

end EdgeTriggered
