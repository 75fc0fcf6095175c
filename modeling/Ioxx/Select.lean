import Ioxx.Epoll
import Ioxx.Kqueue

/-!
# The events of one poll, and the selectors of the POSIX builds

`Events` is a vector, so a push past its capacity makes it grow. `select_epoll`
and `select_kqueue` let the kernel fill an array of `capacity` raw events and are
one definition over the type of these; `select_poll` asks for every registered
descriptor at once. The kernel keeps the raw events it has not handed out yet and
what is unread in each descriptor, so that what a call takes from a source is
visible in the state it leaves.
-/

namespace Select

open Core Detail Epoll

/-- How `std::vector` chooses a larger capacity. -/
structure Growth where
  next : Nat → Nat
  grows : ∀ capacity, capacity < next capacity

structure Events where
  capacity : Nat
  items : List Event
  fits : items.length ≤ capacity

namespace Events

def size (events : Events) : Nat := events.items.length

def clear (events : Events) : Events := ⟨events.capacity, [], Nat.zero_le _⟩

def push (growth : Growth) (event : Event) (events : Events) : Events :=
  if h : events.size < events.capacity then
    ⟨events.capacity, events.items ++ [event], List.length_append.trans_le h⟩
  else
    ⟨growth.next events.capacity, events.items ++ [event],
      List.length_append.trans_le (events.fits.trans_lt (growth.grows events.capacity))⟩

@[simp] theorem clear_items (events : Events) : events.clear.items = [] := rfl
@[simp] theorem clear_capacity (events : Events) : events.clear.capacity = events.capacity := rfl

@[simp] theorem push_items (growth : Growth) (event : Event) (events : Events) :
    (events.push growth event).items = events.items ++ [event] := by
  unfold push
  split <;> rfl

theorem push_capacity (growth : Growth) (event : Event) {events : Events}
    (h : events.size < events.capacity) : (events.push growth event).capacity = events.capacity := by
  rw [push, dif_pos h]

/-- Pushing the events of a list one by one. -/
def pushAll (growth : Growth) (list : List Event) (events : Events) : Events :=
  list.foldl (fun events event => events.push growth event) events

@[simp] theorem pushAll_cons (growth : Growth) (event : Event) (list : List Event) (events : Events) :
    events.pushAll growth (event :: list) = (events.push growth event).pushAll growth list := rfl

@[simp] theorem pushAll_items (growth : Growth) (list : List Event) (events : Events) :
    (events.pushAll growth list).items = events.items ++ list := by
  induction list generalizing events with
  | nil => simp [pushAll]
  | cons event list ih => simp [ih]

theorem pushAll_capacity (growth : Growth) (list : List Event) {events : Events}
    (h : events.size + list.length ≤ events.capacity) :
    (events.pushAll growth list).capacity = events.capacity := by
  induction list generalizing events with
  | nil => rfl
  | cons event list ih =>
    rw [List.length_cons] at h
    have hroom : events.size < events.capacity := by omega
    have hstep := push_capacity growth event hroom
    have hsize : (events.push growth event).size = events.size + 1 := by simp [size]
    rw [pushAll_cons, ih (by omega), hstep]

/-- What is asked of the events after a poll: no more than the capacity before it,
and the capacity is still that. -/
def Within (capacity : Nat) (events : Events) : Prop :=
  events.size ≤ capacity ∧ events.capacity = capacity

theorem within_of_capacity {capacity : Nat} {events : Events} (h : events.capacity = capacity) :
    events.Within capacity :=
  ⟨h ▸ events.fits, h⟩

/-- Filling cleared events stays within the capacity exactly when the list fits. -/
theorem within_iff (growth : Growth) (list : List Event) (events : Events) :
    (events.clear.pushAll growth list).Within events.capacity ↔ list.length ≤ events.capacity := by
  have hsize : (events.clear.pushAll growth list).size = list.length := by simp [size]
  constructor
  · intro h
    rw [← hsize]
    exact h.1
  · intro h
    refine ⟨hsize.trans_le h, ?_⟩
    rw [pushAll_capacity growth list (by simpa [size] using h), clear_capacity]

end Events

/-- What the kernel holds for a selector: the raw events it has not handed out,
and how much is unread in each descriptor. -/
structure Kernel (ρ : Type) where
  ready : List ρ
  unread : NativeHandle → Nat

/-- `drain_descriptor`: each read that returns data takes it, and the first one
that returns none ends the loop. `reads` is what the reads before that one take. -/
def drainDescriptor (reads : List Nat) (handle : NativeHandle) (unread : NativeHandle → Nat) :
    NativeHandle → Nat :=
  Function.update unread handle (reads.foldl (· - ·) (unread handle))

/-- `static_cast<int>(raw_events.size())`. -/
def maxEvents (capacity : Nat) : Int := (BitVec.ofNat 32 capacity).toInt

theorem maxEvents_le (capacity : Nat) : (maxEvents capacity).toNat ≤ capacity := by
  have h : maxEvents capacity ≤ (BitVec.ofNat 32 capacity).toNat := by
    rw [maxEvents, BitVec.toInt_eq_toNat_cond]
    split <;> omega
  have hmod : (BitVec.ofNat 32 capacity).toNat ≤ capacity := by
    rw [BitVec.toNat_ofNat]
    exact Nat.mod_le _ _
  omega

/-- A wait that hands out as many raw events as the kernel chooses to, up to `count`. -/
def Kernel.wait {ρ : Type} (answer : Except Errno Nat) (count : Nat) (kernel : Kernel ρ) :
    Except Errno (List ρ) × Kernel ρ :=
  match answer with
  | .error errno => (.error errno, kernel)
  | .ok n => (.ok (kernel.ready.take (min n count)),
      { kernel with ready := kernel.ready.drop (min n count) })

/-- What a wait may do: fail and leave the kernel alone, or hand out raw events
from the front, as many as there is room for. -/
inductive Waited {ρ : Type} (count : Int) (kernel : Kernel ρ) :
    Except Errno (List ρ) × Kernel ρ → Prop where
  | failed (errno : Errno) : Waited count kernel (.error errno, kernel)
  | handed (raws rest : List ρ) (front : kernel.ready = raws ++ rest)
      (room : raws.length ≤ count.toNat) :
      Waited count kernel (.ok raws, { kernel with ready := rest })

theorem Kernel.wait_waited {ρ : Type} (answer : Except Errno Nat) (count : Int) (kernel : Kernel ρ) :
    Waited count kernel (kernel.wait answer count.toNat) := by
  cases answer with
  | error errno => exact .failed errno
  | ok n =>
    refine .handed _ _ (List.take_append_drop _ _).symm ?_
    rw [List.length_take]
    omega

/-- How a backend waits for raw events and reads them. -/
structure Waiting (ρ : Type) where
  wait : Except Errno Nat → Int → Kernel ρ → Except Errno (List ρ) × Kernel ρ
  waited : ∀ answer count kernel, Waited count kernel (wait answer count kernel)
  what : String
  handle : ρ → NativeHandle
  toEvent : Registration → ρ → Event
  drains : ρ → Bool

/-- The body of the loop over the raw events. -/
def report {ρ : Type} (w : Waiting ρ) (growth : Growth) (table : Table)
    (reads : NativeHandle → List Nat) (out : Events × (NativeHandle → Nat)) (raw : ρ) :
    Events × (NativeHandle → Nat) :=
  match table (w.handle raw) with
  | none => out
  | some registration =>
    (out.1.push growth (w.toEvent registration raw),
      if registration.autoDrain && w.drains raw then
        drainDescriptor (reads registration.handle) registration.handle out.2
      else out.2)

/-- `select_epoll` and `select_kqueue`. -/
def selectRaw {ρ : Type} (w : Waiting ρ) (growth : Growth) (table : Table)
    (answer : Except Errno Nat) (reads : NativeHandle → List Nat) (events : Events)
    (kernel : Kernel ρ) : Except Exception Unit × Events × Kernel ρ :=
  match w.wait answer (maxEvents events.capacity) kernel with
  | (.error errno, kernel) =>
    if errno = EINTR then (.ok (), events, kernel)
    else (.error (.systemError (.ofErrno errno) w.what), events, kernel)
  | (.ok raws, kernel) =>
    let (events, unread) := raws.foldl (report w growth table reads) (events, kernel.unread)
    (.ok (), events, { kernel with unread := unread })

/-- The events that a list of raw events amounts to: entries without a
registration are skipped. -/
def obtained {ρ : Type} (w : Waiting ρ) (table : Table) (raws : List ρ) : List Event :=
  raws.filterMap fun raw => (table (w.handle raw)).map fun registration => w.toEvent registration raw

theorem foldl_report {ρ : Type} (w : Waiting ρ) (growth : Growth) (table : Table)
    (reads : NativeHandle → List Nat) (raws : List ρ) (events : Events)
    (unread : NativeHandle → Nat) :
    (raws.foldl (report w growth table reads) (events, unread)).1 =
      events.pushAll growth (obtained w table raws) := by
  induction raws generalizing events unread with
  | nil => rfl
  | cons raw raws ih =>
    cases htable : table (w.handle raw) with
    | none =>
      have hreport : report w growth table reads (events, unread) raw = (events, unread) := by
        simp only [report, htable]
      rw [List.foldl_cons, hreport, ih, obtained, obtained, List.filterMap_cons, htable]
      rfl
    | some registration =>
      obtain ⟨unread', hreport⟩ : ∃ unread', report w growth table reads (events, unread) raw =
          (events.push growth (w.toEvent registration raw), unread') := by
        simp only [report, htable]
        exact ⟨_, rfl⟩
      rw [List.foldl_cons, hreport, ih, obtained, obtained, List.filterMap_cons, htable]
      rfl

/-- Everything `select_epoll` and `select_kqueue` can do: fail or be interrupted
with nothing changed, or push the events of the raw events that were handed out. -/
theorem selectRaw_cases {ρ : Type} (w : Waiting ρ) (growth : Growth) (table : Table)
    (answer : Except Errno Nat) (reads : NativeHandle → List Nat) (events : Events)
    (kernel : Kernel ρ) :
    (∃ result, result ≠ .error .badAlloc ∧
      selectRaw w growth table answer reads events kernel = (result, events, kernel)) ∨
    (∃ raws rest unread, kernel.ready = raws ++ rest ∧ raws.length ≤ events.capacity ∧
      selectRaw w growth table answer reads events kernel =
        (.ok (), events.pushAll growth (obtained w table raws), ⟨rest, unread⟩)) := by
  unfold selectRaw
  have hwaited := w.waited answer (maxEvents events.capacity) kernel
  generalize w.wait answer (maxEvents events.capacity) kernel = waited at hwaited ⊢
  cases hwaited with
  | failed errno =>
    refine .inl ?_
    dsimp only
    split
    · exact ⟨.ok (), nofun, rfl⟩
    · exact ⟨.error (.systemError (.ofErrno errno) w.what), nofun, rfl⟩
  | handed raws rest front room =>
    refine .inr ⟨raws, rest, (raws.foldl (report w growth table reads) (events, kernel.unread)).2,
      front, room.trans (maxEvents_le events.capacity), ?_⟩
    rw [← foldl_report w growth table reads raws events kernel.unread]

/-- `struct epoll_event`, with the descriptor in `data.fd`. -/
structure EpollEvent where
  events : BitVec 32
  fd : NativeHandle
  deriving DecidableEq, Repr

def fromEpollEvents (flags : BitVec 32) : Interest :=
  (if flags &&& (epollIn ||| epollRdHup ||| epollHup) ≠ 0#32 then Interest.READABLE
    else Interest.none) |||
  (if flags &&& epollOut ≠ 0#32 then Interest.WRITABLE else Interest.none) |||
  (if flags &&& epollPri ≠ 0#32 then Interest.PRIORITY else Interest.none)

def epollEvent (registration : Registration) (raw : EpollEvent) : Event :=
  { token := registration.token
    readiness := fromEpollEvents raw.events
    error := decide (raw.events &&& epollErr ≠ 0#32)
    readClosed := decide (raw.events &&& (epollRdHup ||| epollHup) ≠ 0#32)
    writeClosed := decide (raw.events &&& epollHup ≠ 0#32) ||
      (decide (raw.events &&& epollErr ≠ 0#32) && decide (raw.events &&& epollOut ≠ 0#32)) }

/-- `epoll_wait` refuses an array without room. -/
def epollWait (answer : Except Errno Nat) (count : Int) (kernel : Kernel EpollEvent) :
    Except Errno (List EpollEvent) × Kernel EpollEvent :=
  if count ≤ 0 then (.error EINVAL, kernel) else kernel.wait answer count.toNat

theorem epollWait_waited (answer : Except Errno Nat) (count : Int) (kernel : Kernel EpollEvent) :
    Waited count kernel (epollWait answer count kernel) := by
  unfold epollWait
  split
  · exact .failed EINVAL
  · exact kernel.wait_waited answer count

def epollWaiting : Waiting EpollEvent where
  wait := epollWait
  waited := epollWait_waited
  what := "epoll_wait"
  handle := EpollEvent.fd
  toEvent := epollEvent
  drains raw := decide (raw.events &&& epollIn ≠ 0#32)

def selectEpoll := selectRaw epollWaiting

/-- `struct kevent` as the wait fills it; `filter` is `none` for one that the build
has no name for. -/
structure Kevent where
  ident : NativeHandle
  filter : Option Kqueue.Filter
  flags : BitVec 16
  deriving DecidableEq, Repr

def evError : BitVec 16 := 0x4000
def evEof : BitVec 16 := 0x8000

def fromKqueueEvent (event : Kevent) : Interest :=
  match event.filter with
  | some .read => Interest.READABLE
  | some .write => Interest.WRITABLE
  | some .aio => Interest.AIO
  | some .lio => Interest.LIO
  | none => Interest.none

def kqueueEvent (registration : Registration) (event : Kevent) : Event :=
  let closed := decide (event.flags &&& evEof ≠ 0#16)
  ⟨registration.token, fromKqueueEvent event, decide (event.flags &&& evError ≠ 0#16), closed, closed⟩

def kqueueWaiting : Waiting Kevent where
  wait answer count kernel := kernel.wait answer count.toNat
  waited answer count kernel := kernel.wait_waited answer count
  what := "kevent(wait)"
  handle := Kevent.ident
  toEvent := kqueueEvent
  drains event := event.filter == some .read

def selectKqueue := selectRaw kqueueWaiting

def pollIn : BitVec 16 := 0x001
def pollPri : BitVec 16 := 0x002
def pollOut : BitVec 16 := 0x004
def pollErr : BitVec 16 := 0x008
def pollHup : BitVec 16 := 0x010
def pollNval : BitVec 16 := 0x020

/-- `snapshot()`: the entries of the table, in the order the map yields them. -/
structure Snapshot (table : Table) where
  list : List Registration
  distinct : (list.map Registration.handle).Nodup
  lists : ∀ r, r ∈ list ↔ table r.handle = some r

structure PollFd where
  fd : NativeHandle
  events : BitVec 16
  deriving DecidableEq, Repr

def pollFd (registration : Registration) : PollFd :=
  ⟨registration.handle, pollErr ||| pollHup |||
    (if registration.interests.isReadable then pollIn else 0) |||
    (if registration.interests.isWritable then pollOut else 0) |||
    (if registration.interests.isPriority then pollPri else 0)⟩

/-- What `poll(2)` reports for a descriptor of which `conditions` hold. -/
def revents (conditions : NativeHandle → BitVec 16) (fd : PollFd) : BitVec 16 :=
  conditions fd.fd &&& (fd.events ||| pollErr ||| pollHup ||| pollNval)

def pollEvent (registration : Registration) (flags : BitVec 16) : Event :=
  let closed := decide (flags &&& pollHup ≠ 0#16)
  { token := registration.token
    readiness :=
      (if flags &&& (pollIn ||| pollHup) ≠ 0#16 then Interest.READABLE else Interest.none) |||
      (if flags &&& pollOut ≠ 0#16 then Interest.WRITABLE else Interest.none) |||
      (if flags &&& pollPri ≠ 0#16 then Interest.PRIORITY else Interest.none)
    error := decide (flags &&& pollErr ≠ 0#16)
    readClosed := closed
    writeClosed := closed }

/-- The body of the loop over the descriptors. -/
def pollReport (growth : Growth) (conditions : NativeHandle → BitVec 16)
    (reads : NativeHandle → List Nat) (out : Events × (NativeHandle → Nat))
    (registration : Registration) : Events × (NativeHandle → Nat) :=
  let flags := revents conditions (pollFd registration)
  if flags = 0#16 then out
  else
    (out.1.push growth (pollEvent registration flags),
      if registration.autoDrain && decide (flags &&& pollIn ≠ 0#16) then
        drainDescriptor (reads registration.handle) registration.handle out.2
      else out.2)

/-- `select_poll`; the answer is an error or what holds of each descriptor. -/
def selectPoll (growth : Growth) {table : Table} (snapshot : Snapshot table)
    (answer : Except Errno (NativeHandle → BitVec 16)) (reads : NativeHandle → List Nat)
    (events : Events) (unread : NativeHandle → Nat) :
    Except Exception Unit × Events × (NativeHandle → Nat) :=
  match answer with
  | .error errno =>
    if errno = EINTR then (.ok (), events, unread)
    else (.error (.systemError (.ofErrno errno) "poll"), events, unread)
  | .ok conditions =>
    (.ok (), snapshot.list.foldl (pollReport growth conditions reads) (events, unread))

/-- The registrations that `poll(2)` finds ready. -/
def readyFor (conditions : NativeHandle → BitVec 16) (registrations : List Registration) :
    List Registration :=
  registrations.filter fun registration => revents conditions (pollFd registration) ≠ 0#16

def pollObtained (conditions : NativeHandle → BitVec 16) (registrations : List Registration) :
    List Event :=
  (readyFor conditions registrations).map fun registration =>
    pollEvent registration (revents conditions (pollFd registration))

theorem foldl_pollReport (growth : Growth) (conditions : NativeHandle → BitVec 16)
    (reads : NativeHandle → List Nat) (registrations : List Registration) (events : Events)
    (unread : NativeHandle → Nat) :
    (registrations.foldl (pollReport growth conditions reads) (events, unread)).1 =
      events.pushAll growth (pollObtained conditions registrations) := by
  induction registrations generalizing events unread with
  | nil => rfl
  | cons registration registrations ih =>
    by_cases hflags : revents conditions (pollFd registration) = 0#16
    · have hreport : pollReport growth conditions reads (events, unread) registration =
          (events, unread) := if_pos hflags
      rw [List.foldl_cons, hreport, ih, pollObtained, pollObtained, readyFor, readyFor,
        List.filter_cons_of_neg (by simpa using hflags)]
    · obtain ⟨unread', hreport⟩ :
          ∃ unread', pollReport growth conditions reads (events, unread) registration =
            (events.push growth (pollEvent registration (revents conditions (pollFd registration))),
              unread') := ⟨_, if_neg hflags⟩
      rw [List.foldl_cons, hreport, ih, pollObtained, pollObtained, readyFor, readyFor,
        List.filter_cons_of_pos (by simpa using hflags)]
      rfl

end Select
