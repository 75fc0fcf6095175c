import Ioxx.Iocp

/-!
# `Poll::poll` over the four selectors

The build decides which selector `Selector::select` calls. A `World` is what that
selector works on and `Answers` what the operating system answers during the
call, so one definition of `poll` covers every platform. The capacity is a bound
except for the `poll` fallback, which pushes an event for every ready descriptor;
a failed poll takes nothing except on Windows, where the port may fail after
completions have been dequeued.
-/

namespace Polling

open Core Detail Select Iocp

/-- The registrations and the kernel's side of a selector that waits for raw events. -/
structure RawWorld (ρ : Type) where
  table : Table
  kernel : Kernel ρ

structure PollWorld where
  table : Table
  snapshot : Snapshot table
  unread : NativeHandle → Nat

abbrev World : Platform → Type
  | .windows => Machine
  | .linux => RawWorld EpollEvent
  | .kqueue => RawWorld Kevent
  | .other => PollWorld

/-- The completions that are dequeued, and how the wait after them ends. -/
structure PortAnswers where
  turns : List Turn
  ending : Option Errno

/-- The answer of the wait, and what the reads of `drain_descriptor` take. -/
structure WaitAnswers (α : Type) where
  answer : Except Errno α
  reads : NativeHandle → List Nat

abbrev Answers : Platform → Type
  | .windows => PortAnswers
  | .linux => WaitAnswers Nat
  | .kqueue => WaitAnswers Nat
  | .other => WaitAnswers (NativeHandle → BitVec 16)

/-- The selector that a build is compiled with. -/
def selectBackend (growth : Growth) : (platform : Platform) → Answers platform → Events →
    World platform → Except Exception Unit × Events × World platform
  | .windows, answers, events, m => selectIocp growth answers.ending answers.turns events m
  | .linux, answers, events, world =>
    let (result, events, kernel) :=
      selectEpoll growth world.table answers.answer answers.reads events world.kernel
    (result, events, { world with kernel := kernel })
  | .kqueue, answers, events, world =>
    let (result, events, kernel) :=
      selectKqueue growth world.table answers.answer answers.reads events world.kernel
    (result, events, { world with kernel := kernel })
  | .other, answers, events, world =>
    let (result, events, unread) :=
      selectPoll growth world.snapshot answers.answer answers.reads events world.unread
    (result, events, { world with unread := unread })

variable (growth : Growth) (platform : Platform) (answers : Answers platform) (events : Events)
  (world : World platform)

def select : Except Exception Unit × Events × World platform :=
  if events.clear.capacity = 0 then (.ok (), events.clear, world)
  else selectBackend growth platform answers events.clear world

/-- `Poll::poll`: a `system_error` becomes the `ec`, and anything else leaves a
`noexcept` function. -/
def poll : Noexcept (Option ErrorCode × Events × World platform) :=
  match select growth platform answers events world with
  | (.ok _, events, world) => .returned (none, events, world)
  | (.error (.systemError code _), events, world) => .returned (some code, events, world)
  | (.error .badAlloc, _, _) => .terminated

theorem poll_returns {result : Except Exception Unit} {events' : Events} {world' : World platform}
    (h : select growth platform answers events world = (result, events', world'))
    (hcaught : result ≠ .error .badAlloc) :
    ∃ ec, poll growth platform answers events world = .returned (ec, events', world') ∧
      (ec = none ↔ result = .ok ()) := by
  unfold poll
  rw [h]
  cases result with
  | ok u => exact ⟨none, rfl, iff_of_true rfl rfl⟩
  | error e =>
    cases e with
    | systemError code what => exact ⟨some code, rfl, iff_of_false nofun nofun⟩
    | badAlloc => exact absurd rfl hcaught

/-- An event that comes from what the system handed out during the call. -/
def ObtainedBy (event : Event) : (platform : Platform) → Answers platform → World platform →
    World platform → Prop
  | .windows, answers, m, _ => Yields event answers.turns m
  | .linux, _, world, world' => ∃ raws, world.kernel.ready = raws ++ world'.kernel.ready ∧
      event ∈ obtained epollWaiting world.table raws
  | .kqueue, _, world, world' => ∃ raws, world.kernel.ready = raws ++ world'.kernel.ready ∧
      event ∈ obtained kqueueWaiting world.table raws
  | .other, answers, world, _ => ∃ conditions, answers.answer = .ok conditions ∧
      event ∈ pollObtained conditions world.snapshot.list

/-- The call returns, its events number at most the capacity and left it as it
was, and each of them was obtained in the call. -/
def Bounded : Prop :=
  ∃ ec events' world', poll growth platform answers events world = .returned (ec, events', world') ∧
    events'.Within events.capacity ∧
    ∀ event ∈ events'.items, ObtainedBy event platform answers world world'

/-- The number of descriptors that `poll(2)` finds ready does not pass the capacity. -/
def Fits (events : Events) : (platform : Platform) → Answers platform → World platform → Prop
  | .other, answers, world => events.capacity = 0 ∨ ∀ conditions, answers.answer = .ok conditions →
      (readyFor conditions world.snapshot.list).length ≤ events.capacity
  | _, _, _ => True

theorem bounded_iff {result : Except Exception Unit} {events' : Events} {world' : World platform}
    (h : select growth platform answers events world = (result, events', world'))
    (hcaught : result ≠ .error .badAlloc) :
    Bounded growth platform answers events world ↔ events'.Within events.capacity ∧
      ∀ event ∈ events'.items, ObtainedBy event platform answers world world' := by
  obtain ⟨ec, hpoll, _⟩ := poll_returns growth platform answers events world h hcaught
  constructor
  · rintro ⟨ec', events'', world'', hpoll', hwithin, hfresh⟩
    rw [hpoll] at hpoll'
    cases hpoll'
    exact ⟨hwithin, hfresh⟩
  · rintro ⟨hwithin, hfresh⟩
    exact ⟨ec, events', world', hpoll, hwithin, hfresh⟩

/-- Without capacity nothing is asked of the system. -/
theorem bounded_zero (h : events.capacity = 0) : Bounded growth platform answers events world := by
  have hselect : select growth platform answers events world = (.ok (), events.clear, world) :=
    if_pos h
  rw [bounded_iff growth platform answers events world hselect nofun]
  exact ⟨Events.within_of_capacity rfl, nofun⟩

/-- A selector that waits for raw events: the array has room for the capacity. -/
theorem selectRaw_bounded {ρ : Type} (w : Waiting ρ) (table : Table) (answer : Except Errno Nat)
    (reads : NativeHandle → List Nat) (kernel : Kernel ρ) :
    ∃ result events' kernel', result ≠ .error .badAlloc ∧
      selectRaw w growth table answer reads events.clear kernel = (result, events', kernel') ∧
      events'.Within events.capacity ∧
      ∀ event ∈ events'.items, ∃ raws, kernel.ready = raws ++ kernel'.ready ∧
        event ∈ obtained w table raws := by
  rcases selectRaw_cases w growth table answer reads events.clear kernel with
    ⟨result, hcaught, he⟩ | ⟨raws, rest, unread, hfront, hroom, he⟩
  · exact ⟨result, events.clear, kernel, hcaught, he, Events.within_of_capacity rfl, nofun⟩
  · refine ⟨.ok (), _, _, nofun, he, ?_, ?_⟩
    · rw [Events.within_iff]
      exact (List.length_filterMap_le _ _).trans hroom
    · intro event hevent
      rw [Events.pushAll_items] at hevent
      exact ⟨raws, hfront, hevent⟩

/-- A failed `poll(2)` leaves everything as it was. -/
theorem select_fallback_failed (answers : Answers .other) (world : World .other)
    (hcapacity : events.capacity ≠ 0) {errno : Errno} (h : answers.answer = .error errno) :
    ∃ result, result ≠ .error .badAlloc ∧
      select growth .other answers events world = (result, events.clear, world) := by
  have hselect : select growth .other answers events world =
      selectBackend growth .other answers events.clear world := if_neg hcapacity
  simp only [hselect, selectBackend, selectPoll, h]
  split
  · exact ⟨.ok (), nofun, rfl⟩
  · exact ⟨.error (.systemError (.ofErrno errno) "poll"), nofun, rfl⟩

theorem bounded_windows (answers : Answers .windows) (m : World .windows)
    (hcapacity : events.capacity ≠ 0) : Bounded growth .windows answers events m := by
  have hselect : select growth .windows answers events m =
      selectIocp growth answers.ending answers.turns events.clear m := if_neg hcapacity
  have hcaught := selectIocp_caught growth answers.ending answers.turns events.clear m
  rw [bounded_iff growth .windows answers events m hselect hcaught]
  constructor
  · exact Events.within_of_capacity
      (selectIocp_items growth answers.ending answers.turns events.clear m).2
  · intro event hevent
    exact (selectIocp_yields growth answers.ending answers.turns hevent).resolve_left nofun

/-- The fallback stays within the capacity exactly when the ready descriptors fit. -/
theorem bounded_fallback_iff (answers : Answers .other) (world : World .other)
    (hcapacity : events.capacity ≠ 0) {conditions : NativeHandle → BitVec 16}
    (h : answers.answer = .ok conditions) :
    Bounded growth .other answers events world ↔
      (readyFor conditions world.snapshot.list).length ≤ events.capacity := by
  have hselect : select growth .other answers events world =
      selectBackend growth .other answers events.clear world := if_neg hcapacity
  have hlength : (pollObtained conditions world.snapshot.list).length =
      (readyFor conditions world.snapshot.list).length := List.length_map _
  simp only [selectBackend, selectPoll, h] at hselect
  rw [bounded_iff growth .other answers events world hselect nofun, foldl_pollReport,
    Events.within_iff, hlength]
  refine ⟨And.left, fun hfits => ⟨hfits, ?_⟩⟩
  intro event hevent
  rw [Events.pushAll_items] at hevent
  exact ⟨conditions, h, hevent⟩

/-- The capacity bounds the events of a poll on every platform, except that the
`poll` fallback must not find more descriptors ready. -/
theorem capacity_bounds_poll_iff :
    Bounded growth platform answers events world ↔ Fits events platform answers world := by
  by_cases hzero : events.capacity = 0
  · refine iff_of_true (bounded_zero growth platform answers events world hzero) ?_
    cases platform with
    | other => exact .inl hzero
    | windows => trivial
    | linux => trivial
    | kqueue => trivial
  have hselect : select growth platform answers events world =
      selectBackend growth platform answers events.clear world := if_neg hzero
  cases platform with
  | windows => exact iff_of_true (bounded_windows growth events answers world hzero) trivial
  | linux =>
    obtain ⟨result, events', kernel', hcaught, he, hwithin, hfresh⟩ := selectRaw_bounded growth events
      epollWaiting world.table answers.answer answers.reads world.kernel
    simp only [selectBackend, selectEpoll, he] at hselect
    rw [bounded_iff growth .linux answers events world hselect hcaught]
    exact iff_of_true ⟨hwithin, hfresh⟩ trivial
  | kqueue =>
    obtain ⟨result, events', kernel', hcaught, he, hwithin, hfresh⟩ := selectRaw_bounded growth events
      kqueueWaiting world.table answers.answer answers.reads world.kernel
    simp only [selectBackend, selectKqueue, he] at hselect
    rw [bounded_iff growth .kqueue answers events world hselect hcaught]
    exact iff_of_true ⟨hwithin, hfresh⟩ trivial
  | other =>
    cases hanswer : answers.answer with
    | error errno =>
      obtain ⟨result, hcaught, he⟩ := select_fallback_failed growth events answers world hzero
        hanswer
      rw [bounded_iff growth .other answers events world he hcaught]
      refine iff_of_true ⟨Events.within_of_capacity rfl, nofun⟩ (.inr ?_)
      intro conditions hok
      rw [hanswer] at hok
      cases hok
    | ok conditions =>
      rw [bounded_fallback_iff growth events answers world hzero hanswer]
      constructor
      · intro hroom
        refine .inr fun conditions' hok => ?_
        rw [hanswer] at hok
        cases hok
        exact hroom
      · intro hfits
        exact (hfits.resolve_left hzero) conditions hanswer

/-- A table with two readable descriptors. -/
def twoEntries : Table := fun handle =>
  if handle = 3 then some ⟨3, .rawDescriptor, ⟨1⟩, Interest.READABLE, false, none⟩
  else if handle = 4 then some ⟨4, .rawDescriptor, ⟨2⟩, Interest.READABLE, false, none⟩
  else none

theorem twoEntries_eq_some {handle : NativeHandle} {r : Registration}
    (h : twoEntries handle = some r) :
    r = ⟨3, .rawDescriptor, ⟨1⟩, Interest.READABLE, false, none⟩ ∨
      r = ⟨4, .rawDescriptor, ⟨2⟩, Interest.READABLE, false, none⟩ := by
  unfold twoEntries at h
  split at h
  · exact .inl (Option.some.inj h).symm
  · split at h
    · exact .inr (Option.some.inj h).symm
    · cases h

def twoEntriesWorld : PollWorld where
  table := twoEntries
  snapshot :=
    { list := [⟨3, .rawDescriptor, ⟨1⟩, Interest.READABLE, false, none⟩,
        ⟨4, .rawDescriptor, ⟨2⟩, Interest.READABLE, false, none⟩]
      distinct := by decide
      lists := by
        intro r
        rw [List.mem_cons, List.mem_singleton]
        constructor
        · rintro (rfl | rfl)
          · rfl
          · rfl
        · exact twoEntries_eq_some }
  unread := fun _ => 0

/-- Two ready descriptors make events of capacity one grow. -/
theorem fallback_exceeds_capacity :
    ¬ ∀ growth platform answers events world, Bounded growth platform answers events world := by
  intro hall
  obtain ⟨ec, events', world', hpoll, hwithin, _⟩ := hall ⟨Nat.succ, Nat.lt_succ_self⟩ .other
    ⟨.ok fun _ => pollIn, fun _ => []⟩ ⟨1, [], by decide⟩ twoEntriesWorld
  cases hpoll
  exact absurd hwithin.1 (by decide)

/-- Nothing was taken from any source between two worlds. -/
def Untouched : (platform : Platform) → World platform → World platform → Prop
  | .windows, m, m' => Intact m m'
  | .linux, world, world' => world' = world
  | .kqueue, world, world' => world' = world
  | .other, world, world' => world' = world

/-- A call that reports an error has no events and has taken nothing. -/
def Lossless : Prop :=
  ∀ ec events' world', poll growth platform answers events world = .returned (some ec, events', world') →
    events'.items = [] ∧ Untouched platform world world'

/-- On Windows, no native call fails once a completion carried an event. -/
def FailsFirst (events : Events) : (platform : Platform) → Answers platform → World platform → Prop
  | .windows, answers, m => events.capacity = 0 ∨
      HarmlessFailure answers.ending events.capacity answers.turns m
  | _, _, _ => True

theorem lossless_iff {result : Except Exception Unit} {events' : Events} {world' : World platform}
    (h : select growth platform answers events world = (result, events', world'))
    (hcaught : result ≠ .error .badAlloc) :
    Lossless growth platform answers events world ↔
      result = .ok () ∨ (events'.items = [] ∧ Untouched platform world world') := by
  obtain ⟨ec, hpoll, hec⟩ := poll_returns growth platform answers events world h hcaught
  constructor
  · intro hlossless
    cases ec with
    | none => exact .inl (hec.mp rfl)
    | some code => exact .inr (hlossless code events' world' hpoll)
  · rintro hresult code events'' world'' hpoll'
    rw [hpoll] at hpoll'
    cases hpoll'
    exact hresult.resolve_left fun hok => nomatch hec.mpr hok

/-- A selector that waits for raw events fails before it takes any. -/
theorem selectRaw_lossless {ρ : Type} (w : Waiting ρ) (table : Table) (answer : Except Errno Nat)
    (reads : NativeHandle → List Nat) (kernel : Kernel ρ) :
    ∃ result events' kernel', result ≠ .error .badAlloc ∧
      selectRaw w growth table answer reads events.clear kernel = (result, events', kernel') ∧
      (result = .ok () ∨ (events'.items = [] ∧ kernel' = kernel)) := by
  rcases selectRaw_cases w growth table answer reads events.clear kernel with
    ⟨result, hcaught, he⟩ | ⟨raws, rest, unread, _, _, he⟩
  · exact ⟨result, events.clear, kernel, hcaught, he, .inr ⟨rfl, rfl⟩⟩
  · exact ⟨.ok (), _, _, nofun, he, .inl rfl⟩

theorem lossless_windows_iff (answers : Answers .windows) (m : World .windows)
    (hcapacity : events.capacity ≠ 0) :
    Lossless growth .windows answers events m ↔
      HarmlessFailure answers.ending events.capacity answers.turns m := by
  have hselect : select growth .windows answers events m =
      selectIocp growth answers.ending answers.turns events.clear m := if_neg hcapacity
  have hcaught := selectIocp_caught growth answers.ending answers.turns events.clear m
  rw [lossless_iff growth .windows answers events m hselect hcaught]
  exact selectIocp_harmless_iff growth answers.ending answers.turns events.clear_items
    (Nat.pos_of_ne_zero hcapacity) m

/-- A failed poll consumes nothing, except that on Windows no native call may fail
after a completion that carried an event. -/
theorem failed_poll_consumes_nothing_iff :
    Lossless growth platform answers events world ↔ FailsFirst events platform answers world := by
  by_cases hzero : events.capacity = 0
  · have hselect : select growth platform answers events world = (.ok (), events.clear, world) :=
      if_pos hzero
    rw [lossless_iff growth platform answers events world hselect nofun]
    refine iff_of_true (.inl rfl) ?_
    cases platform with
    | windows => exact .inl hzero
    | linux => trivial
    | kqueue => trivial
    | other => trivial
  have hselect : select growth platform answers events world =
      selectBackend growth platform answers events.clear world := if_neg hzero
  cases platform with
  | windows =>
    rw [lossless_windows_iff growth events answers world hzero]
    exact ⟨.inr, fun h => h.resolve_left hzero⟩
  | linux =>
    obtain ⟨result, events', kernel', hcaught, he, hresult⟩ := selectRaw_lossless growth events
      epollWaiting world.table answers.answer answers.reads world.kernel
    simp only [selectBackend, selectEpoll, he] at hselect
    rw [lossless_iff growth .linux answers events world hselect hcaught]
    refine iff_of_true (hresult.imp id fun h => ⟨h.1, ?_⟩) trivial
    exact congrArg (fun kernel => (⟨world.table, kernel⟩ : RawWorld EpollEvent)) h.2
  | kqueue =>
    obtain ⟨result, events', kernel', hcaught, he, hresult⟩ := selectRaw_lossless growth events
      kqueueWaiting world.table answers.answer answers.reads world.kernel
    simp only [selectBackend, selectKqueue, he] at hselect
    rw [lossless_iff growth .kqueue answers events world hselect hcaught]
    refine iff_of_true (hresult.imp id fun h => ⟨h.1, ?_⟩) trivial
    exact congrArg (fun kernel => (⟨world.table, kernel⟩ : RawWorld Kevent)) h.2
  | other =>
    refine iff_of_true ?_ trivial
    cases hanswer : answers.answer with
    | error errno =>
      obtain ⟨result, hcaught, he⟩ := select_fallback_failed growth events answers world hzero
        hanswer
      rw [lossless_iff growth .other answers events world he hcaught]
      exact .inr ⟨rfl, rfl⟩
    | ok conditions =>
      simp only [selectBackend, selectPoll, hanswer] at hselect
      rw [lossless_iff growth .other answers events world hselect nofun]
      exact .inl rfl

/-- A listener that waits for `READABLE` with its poll pending. -/
def listening : Machine where
  table := fun handle =>
    if handle = 4 then some ⟨4, .socket, ⟨1⟩, Interest.READABLE, false, some 0⟩ else none
  heap := ⟨fun ref => if ref = 0 then some ⟨AfdSelector.setInterest Afd.pendingReply ⟨1⟩
      Interest.READABLE (Afd.initial 4 4), AfdSelector.setInterest_sound _ _ _
      (Afd.sound_initial 4 4)⟩ else none, 1⟩
  port := []

/-- The next poll is refused with `STATUS_INSUFFICIENT_RESOURCES`. -/
def refusedReply : Afd.NtReply :=
  ⟨0xC000009A, 0, 0, Afd.statusSuccess, ⟨1450, .system, by decide⟩⟩

/-- A poll reports a connection and clears its bit; the next poll is refused, so
the call reports an error. -/
theorem refused_poll_loses_event :
    ¬ ∀ growth platform answers events world, Lossless growth platform answers events world := by
  intro hall
  let op : Afd.AfdOperation := ⟨0, Afd.requested
    (Afd.setAfdInterest ⟨1⟩ Interest.READABLE (Afd.initial 4 4).state)⟩
  let turns : List Turn :=
    [.finishes 0 op Afd.statusSuccess 1 Afd.afdPollAccept, .polled 0 op refusedReply]
  have h := hall ⟨Nat.succ, Nat.lt_succ_self⟩ .windows ⟨turns, none⟩ ⟨8, [], by decide⟩ listening
  rw [lossless_windows_iff _ _ _ _ (by decide)] at h
  exact absurd h (by decide)

end Polling
