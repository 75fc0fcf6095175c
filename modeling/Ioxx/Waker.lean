import Ioxx.Select

/-!
# The Linux waker: no wake-up is lost

One thread repeats `Poll::poll` while any number of `Waker::wake` calls and calls
on other registrations run beside it. The wait, each pushed event and each read
of `drain_descriptor` are steps of their own. The eventfd is in the epoll set
edge-triggered: a write marks it ready, and the wait that reports it clears the
mark. Two facts carry the proof: a counter that is not zero is marked or is about
to be drained, and every write that no poll has answered is marked or already
obtained.
-/

namespace Waker

open Core Detail Runs Maps Epoll Select

/-- A waker whose eventfd `add_waker` has registered. -/
structure Registered where
  handle : NativeHandle
  token : Token
  before : Selector EpollSet
  keyed : Keyed before.registrations
  refusal : Option Errno
  after : Selector EpollSet
  added : addWaker Epoll.backend refusal handle token before = (.ok (), after)

/-- The largest counter of an eventfd; a write beyond it fails with `EAGAIN`. -/
def eventfdMax : Nat := 2 ^ 64 - 2

/-- What an eventfd with the given counter is ready for. -/
def eventfdReadiness (counter : Nat) : BitVec 32 :=
  (if counter ≠ 0 then epollIn else 0) ||| (if counter < eventfdMax then epollOut else 0)

/-- The raw event of the waker: its readiness within the mask of the epoll set. -/
def Registered.raw (w : Registered) (counter : Nat) : EpollEvent :=
  ⟨eventfdReadiness counter &&& (w.after.backend w.handle).getD 0, w.handle⟩

inductive WakePhase where
  | begun
  | written
  | returned
  | threw
  deriving DecidableEq, Repr

/-- A call of `wake`. `answered` records that a poll has returned after it began
and has reported an event with the waker's token. -/
structure Wake where
  phase : WakePhase
  answered : Bool
  deriving DecidableEq, Repr

/-- Where the polling thread stands: outside `poll`, before the wait, in the loop
over the raw events, or in `drain_descriptor`. `given` is all that the wait has
returned and `rest` what the loop has not come to yet. -/
inductive Phase where
  | idle
  | waiting (events : Events)
  | reporting (given rest : List EpollEvent) (events : Events)
  | draining (handle : NativeHandle) (given rest : List EpollEvent) (events : Events)

structure State where
  table : Table
  counter : Nat
  ready : Bool
  phase : Phase
  wakes : Nat → Option Wake

inductive Action where
  | assigns (registration : Registration)
  | erases (handle : NativeHandle)
  | wakeBegins (id : Nat)
  | writes (id : Nat) (refusal : Option Errno)
  | wakeReturns (id : Nat)
  | pollBegins (events : Events)
  | waitFails (errno : Errno)
  | waits (raws : List EpollEvent) (dropped : Bool)
  | pushes
  | reads (more : Bool)
  | pollReturns

def start (w : Registered) : State := ⟨w.after.registrations, 0, false, .idle, fun _ => none⟩

/-- Some raw event is the waker's. -/
def Mentions (w : Registered) (raws : List EpollEvent) : Prop := ∃ raw ∈ raws, raw.fd = w.handle

instance (w : Registered) (raws : List EpollEvent) : Decidable (Mentions w raws) :=
  inferInstanceAs (Decidable (∃ raw ∈ raws, raw.fd = w.handle))

/-- A poll that returns these events has reported the waker. -/
def reports (w : Registered) (events : Events) : Bool :=
  events.items.any fun event => event.token == w.token

/-- What the epoll set may hand out: room for the raw events, and the waker only
when it is marked and its counter is not zero. -/
def mayReturn (w : Registered) (events : Events) (raws : List EpollEvent) (s : State) : Prop :=
  0 < maxEvents events.capacity ∧ raws.length ≤ (maxEvents events.capacity).toNat ∧
    ∀ raw ∈ raws, raw.fd = w.handle → s.ready = true ∧ s.counter ≠ 0 ∧ raw = w.raw s.counter

instance (w : Registered) (events : Events) (raws : List EpollEvent) (s : State) :
    Decidable (mayReturn w events raws s) := inferInstanceAs (Decidable (_ ∧ _))

/-- The mark after a wait: a reported eventfd loses it, and so may one whose
counter is zero. -/
def markAfter (w : Registered) (raws : List EpollEvent) (dropped : Bool) (s : State) : Bool :=
  if Mentions w raws then false
  else if s.counter = 0 ∧ dropped then false
  else s.ready

/-- One pass of the loop in `select_epoll`, up to the drain. -/
def afterPush (growth : Growth) (table : Table) (given : List EpollEvent) (raw : EpollEvent)
    (rest : List EpollEvent) (events : Events) : Phase :=
  match table raw.fd with
  | none => .reporting given rest events
  | some registration =>
    let events := events.push growth (epollEvent registration raw)
    if registration.autoDrain && epollWaiting.drains raw then
      .draining registration.handle given rest events
    else .reporting given rest events

/-- The wakes after a poll has returned: those begun by then are answered if the
poll has reported the waker. -/
def answer (w : Registered) (events : Events) (wakes : Nat → Option Wake) : Nat → Option Wake :=
  fun id => (wakes id).map fun wake => { wake with answered := wake.answered || reports w events }

def step (w : Registered) (growth : Growth) (a : Action) (s : State) : Option State :=
  match a with
  | .assigns registration =>
    if registration.handle = w.handle then none
    else some { s with
      table := Function.update s.table registration.handle (some registration) }
  | .erases handle =>
    if handle = w.handle then none
    else some { s with table := Function.update s.table handle none }
  | .wakeBegins id => match s.wakes id with
    | none => some { s with wakes := Function.update s.wakes id (some ⟨.begun, false⟩) }
    | some _ => none
  | .writes id refusal => match s.wakes id, refusal with
    | some ⟨.begun, answered⟩, none =>
      if s.counter < eventfdMax then some { s with
        counter := s.counter + 1
        ready := true
        wakes := Function.update s.wakes id (some ⟨.written, answered⟩) }
      -- `EAGAIN` counts as success
      else some { s with wakes := Function.update s.wakes id (some ⟨.written, answered⟩) }
    | some ⟨.begun, answered⟩, some errno =>
      if errno = EAGAIN then none
      else some { s with wakes := Function.update s.wakes id (some ⟨.threw, answered⟩) }
    | _, _ => none
  | .wakeReturns id => match s.wakes id with
    | some ⟨.written, answered⟩ =>
      some { s with wakes := Function.update s.wakes id (some ⟨.returned, answered⟩) }
    | _ => none
  | .pollBegins events => match s.phase with
    | .idle => some { s with
        phase := if events.clear.capacity = 0 then .idle else .waiting events.clear }
    | _ => none
  | .waitFails _ => match s.phase with
    | .waiting _ => some { s with phase := .idle }
    | _ => none
  | .waits raws dropped => match s.phase with
    | .waiting events =>
      if mayReturn w events raws s then some { s with
        ready := markAfter w raws dropped s
        phase := .reporting raws raws events }
      else none
    | _ => none
  | .pushes => match s.phase with
    | .reporting given (raw :: rest) events =>
      some { s with phase := afterPush growth s.table given raw rest events }
    | _ => none
  | .reads more => match s.phase with
    | .draining handle given rest events =>
      if handle = w.handle then
        if s.counter = 0 then some { s with phase := .reporting given rest events }
        else some { s with counter := 0 }
      else if more then some s
      else some { s with phase := .reporting given rest events }
    | _ => none
  | .pollReturns => match s.phase with
    | .reporting _ [] events =>
      some { s with phase := .idle, wakes := answer w events s.wakes }
    | _ => none

variable {w : Registered} {growth : Growth} {s t : State}

/-- Everything a step can do. -/
inductive Fires (w : Registered) (growth : Growth) (s : State) : Action → State → Prop where
  | assigns (registration : Registration) (other : registration.handle ≠ w.handle) :
      Fires w growth s (.assigns registration) { s with
        table := Function.update s.table registration.handle (some registration) }
  | erases (handle : NativeHandle) (other : handle ≠ w.handle) :
      Fires w growth s (.erases handle) { s with table := Function.update s.table handle none }
  | wakeBegins (id : Nat) : Fires w growth s (.wakeBegins id) { s with
      wakes := Function.update s.wakes id (some ⟨.begun, false⟩) }
  | writes (id : Nat) (answered : Bool) : Fires w growth s (.writes id none) { s with
      counter := s.counter + 1
      ready := true
      wakes := Function.update s.wakes id (some ⟨.written, answered⟩) }
  | writesFull (id : Nat) (answered : Bool) (full : s.counter ≠ 0) :
      Fires w growth s (.writes id none) { s with
        wakes := Function.update s.wakes id (some ⟨.written, answered⟩) }
  | throws (id : Nat) (answered : Bool) (errno : Errno) :
      Fires w growth s (.writes id (some errno)) { s with
        wakes := Function.update s.wakes id (some ⟨.threw, answered⟩) }
  | wakeReturns (id : Nat) (answered : Bool) (written : s.wakes id = some ⟨.written, answered⟩) :
      Fires w growth s (.wakeReturns id) { s with
        wakes := Function.update s.wakes id (some ⟨.returned, answered⟩) }
  | pollBegins (events : Events) (before : s.phase = .idle) (phase : Phase)
      (next : phase = .idle ∨ phase = .waiting events.clear) :
      Fires w growth s (.pollBegins events) { s with phase := phase }
  | waitFails (errno : Errno) (events : Events) (before : s.phase = .waiting events) :
      Fires w growth s (.waitFails errno) { s with phase := .idle }
  | waits (raws : List EpollEvent) (dropped : Bool) (events : Events)
      (before : s.phase = .waiting events) (may : mayReturn w events raws s) :
      Fires w growth s (.waits raws dropped) { s with
        ready := markAfter w raws dropped s
        phase := .reporting raws raws events }
  | pushes (given : List EpollEvent) (raw : EpollEvent) (rest : List EpollEvent) (events : Events)
      (before : s.phase = .reporting given (raw :: rest) events) :
      Fires w growth s .pushes { s with
        phase := afterPush growth s.table given raw rest events }
  | readsCounter (more : Bool) (given rest : List EpollEvent) (events : Events)
      (before : s.phase = .draining w.handle given rest events) :
      Fires w growth s (.reads more) { s with counter := 0 }
  | readsOther (more : Bool) : Fires w growth s (.reads more) s
  | readsEnd (more : Bool) (handle : NativeHandle) (given rest : List EpollEvent) (events : Events)
      (before : s.phase = .draining handle given rest events)
      (drained : handle = w.handle → s.counter = 0) :
      Fires w growth s (.reads more) { s with phase := .reporting given rest events }
  | pollReturns (given : List EpollEvent) (events : Events)
      (before : s.phase = .reporting given [] events) :
      Fires w growth s .pollReturns { s with phase := .idle, wakes := answer w events s.wakes }

theorem step_fires {a : Action} (h : step w growth a s = some t) : Fires w growth s a t := by
  cases a with
  | assigns registration =>
    simp only [step] at h
    split at h
    · cases h
    · rename_i hother
      cases h
      exact .assigns registration hother
  | erases handle =>
    simp only [step] at h
    split at h
    · cases h
    · rename_i hother
      cases h
      exact .erases handle hother
  | wakeBegins id =>
    simp only [step] at h
    split at h
    · cases h
      exact .wakeBegins id
    · cases h
  | writes id refusal =>
    simp only [step] at h
    split at h
    · rename_i answered _
      split at h
      · cases h
        exact .writes id answered
      · rename_i hfull
        cases h
        refine .writesFull id answered ?_
        unfold eventfdMax at hfull
        omega
    · rename_i answered errno _
      split at h
      · cases h
      · cases h
        exact .throws id answered errno
    · cases h
  | wakeReturns id =>
    simp only [step] at h
    split at h
    · rename_i answered hwritten
      cases h
      exact .wakeReturns id answered hwritten
    · cases h
  | pollBegins events =>
    simp only [step] at h
    split at h
    · rename_i hbefore
      cases h
      refine .pollBegins events hbefore _ ?_
      split
      · exact .inl rfl
      · exact .inr rfl
    · cases h
  | waitFails errno =>
    simp only [step] at h
    split at h
    · rename_i events hbefore
      cases h
      exact .waitFails errno events hbefore
    · cases h
  | waits raws dropped =>
    simp only [step] at h
    split at h
    · rename_i events hbefore
      split at h
      · rename_i hmay
        cases h
        exact .waits raws dropped events hbefore hmay
      · cases h
    · cases h
  | pushes =>
    simp only [step] at h
    split at h
    · rename_i given raw rest events hbefore
      cases h
      exact .pushes given raw rest events hbefore
    · cases h
  | reads more =>
    simp only [step] at h
    split at h
    · rename_i handle given rest events hbefore
      split at h
      · rename_i hwaker
        split at h
        · rename_i hzero
          cases h
          exact .readsEnd more handle given rest events hbefore fun _ => hzero
        · cases h
          exact .readsCounter more given rest events (hwaker ▸ hbefore)
      · rename_i hother
        split at h
        · cases h
          exact .readsOther more
        · cases h
          exact .readsEnd more handle given rest events hbefore fun hwaker => absurd hwaker hother
    · cases h
  | pollReturns =>
    simp only [step] at h
    split at h
    · rename_i given events hbefore
      cases h
      exact .pollReturns given events hbefore
    · cases h

/-- The entry that `add_waker` makes. -/
def Registered.entry (w : Registered) : Registration :=
  ⟨w.handle, .rawDescriptor, w.token, Interest.READABLE, true, none⟩

/-- `add_waker` stores the entry and puts the eventfd into the epoll set. -/
theorem Registered.after_eq (w : Registered) :
    w.after.registrations = Function.update w.before.registrations w.handle (some w.entry) ∧
      w.after.backend w.handle = some (toEpollEvents Interest.READABLE) := by
  obtain ⟨added, hadd, hafter⟩ := addWaker_ok (by decide) w.added
  rw [hafter]
  rcases add_cases Epoll.backend w.refusal w.handle .rawDescriptor w.token Interest.READABLE true
    w.before with ⟨e, _, he⟩ | ⟨_, _, ⟨e, set, _, he⟩ | ⟨afdState, set, hset, he⟩⟩
  · rw [he] at hadd
    cases hadd
  · rw [he] at hadd
    cases hadd
  · obtain ⟨rfl, hstored⟩ := addToBackend_stored hset
    rw [he] at hadd
    rw [← (Prod.mk.inj hadd).2]
    exact ⟨rfl, hstored⟩

/-- The raw event of a counter that is not zero lets the loop drain the eventfd. -/
theorem Registered.raw_drains (w : Registered) {counter : Nat} (h : counter ≠ 0) :
    epollWaiting.drains (w.raw counter) = true := by
  simp only [epollWaiting, Registered.raw, w.after_eq.2, Option.getD_some, decide_eq_true_eq]
  intro hzero
  have hbit := congrArg (fun flags : BitVec 32 => flags.getLsbD 0) hzero
  simp [eventfdReadiness, h, toEpollEvents, epollIn, Interest.isReadable, Interest.READABLE] at hbit

/-- The waker's entry stands in a table whose entries are under their own handles. -/
structure Rooted (w : Registered) (table : Table) : Prop where
  keyed : Keyed table
  entry : table w.handle = some w.entry

theorem start_rooted (w : Registered) : Rooted w (start w).table := by
  refine ⟨?_, ?_⟩
  · rw [start, w.after_eq.1]
    exact w.keyed.update w.handle _ fun r hr => by cases hr; rfl
  · rw [start, w.after_eq.1]
    exact Function.update_self _ _ _

theorem Rooted.update {table : Table} (h : Rooted w table) {handle : NativeHandle}
    (hother : handle ≠ w.handle) (entry : Option Registration)
    (hentry : ∀ r, entry = some r → r.handle = handle) :
    Rooted w (Function.update table handle entry) := by
  refine ⟨h.keyed.update handle entry hentry, ?_⟩
  rw [Function.update_of_ne hother.symm]
  exact h.entry

/-- The loop over the raw events: the waker's ones drain, what is left was given,
and what was given is left or reported. -/
structure Loop (w : Registered) (given rest : List EpollEvent) (events : Events) : Prop where
  drains : ∀ raw ∈ rest, raw.fd = w.handle → epollWaiting.drains raw = true
  obtained : Mentions w rest → Mentions w given
  reported : Mentions w given → Mentions w rest ∨ reports w events = true

def Orderly (w : Registered) : Phase → Prop
  | .idle => True
  | .waiting _ => True
  | .reporting given rest events => Loop w given rest events
  | .draining handle given rest events => Loop w given rest events ∧
      (handle = w.handle → Mentions w given)

/-- The poll in progress has obtained the waker's raw event. -/
def Obtained (w : Registered) : Phase → Prop
  | .reporting given _ _ => Mentions w given
  | .draining _ given _ _ => Mentions w given
  | _ => False

/-- The poll in progress will come to a read of the eventfd. -/
def Pending (w : Registered) : Phase → Prop
  | .reporting _ rest _ => Mentions w rest
  | .draining handle _ rest _ => handle = w.handle ∨ Mentions w rest
  | _ => False

theorem Pending.obtained {phase : Phase} (h : Pending w phase) (horderly : Orderly w phase) :
    Obtained w phase := by
  cases phase with
  | idle => exact h
  | waiting events => exact h
  | reporting given rest events => exact horderly.obtained h
  | draining handle given rest events =>
    rcases h with hwaker | hrest
    · exact horderly.2 hwaker
    · exact horderly.1.obtained hrest

theorem reports_push (event : Event) {events : Events} (h : reports w events = true) :
    reports w (events.push growth event) = true := by
  unfold reports at h ⊢
  rw [Events.push_items, List.any_append, h, Bool.true_or]

theorem reports_entry (raw : EpollEvent) (events : Events) :
    reports w (events.push growth (epollEvent w.entry raw)) = true := by
  unfold reports
  rw [Events.push_items, List.any_append]
  simp [epollEvent, Registered.entry]

/-- What one pass of the loop does: the waker's raw event is pushed and drained,
any other one neither reads the eventfd nor takes a report back. -/
theorem afterPush_cases (growth : Growth) {table : Table} (h : Rooted w table) {given : List EpollEvent}
    {raw : EpollEvent} {rest : List EpollEvent} {events : Events}
    (hloop : Loop w given (raw :: rest) events) :
    Orderly w (afterPush growth table given raw rest events) ∧
      (Obtained w (afterPush growth table given raw rest events) ↔ Mentions w given) ∧
      (Mentions w (raw :: rest) → Pending w (afterPush growth table given raw rest events)) := by
  have hdrains : ∀ other ∈ rest, other.fd = w.handle → epollWaiting.drains other = true :=
    fun other hmem => hloop.drains other (List.mem_cons_of_mem _ hmem)
  have hgiven : Mentions w rest → Mentions w given :=
    fun ⟨other, hmem, hfd⟩ => hloop.obtained ⟨other, List.mem_cons_of_mem _ hmem, hfd⟩
  by_cases hwaker : raw.fd = w.handle
  · have hdrain := hloop.drains raw List.mem_cons_self hwaker
    have he : afterPush growth table given raw rest events =
        .draining w.handle given rest (events.push growth (epollEvent w.entry raw)) := by
      simp only [afterPush, hwaker, h.entry, hdrain]
      rfl
    rw [he]
    exact ⟨⟨⟨hdrains, hgiven, fun _ => .inr (reports_entry raw events)⟩,
      fun _ => hloop.obtained ⟨raw, List.mem_cons_self, hwaker⟩⟩, Iff.rfl, fun _ => .inl rfl⟩
  · have hrest : Mentions w (raw :: rest) → Mentions w rest := by
      rintro ⟨other, hmem, hfd⟩
      rcases List.mem_cons.mp hmem with rfl | hmem
      · exact absurd hfd hwaker
      · exact ⟨other, hmem, hfd⟩
    have hloop' : ∀ events', (reports w events = true → reports w events' = true) →
        Loop w given rest events' := fun events' hmono =>
      ⟨hdrains, hgiven, fun hg => (hloop.reported hg).imp hrest hmono⟩
    unfold afterPush
    cases hentry : table raw.fd with
    | none => exact ⟨hloop' events id, Iff.rfl, hrest⟩
    | some registration =>
      have hother : registration.handle ≠ w.handle := by
        rw [h.keyed raw.fd registration hentry]
        exact hwaker
      dsimp only
      split
      · exact ⟨⟨hloop' _ (reports_push _), fun hsame => absurd hsame hother⟩, Iff.rfl,
          fun hm => .inr (hrest hm)⟩
      · exact ⟨hloop' _ (reports_push _), Iff.rfl, hrest⟩

/-- The counter is non-zero and the eventfd is marked, so a wait can report it. -/
def Reportable (s : State) : Prop := s.counter ≠ 0 ∧ s.ready = true

/-- A wake whose write is done and that no poll has answered yet. -/
def Unanswered (wake : Wake) : Prop :=
  (wake.phase = .written ∨ wake.phase = .returned) ∧ wake.answered = false

structure Invariant (w : Registered) (s : State) : Prop where
  rooted : Rooted w s.table
  orderly : Orderly w s.phase
  undrained : s.counter ≠ 0 → s.ready = true ∨ Pending w s.phase
  unanswered : ∀ id wake, s.wakes id = some wake → Unanswered wake →
    Obtained w s.phase ∨ Reportable s

theorem start_invariant (w : Registered) : Invariant w (start w) :=
  ⟨start_rooted w, trivial, fun h => absurd rfl h, nofun⟩

/-- A step that only touches one wake, and leaves the eventfd as it is, keeps the
invariant if the wake still waits for nothing new. -/
theorem Invariant.set_wake (h : Invariant w s) (id : Nat) (wake : Wake)
    (hwake : Unanswered wake → Obtained w s.phase ∨ Reportable s) :
    Invariant w { s with wakes := Function.update s.wakes id (some wake) } := by
  refine ⟨h.rooted, h.orderly, h.undrained, ?_⟩
  intro other wake' hother
  rcases update_some_eq_some hother with ⟨rfl, rfl⟩ | ⟨_, hold⟩
  · exact hwake
  · exact h.unanswered other wake' hold

/-- What a full eventfd has waiting is marked or obtained. -/
theorem Invariant.full (h : Invariant w s) (hfull : s.counter ≠ 0) :
    Obtained w s.phase ∨ Reportable s := by
  rcases h.undrained hfull with hready | hpending
  · exact .inr ⟨hfull, hready⟩
  · exact .inl (hpending.obtained h.orderly)

/-- A poll that has not obtained the waker leaves every unanswered write marked. -/
theorem Invariant.reportable (h : Invariant w s) (hphase : ¬ Obtained w s.phase) (id : Nat)
    (wake : Wake) (hwake : s.wakes id = some wake) (hun : Unanswered wake) : Reportable s :=
  (h.unanswered id wake hwake hun).resolve_left hphase

/-- Between two polls, and up to the wait, the phase does not matter. -/
theorem Invariant.set_phase (h : Invariant w s) (hobtained : ¬ Obtained w s.phase)
    (hpending : ¬ Pending w s.phase) {phase : Phase} (horderly : Orderly w phase) :
    Invariant w { s with phase := phase } := by
  refine ⟨h.rooted, horderly, fun hcounter => ?_, fun id wake hwake hun => ?_⟩
  · exact .inl ((h.undrained hcounter).resolve_right hpending)
  · exact .inr (h.reportable hobtained id wake hwake hun)

theorem Invariant.waits (h : Invariant w s) {events : Events} (hphase : s.phase = .waiting events)
    {raws : List EpollEvent} (hmay : mayReturn w events raws s) (dropped : Bool) :
    Invariant w { s with
      ready := markAfter w raws dropped s
      phase := .reporting raws raws events } := by
  have hidle : ¬ Obtained w s.phase := by rw [hphase]; exact id
  have hmarked : s.counter ≠ 0 → s.ready = true := by
    intro hcounter
    refine (h.undrained hcounter).resolve_right ?_
    rw [hphase]
    exact id
  have hkept : ¬ Mentions w raws → s.counter ≠ 0 → markAfter w raws dropped s = s.ready := by
    intro hnone hcounter
    rw [markAfter, if_neg hnone, if_neg fun hdrop => hcounter hdrop.1]
  refine ⟨h.rooted, ⟨?_, id, .inl⟩, ?_, ?_⟩
  · intro raw hmem hfd
    obtain ⟨_, hcounter, rfl⟩ := hmay.2.2 raw hmem hfd
    exact w.raw_drains hcounter
  · intro hcounter
    by_cases hmentions : Mentions w raws
    · exact .inr hmentions
    · exact .inl ((hkept hmentions hcounter).trans (hmarked hcounter))
  · intro id wake hwake hun
    by_cases hmentions : Mentions w raws
    · exact .inl hmentions
    · obtain ⟨hcounter, hready⟩ := h.reportable hidle id wake hwake hun
      exact .inr ⟨hcounter, (hkept hmentions hcounter).trans hready⟩

theorem Invariant.pushes (h : Invariant w s) {given : List EpollEvent} {raw : EpollEvent}
    {rest : List EpollEvent} {events : Events}
    (hphase : s.phase = .reporting given (raw :: rest) events) :
    Invariant w { s with phase := afterPush growth s.table given raw rest events } := by
  have hloop : Loop w given (raw :: rest) events := by
    have horderly := h.orderly
    rwa [hphase] at horderly
  obtain ⟨horderly, hobtained, hpending⟩ := afterPush_cases growth h.rooted hloop
  have hundrained := h.undrained
  have hunanswered := h.unanswered
  rw [hphase] at hundrained hunanswered
  refine ⟨h.rooted, horderly, fun hcounter => (hundrained hcounter).imp id hpending, ?_⟩
  intro id wake hwake hun
  exact (hunanswered id wake hwake hun).imp hobtained.mpr fun hr => hr

theorem Invariant.readsCounter (h : Invariant w s) {given rest : List EpollEvent} {events : Events}
    (hphase : s.phase = .draining w.handle given rest events) : Invariant w { s with counter := 0 } := by
  refine ⟨h.rooted, h.orderly, fun hzero => absurd rfl hzero, ?_⟩
  intro id wake _ _
  have horderly := h.orderly
  rw [hphase] at horderly
  left
  change Obtained w s.phase
  rw [hphase]
  exact horderly.2 rfl

theorem Invariant.readsEnd (h : Invariant w s) {handle : NativeHandle}
    {given rest : List EpollEvent} {events : Events}
    (hphase : s.phase = .draining handle given rest events)
    (hdrained : handle = w.handle → s.counter = 0) :
    Invariant w { s with phase := .reporting given rest events } := by
  have horderly := h.orderly
  have hundrained := h.undrained
  have hunanswered := h.unanswered
  rw [hphase] at horderly hundrained hunanswered
  refine ⟨h.rooted, horderly.1, ?_, hunanswered⟩
  intro hcounter
  rcases hundrained hcounter with hready | hwaker | hrest
  · exact .inl hready
  · exact absurd (hdrained hwaker) hcounter
  · exact .inr hrest

/-- At the end of the loop nothing is left to be read: a poll that obtained the
waker has reported it and answers every wake begun so far. -/
theorem Invariant.pollReturns (h : Invariant w s) {given : List EpollEvent} {events : Events}
    (hphase : s.phase = .reporting given [] events) :
    Invariant w { s with phase := .idle, wakes := answer w events s.wakes } := by
  have hloop : Loop w given [] events := by
    have horderly := h.orderly
    rwa [hphase] at horderly
  have hnone : ¬ Mentions w [] := fun ⟨_, hmem, _⟩ => nomatch hmem
  have hundrained := h.undrained
  have hunanswered := h.unanswered
  rw [hphase] at hundrained hunanswered
  refine ⟨h.rooted, trivial, fun hcounter => .inl ((hundrained hcounter).resolve_right hnone), ?_⟩
  intro id wake hwake hun
  obtain ⟨old, hold, rfl⟩ := Option.map_eq_some_iff.mp hwake
  obtain ⟨hphase', hanswered⟩ := hun
  obtain ⟨hfalse, hsilent⟩ := Bool.or_eq_false_iff.mp hanswered
  refine .inr ((hunanswered id old hold ⟨hphase', hfalse⟩).resolve_left ?_)
  intro hgiven
  rcases hloop.reported hgiven with hrest | hreported
  · exact hnone hrest
  · rw [hsilent] at hreported
    cases hreported

theorem step_invariant (a : Action) (h : Invariant w s) (hstep : step w growth a s = some t) :
    Invariant w t := by
  cases step_fires hstep with
  | assigns registration other =>
    refine ⟨?_, h.orderly, h.undrained, h.unanswered⟩
    exact h.rooted.update other _ fun r hr => by cases hr; rfl
  | erases handle other =>
    refine ⟨?_, h.orderly, h.undrained, h.unanswered⟩
    exact h.rooted.update other none nofun
  | wakeBegins id => exact h.set_wake id _ fun hun => nomatch hun.1
  | writes id answered =>
    exact ⟨h.rooted, h.orderly, fun _ => .inl rfl, fun _ _ _ _ => .inr ⟨Nat.succ_ne_zero _, rfl⟩⟩
  | writesFull id answered full => exact h.set_wake id _ fun _ => h.full full
  | throws id answered errno => exact h.set_wake id _ fun hun => nomatch hun.1
  | wakeReturns id answered written =>
    refine h.set_wake id _ fun hun => ?_
    exact h.unanswered id _ written ⟨.inl rfl, hun.2⟩
  | pollBegins events before phase next =>
    have hout : ¬ Obtained w s.phase ∧ ¬ Pending w s.phase := by rw [before]; exact ⟨id, id⟩
    refine h.set_phase hout.1 hout.2 ?_
    rcases next with rfl | rfl
    · trivial
    · trivial
  | waitFails errno events before =>
    have hout : ¬ Obtained w s.phase ∧ ¬ Pending w s.phase := by rw [before]; exact ⟨id, id⟩
    exact h.set_phase hout.1 hout.2 trivial
  | waits raws dropped events before may => exact h.waits before may dropped
  | pushes given raw rest events before => exact h.pushes before
  | readsCounter more given rest events before => exact h.readsCounter before
  | readsOther more => exact h
  | readsEnd more handle given rest events before drained => exact h.readsEnd before drained
  | pollReturns given events before => exact h.pollReturns before

theorem reachable_invariant (h : Reachable (step w growth) (start w) s) : Invariant w s :=
  h.invariant (start_invariant w) fun a _ _ hs _ hstep => step_invariant a hs hstep

/-- The reads of `drain_descriptor` come to an end. -/
theorem drain_ends (growth : Growth) {handle : NativeHandle} {given rest : List EpollEvent} {events : Events}
    (hphase : s.phase = .draining handle given rest events) :
    ∃ t, Reachable (step w growth) s t ∧ t.phase = .reporting given rest events ∧
      t.table = s.table ∧ t.wakes = s.wakes := by
  by_cases hwaker : handle = w.handle
  · by_cases hzero : s.counter = 0
    · refine ⟨{ s with phase := .reporting given rest events },
        .tail (.reads false) .refl trivial ?_, rfl, rfl, rfl⟩
      simp only [step, hphase, if_pos hwaker, if_pos hzero]
    · have htaken : step w growth (.reads true) s = some { s with counter := 0 } := by
        simp only [step, hphase, if_pos hwaker, if_neg hzero]
      refine ⟨{ s with counter := 0, phase := .reporting given rest events },
        .tail (.reads false) (.tail (.reads true) .refl trivial htaken) trivial ?_, rfl, rfl, rfl⟩
      simp only [step, hphase, if_pos hwaker, if_true]
  · refine ⟨{ s with phase := .reporting given rest events },
      .tail (.reads false) .refl trivial ?_, rfl, rfl, rfl⟩
    simp only [step, hphase, if_neg hwaker, Bool.false_eq_true, if_false]

/-- One pass of the loop, with the drain that belongs to it. -/
theorem pass_ends (growth : Growth) {given rest : List EpollEvent} {raw : EpollEvent} {events : Events}
    (hphase : s.phase = .reporting given (raw :: rest) events) :
    ∃ t, Reachable (step w growth) s t ∧
      t.phase = .reporting given rest (events.pushAll growth (obtained epollWaiting s.table [raw])) ∧
      t.table = s.table ∧ t.wakes = s.wakes := by
  have hpush : step w growth .pushes s =
      some { s with phase := afterPush growth s.table given raw rest events } := by
    simp only [step, hphase]
  have hfirst : Reachable (step w growth) s
      { s with phase := afterPush growth s.table given raw rest events } :=
    .tail .pushes .refl trivial hpush
  have hobtained : obtained epollWaiting s.table [raw] =
      ((s.table raw.fd).map fun registration => epollEvent registration raw).toList := by
    cases hentry : s.table raw.fd <;> simp [obtained, epollWaiting, hentry]
  rw [hobtained]
  unfold afterPush at hfirst
  cases hentry : s.table raw.fd with
  | none =>
    rw [hentry] at hfirst
    exact ⟨_, hfirst, rfl, rfl, rfl⟩
  | some registration =>
    rw [hentry] at hfirst
    dsimp only at hfirst
    split at hfirst
    · obtain ⟨t, hdrained, hend, htable, hwakes⟩ := drain_ends growth (w := w) (s := { s with
        phase := .draining registration.handle given rest
          (events.push growth (epollEvent registration raw)) }) rfl
      exact ⟨t, hfirst.trans hdrained, hend, htable, hwakes⟩
    · exact ⟨_, hfirst, rfl, rfl, rfl⟩

/-- Left alone, the steps of the loop push exactly what `select_epoll` pushes. -/
theorem loop_follows_selectEpoll (given rest : List EpollEvent) (events : Events)
    (hphase : s.phase = .reporting given rest events) :
    ∃ t, Reachable (step w growth) s t ∧
      t.phase = .reporting given [] (events.pushAll growth (obtained epollWaiting s.table rest)) ∧
      t.table = s.table ∧ t.wakes = s.wakes := by
  induction rest generalizing s events with
  | nil => exact ⟨s, .refl, hphase, rfl, rfl⟩
  | cons raw rest ih =>
    obtain ⟨u, hfirst, hu, htable, hwakes⟩ := pass_ends growth (w := w) hphase
    obtain ⟨t, hrest, ht, htable', hwakes'⟩ := ih _ hu
    have hsplit : obtained epollWaiting s.table (raw :: rest) =
        obtained epollWaiting s.table [raw] ++ obtained epollWaiting s.table rest :=
      List.filterMap_append (l := [raw])
    refine ⟨t, hfirst.trans hrest, ?_, htable'.trans htable, hwakes'.trans hwakes⟩
    rw [ht, htable, hsplit, Events.pushAll, Events.pushAll, Events.pushAll, List.foldl_append]

/-- No wake-up is lost: a completed wake that no poll has answered is obtained by
the poll in progress, or the eventfd is marked with a counter that is not zero;
and then the next wait may report it, if `0 < maxEvents`: `epoll_wait` takes no
other capacity. -/
theorem no_wake_up_lost (w : Registered) (growth : Growth) {s : State}
    (h : Reachable (step w growth) (start w) s) :
    (∀ id, s.wakes id = some ⟨.returned, false⟩ → Obtained w s.phase ∨ Reportable s) ∧
    (∀ events, s.phase = .waiting events → 0 < maxEvents events.capacity → Reportable s →
      ∃ t, step w growth (.waits [w.raw s.counter] false) s = some t ∧ Obtained w t.phase) := by
  constructor
  · intro id hwake
    exact (reachable_invariant h).unanswered id _ hwake ⟨.inr rfl, rfl⟩
  · intro events hphase hroom hreport
    have hmay : mayReturn w events [w.raw s.counter] s := by
      refine ⟨hroom, ?_, ?_⟩
      · rw [List.length_singleton]
        omega
      · intro raw hmem _
        exact ⟨hreport.2, hreport.1, List.mem_singleton.mp hmem⟩
    have hstep : step w growth (.waits [w.raw s.counter] false) s = some { s with
        ready := markAfter w [w.raw s.counter] false s
        phase := .reporting [w.raw s.counter] [w.raw s.counter] events } := by
      simp only [step, hphase, if_pos hmay]
    exact ⟨_, hstep, w.raw s.counter, List.mem_singleton_self _, rfl⟩

/-- A waker on descriptor 5 of an otherwise empty selector. -/
def exampleWaker : Registered where
  handle := 5
  token := ⟨1⟩
  before := initialSelector
  keyed := nofun
  refusal := none
  after := (addWaker Epoll.backend none 5 ⟨1⟩ initialSelector).2
  added := rfl

/-- The second wake falls between the push and the read that takes its write. -/
theorem no_wake_up_lost_while_draining :
    ∃ s, Reachable (step exampleWaker ⟨Nat.succ, Nat.lt_succ_self⟩) (start exampleWaker) s ∧
      s.counter = 0 ∧ s.wakes 1 = some ⟨.returned, false⟩ ∧
      (Obtained exampleWaker s.phase ∨ Reportable s) := by
  have h : Reachable (step exampleWaker ⟨Nat.succ, Nat.lt_succ_self⟩) (start exampleWaker) _ :=
    reachable_of_run [.wakeBegins 0, .writes 0 none, .wakeReturns 0, .pollBegins ⟨1, [], by decide⟩,
      .waits [exampleWaker.raw 1] false, .pushes, .wakeBegins 1, .writes 1 none, .wakeReturns 1,
      .reads true] rfl
  exact ⟨_, h, rfl, rfl, (no_wake_up_lost exampleWaker _ h).1 1 rfl⟩

end Waker
