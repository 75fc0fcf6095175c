import Ioxx.Waker
import Ioxx.WakerStates

/-!
# The pipe waker of kqueue and of the `poll` fallback

Outside Linux a waker is a non-blocking pipe: `wake` writes a byte, and a full pipe
counts as woken. One thread repeats `Poll::poll` while any number of `wake` calls
and of calls on other registrations run beside it; each pushed event and each read
of `drain_descriptor` is a step of its own. What the two builds differ in is a
`Waiter`: kqueue reports the pipe once for each time it was marked and looks the
entry up after the wait, `poll` reports it as long as it is readable and uses the
entries it copied before the wait.
-/

namespace PipeWaker

open Core Detail Runs Maps Select
open Waker (Wake Unanswered)

/-- The read end of a waker's pipe, and how many bytes the pipe holds. -/
structure Pipe where
  handle : NativeHandle
  token : Token
  capacity : Nat
  room : 0 < capacity

/-- The waker's entry stands in a table whose entries are under their own handles. -/
structure Rooted (w : Pipe) (table : Table) : Prop where
  keyed : Keyed table
  entry : ∃ r, table w.handle = some r ∧ r.token = w.token ∧ r.autoDrain = true ∧
    r.interests = Interest.READABLE

/-- How a build waits and reads what the wait has returned. `returns` is what may be
returned for a table, the events to fill, the unread bytes and the mark of the pipe;
an edge-triggered build returns the pipe only if it is marked. -/
structure Waiter (w : Pipe) (ρ : Type) where
  edge : Bool
  handle : ρ → NativeHandle
  lookup : Table → ρ → Option Registration
  toEvent : Registration → ρ → Event
  drains : ρ → Bool
  returns : Table → Events → List ρ → Nat → Bool → Bool
  token : ∀ r raw, (toEvent r raw).token = r.token
  own : ∀ seen events raws unread ready raw, Rooted w seen →
    returns seen events raws unread ready = true → raw ∈ raws → handle raw = w.handle →
    drains raw = true ∧ unread ≠ 0 ∧ (edge = true → ready = true) ∧
      ∀ table, Rooted w table → ∃ r, lookup table raw = some r ∧ r.handle = w.handle ∧
        r.token = w.token ∧ r.autoDrain = true
  other : ∀ table raw r, Keyed table → lookup table raw = some r → handle raw ≠ w.handle →
    r.handle ≠ w.handle

/-- Where the polling thread stands: outside `poll`, before the wait with the table
it saw, or in the loop over what the wait has returned, with the descriptor it is
draining, if any. `obtained` records that the waker was among it. -/
inductive Phase (ρ : Type) where
  | idle
  | waiting (seen : Table) (events : Events)
  | reporting (obtained : Bool) (rest : List ρ) (drain : Option NativeHandle) (events : Events)

structure State (ρ : Type) where
  table : Table
  unread : Nat
  ready : Bool
  phase : Phase ρ
  wakes : Nat → Option Wake

inductive Action (ρ : Type) where
  | assigns (registration : Registration)
  | erases (handle : NativeHandle)
  | wakeBegins (id : Nat)
  | writes (id : Nat) (refusal : Option Errno)
  | wakeReturns (id : Nat)
  | pollBegins (events : Events)
  | waitFails (errno : Errno)
  | waits (raws : List ρ) (dropped : Bool)
  | pushes
  | reads (more : Bool)
  | pollReturns

variable {w : Pipe} {ρ : Type}

def start (table : Table) : State ρ := ⟨table, 0, false, .idle, fun _ => none⟩

/-- The array that `drain_descriptor` reads into. -/
def drainSize : Nat := 256

/-- Some of what was returned is the waker's. -/
def Waiter.mentions (k : Waiter w ρ) (raws : List ρ) : Bool := raws.any fun raw => k.handle raw == w.handle

/-- A poll that returns these events has reported the waker. -/
def reports (w : Pipe) (events : Events) : Bool :=
  events.items.any fun event => event.token == w.token

/-- The mark after a wait: a returned pipe loses it, and so may an empty one. -/
def Waiter.markAfter (k : Waiter w ρ) (raws : List ρ) (dropped : Bool) (s : State ρ) : Bool :=
  if k.mentions raws || (s.unread == 0 && dropped) then false else s.ready

/-- One pass of the loop, up to the drain. -/
def Waiter.pass (k : Waiter w ρ) (growth : Growth) (table : Table) (obtained : Bool) (raw : ρ)
    (rest : List ρ) (events : Events) : Phase ρ :=
  match k.lookup table raw with
  | none => .reporting obtained rest none events
  | some r => .reporting obtained rest
      (if r.autoDrain && k.drains raw then some r.handle else none)
      (events.push growth (k.toEvent r raw))

/-- The wakes after a poll has returned: those begun by then are answered if the
poll has reported the waker. -/
def answer (w : Pipe) (events : Events) (wakes : Nat → Option Wake) : Nat → Option Wake :=
  fun id => (wakes id).map fun wake => { wake with answered := wake.answered || reports w events }

def step (k : Waiter w ρ) (growth : Growth) (a : Action ρ) (s : State ρ) : Option (State ρ) :=
  match a with
  | .assigns registration =>
    if registration.handle = w.handle then none
    else some { s with
      table := Function.update s.table registration.handle (some registration) }
  | .erases handle =>
    if handle = w.handle then none
    else some { s with table := Function.update s.table handle none }
  | .wakeBegins id => match s.wakes id with
    | none => some { s with wakes := Function.update s.wakes id (some ⟨.begun, false⟩) }
    | some _ => none
  | .writes id refusal => match s.wakes id, refusal with
    | some ⟨.begun, answered⟩, none =>
      if s.unread < w.capacity then some { s with
        unread := s.unread + 1
        ready := true
        wakes := Function.update s.wakes id (some ⟨.written, answered⟩) }
      -- the pipe is full: `EAGAIN` counts as success
      else some { s with wakes := Function.update s.wakes id (some ⟨.written, answered⟩) }
    | some ⟨.begun, answered⟩, some errno =>
      if errno = EAGAIN then none
      else some { s with wakes := Function.update s.wakes id (some ⟨.threw, answered⟩) }
    | _, _ => none
  | .wakeReturns id => match s.wakes id with
    | some ⟨.written, answered⟩ =>
      some { s with wakes := Function.update s.wakes id (some ⟨.returned, answered⟩) }
    | _ => none
  | .pollBegins events => match s.phase with
    | .idle => some { s with
        phase := if events.clear.capacity = 0 then .idle else .waiting s.table events.clear }
    | _ => none
  | .waitFails _ => match s.phase with
    | .waiting _ _ => some { s with phase := .idle }
    | _ => none
  | .waits raws dropped => match s.phase with
    | .waiting seen events =>
      if k.returns seen events raws s.unread s.ready then some { s with
        ready := k.markAfter raws dropped s
        phase := .reporting (k.mentions raws) raws none events }
      else none
    | _ => none
  | .pushes => match s.phase with
    | .reporting obtained (raw :: rest) none events =>
      some { s with phase := k.pass growth s.table obtained raw rest events }
    | _ => none
  | .reads more => match s.phase with
    | .reporting obtained rest (some handle) events =>
      if handle = w.handle then
        if s.unread = 0 then some { s with phase := .reporting obtained rest none events }
        else some { s with unread := s.unread - min s.unread drainSize }
      else if more then some s
      else some { s with phase := .reporting obtained rest none events }
    | _ => none
  | .pollReturns => match s.phase with
    | .reporting _ [] none events =>
      some { s with phase := .idle, wakes := answer w events s.wakes }
    | _ => none

/-! The invariant. -/

/-- The loop over what was returned: the waker's entries that are left are found and
drained, and a waker that was obtained is left or reported. -/
structure Waiter.Loop (k : Waiter w ρ) (obtained : Bool) (rest : List ρ)
    (drain : Option NativeHandle) (events : Events) : Prop where
  own : ∀ raw ∈ rest, k.handle raw = w.handle → k.drains raw = true ∧
    ∀ table, Rooted w table → ∃ r, k.lookup table raw = some r ∧ r.handle = w.handle ∧
      r.token = w.token ∧ r.autoDrain = true
  left : k.mentions rest = true ∨ drain = some w.handle → obtained = true
  reported : obtained = true → k.mentions rest = true ∨ reports w events = true

def Waiter.Orderly (k : Waiter w ρ) : Phase ρ → Prop
  | .idle => True
  | .waiting seen _ => Rooted w seen
  | .reporting obtained rest drain events => k.Loop obtained rest drain events

/-- The poll in progress has obtained the waker. -/
def Obtained : Phase ρ → Prop
  | .reporting obtained _ _ _ => obtained = true
  | _ => False

/-- The poll in progress will come to a read of the pipe. -/
def Waiter.Pending (k : Waiter w ρ) : Phase ρ → Prop
  | .reporting _ rest drain _ => k.mentions rest = true ∨ drain = some w.handle
  | _ => False

/-- The pipe has a byte, and the next wait can see it. -/
def Waiter.Reportable (k : Waiter w ρ) (s : State ρ) : Prop :=
  s.unread ≠ 0 ∧ (k.edge = true → s.ready = true)

structure Waiter.Invariant (k : Waiter w ρ) (s : State ρ) : Prop where
  rooted : Rooted w s.table
  orderly : k.Orderly s.phase
  undrained : s.unread ≠ 0 → k.Reportable s ∨ k.Pending s.phase
  unanswered : ∀ id wake, s.wakes id = some wake → Unanswered wake →
    Obtained s.phase ∨ k.Reportable s

variable {k : Waiter w ρ} {g : Growth} {s t : State ρ}

theorem start_invariant {table : Table} (h : Rooted w table) : k.Invariant (start table) :=
  ⟨h, trivial, fun hunread => absurd rfl hunread, by simp [start]⟩

theorem Rooted.update {table : Table} (h : Rooted w table) {handle : NativeHandle}
    (hother : handle ≠ w.handle) (entry : Option Registration)
    (hentry : ∀ r, entry = some r → r.handle = handle) :
    Rooted w (Function.update table handle entry) := by
  obtain ⟨r, hr, hfields⟩ := h.entry
  exact ⟨h.keyed.update handle entry hentry, r, (Function.update_of_ne hother.symm _ _).trans hr, hfields⟩

theorem mentions_cons (raw : ρ) (rest : List ρ) :
    k.mentions (raw :: rest) = (k.handle raw == w.handle || k.mentions rest) := rfl

theorem pending_obtained {phase : Phase ρ} (horderly : k.Orderly phase) (h : k.Pending phase) :
    Obtained phase := by
  cases phase with
  | idle => exact h
  | waiting seen events => exact h
  | reporting obtained rest drain events => exact horderly.left h

/-- A step that only touches one wake keeps the invariant if the wake waits for
nothing new. -/
theorem Waiter.Invariant.set_wake (h : k.Invariant s) (id : Nat) (wake : Wake)
    (hwake : Unanswered wake → Obtained s.phase ∨ k.Reportable s) :
    k.Invariant { s with wakes := Function.update s.wakes id (some wake) } := by
  refine ⟨h.rooted, h.orderly, h.undrained, fun other wake' hother => ?_⟩
  rcases update_some_eq_some hother with ⟨rfl, rfl⟩ | ⟨_, hold⟩
  · exact hwake
  · exact h.unanswered other wake' hold

/-- Between two polls, and up to the wait, the phase does not matter. -/
theorem Waiter.Invariant.set_phase (h : k.Invariant s) (hobtained : ¬ Obtained s.phase)
    (hpending : ¬ k.Pending s.phase) {phase : Phase ρ} (horderly : k.Orderly phase) :
    k.Invariant { s with phase := phase } := by
  refine ⟨h.rooted, horderly, fun hunread => ?_, fun id wake hwake hun => ?_⟩
  · exact .inl ((h.undrained hunread).resolve_right hpending)
  · exact .inr ((h.unanswered id wake hwake hun).resolve_left hobtained)

/-- A byte in the pipe is visible to the next wait, or is about to be read. -/
theorem Waiter.Invariant.full (h : k.Invariant s) (hfull : s.unread ≠ 0) :
    Obtained s.phase ∨ k.Reportable s := by
  rcases h.undrained hfull with hreport | hpending
  · exact .inr hreport
  · exact .inl (pending_obtained h.orderly hpending)

theorem Waiter.Invariant.waits (h : k.Invariant s) {seen : Table} {events : Events}
    (hphase : s.phase = .waiting seen events) {raws : List ρ}
    (hreturns : k.returns seen events raws s.unread s.ready = true) (dropped : Bool) :
    k.Invariant { s with
      ready := k.markAfter raws dropped s
      phase := .reporting (k.mentions raws) raws none events } := by
  have hseen : Rooted w seen := by
    have horderly := h.orderly
    rwa [hphase] at horderly
  have hout : ¬ Obtained s.phase ∧ ¬ k.Pending s.phase := by
    rw [hphase]
    exact ⟨id, id⟩
  -- a pipe that was not returned keeps its mark as long as it has a byte
  have hkept : k.mentions raws = false → k.Reportable s →
      k.Reportable { s with
        ready := k.markAfter raws dropped s
        phase := .reporting (k.mentions raws) raws none events } := by
    rintro hnone ⟨hunread, hready⟩
    refine ⟨hunread, fun hedge => ?_⟩
    have hmark : k.markAfter raws dropped s = s.ready := by
      simp [Waiter.markAfter, hnone, hunread]
    exact hmark.trans (hready hedge)
  refine ⟨h.rooted, ⟨fun raw hmem hown => ?_, fun hleft => ?_, .inl⟩, fun hunread => ?_,
    fun id wake hwake hun => ?_⟩
  · obtain ⟨hdrains, -, -, hfound⟩ := k.own seen events raws s.unread s.ready raw hseen hreturns hmem hown
    exact ⟨hdrains, hfound⟩
  · exact hleft.resolve_right (Option.some_ne_none _).symm
  · cases hmentions : k.mentions raws with
    | true => exact .inr (.inl hmentions)
    | false => exact .inl (hmentions ▸ hkept hmentions ((h.undrained hunread).resolve_right hout.2))
  · cases hmentions : k.mentions raws with
    | true => exact .inl rfl
    | false =>
      exact .inr (hmentions ▸ hkept hmentions ((h.unanswered id wake hwake hun).resolve_left hout.1))

theorem reports_push (event : Event) {events : Events} (h : reports w events = true) :
    reports w (events.push g event) = true := by
  rw [reports, Events.push_items, List.any_append, Bool.or_eq_true]
  exact .inl h

/-- What one pass of the loop does: the waker is pushed and drained, any other entry
neither reads the pipe nor takes a report back. -/
theorem pass_cases {table : Table} (h : Rooted w table) {obtained : Bool} {raw : ρ} {rest : List ρ}
    {events : Events} (hloop : k.Loop obtained (raw :: rest) none events) :
    ∃ drain events', k.pass g table obtained raw rest events =
        .reporting obtained rest drain events' ∧ k.Loop obtained rest drain events' ∧
      (k.mentions (raw :: rest) = true → k.mentions rest = true ∨ drain = some w.handle) := by
  have hown : ∀ other ∈ rest, k.handle other = w.handle → _ :=
    fun other hmem => hloop.own other (List.mem_cons_of_mem _ hmem)
  have hcons := mentions_cons (k := k) raw rest
  by_cases hwaker : k.handle raw = w.handle
  · obtain ⟨hdrains, hfound⟩ := hloop.own raw List.mem_cons_self hwaker
    obtain ⟨r, hr, hhandle, htoken, hauto⟩ := hfound table h
    have hgiven : obtained = true := hloop.left (.inl (by simp [hcons, hwaker]))
    have hpass : k.pass g table obtained raw rest events =
        .reporting obtained rest (some w.handle) (events.push g (k.toEvent r raw)) := by
      simp only [Waiter.pass, hr, hauto, hdrains, hhandle]
      rfl
    refine ⟨_, _, hpass, ⟨hown, fun _ => hgiven, fun _ => .inr ?_⟩, fun _ => .inr rfl⟩
    rw [reports, Events.push_items, List.any_append, Bool.or_eq_true]
    exact .inr (by simp [k.token, htoken])
  · have hsame : k.mentions (raw :: rest) = k.mentions rest := by simp [hcons, hwaker]
    -- the descriptor that is drained, if any, is not the pipe
    have hloop' : ∀ drain events', drain ≠ some w.handle →
        (reports w events = true → reports w events' = true) → k.Loop obtained rest drain events' := by
      intro drain events' hdrain hmono
      refine ⟨hown, fun hleft => hloop.left (.inl ?_), fun hgiven => ?_⟩
      · rw [hsame]
        exact hleft.resolve_right hdrain
      · rw [← hsame]
        exact (hloop.reported hgiven).imp_right hmono
    unfold Waiter.pass
    cases hr : k.lookup table raw with
    | none =>
      exact ⟨none, events, rfl, hloop' none events (by simp) id, fun hm => .inl (hsame ▸ hm)⟩
    | some r =>
      have hother := k.other table raw r h.keyed hr hwaker
      refine ⟨_, _, rfl, hloop' _ _ ?_ (reports_push _), fun hm => .inl (hsame ▸ hm)⟩
      split
      · exact fun hsome => hother (Option.some.inj hsome)
      · simp

theorem Waiter.Invariant.pushes (h : k.Invariant s) {obtained : Bool} {raw : ρ} {rest : List ρ}
    {events : Events} (hphase : s.phase = .reporting obtained (raw :: rest) none events) :
    k.Invariant { s with phase := k.pass g s.table obtained raw rest events } := by
  have hloop : k.Loop obtained (raw :: rest) none events := by
    have horderly := h.orderly
    rwa [hphase] at horderly
  obtain ⟨drain, events', hpass, hloop', hpending⟩ := pass_cases (g := g) h.rooted hloop
  have hundrained := h.undrained
  have hunanswered := h.unanswered
  rw [hphase] at hundrained hunanswered
  rw [hpass]
  refine ⟨h.rooted, hloop', fun hunread => ?_, hunanswered⟩
  refine (hundrained hunread).imp id fun hleft => ?_
  exact hpending (hleft.resolve_right (Option.some_ne_none _).symm)

/-- A read of the pipe takes bytes that the poll in progress answers for. -/
theorem Waiter.Invariant.takes (h : k.Invariant s) {obtained : Bool} {rest : List ρ} {events : Events}
    (hphase : s.phase = .reporting obtained rest (some w.handle) events) (unread : Nat) :
    k.Invariant { s with unread := unread } := by
  have hloop : k.Loop obtained rest (some w.handle) events := by
    have horderly := h.orderly
    rwa [hphase] at horderly
  have hpending : k.Pending s.phase := by
    rw [hphase]
    exact .inr rfl
  exact ⟨h.rooted, h.orderly, fun _ => .inr hpending,
    fun _ _ _ _ => .inl (pending_obtained h.orderly hpending)⟩

/-- The end of a drain; a pipe that was drained is empty. -/
theorem Waiter.Invariant.readsEnd (h : k.Invariant s) {obtained : Bool} {rest : List ρ}
    {handle : NativeHandle} {events : Events}
    (hphase : s.phase = .reporting obtained rest (some handle) events)
    (hdrained : handle = w.handle → s.unread = 0) :
    k.Invariant { s with phase := .reporting obtained rest none events } := by
  have hloop : k.Loop obtained rest (some handle) events := by
    have horderly := h.orderly
    rwa [hphase] at horderly
  have hundrained := h.undrained
  have hunanswered := h.unanswered
  rw [hphase] at hundrained hunanswered
  refine ⟨h.rooted, ⟨hloop.own, fun hleft => ?_, hloop.reported⟩, fun hunread => ?_, hunanswered⟩
  · exact hloop.left (.inl (hleft.resolve_right (Option.some_ne_none _).symm))
  · rcases hundrained hunread with hreport | hrest | hdrain
    · exact .inl hreport
    · exact .inr (.inl hrest)
    · exact absurd (hdrained (Option.some.inj hdrain)) hunread

/-- At the end of the loop a poll that obtained the waker has reported it, and it
answers every wake begun so far. -/
theorem Waiter.Invariant.pollReturns (h : k.Invariant s) {obtained : Bool} {events : Events}
    (hphase : s.phase = .reporting obtained [] none events) :
    k.Invariant { s with phase := .idle, wakes := answer w events s.wakes } := by
  have hloop : k.Loop obtained [] none events := by
    have horderly := h.orderly
    rwa [hphase] at horderly
  have hnone : ¬ (k.mentions [] = true ∨ (none : Option NativeHandle) = some w.handle) := by
    simp [Waiter.mentions]
  have hundrained := h.undrained
  have hunanswered := h.unanswered
  rw [hphase] at hundrained hunanswered
  refine ⟨h.rooted, trivial, fun hunread => .inl ((hundrained hunread).resolve_right hnone), ?_⟩
  intro id wake hwake hun
  obtain ⟨old, hold, rfl⟩ := Option.map_eq_some_iff.mp hwake
  obtain ⟨hwritten, hanswered⟩ := hun
  obtain ⟨hfalse, hsilent⟩ := Bool.or_eq_false_iff.mp hanswered
  refine .inr ((hunanswered id old hold ⟨hwritten, hfalse⟩).resolve_left fun hgiven => ?_)
  rcases hloop.reported hgiven with hrest | hreported
  · exact hnone (.inl hrest)
  · rw [hsilent] at hreported
    cases hreported

theorem step_invariant (a : Action ρ) (h : k.Invariant s) (hstep : step k g a s = some t) :
    k.Invariant t := by
  cases a with
  | assigns registration =>
    simp only [step] at hstep
    split at hstep
    · cases hstep
    · rename_i hother
      cases hstep
      have hrooted := h.rooted.update hother (some registration) fun r hr => by cases hr; rfl
      exact ⟨hrooted, h.orderly, h.undrained, h.unanswered⟩
  | erases handle =>
    simp only [step] at hstep
    split at hstep
    · cases hstep
    · rename_i hother
      cases hstep
      have hrooted := h.rooted.update hother none fun r hr => by cases hr
      exact ⟨hrooted, h.orderly, h.undrained, h.unanswered⟩
  | wakeBegins id =>
    simp only [step] at hstep
    split at hstep
    · cases hstep
      exact h.set_wake id _ fun hun => by simp [Unanswered] at hun
    · cases hstep
  | writes id refusal =>
    simp only [step] at hstep
    split at hstep
    · rename_i answered hwake
      split at hstep
      · cases hstep
        exact ⟨h.rooted, h.orderly, fun _ => .inl ⟨Nat.succ_ne_zero _, fun _ => rfl⟩,
          fun _ _ _ _ => .inr ⟨Nat.succ_ne_zero _, fun _ => rfl⟩⟩
      · rename_i hfull
        cases hstep
        have hroom := w.room
        exact h.set_wake id _ fun _ => h.full (by omega)
    · split at hstep
      · cases hstep
      · cases hstep
        exact h.set_wake id _ fun hun => by simp [Unanswered] at hun
    · cases hstep
  | wakeReturns id =>
    simp only [step] at hstep
    split at hstep
    · rename_i answered hwritten
      cases hstep
      exact h.set_wake id _ fun hun => h.unanswered id _ hwritten ⟨.inl rfl, hun.2⟩
    · cases hstep
  | pollBegins events =>
    simp only [step] at hstep
    split at hstep
    · rename_i hidle
      cases hstep
      have hout : ¬ Obtained s.phase ∧ ¬ k.Pending s.phase := by rw [hidle]; exact ⟨id, id⟩
      refine h.set_phase hout.1 hout.2 ?_
      split
      · trivial
      · exact h.rooted
    · cases hstep
  | waitFails errno =>
    simp only [step] at hstep
    split at hstep
    · rename_i seen events hwaiting
      cases hstep
      have hout : ¬ Obtained s.phase ∧ ¬ k.Pending s.phase := by rw [hwaiting]; exact ⟨id, id⟩
      exact h.set_phase hout.1 hout.2 trivial
    · cases hstep
  | waits raws dropped =>
    simp only [step] at hstep
    split at hstep
    · rename_i seen events hwaiting
      split at hstep
      · rename_i hreturns
        cases hstep
        exact h.waits hwaiting hreturns dropped
      · cases hstep
    · cases hstep
  | pushes =>
    simp only [step] at hstep
    split at hstep
    · rename_i obtained raw rest events hphase
      cases hstep
      exact h.pushes hphase
    · cases hstep
  | reads more =>
    simp only [step] at hstep
    split at hstep
    · rename_i obtained rest handle events hphase
      split at hstep
      · rename_i hwaker
        subst hwaker
        split at hstep
        · rename_i hempty
          cases hstep
          exact h.readsEnd hphase fun _ => hempty
        · cases hstep
          exact h.takes hphase _
      · rename_i hother
        split at hstep
        · cases hstep
          exact h
        · cases hstep
          exact h.readsEnd hphase fun hwaker => absurd hwaker hother
    · cases hstep
  | pollReturns =>
    simp only [step] at hstep
    split at hstep
    · rename_i obtained events hphase
      cases hstep
      exact h.pollReturns hphase
    · cases hstep

theorem reachable_invariant {table : Table} (hrooted : Rooted w table)
    (h : Reachable (step k g) (start table) s) : k.Invariant s :=
  h.invariant (start_invariant hrooted) fun a _ _ hu _ hstep => step_invariant a hu hstep

/-! Left alone, the loop comes to its end and pushes what the selector pushes. -/

/-- The events of what was returned: entries that are not found are skipped. -/
def Waiter.pushed (k : Waiter w ρ) (table : Table) (raws : List ρ) : List Event :=
  raws.filterMap fun raw => (k.lookup table raw).map fun r => k.toEvent r raw

/-- The reads of `drain_descriptor` come to an end. -/
theorem drain_ends {obtained : Bool} {rest : List ρ} {handle : NativeHandle} {events : Events}
    (hphase : s.phase = .reporting obtained rest (some handle) events) :
    ∃ t, Reachable (step k g) s t ∧ t.phase = .reporting obtained rest none events ∧
      t.table = s.table ∧ t.wakes = s.wakes := by
  by_cases hwaker : handle = w.handle
  · -- every read of a pipe that is not empty takes a byte
    induction hunread : s.unread using Nat.strong_induction_on generalizing s with
    | _ n ih =>
      by_cases hempty : s.unread = 0
      · refine ⟨{ s with phase := .reporting obtained rest none events },
          .tail (.reads false) .refl trivial ?_, rfl, rfl, rfl⟩
        simp only [step, hphase, if_pos hwaker, if_pos hempty]
      · have hread : step k g (.reads true) s =
            some { s with unread := s.unread - min s.unread drainSize } := by
          simp only [step, hphase, if_pos hwaker, if_neg hempty]
        have hless : s.unread - min s.unread drainSize < n := by
          simp only [drainSize]
          omega
        obtain ⟨t, hreach, hend, htable, hwakes⟩ := ih _ hless
          (s := { s with unread := s.unread - min s.unread drainSize }) hphase rfl
        exact ⟨t, (Reach.tail (.reads true) .refl trivial hread).trans hreach, hend, htable, hwakes⟩
  · refine ⟨{ s with phase := .reporting obtained rest none events },
      .tail (.reads false) .refl trivial ?_, rfl, rfl, rfl⟩
    simp only [step, hphase, if_neg hwaker, Bool.false_eq_true, if_false]

/-- One pass of the loop, with the drain that belongs to it. -/
theorem pass_ends {obtained : Bool} {raw : ρ} {rest : List ρ} {events : Events}
    (hphase : s.phase = .reporting obtained (raw :: rest) none events) :
    ∃ t, Reachable (step k g) s t ∧
      t.phase = .reporting obtained rest none (events.pushAll g (k.pushed s.table [raw])) ∧
      t.table = s.table ∧ t.wakes = s.wakes := by
  have hpush : step k g .pushes s =
      some { s with phase := k.pass g s.table obtained raw rest events } := by
    simp only [step, hphase]
  have hfirst : Reachable (step k g) s _ := .tail .pushes .refl trivial hpush
  have hpushed : k.pushed s.table [raw] =
      ((k.lookup s.table raw).map fun r => k.toEvent r raw).toList := by
    cases hr : k.lookup s.table raw <;> simp [Waiter.pushed, hr]
  rw [hpushed]
  unfold Waiter.pass at hfirst
  cases hr : k.lookup s.table raw with
  | none =>
    rw [hr] at hfirst
    exact ⟨_, hfirst, rfl, rfl, rfl⟩
  | some r =>
    rw [hr] at hfirst
    dsimp only at hfirst
    split at hfirst
    · obtain ⟨t, hdrained, hend, htable, hwakes⟩ := drain_ends (k := k) (g := g) (s := { s with
        phase := .reporting obtained rest (some r.handle) (events.push g (k.toEvent r raw)) }) rfl
      exact ⟨t, hfirst.trans hdrained, hend, htable, hwakes⟩
    · exact ⟨_, hfirst, rfl, rfl, rfl⟩

theorem loop_ends (obtained : Bool) (rest : List ρ) (events : Events)
    (hphase : s.phase = .reporting obtained rest none events) :
    ∃ t, Reachable (step k g) s t ∧
      t.phase = .reporting obtained [] none (events.pushAll g (k.pushed s.table rest)) ∧
      t.table = s.table ∧ t.wakes = s.wakes := by
  induction rest generalizing s events with
  | nil => exact ⟨s, .refl, hphase, rfl, rfl⟩
  | cons raw rest ih =>
    obtain ⟨u, hfirst, hu, htable, hwakes⟩ := pass_ends (k := k) (g := g) hphase
    obtain ⟨t, hrest, ht, htable', hwakes'⟩ := ih _ hu
    have hsplit : k.pushed s.table (raw :: rest) =
        k.pushed s.table [raw] ++ k.pushed s.table rest := List.filterMap_append (l := [raw])
    refine ⟨t, hfirst.trans hrest, ?_, htable'.trans htable, hwakes'.trans hwakes⟩
    rw [ht, htable, hsplit, Events.pushAll, Events.pushAll, Events.pushAll, List.foldl_append]

/-- A waker whose poll is in the loop, or whose wait reports it, is answered once the
loop has run to its end. -/
theorem obtained_answers (h : k.Invariant s) {obtained : Bool} {rest : List ρ} {events : Events}
    (hphase : s.phase = .reporting obtained rest none events) (hobtained : obtained = true) :
    ∃ t, Reachable (step k g) s t ∧ t.phase = .idle ∧
      ∀ id wake, s.wakes id = some wake → ∃ wake', t.wakes id = some wake' ∧ wake'.answered = true := by
  obtain ⟨u, hu, hend, _, hwakes⟩ := loop_ends (k := k) (g := g) obtained rest events hphase
  have hinvariant : k.Invariant u :=
    hu.invariant h fun a _ _ hv _ hstep => step_invariant a hv hstep
  have hloop : k.Loop obtained [] none (events.pushAll g (k.pushed s.table rest)) := by
    have horderly := hinvariant.orderly
    rwa [hend] at horderly
  have hreports : reports w (events.pushAll g (k.pushed s.table rest)) = true :=
    (hloop.reported hobtained).resolve_left (by simp [Waiter.mentions])
  have hreturn : step k g .pollReturns u = some { u with
      phase := .idle
      wakes := answer w (events.pushAll g (k.pushed s.table rest)) u.wakes } := by
    simp only [step, hend]
  refine ⟨_, .tail .pollReturns hu trivial hreturn, rfl, fun id wake hwake => ?_⟩
  refine ⟨{ wake with answered := true }, ?_, rfl⟩
  simp only [answer, hwakes, hwake, Option.map_some, hreports, Bool.or_true]

/-- What the wait of a thread that can see the pipe leads to. -/
theorem waits_answers (h : k.Invariant s) {seen : Table} {events : Events}
    (hphase : s.phase = .waiting seen events) {raws : List ρ}
    (hreturns : k.returns seen events raws s.unread s.ready = true) (hmentions : k.mentions raws = true) :
    ∃ t u, step k g (.waits raws false) s = some t ∧ Reachable (step k g) t u ∧
      u.phase = .idle ∧
      ∀ id wake, s.wakes id = some wake → ∃ wake', u.wakes id = some wake' ∧ wake'.answered = true := by
  have hstep : step k g (.waits raws false) s = some { s with
      ready := k.markAfter raws false s
      phase := .reporting (k.mentions raws) raws none events } := by
    simp only [step, hphase, if_pos hreturns]
  obtain ⟨u, hu, hidle, hanswered⟩ := obtained_answers (k := k) (g := g)
    (step_invariant _ h hstep) rfl hmentions
  exact ⟨_, u, hstep, hu, hidle, hanswered⟩

/-- The entry that `add_waker` makes roots the waker. -/
theorem rooted_of_added {β Ω : Type} {b : Backend β Ω} (hplatform : b.platform ≠ .windows) {ω : Ω}
    {before after : Selector β} (hkeyed : Keyed before.registrations)
    (hadded : addWaker b ω w.handle w.token before = (.ok (), after)) : Rooted w after.registrations := by
  rcases WakerStates.addWaker_cases hplatform ω w.handle w.token before with
    ⟨e, t, he, _⟩ | ⟨afdState, t, he, _, ht⟩
  · rw [he] at hadded
    cases hadded
  · rw [he] at hadded
    cases hadded
    rw [ht]
    exact ⟨hkeyed.update w.handle _ fun r hr => by cases hr; rfl,
      _, Function.update_self _ _ _, rfl, rfl, rfl⟩

/-! The kqueue build. -/

/-- A pipe that `add_waker` has registered with a kqueue. Its descriptor was new, so
the kernel had no filter of it. -/
structure KqueueWaker (build : Kqueue.Build) where
  pipe : Pipe
  before : Selector Kqueue.Knotes
  keyed : Keyed before.registrations
  new : ∀ filter, before.backend (pipe.handle, filter) = none
  refusals : Kqueue.Refusals
  after : Selector Kqueue.Knotes
  added : addWaker (Kqueue.backend build) refusals pipe.handle pipe.token before = (.ok (), after)

variable {build : Kqueue.Build}

/-- The kernel has the read filter of the pipe and no other. -/
theorem KqueueWaker.filter (q : KqueueWaker build) (filter : Kqueue.Filter) :
    (q.after.backend (q.pipe.handle, filter)).isSome ↔ filter = .read := by
  obtain ⟨added, hadd, hafter⟩ := addWaker_ok (by simp [Kqueue.backend]) q.added
  have hfilters : Kqueue.filters build Interest.READABLE = [.read] := by
    have haio : Interest.READABLE.isAio = false := rfl
    have hlio : Interest.READABLE.isLio = false := rfl
    have hread : Interest.READABLE.isReadable = true := rfl
    have hwrite : Interest.READABLE.isWritable = false := rfl
    simp [Kqueue.filters_eq, Kqueue.wants, haio, hlio, hread, hwrite]
  rcases add_cases (Kqueue.backend build) q.refusals q.pipe.handle .rawDescriptor q.pipe.token
    Interest.READABLE true q.before with ⟨e, _, he⟩ | ⟨_, _, ⟨e, knotes, _, he⟩ | ⟨afdState, knotes, hb, he⟩⟩
  · rw [he] at hadd
    cases hadd
  · rw [he] at hadd
    cases hadd
  · rw [he] at hadd
    rw [hafter, ← (Prod.mk.inj hadd).2]
    change (knotes (q.pipe.handle, filter)).isSome ↔ filter = .read
    have hchanges := Kqueue.addToBackend_eq build q.refusals q.pipe.handle q.pipe.token
      Interest.READABLE q.before.backend
    have hknotes : (Kqueue.addToBackend build q.refusals q.pipe.handle q.pipe.token
        Interest.READABLE q.before.backend) = (.ok afdState, knotes) := hb
    rw [hknotes] at hchanges
    obtain ⟨hafter', hok⟩ := hchanges
    have hnone := hok.mp ⟨afdState, rfl⟩
    have hadds := (Kqueue.kevent_adds q.refusals q.pipe.handle q.pipe.token
      (Kqueue.filters_nodup build Interest.READABLE) q.before.backend).2 q.pipe.handle filter
    rw [hfilters] at hadds hnone
    rw [show knotes = _ from hafter', Kqueue.additions, hfilters, hadds, q.new filter,
      List.takeWhile_cons_of_pos (by rw [hnone .read (by simp)]; rfl)]
    simp

/-- What `kevent` may return: no more than there is room for, and the pipe only for a
filter the kernel has, when it is marked and has a byte. -/
def kqueueReturns (w : Pipe) (knotes : Kqueue.Knotes) (events : Events) (raws : List Kevent)
    (unread : Nat) (ready : Bool) : Bool :=
  decide (raws.length ≤ (maxEvents events.capacity).toNat) && raws.all fun raw =>
    raw.ident != w.handle || match raw.filter with
      | none => false
      | some filter => (knotes (w.handle, filter)).isSome && (unread != 0) && ready

def KqueueWaker.waiter (q : KqueueWaker build) : Waiter q.pipe Kevent where
  edge := true
  handle := kqueueWaiting.handle
  lookup table raw := table (kqueueWaiting.handle raw)
  toEvent := kqueueWaiting.toEvent
  drains := kqueueWaiting.drains
  returns _ events raws unread ready := kqueueReturns q.pipe q.after.backend events raws unread ready
  token _ _ := rfl
  own seen events raws unread ready raw hseen hreturns hmem hown := by
    rw [kqueueReturns, Bool.and_eq_true, List.all_eq_true] at hreturns
    have hraw := hreturns.2 raw hmem
    have hident : (raw.ident != q.pipe.handle) = false := by
      rw [bne_eq_false_iff_eq]
      exact hown
    rw [hident, Bool.false_or] at hraw
    cases hfilter : raw.filter with
    | none =>
      rw [hfilter] at hraw
      cases hraw
    | some filter =>
      rw [hfilter] at hraw
      simp only [Bool.and_eq_true, bne_iff_ne] at hraw
      obtain ⟨⟨hsome, hunread⟩, hready⟩ := hraw
      have hread := (q.filter filter).mp hsome
      subst hread
      refine ⟨?_, hunread, fun _ => hready, fun table htable => ?_⟩
      · simp [kqueueWaiting, hfilter]
      · obtain ⟨r, hr, htoken, hdrain, -⟩ := htable.entry
        rw [← hown] at hr
        exact ⟨r, hr, (htable.keyed _ r hr).trans hown, htoken, hdrain⟩
  other table raw r hkeyed hr hne := by
    rw [hkeyed _ r hr]
    exact hne

/-- The loop pushes what `select_kqueue` pushes. -/
theorem kqueue_pushed (q : KqueueWaker build) (table : Table) (raws : List Kevent) :
    q.waiter.pushed table raws = obtained kqueueWaiting table raws := rfl

/-- With kqueue no wake-up is lost: a completed wake that no poll has answered is
obtained by the poll in progress, or the pipe has a byte and is marked; and then the
next wait may return it, and the poll that it does so for answers every wake. -/
theorem kqueue_no_wake_up_lost (q : KqueueWaker build) (growth : Growth) {s : State Kevent}
    (h : Reachable (step q.waiter growth) (start q.after.registrations) s) :
    (∀ id, s.wakes id = some ⟨.returned, false⟩ → Obtained s.phase ∨ q.waiter.Reportable s) ∧
    (∀ seen events, s.phase = .waiting seen events → 0 < maxEvents events.capacity →
      q.waiter.Reportable s → ∃ raws t u, step q.waiter growth (.waits raws false) s = some t ∧
        Reachable (step q.waiter growth) t u ∧ u.phase = .idle ∧
        ∀ id wake, s.wakes id = some wake → ∃ wake', u.wakes id = some wake' ∧ wake'.answered = true) := by
  have hrooted : Rooted q.pipe q.after.registrations := rooted_of_added (by simp [Kqueue.backend]) q.keyed q.added
  have hinvariant := reachable_invariant hrooted h
  constructor
  · intro id hwake
    exact hinvariant.unanswered id _ hwake ⟨.inr rfl, rfl⟩
  · rintro seen events hphase hroom ⟨hunread, hready⟩
    have hsome := (q.filter .read).mpr rfl
    have hreturns : q.waiter.returns seen events [⟨q.pipe.handle, some .read, 0⟩] s.unread s.ready = true := by
      have hlength : (1 : Nat) ≤ (maxEvents events.capacity).toNat := by omega
      simp [KqueueWaker.waiter, kqueueReturns, hsome, hunread, hready rfl, hlength]
    obtain ⟨t, u, hrun⟩ := waits_answers hinvariant hphase hreturns
      (by simp [Waiter.mentions, KqueueWaker.waiter, kqueueWaiting])
    exact ⟨_, t, u, hrun⟩

/-- A waker on descriptor 5 whose pipe holds one byte. -/
def exampleKqueueWaker : KqueueWaker ⟨false, false⟩ where
  pipe := ⟨5, ⟨1⟩, 1, Nat.one_pos⟩
  before := Kqueue.initial
  keyed := nofun
  new _ := rfl
  refusals _ := none
  after := (addWaker (Kqueue.backend ⟨false, false⟩) (fun _ => none) 5 ⟨1⟩ Kqueue.initial).2
  added := rfl

/-- The second wake finds the pipe full after the mark of the first one is gone. -/
theorem kqueue_no_wake_up_lost_when_full :
    ∃ s, Reachable (step exampleKqueueWaker.waiter ⟨Nat.succ, Nat.lt_succ_self⟩)
        (start exampleKqueueWaker.after.registrations) s ∧
      s.ready = false ∧ s.wakes 1 = some ⟨.returned, false⟩ ∧
      (Obtained s.phase ∨ exampleKqueueWaker.waiter.Reportable s) := by
  have h : Reachable (step exampleKqueueWaker.waiter ⟨Nat.succ, Nat.lt_succ_self⟩)
      (start exampleKqueueWaker.after.registrations) _ :=
    reachable_of_run [.wakeBegins 0, .writes 0 none, .wakeReturns 0, .pollBegins ⟨1, [], by decide⟩,
      .waits [⟨5, some .read, 0⟩] false, .wakeBegins 1, .writes 1 none, .wakeReturns 1] rfl
  exact ⟨_, h, rfl, rfl, (kqueue_no_wake_up_lost exampleKqueueWaker _ h).1 1 rfl⟩

/-! The `poll` fallback. -/

/-- The fallback has no kernel object: its backend does nothing. -/
def pollBackend : Backend Unit Unit where
  platform := .other
  addToBackend _ _ _ _ _ _ := (.ok none, ())
  updateBackend _ _ _ _ _ _ _ := (.ok (), ())
  removeFromBackend _ _ _ := ()

/-- A pipe that `add_waker` has registered with the fallback. -/
structure PollWaker where
  pipe : Pipe
  before : Selector Unit
  keyed : Keyed before.registrations
  after : Selector Unit
  added : addWaker pollBackend () pipe.handle pipe.token before = (.ok (), after)

/-- What `poll(2)` may return for the copied entries: flags that were asked for, at
most once for each descriptor, and `POLLIN` for the pipe exactly if it has a byte. -/
def pollReturns (w : Pipe) (seen : Table) (raws : List (Registration × BitVec 16)) (unread : Nat) : Bool :=
  (raws.all fun raw => decide (seen raw.1.handle = some raw.1) && decide (raw.2 ≠ 0#16) &&
    decide (revents (fun _ => raw.2) (pollFd raw.1) = raw.2)) &&
  decide (raws.map fun raw => raw.1.handle).Nodup &&
  (raws.all fun raw => raw.1.handle != w.handle || raw.2 == pollIn && unread != 0) &&
  (unread == 0 || raws.any fun raw => raw.1.handle == w.handle)

def PollWaker.waiter (q : PollWaker) : Waiter q.pipe (Registration × BitVec 16) where
  edge := false
  handle raw := raw.1.handle
  lookup _ raw := some raw.1
  toEvent r raw := pollEvent r raw.2
  drains raw := decide (raw.2 &&& pollIn ≠ 0#16)
  returns seen _ raws unread _ := pollReturns q.pipe seen raws unread
  token _ _ := rfl
  own seen events raws unread ready raw hseen hreturns hmem hown := by
    simp only [pollReturns, Bool.and_eq_true, List.all_eq_true] at hreturns
    obtain ⟨⟨⟨hasked, -⟩, hpipe⟩, -⟩ := hreturns
    have hentry : seen raw.1.handle = some raw.1 := of_decide_eq_true (hasked raw hmem).1.1
    have hflags := hpipe raw hmem
    rw [bne_eq_false_iff_eq.mpr hown, Bool.false_or, Bool.and_eq_true, beq_iff_eq, bne_iff_ne] at hflags
    obtain ⟨r, hr, htoken, hdrain, -⟩ := hseen.entry
    rw [hown, hr] at hentry
    cases hentry
    refine ⟨?_, hflags.2, nofun, fun table _ => ⟨raw.1, rfl, hown, htoken, hdrain⟩⟩
    rw [hflags.1]
    decide
  other table raw r hkeyed hr hne := by
    cases hr
    exact hne

/-- What `poll(2)` returns where these conditions hold. -/
def pollRaws (conditions : NativeHandle → BitVec 16) (registrations : List Registration) :
    List (Registration × BitVec 16) :=
  (readyFor conditions registrations).map fun r => (r, revents conditions (pollFd r))

theorem revents_self (conditions : NativeHandle → BitVec 16) (fd : PollFd) :
    revents (fun _ => revents conditions fd) fd = revents conditions fd := by
  simp only [revents, BitVec.and_assoc, BitVec.and_self]

/-- The pipe is ready exactly if it has a byte. -/
theorem revents_pipe {r : Registration} (hreadable : r.interests = Interest.READABLE)
    {conditions : NativeHandle → BitVec 16} {unread : Nat}
    (hconditions : conditions r.handle = if unread = 0 then 0#16 else pollIn) :
    revents conditions (pollFd r) = if unread = 0 then 0#16 else pollIn := by
  simp only [revents, pollFd, hreadable, hconditions]
  split <;> decide

/-- Every wait of `select_poll` is one of these, and the loop pushes what it pushes. -/
theorem poll_returns_pushed (q : PollWaker) {seen : Table} (hseen : Rooted q.pipe seen)
    (snapshot : Snapshot seen) (conditions : NativeHandle → BitVec 16) {unread : Nat}
    (hconditions : conditions q.pipe.handle = if unread = 0 then 0#16 else pollIn)
    (events : Events) (ready : Bool) (table : Table) :
    q.waiter.returns seen events (pollRaws conditions snapshot.list) unread ready = true ∧
    q.waiter.pushed table (pollRaws conditions snapshot.list) = pollObtained conditions snapshot.list := by
  obtain ⟨w, hw, -, -, hreadable⟩ := hseen.entry
  have hhandle : w.handle = q.pipe.handle := hseen.keyed _ w hw
  have hpipe := revents_pipe hreadable (hhandle.symm ▸ hconditions)
  constructor
  · change pollReturns q.pipe seen (pollRaws conditions snapshot.list) unread = true
    simp only [pollReturns, Bool.and_eq_true, List.all_eq_true, pollRaws, List.mem_map, readyFor,
      List.mem_filter, List.map_map]
    refine ⟨⟨⟨?_, ?_⟩, ?_⟩, ?_⟩
    · rintro _ ⟨r, ⟨hr, hready⟩, rfl⟩
      simp only [decide_eq_true_eq]
      exact ⟨⟨(snapshot.lists r).mp hr, of_decide_eq_true hready⟩, revents_self conditions _⟩
    · rw [decide_eq_true_eq]
      exact snapshot.distinct.sublist (List.filter_sublist.map _)
    · rintro _ ⟨r, ⟨hr, hready⟩, rfl⟩
      rw [Bool.or_eq_true, bne_iff_ne, Bool.and_eq_true, beq_iff_eq, bne_iff_ne]
      refine or_iff_not_imp_left.mpr fun hown => ?_
      have hsame : r = w := by
        have hentry := (snapshot.lists r).mp hr
        rw [not_not.mp hown, hw] at hentry
        exact (Option.some.inj hentry).symm
      subst hsame
      have hnonzero := of_decide_eq_true hready
      rw [hpipe] at hnonzero ⊢
      by_cases hempty : unread = 0
      · exact absurd (if_pos hempty) hnonzero
      · exact ⟨if_neg hempty, hempty⟩
    · rw [Bool.or_eq_true, beq_iff_eq]
      refine or_iff_not_imp_left.mpr fun hfull => ?_
      rw [List.any_eq_true]
      refine ⟨_, List.mem_map_of_mem (List.mem_filter.mpr ⟨(snapshot.lists w).mpr (hhandle ▸ hw), ?_⟩), ?_⟩
      · rw [hpipe, if_neg hfull]
        decide
      · exact beq_iff_eq.mpr hhandle
  · simp only [Waiter.pushed, PollWaker.waiter, pollRaws, pollObtained, List.filterMap_map,
      Function.comp_def, Option.map_some]
    exact congrFun List.filterMap_eq_map _

/-- With the `poll` fallback no wake-up is lost: a completed wake that no poll has
answered is obtained by the poll in progress or has left a byte in the pipe, and then
every wait that succeeds returns the pipe and its poll answers every wake. -/
theorem poll_no_wake_up_lost (q : PollWaker) (growth : Growth) {s : State (Registration × BitVec 16)}
    (h : Reachable (step q.waiter growth) (start q.after.registrations) s) :
    (∀ id, s.wakes id = some ⟨.returned, false⟩ → Obtained s.phase ∨ s.unread ≠ 0) ∧
    (∀ raws dropped t, s.unread ≠ 0 → step q.waiter growth (.waits raws dropped) s = some t →
      Obtained t.phase) ∧
    (∀ seen events, s.phase = .waiting seen events → s.unread ≠ 0 →
      ∀ (snapshot : Snapshot seen) (conditions : NativeHandle → BitVec 16),
        conditions q.pipe.handle = pollIn →
        ∃ t u, step q.waiter growth (.waits (pollRaws conditions snapshot.list) false) s = some t ∧
          Reachable (step q.waiter growth) t u ∧ u.phase = .idle ∧
          ∀ id wake, s.wakes id = some wake → ∃ wake', u.wakes id = some wake' ∧ wake'.answered = true) := by
  have hrooted : Rooted q.pipe q.after.registrations :=
    rooted_of_added (by simp [pollBackend]) q.keyed q.added
  have hinvariant := reachable_invariant hrooted h
  -- a wait that succeeds returns a pipe with a byte
  have hreported : ∀ {seen raws}, s.unread ≠ 0 → pollReturns q.pipe seen raws s.unread = true →
      q.waiter.mentions raws = true := by
    intro seen raws hunread hreturns
    have hmentions := (Bool.and_eq_true_iff.mp hreturns).2
    rw [Bool.or_eq_true, beq_iff_eq] at hmentions
    exact hmentions.resolve_left hunread
  refine ⟨fun id hwake => ?_, fun raws dropped t hunread hstep => ?_,
    fun seen events hphase hunread snapshot conditions hconditions => ?_⟩
  · exact (hinvariant.unanswered id _ hwake ⟨.inr rfl, rfl⟩).imp_right And.left
  · simp only [step] at hstep
    split at hstep
    · split at hstep
      · rename_i hreturns
        cases hstep
        exact hreported hunread hreturns
      · cases hstep
    · cases hstep
  · have hseen : Rooted q.pipe seen := by
      have horderly := hinvariant.orderly
      rwa [hphase] at horderly
    have hreturns := (poll_returns_pushed q hseen snapshot conditions
      (hconditions.trans (if_neg hunread).symm) events s.ready s.table).1
    exact waits_answers hinvariant hphase hreturns (hreported hunread hreturns)

/-- A waker on descriptor 5 beside nothing else. -/
def examplePollWaker : PollWaker where
  pipe := ⟨5, ⟨1⟩, 1, Nat.one_pos⟩
  before := ⟨fun _ => none, -1, false, ()⟩
  keyed := nofun
  after := (addWaker pollBackend () 5 ⟨1⟩ ⟨fun _ => none, -1, false, ()⟩).2
  added := rfl

/-- The second wake falls between the read that takes the byte and the end of the
drain, which takes its byte as well. -/
theorem poll_no_wake_up_lost_while_draining :
    ∃ s, Reachable (step examplePollWaker.waiter ⟨Nat.succ, Nat.lt_succ_self⟩)
        (start examplePollWaker.after.registrations) s ∧
      s.unread = 0 ∧ s.wakes 1 = some ⟨.returned, false⟩ ∧ (Obtained s.phase ∨ s.unread ≠ 0) := by
  have h : Reachable (step examplePollWaker.waiter ⟨Nat.succ, Nat.lt_succ_self⟩)
      (start examplePollWaker.after.registrations) _ :=
    reachable_of_run [.wakeBegins 0, .writes 0 none, .wakeReturns 0, .pollBegins ⟨1, [], by decide⟩,
      .waits [(⟨5, .rawDescriptor, ⟨1⟩, Interest.READABLE, true, none⟩, pollIn)] false, .pushes,
      .reads true, .wakeBegins 1, .writes 1 none, .wakeReturns 1, .reads true] rfl
  exact ⟨_, h, rfl, rfl, (poll_no_wake_up_lost examplePollWaker _ h).1 1 rfl⟩

end PipeWaker
