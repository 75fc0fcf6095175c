import Ioxx.AfdSelector
import Ioxx.EdgeTriggered

/-!
# What is ready is reported on Windows

An event clears the armed bits that it reports, and `set_afd_interest` sets them all again, as
an I/O call that would block makes it do. A direction that was asked for and has not been
reported since is still armed. While it is ready, the kernel and the threads inside the
selector, left to themselves, are never stuck and report it after boundedly many steps.
-/

namespace AfdProgress

open Core Masks Runs Afd
open EdgeTriggered (Direction)

/-- The events by which AFD shows a direction. -/
def flags : Direction → ULONG
  | .readable => afdReadableFlags
  | .writable => afdWritableFlags
  | .priority => afdPollReceiveExpedited

/-- The directions that the event of a step reports. -/
def reports (a : Action) (s : System) (d : Direction) : Bool :=
  match a with
  | .complete _ => (completeAfdOperation s.state).1.event.any fun event => d.holds event.readiness
  | _ => false

/-- A poll that is answered at once does not report a local close. -/
def StaysOpen (r : NtReply) : Prop :=
  r.pollStatus = statusSuccess → r.pollEvents &&& afdPollLocalClose = 0#32

/-- The steps of a run in which no native call fails and the socket stays open. -/
def opened : Action → System → Prop
  | .issue r, _ => r.succeeds ∧ StaysOpen r
  | .reissue r, _ => r.succeeds ∧ StaysOpen r
  | .remove r, _ => r.succeeds
  | .kernel _ _ _ events, _ => events &&& afdPollLocalClose = 0#32
  | _, _ => True

/-- Some event since the latest arm has reported the direction. -/
def Told (d : Direction) (log : List Entry) : Prop :=
  ∃ e ∈ sinceArmed log, d.holds (afdFlagsToInterest e.2) = true

instance (d : Direction) (log : List Entry) : Decidable (Told d log) :=
  inferInstanceAs (Decidable (∃ e ∈ _, _))

/-! The kernel and the threads left to themselves. -/

/-- What is ready on the socket shows the direction, and not that it was closed. -/
def Shows (d : Direction) (ready : ULONG) : Prop :=
  ready &&& flags d ≠ 0#32 ∧ ready &&& afdPollLocalClose = 0#32

instance (d : Direction) (ready : ULONG) : Decidable (Shows d ready) :=
  inferInstanceAs (Decidable (_ ∧ _))

/-- A poll ends with what is ready of its mask, once there is any. -/
def Ends (ready mask handles events : ULONG) : Prop :=
  ¬ handles < 1 ∧ events = mask &&& ready ∧ events ≠ 0#32

instance (ready mask handles events : ULONG) : Decidable (Ends ready mask handles events) :=
  inferInstanceAs (Decidable (_ ∧ _))

def Answers (ready mask : ULONG) (r : NtReply) : Prop :=
  r.succeeds ∧ (r.pollStatus = statusSuccess → Ends ready mask r.pollHandles r.pollEvents)

instance (ready mask : ULONG) (r : NtReply) : Decidable (Answers ready mask r) :=
  inferInstanceAs (Decidable (_ ∧ _))

/-- The steps that need no call of the program. A cancelled poll may end at any time. -/
def Honest (ready : ULONG) : Action → System → Prop
  | .issue r, s => Answers ready (requested s.state) r
  | .reissue r, s => Answers ready (requested s.state) r
  | .kernel op status handles events, s =>
    status = statusSuccess ∧ Ends ready op.mask handles events ∨
    status = statusCancelled ∧ s.state.status = .cancelled ∧ events &&& afdPollLocalClose = 0#32
  | .dequeue _, _ => True
  | .complete _, _ => True
  | .arm .., _ => False
  | .remove _, _ => False

instance (ready : ULONG) (a : Action) (s : System) : Decidable (Honest ready a s) :=
  match a with
  | .issue _ => inferInstanceAs (Decidable (Answers _ _ _))
  | .reissue _ => inferInstanceAs (Decidable (Answers _ _ _))
  | .kernel .. => inferInstanceAs (Decidable (_ ∧ _ ∨ _ ∧ _ ∧ _))
  | .dequeue _ => inferInstanceAs (Decidable True)
  | .complete _ => inferInstanceAs (Decidable True)
  | .arm .. => inferInstanceAs (Decidable False)
  | .remove _ => inferInstanceAs (Decidable False)

/-- A step, and what is ready on the socket when it fires. -/
structure Move where
  ready : ULONG
  action : Action

/-- A step without the program, while the direction is ready. -/
def move (d : Direction) (m : Move) (s : System) : Option System :=
  if Shows d m.ready ∧ Honest m.ready m.action s then step m.action s else none

/-- A move that does not report the direction. -/
def quiet (d : Direction) (m : Move) (s : System) : Option System :=
  if reports m.action s d then none else move d m s

/-! What is armed. -/

variable {d : Direction} {s t : System}

/-- A direction that was asked for is armed by all its flags. -/
theorem flags_armed {interests : Interest} (h : d.holds interests = true) :
    Sub (flags d) (interestsToAfdFlags interests) := by
  cases d with
  | readable =>
    have hreadable : interests.isReadable = true := h
    simp only [interestsToAfdFlags, hreadable, if_true, BitVec.or_assoc]
    exact sub_or_left _ _
  | writable =>
    have hwritable : interests.isWritable = true := h
    have hsub : Sub (flags .writable) (afdWritableFlags ||| afdWriteClosedFlags ||| afdErrorFlags) := by
      decide
    refine hsub.trans ?_
    simp only [interestsToAfdFlags, hwritable, if_true]
    refine Sub.trans ?_ (sub_or_left _ _)
    refine Sub.trans ?_ (sub_or_left _ _)
    exact Sub.trans (sub_or_right _ _) (sub_or_left _ _)
  | priority =>
    have hpriority : interests.isPriority = true := h
    simp only [interestsToAfdFlags, hpriority, if_true]
    exact (sub_or_right _ _).trans ((sub_or_left _ _).trans (sub_or_left _ _))

/-- An event that meets the flags of a direction reports it. -/
theorem holds_of_meets {mask : ULONG} (h : mask &&& flags d ≠ 0#32) :
    d.holds (afdFlagsToInterest mask) = true := by
  unfold afdFlagsToInterest
  cases d with
  | readable =>
    have hread : mask &&& afdReadableFlags ≠ 0#32 := h
    rw [if_pos hread]
    split <;> split <;> decide
  | writable =>
    have hwrite : mask &&& afdWritableFlags ≠ 0#32 := h
    rw [if_pos hwrite]
    split <;> split <;> decide
  | priority =>
    have hexpedited : mask &&& afdPollReceiveExpedited ≠ 0#32 := h
    rw [if_pos hexpedited]
    split <;> split <;> decide

theorem flags_known (d : Direction) : Sub (flags d) afdKnownEvents := by
  cases d <;> decide

theorem flags_ne_zero (d : Direction) : flags d ≠ 0#32 := by
  cases d <;> decide

/-- A direction that the interests name is armed, unless it was reported since the latest arm. -/
def Kept (d : Direction) (s : System) : Prop :=
  d.holds s.state.interests = true → Told d s.log ∨ Sub (flags d) s.state.userEvents

/-- An emission of a direction's flags tells it; any other one leaves the flags armed. -/
theorem kept_emitted (mask : ULONG) {user : ULONG} (h : Sub (flags d) user) :
    d.holds (afdFlagsToInterest mask) = true ∨ Sub (flags d) (user &&& ~~~mask) := by
  by_cases hmeets : mask &&& flags d = 0#32
  · exact .inr (h.clear hmeets)
  · exact .inl (holds_of_meets hmeets)

/-- The section of `issue_afd_poll` leaves what the calls of the program set. -/
theorem issueStep_visible (r : NtReply) (s : System) :
    (issueStep r s).state.interests = s.state.interests ∧
      (issueStep r s).state.userEvents = s.state.userEvents ∧
      (issueStep r s).state.deletePending = s.state.deletePending := by
  have hvisible := issueAfdPoll_visible r s.state
  simp only [visible, Prod.mk.injEq] at hvisible
  rw [issueStep_state]
  exact hvisible.2

theorem issueStep_kept (r : NtReply) (h : Kept d s) : Kept d (issueStep r s) := by
  obtain ⟨hinterests, huser, -⟩ := issueStep_visible r s
  have htold : Told d s.log → Told d (issueStep r s).log := by
    rw [issueStep_log]
    cases (issueAfdPoll r s.state).1.called with
    | none => exact id
    | some mask => exact id
  intro hasked
  rw [hinterests] at hasked
  rw [huser]
  exact (h hasked).imp_left htold

theorem completeStep_kept (op : AfdOperation) (h : Kept d s) : Kept d (completeStep op s) := by
  unfold completeStep
  rcases completeAfdOperation_cases s.state with ⟨hd, he⟩ | ⟨hd, he⟩ | ⟨hd, mask, _, _, he⟩ | ⟨hd, he⟩
  · simpa [Kept, he, taken, hd] using h
  · simpa [Kept, he, taken, hd, Told, sinceArmed] using h
  · intro hasked
    simp only [he, taken] at hasked ⊢
    simp only [hd, Bool.false_eq_true, false_and, if_false, Option.map_some, Option.toList_some,
      List.singleton_append]
    rcases h hasked with ⟨e, he, holds⟩ | harmed
    · exact .inl ⟨e, List.mem_cons_of_mem _ he, holds⟩
    · exact (kept_emitted mask harmed).imp_left fun holds => ⟨_, List.mem_cons_self, holds⟩
  · simpa [Kept, he, taken, hd] using h

theorem step_kept (a : Action) (h : Kept d s) (hstep : step a s = some t) : Kept d t := by
  cases step_fires hstep with
  | arm token interests => exact fun hasked => .inr (flags_armed hasked)
  | issue r _ => exact issueStep_kept r h
  | reissue r _ => exact issueStep_kept r h
  | remove r =>
    have hvisible := removeFromBackend_visible r s.state
    simp only [visible, Prod.mk.injEq] at hvisible
    obtain ⟨-, hinterests, huser, -⟩ := hvisible
    intro hasked
    rw [hinterests] at hasked
    rw [huser]
    exact h hasked
  | kernel op status handles events _ => exact h
  | dequeue op _ => exact h
  | complete op _ => exact completeStep_kept op h

/-! The socket stays open. -/

/-- While the kernel holds no poll, no local close is written; before, the mask that asks for it is. -/
def Open (s : System) : Prop := s.held = [] → s.state.pollInfo.events &&& afdPollLocalClose = 0#32

/-- `issue_afd_poll` of an idle state starts a poll for all that is wanted. -/
theorem issueAfdPoll_idle {r : NtReply} {st : AfdSocketState} (hsucceeds : r.succeeds)
    (hidle : st.status = .idle) (hlive : st.deletePending = false) (hwanted : st.userEvents ≠ 0#32) :
    (r.pollStatus = statusSuccess ∧ issueAfdPoll r st = (.polled (requested st) true, { st with
      iosbStatus := statusSuccess
      pollInfo := { (prepared st).pollInfo with numberOfHandles := r.pollHandles, events := r.pollEvents }
      status := .pending, pendingEvents := st.userEvents })) ∨
    issueAfdPoll r st = (.polled (requested st) false, { st with
      iosbStatus := statusPending, pollInfo := (prepared st).pollInfo
      status := .pending, pendingEvents := st.userEvents }) := by
  have hgo : ¬ (st.deletePending ∨ st.userEvents = 0#32) := by simp [hlive, hwanted]
  rcases hsucceeds.1 with hsuccess | hpending
  · left
    refine ⟨hsuccess, ?_⟩
    rw [issueAfdPoll, if_neg hgo, hidle]
    simp only [poll, hsuccess, if_true, kernelWrites, prepared]
  · right
    have hnot : statusPending ≠ statusSuccess := by decide
    rw [issueAfdPoll, if_neg hgo, hidle]
    simp only [poll, hpending, if_neg hnot, if_true, prepared]

theorem issueStep_open {r : NtReply} (hsucceeds : r.succeeds) (hstays : StaysOpen r) (h : Open s) :
    Open (issueStep r s) := by
  have hreturned : issueAfdPoll r s.state = (.returned, s.state) → Open (issueStep r s) := by
    intro he
    simpa only [Open, issueStep, he] using h
  rcases issueAfdPoll_cases r s.state with ⟨_, he⟩ | ⟨_, he⟩ | ⟨e, _, hcancel, _⟩ | ⟨hidle, hlive, _⟩
  · exact hreturned he
  · simpa only [Open, issueStep, he] using h
  · rw [cancel_ok hsucceeds] at hcancel
    cases hcancel
  · by_cases hwanted : s.state.userEvents = 0#32
    · exact hreturned (if_pos (.inr hwanted))
    · rcases issueAfdPoll_idle hsucceeds hidle hlive hwanted with ⟨hsuccess, he⟩ | he
      · intro _
        rw [issueStep_state, he]
        exact hstays hsuccess
      · intro hheld
        simp only [issueStep, he] at hheld
        cases hheld

theorem step_open (a : Action) (h : Open s) (hok : opened a s) (hstep : step a s = some t) : Open t := by
  cases step_fires hstep with
  | arm token interests => exact h
  | issue r _ => exact issueStep_open hok.1 hok.2 h
  | reissue r _ => exact issueStep_open hok.1 hok.2 h
  | remove r =>
    have hsame : (removeFromBackend r s.state).pollInfo = s.state.pollInfo :=
      congrArg Prod.snd (removeFromBackend_buffers r s.state)
    rw [Open, hsame]
    exact h
  | kernel op status handles events _ => exact fun _ => hok
  | dequeue op _ => exact h
  | complete op _ =>
    have hsame : (completeStep op s).state.pollInfo = s.state.pollInfo :=
      congrArg Prod.snd (completeAfdOperation_buffers s.state)
    rw [Open, hsame]
    exact h

theorem succeeds_of_opened {a : Action} (h : opened a s) : ntSucceeds a s := by
  cases a with
  | issue r => exact h.1
  | reissue r => exact h.1
  | remove r => exact h
  | _ => exact trivial

/-! A direction that is armed, while the program does nothing. -/

/-- The socket is open, and whatever is to be done for an armed direction is in somebody's hands. -/
structure Waiting (d : Direction) (s : System) : Prop where
  sound : Sound s
  live : s.state.deletePending = false
  attended : Attended s
  socket : Open s
  armed : Sub (flags d) s.state.userEvents

theorem wanted_of_armed {user : ULONG} (harmed : Sub (flags d) user) : user ≠ 0#32 := by
  rintro rfl
  exact flags_ne_zero d harmed.eq_zero

theorem ends_open {ready mask handles events : ULONG} (hshows : Shows d ready)
    (h : Ends ready mask handles events) : events &&& afdPollLocalClose = 0#32 := by
  rw [h.2.1, BitVec.and_assoc, hshows.2, BitVec.and_zero]

theorem Honest.opened {ready : ULONG} {a : Action} (hshows : Shows d ready) (h : Honest ready a s) :
    opened a s := by
  cases a with
  | arm token interests => exact h.elim
  | issue r => exact ⟨h.1, fun hsuccess => ends_open hshows (h.2 hsuccess)⟩
  | reissue r => exact ⟨h.1, fun hsuccess => ends_open hshows (h.2 hsuccess)⟩
  | remove r => exact h.elim
  | kernel op status handles events =>
    rcases h with ⟨-, hends⟩ | ⟨-, -, hopen⟩
    · exact ends_open hshows hends
    · exact hopen
  | dequeue op => exact trivial
  | complete op => exact trivial

theorem decideEvents_deletePending (reissue : Bool) (reported : ULONG) (st : AfdSocketState) :
    (decideEvents reissue reported st).2.deletePending = st.deletePending := by
  unfold decideEvents
  dsimp only
  split <;> rfl

/-- Only a local close deletes the state, and there is none. -/
theorem completeAfdOperation_live {st : AfdSocketState} (hlive : st.deletePending = false)
    (hopen : st.pollInfo.events &&& afdPollLocalClose = 0#32) :
    (completeAfdOperation st).2.deletePending = false := by
  have hreported : reportedEvents (taken st) ≠ none := by
    unfold reportedEvents
    split
    · exact Option.some_ne_none _
    · split
      · exact Option.some_ne_none _
      · split
        · exact Option.some_ne_none _
        · rw [if_neg (by exact not_not.mpr hopen)]
          exact Option.some_ne_none _
  unfold completeAfdOperation
  rw [if_neg (by simp [hlive])]
  cases he : reportedEvents (taken st) with
  | none => exact absurd he hreported
  | some report =>
    exact (decideEvents_deletePending report.1 report.2 _).trans hlive

/-- A section that does not report the direction leaves it armed. -/
theorem armed_complete {st : AfdSocketState} (harmed : Sub (flags d) st.userEvents)
    (hquiet : ((completeAfdOperation st).1.event.any fun event => d.holds event.readiness) = false) :
    Sub (flags d) (completeAfdOperation st).2.userEvents := by
  rcases completeAfdOperation_cases st with ⟨_, he⟩ | ⟨_, he⟩ | ⟨_, mask, _, _, he⟩ | ⟨_, he⟩
  · rw [he]
    exact harmed
  · rw [he]
    exact harmed
  · rw [he] at hquiet ⊢
    rcases kept_emitted mask harmed with holds | hleft
    · have hnot : d.holds (afdFlagsToInterest mask) = false := hquiet
      rw [hnot] at holds
      cases holds
    · exact hleft
  · rw [he]
    exact harmed

/-- At most one operation is in flight. -/
theorem in_flight_le_one (h : Sound s) : s.held.length + s.queued.length + s.dequeued.length ≤ 1 := by
  have hflight := h.flight
  have hone := operations_le_one s.state.status
  simp only [System.inFlight, List.length_append] at hflight
  omega

/-- Once an operation is dequeued, the kernel holds none. -/
theorem held_of_dequeued (h : Sound s) {op : AfdOperation} (hop : op ∈ s.dequeued) : s.held = [] := by
  have hone := in_flight_le_one h
  have hpos := List.length_pos_of_mem hop
  exact List.length_eq_zero_iff.mp (by omega)

/-- A direction stays armed until it is reported. -/
theorem Waiting.step (h : Waiting d s) {ready : ULONG} {a : Action} (hshows : Shows d ready)
    (hhonest : Honest ready a s) (hquiet : reports a s d = false) (hstep : Afd.step a s = some t) :
    Waiting d t := by
  have hopened := hhonest.opened hshows
  have hsound := step_sound a h.sound hstep
  have hattended := step_attended a h.attended (succeeds_of_opened hopened) hstep
  have hopen := step_open a h.socket hopened hstep
  cases step_fires hstep with
  | arm token interests => exact hhonest.elim
  | issue r _ | reissue r _ =>
    obtain ⟨-, huser, hdelete⟩ := issueStep_visible r _
    refine ⟨hsound, hdelete.trans h.live, hattended, hopen, ?_⟩
    rw [huser]
    exact h.armed
  | remove r => exact hhonest.elim
  | kernel op status handles events _ => exact ⟨hsound, h.live, hattended, hopen, h.armed⟩
  | dequeue op _ => exact ⟨hsound, h.live, hattended, hopen, h.armed⟩
  | complete op hop =>
    have hsocket := h.socket (held_of_dequeued h.sound hop)
    exact ⟨hsound, completeAfdOperation_live h.live hsocket, hattended, hopen,
      armed_complete h.armed hquiet⟩

/-! How much is left to do. -/

/-- The finished poll shows the direction. -/
def Tells (d : Direction) (st : AfdSocketState) : Prop :=
  st.iosbStatus = statusSuccess ∧ ¬ st.pollInfo.numberOfHandles < 1 ∧ st.pollInfo.events &&& flags d ≠ 0#32

instance (d : Direction) (st : AfdSocketState) : Decidable (Tells d st) :=
  inferInstanceAs (Decidable (_ ∧ _ ∧ _))

/-- The operation in flight, if there is one, is going to report the direction. -/
def Fresh (d : Direction) (s : System) : Prop :=
  s.state.status = .idle ∨
    s.state.status = .pending ∧ Covered s.state ∧ (s.held = [] → Tells d s.state)

instance (d : Direction) (s : System) : Decidable (Fresh d s) := inferInstanceAs (Decidable (_ ∨ _))

/-- An operation that is not fresh costs one more reissue. -/
def weight (d : Direction) (s : System) : Nat :=
  4 * (s.arming + s.reissuing + if Fresh d s then 0 else 1) +
    (3 * s.held.length + 2 * s.queued.length + s.dequeued.length)

theorem weight_of_fresh (h : Fresh d s) : weight d s =
    4 * (s.arming + s.reissuing) + (3 * s.held.length + 2 * s.queued.length + s.dequeued.length) := by
  rw [weight, if_pos h, Nat.add_zero]

theorem weight_of_stale (h : ¬ Fresh d s) : weight d s =
    4 * (s.arming + s.reissuing + 1) + (3 * s.held.length + 2 * s.queued.length + s.dequeued.length) := by
  rw [weight, if_neg h]

/-- One thread fewer between two sections. -/
theorem weight_of_threads {s u : System} (hstate : u.state = s.state) (hheld : u.held = s.held)
    (hqueued : u.queued = s.queued) (hdequeued : u.dequeued = s.dequeued)
    (hthreads : u.arming + u.reissuing + 1 = s.arming + s.reissuing) : weight d u + 4 = weight d s := by
  have hfresh : Fresh d u ↔ Fresh d s := by rw [Fresh, Fresh, hstate, hheld]
  simp only [weight, hfresh, hheld, hqueued, hdequeued]
  omega

theorem not_idle (h : Sound s) (hflight : 0 < s.held.length + s.queued.length + s.dequeued.length) :
    s.state.status ≠ .idle := by
  intro hidle
  have hnil := congrArg List.length (h.flight_nil hidle)
  simp only [System.inFlight, List.length_append, List.length_nil] at hnil
  omega

theorem weight_le (h : Sound s) : weight d s ≤ 4 * (s.arming + s.reissuing + 1) + 3 := by
  have hone := in_flight_le_one h
  unfold weight
  split <;> omega

/-- The section of a finished poll that shows the direction reports it. -/
theorem Waiting.tells (h : Waiting d s) (hheld : s.held = []) (htells : Tells d s.state) :
    ((completeAfdOperation s.state).1.event.any fun event => d.holds event.readiness) = true := by
  obtain ⟨hsuccess, hhandles, hshown⟩ := htells
  have hreported : reportedEvents (taken s.state) = some (false, s.state.pollInfo.events) := by
    have hstatus : (taken s.state).iosbStatus = statusSuccess := hsuccess
    rw [reportedEvents, hstatus, if_neg (by decide), if_neg (by decide),
      if_neg (by exact hhandles), if_neg (by exact not_not.mpr (h.socket hheld))]
    rfl
  have hmeets : s.state.pollInfo.events &&& s.state.userEvents ≠ 0#32 := h.armed.meets hshown
  unfold completeAfdOperation
  rw [if_neg (by simp [h.live]), hreported]
  dsimp only
  rw [decideEvents, if_pos (by exact hmeets)]
  exact holds_of_meets (h.armed.meets_cut hshown)

/-- `issue_afd_poll` leaves a pending poll that covers what is wanted. -/
theorem issueAfdPoll_covered (r : NtReply) {st : AfdSocketState} (hpending : st.status = .pending)
    (hcovered : Covered st) : issueAfdPoll r st = (.returned, st) := by
  unfold issueAfdPoll
  split
  · rfl
  · rw [hpending]
    exact if_pos hcovered

/-- The poll for a wanted direction shows it. -/
theorem ends_shown {ready mask handles events : ULONG} (hshows : Shows d ready)
    (hmask : Sub (flags d) mask) (h : Ends ready mask handles events) : events &&& flags d ≠ 0#32 := by
  rw [h.2.1, BitVec.and_comm mask]
  exact hmask.meets_cut hshows.1

/-- An issue costs less than the thread that makes it. -/
theorem weight_issueStep (hsound : Sound s) (hlive : s.state.deletePending = false)
    (harmed : Sub (flags d) s.state.userEvents) {ready : ULONG} {r : NtReply} (hshows : Shows d ready)
    (hanswers : Answers ready (requested s.state) r) : weight d (issueStep r s) < weight d s + 4 := by
  rcases issueAfdPoll_cases r s.state with ⟨_, he⟩ | ⟨hpending, he⟩ | ⟨e, _, hcancel, _⟩ | ⟨hidle, _⟩
  · have hsame : weight d (issueStep r s) = weight d s := by
      simp only [issueStep, he]
      rfl
    omega
  · have hstale : ¬ Fresh d s := by
      rintro (hidle | ⟨_, hcovered, _⟩)
      · rw [hidle] at hpending
        cases hpending
      · rw [issueAfdPoll_covered r hpending hcovered] at he
        cases he
    have hcancelled : ¬ Fresh d (issueStep r s) := by
      rw [Fresh, issueStep_state, he]
      rintro (hidle | ⟨hstill, _⟩)
      · cases hidle
      · cases hstill
    rw [weight_of_stale hstale, weight_of_stale hcancelled]
    simp only [issueStep, he]
    omega
  · rw [cancel_ok hanswers.1] at hcancel
    cases hcancel
  · have hnone := hsound.flight_nil hidle
    simp only [System.inFlight, List.append_eq_nil_iff] at hnone
    obtain ⟨⟨hheld, hqueued⟩, hdequeued⟩ := hnone
    have hwanted : Sub (flags d) (requested s.state) := harmed.trans (sub_or_left _ _)
    rw [weight_of_fresh (s := s) (.inl hidle)]
    rcases issueAfdPoll_idle hanswers.1 hidle hlive (wanted_of_armed harmed) with ⟨hsuccess, he⟩ | he
    · have hends := hanswers.2 hsuccess
      have hfresh : Fresh d (issueStep r s) := by
        rw [Fresh, issueStep_state, he]
        exact .inr ⟨rfl, and_sub_left _ _, fun _ => ⟨rfl, hends.1, ends_shown hshows hwanted hends⟩⟩
      rw [weight_of_fresh hfresh]
      simp only [issueStep, he, hheld, hqueued, hdequeued, List.length_cons, List.length_nil]
      omega
    · have hfresh : Fresh d (issueStep r s) := by
        have hsomething : (issueStep r s).held ≠ [] := by
          simp only [issueStep, he]
          exact List.cons_ne_nil _ _
        rw [Fresh, issueStep_state, he]
        exact .inr ⟨rfl, and_sub_left _ _, fun hnone => absurd hnone hsomething⟩
      rw [weight_of_fresh hfresh]
      simp only [issueStep, he, hheld, hqueued, hdequeued, List.length_cons, List.length_nil]
      omega

/-- The pending poll asks for a direction that it covers. -/
theorem Waiting.asked (h : Waiting d s) (hpending : s.state.status = .pending)
    (hcovered : Covered s.state) {op : AfdOperation} (hop : op ∈ s.inFlight) : Sub (flags d) op.mask := by
  rw [h.sound.mask hpending op hop]
  exact ((h.armed.and (flags_known d)).trans hcovered).trans (sub_or_left _ _)

theorem weight_lt_of_place {s t : System} (hthreads : t.arming + t.reissuing = s.arming + s.reissuing)
    (hfresh : Fresh d s → Fresh d t)
    (hplace : 3 * t.held.length + 2 * t.queued.length + t.dequeued.length <
      3 * s.held.length + 2 * s.queued.length + s.dequeued.length) : weight d t < weight d s := by
  unfold weight
  rw [hthreads]
  by_cases hs : Fresh d s
  · rw [if_pos hs, if_pos (hfresh hs)]
    omega
  · rw [if_neg hs]
    split <;> omega

/-- Every move that does not report the direction leaves less to do. -/
theorem Waiting.weight_lt (h : Waiting d s) {ready : ULONG} {a : Action} (hshows : Shows d ready)
    (hhonest : Honest ready a s) (hquiet : reports a s d = false) (hstep : Afd.step a s = some t) :
    weight d t < weight d s := by
  have hone := in_flight_le_one h.sound
  cases step_fires hstep with
  | arm token interests => exact hhonest.elim
  | remove r => exact hhonest.elim
  | issue r hthread =>
    have hlt := weight_issueStep (s := { s with arming := s.arming - 1 })
      (h.sound.of_perm .rfl rfl rfl rfl rfl) h.live h.armed hshows hhonest
    have hsame : weight d { s with arming := s.arming - 1 } + 4 = weight d s :=
      weight_of_threads rfl rfl rfl rfl (by dsimp only; omega)
    omega
  | reissue r hthread =>
    have hlt := weight_issueStep (s := { s with reissuing := s.reissuing - 1 })
      (h.sound.of_perm .rfl rfl rfl rfl rfl) h.live h.armed hshows hhonest
    have hsame : weight d { s with reissuing := s.reissuing - 1 } + 4 = weight d s :=
      weight_of_threads rfl rfl rfl rfl (by dsimp only; omega)
    omega
  | kernel op status handles events hop =>
    have hpos := List.length_pos_of_mem hop
    refine weight_lt_of_place rfl ?_ ?_
    · rintro (hidle | ⟨hpending, hcovered, _⟩)
      · exact absurd hidle (not_idle h.sound (by omega))
      · refine .inr ⟨hpending, hcovered, fun _ => ?_⟩
        rcases hhonest with ⟨rfl, hends⟩ | ⟨_, hcancelled, _⟩
        · have hmask := h.asked hpending hcovered (List.mem_append_left _ (List.mem_append_left _ hop))
          exact ⟨rfl, hends.1, ends_shown hshows hmask hends⟩
        · rw [hpending] at hcancelled
          cases hcancelled
    · simp only [List.length_erase_of_mem hop, List.length_cons]
      omega
  | dequeue op hop =>
    have hpos := List.length_pos_of_mem hop
    refine weight_lt_of_place rfl (fun hfresh => hfresh) ?_
    simp only [List.length_erase_of_mem hop, List.length_cons]
    omega
  | complete op hop =>
    have hpos := List.length_pos_of_mem hop
    have hstale : ¬ Fresh d s := by
      rintro (hidle | ⟨_, _, htells⟩)
      · exact not_idle h.sound (by omega) hidle
      · have hheld := held_of_dequeued h.sound hop
        have hreported := h.tells hheld (htells hheld)
        rw [show reports (.complete op) s d = true from hreported] at hquiet
        cases hquiet
    have hidle : Fresh d (completeStep op s) := .inl (completeAfdOperation_idle s.state)
    rw [weight_of_fresh hidle, weight_of_stale hstale]
    simp only [completeStep, List.length_erase_of_mem hop]
    split <;> omega

/-! The whole run. -/

theorem quiet_eq_some {m : Move} (h : quiet d m s = some t) :
    reports m.action s d = false ∧ Shows d m.ready ∧ Honest m.ready m.action s ∧
      Afd.step m.action s = some t := by
  obtain ⟨hquiet, hmove⟩ := Option.ite_none_left_eq_some.mp h
  obtain ⟨⟨hshows, hhonest⟩, hstep⟩ := Option.ite_none_right_eq_some.mp hmove
  exact ⟨Bool.eq_false_iff.mpr hquiet, hshows, hhonest, hstep⟩

theorem ends_of_asked {ready mask : ULONG} (hshows : Shows d ready) (hasked : Sub (flags d) mask) :
    Ends ready mask 1 (mask &&& ready) := by
  refine ⟨by decide, rfl, ?_⟩
  rw [BitVec.and_comm]
  exact hasked.meets hshows.1

/-- Somebody can go on: a thread between two sections, the kernel, or a polling thread. -/
theorem Waiting.moves (h : Waiting d s) {ready : ULONG} (hshows : Shows d ready) :
    ∃ a t, move d ⟨ready, a⟩ s = some t := by
  have hgo : ∀ {a t}, Honest ready a s → Afd.step a s = some t → move d ⟨ready, a⟩ s = some t :=
    fun hhonest hstep => (if_pos ⟨hshows, hhonest⟩).trans hstep
  have hpends : ∀ mask, Answers ready mask pendingReply :=
    fun _ => ⟨pendingReply_succeeds, fun hsuccess => absurd hsuccess (by decide)⟩
  by_cases harming : s.arming = 0
  swap
  · exact ⟨.issue pendingReply, _, hgo (hpends _) (if_neg harming)⟩
  by_cases hreissuing : s.reissuing = 0
  swap
  · exact ⟨.reissue pendingReply, _, hgo (hpends _) (if_neg hreissuing)⟩
  have hsettled : Settled s.state := h.attended.resolve_right (by omega)
  obtain ⟨op, hflight, hop⟩ := armed_of_settled h.sound hsettled ⟨wanted_of_armed h.armed, h.live⟩
  have hmem : op ∈ s.inFlight := by
    rw [hflight]
    exact List.mem_singleton_self op
  have hplace := hmem
  simp only [System.inFlight, List.mem_append] at hplace
  rcases hplace with (hheld | hqueued) | hdequeued
  · rcases hop with ⟨hpending, hcovered, _⟩ | hcancelled
    · have hends := ends_of_asked hshows (h.asked hpending hcovered hmem)
      exact ⟨.kernel op statusSuccess 1 _, _, hgo (.inl ⟨rfl, hends⟩) (if_pos hheld)⟩
    · exact ⟨.kernel op statusCancelled 0 0, _, hgo (.inr ⟨rfl, hcancelled, rfl⟩) (if_pos hheld)⟩
  · exact ⟨.dequeue op, _, hgo trivial (if_pos hqueued)⟩
  · exact ⟨.complete op, _, hgo trivial (if_pos hdequeued)⟩

/-- What holds of every run in which no native call fails and the socket stays open. -/
structure Invariant (d : Direction) (s : System) : Prop where
  sound : Sound s
  attended : Attended s
  socket : Open s
  kept : Kept d s

theorem initial_invariant (d : Direction) (socket baseSocket : NativeHandle) :
    Invariant d (initial socket baseSocket) where
  sound := sound_initial socket baseSocket
  attended := .inl (.inr (.inl rfl))
  socket _ := by
    change (0 : ULONG) &&& afdPollLocalClose = 0#32
    decide
  kept hasked := by
    have hnone : d.holds Interest.none = false := by cases d <;> rfl
    exact absurd (hnone.symm.trans hasked) (by decide)

theorem step_invariant (a : Action) (h : Invariant d s) (hok : opened a s)
    (hstep : Afd.step a s = some t) : Invariant d t where
  sound := step_sound a h.sound hstep
  attended := step_attended a h.attended (succeeds_of_opened hok) hstep
  socket := step_open a h.socket hok hstep
  kept := step_kept a h.kept hstep

theorem reach_invariant {socket baseSocket : NativeHandle}
    (h : Reach Afd.step opened (initial socket baseSocket) s) : Invariant d s :=
  h.invariant (initial_invariant d socket baseSocket) fun a _ _ hu hok hstep => step_invariant a hu hok hstep

/-- Moves that do not report the direction come to an end, and until then there is always a move. -/
theorem Waiting.progress (h : Waiting d s) (moves : List Move) (hrun : run (quiet d) moves s = some t) :
    moves.length ≤ 4 * (s.arming + s.reissuing + 1) + 3 ∧
      ∀ ready, Shows d ready → ∃ a u, move d ⟨ready, a⟩ t = some u := by
  obtain ⟨hend, hlength⟩ := run_decreases (I := Waiting d) (w := weight d)
    (fun m u v hu hstep => by
      obtain ⟨hquiet, hshows, hhonest, hfires⟩ := quiet_eq_some hstep
      exact ⟨hu.step hshows hhonest hquiet hfires, hu.weight_lt hshows hhonest hquiet hfires⟩)
    moves h hrun
  have hbound := weight_le (d := d) h.sound
  exact ⟨by omega, fun ready hshows => hend.moves hshows⟩

/-- After `set_afd_interest` the directions that it names are news again. -/
theorem setInterest_waiting {socket baseSocket : NativeHandle}
    (h : Reach Afd.step opened (initial socket baseSocket) s) (hlive : s.state.deletePending = false)
    {r : NtReply} (hsucceeds : r.succeeds) (hstays : StaysOpen r) (token : Token) {interests : Interest}
    (hasked : d.holds interests = true) : Waiting d (AfdSelector.setInterest r token interests s) := by
  have hafter : Invariant d (AfdSelector.setInterest r token interests s) := by
    obtain ⟨u, harm, hrest⟩ := Option.bind_eq_some_iff.mp (AfdSelector.setInterest_run r token interests s)
    obtain ⟨v, hissue, hend⟩ := Option.bind_eq_some_iff.mp hrest
    cases hend
    have harmed : Invariant d u := step_invariant (.arm token interests) (reach_invariant h) trivial harm
    exact step_invariant (.issue r) harmed ⟨hsucceeds, hstays⟩ hissue
  obtain ⟨-, huser, hdelete⟩ := issueStep_visible r { s with
    state := setAfdInterest token interests s.state
    log := .armed token interests :: s.log }
  refine ⟨hafter.sound, hdelete.trans hlive, hafter.attended, hafter.socket, ?_⟩
  rw [show (AfdSelector.setInterest r token interests s).state.userEvents = _ from huser]
  exact flags_armed hasked

/-- An update of the registration, or a call that would block, runs `set_afd_interest`; whatever
it asks for is then reported once it is ready, also if it was reported before. -/
theorem rearmed_is_reported {socket baseSocket : NativeHandle}
    (h : Reach Afd.step opened (initial socket baseSocket) s) (hlive : s.state.deletePending = false)
    {r : NtReply} (hsucceeds : r.succeeds) (hstays : StaysOpen r) (token : Token) {interests : Interest}
    (hasked : d.holds interests = true) (moves : List Move)
    (hrun : run (quiet d) moves (AfdSelector.setInterest r token interests s) = some t) :
    moves.length ≤ 4 * (s.arming + s.reissuing + 1) + 3 ∧
      ∀ ready, Shows d ready → ∃ a u, move d ⟨ready, a⟩ t = some u := by
  have hprogress := (setInterest_waiting h hlive hsucceeds hstays token hasked).progress moves hrun
  obtain ⟨harming, hreissuing⟩ := issueStep_threads r { s with
    state := setAfdInterest token interests s.state
    log := .armed token interests :: s.log }
  rwa [show (AfdSelector.setInterest r token interests s).arming = s.arming from harming,
    show (AfdSelector.setInterest r token interests s).reissuing = s.reissuing from hreissuing] at hprogress

end AfdProgress
