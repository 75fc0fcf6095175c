import Ioxx.Afd

/-!
# One outstanding poll, and no armed interest lost

Each critical section is inverted once: `issueAfdPoll_cases`,
`completeAfdOperation_cases` and `removeFromBackend_cases` list everything a
section can do to the state, and `Fires` everything a step can do to the system.
The invariant `Sound` follows from these lists in every run, whatever the native
API answers; `Attended` needs in addition that no native call fails.
-/

namespace Afd

open Core Masks Runs

/-- The pending poll asks for everything the user still waits for. -/
def Covered (st : AfdSocketState) : Prop := Sub (st.userEvents &&& afdKnownEvents) st.pendingEvents

instance (st : AfdSocketState) : Decidable (Covered st) := inferInstanceAs (Decidable (Sub _ _))

/-- Nothing is left for `issue_afd_poll` to do. -/
def Settled (st : AfdSocketState) : Prop :=
  st.deletePending = true ∨ st.userEvents = 0#32 ∨ (st.status = .pending ∧ Covered st) ∨
    st.status = .cancelled

/-- `AfdHelper::poll` touches the status block and the poll information only. -/
theorem poll_frame (r : NtReply) (st : AfdSocketState) :
    ∃ status info, (poll r st).2 = { st with iosbStatus := status, pollInfo := info } := by
  unfold poll
  dsimp only
  split
  · exact ⟨_, _, rfl⟩
  · split <;> exact ⟨_, _, rfl⟩

/-- Everything `issue_afd_poll` can do: return with the state settled, cancel the
pending poll, fail to cancel it, or, only from `idle`, call the kernel. -/
theorem issueAfdPoll_cases (r : NtReply) (st : AfdSocketState) :
    (Settled st ∧ issueAfdPoll r st = (.returned, st)) ∨
    (st.status = .pending ∧ issueAfdPoll r st =
      (.cancelled, { st with status := .cancelled, pendingEvents := 0#32 })) ∨
    (∃ e, st.status = .pending ∧ cancel r st = .error e ∧
      issueAfdPoll r st = (.cancelThrew e, st)) ∨
    (st.status = .idle ∧ st.deletePending = false ∧ ∃ status info,
      (∃ completed, issueAfdPoll r st = (.polled (requested st) completed,
        { st with iosbStatus := status, pollInfo := info, status := .pending,
                  pendingEvents := st.userEvents })) ∨
      (∃ e, r.pollStatus ≠ statusSuccess ∧ r.pollStatus ≠ statusPending ∧ issueAfdPoll r st =
        (.pollThrew (requested st) e, { st with iosbStatus := status, pollInfo := info }))) := by
  unfold issueAfdPoll
  by_cases hquiet : st.deletePending ∨ st.userEvents = 0#32
  · refine .inl ⟨?_, if_pos hquiet⟩
    rcases hquiet with h | h
    · exact .inl h
    · exact .inr (.inl h)
  rw [if_neg hquiet]
  cases hs : st.status with
  | pending =>
    by_cases hc : st.userEvents &&& afdKnownEvents &&& ~~~st.pendingEvents = 0#32
    · exact .inl ⟨.inr (.inr (.inl ⟨hs, hc⟩)), by simp only [if_pos hc]⟩
    · cases hcancel : cancel r st with
      | error e => exact .inr (.inr (.inl ⟨e, rfl, rfl, by simp only [if_neg hc]⟩))
      | ok u => exact .inr (.inl ⟨rfl, by simp only [if_neg hc]⟩)
  | cancelled => exact .inl ⟨.inr (.inr (.inr hs)), rfl⟩
  | idle =>
    have hdel : st.deletePending = false := by simpa using (not_or.mp hquiet).1
    obtain ⟨status, info, hframe⟩ := poll_frame r (prepared st)
    refine .inr (.inr (.inr ⟨rfl, hdel, status, info, ?_⟩))
    cases hp : poll r (prepared st) with
    | mk reply st' =>
      rw [hp] at hframe
      have hst : st' = { st with iosbStatus := status, pollInfo := info } := hframe
      subst st'
      cases reply with
      | ok completed => exact .inl ⟨completed, rfl⟩
      | error e =>
        refine .inr ⟨e, ?_, ?_, by simp only [hs]⟩
        · intro h; simp [poll, h] at hp
        · intro h; simp [poll, h, statusSuccess, statusPending] at hp

/-- What leaves `issue_afd_poll` is the error of one of its two native calls. -/
theorem issueAfdPoll_thrown {r : NtReply} {st : AfdSocketState} {e : Exception}
    (h : (issueAfdPoll r st).1.thrown = some e) : ∃ operation, e = throwNt operation r.ntError := by
  unfold issueAfdPoll at h
  split at h
  · cases h
  · split at h
    · split at h
      · cases h
      · split at h
        · rename_i hcancel
          cases h
          unfold cancel at hcancel
          split at hcancel
          · cases hcancel
          · split at hcancel
            · cases hcancel
            · cases hcancel
              exact ⟨_, rfl⟩
        · cases h
    · cases h
    · split at h
      · rename_i hpoll
        cases h
        unfold Afd.poll at hpoll
        dsimp only at hpoll
        split at hpoll
        · cases hpoll
        · split at hpoll
          · cases hpoll
          · cases hpoll
            exact ⟨_, rfl⟩
      · cases h

/-- An immediate reissue is only asked for when events are wanted and none are reported. -/
theorem reportedEvents_reissue {st : AfdSocketState} {reported : ULONG}
    (h : reportedEvents st = some (true, reported)) : st.userEvents ≠ 0#32 ∧ reported = 0#32 := by
  unfold reportedEvents at h
  split at h
  · simp only [Option.some.injEq, Prod.mk.injEq, decide_eq_true_eq] at h
    exact ⟨h.1, h.2.symm⟩
  · split at h
    · simp at h
    · split at h
      · simp only [Option.some.injEq, Prod.mk.injEq, decide_eq_true_eq] at h
        exact ⟨h.1, h.2.symm⟩
      · split at h <;> simp at h

/-- The end of the section either emits a nonempty part of the wanted events and
narrows them, or leaves them; it asks for a reissue exactly when some are left. -/
theorem decideEvents_cases (reissue : Bool) (reported : ULONG) (st : AfdSocketState)
    (h : reissue = true → st.userEvents ≠ 0#32 ∧ reported = 0#32) :
    (∃ mask, mask ≠ 0#32 ∧ Sub mask st.userEvents ∧ decideEvents reissue reported st =
      (⟨some (st.token, mask), decide (st.userEvents &&& ~~~mask ≠ 0#32)⟩,
        { st with userEvents := st.userEvents &&& ~~~mask })) ∨
    decideEvents reissue reported st = (⟨none, decide (st.userEvents ≠ 0#32)⟩, st) := by
  unfold decideEvents
  by_cases hm : reported &&& st.userEvents = 0#32
  · right
    cases reissue with
    | false => simp [hm]
    | true => simp [hm, (h rfl).1]
  · left
    refine ⟨reported &&& st.userEvents, hm, and_sub_right _ _, ?_⟩
    cases reissue with
    | false => simp [hm]
    | true => exact absurd (by simp [(h rfl).2]) hm

/-- Everything the section of `complete_afd_operation` can do: nothing once the
state is deleted, delete it, emit an event, or emit none. -/
theorem completeAfdOperation_cases (st : AfdSocketState) :
    (st.deletePending = true ∧ completeAfdOperation st = (⟨none, false⟩, taken st)) ∨
    (st.deletePending = false ∧ completeAfdOperation st =
      (⟨none, false⟩, { taken st with deletePending := true })) ∨
    (st.deletePending = false ∧ ∃ mask, mask ≠ 0#32 ∧ Sub mask st.userEvents ∧
      completeAfdOperation st = (⟨some (st.token, mask), decide (st.userEvents &&& ~~~mask ≠ 0#32)⟩,
        { taken st with userEvents := st.userEvents &&& ~~~mask })) ∨
    (st.deletePending = false ∧
      completeAfdOperation st = (⟨none, decide (st.userEvents ≠ 0#32)⟩, taken st)) := by
  unfold completeAfdOperation
  cases hdel : st.deletePending with
  | true => exact .inl ⟨rfl, rfl⟩
  | false =>
    right
    cases hr : reportedEvents (taken st) with
    | none => exact .inl ⟨rfl, rfl⟩
    | some report =>
      obtain ⟨reissue, reported⟩ := report
      right
      rcases decideEvents_cases reissue reported (taken st)
        (by intro h; subst h; exact reportedEvents_reissue hr) with ⟨mask, hm, hsub, hd⟩ | hd
      · exact .inl ⟨rfl, mask, hm, hsub, hd⟩
      · exact .inr ⟨rfl, hd⟩

/-- Deregistration marks the state and cancels a pending poll if the kernel lets it. -/
theorem removeFromBackend_cases (r : NtReply) (st : AfdSocketState) :
    removeFromBackend r st = { st with deletePending := true } ∨
    (st.status = .pending ∧
      removeFromBackend r st = { st with deletePending := true, status := .cancelled }) := by
  unfold removeFromBackend
  dsimp only
  split
  · rename_i hs
    split
    · exact .inr ⟨hs, rfl⟩
    · exact .inl rfl
  · exact .inl rfl

/-- Everything one step can do, action by action. -/
inductive Fires (s : System) : Action → System → Prop where
  | arm (token : Token) (interests : Interest) : Fires s (.arm token interests) { s with
      state := setAfdInterest token interests s.state
      arming := s.arming + 1
      log := .armed token interests :: s.log }
  | issue (r : NtReply) (h : s.arming ≠ 0) :
      Fires s (.issue r) (issueStep r { s with arming := s.arming - 1 })
  | reissue (r : NtReply) (h : s.reissuing ≠ 0) :
      Fires s (.reissue r) (issueStep r { s with reissuing := s.reissuing - 1 })
  | remove (r : NtReply) : Fires s (.remove r) { s with
      state := removeFromBackend r s.state
      log := .deleted :: s.log }
  | kernel (op : AfdOperation) (status : NtStatus) (handles events : ULONG) (h : op ∈ s.held) :
      Fires s (.kernel op status handles events) { s with
        state := kernelWrites status handles events s.state
        held := s.held.erase op
        queued := op :: s.queued }
  | dequeue (op : AfdOperation) (h : op ∈ s.queued) : Fires s (.dequeue op) { s with
      queued := s.queued.erase op
      dequeued := op :: s.dequeued }
  | complete (op : AfdOperation) (h : op ∈ s.dequeued) : Fires s (.complete op) (completeStep op s)

theorem step_fires {a : Action} {s t : System} (h : step a s = some t) : Fires s a t := by
  cases a with
  | arm token interests => cases h; exact .arm token interests
  | remove r => cases h; exact .remove r
  | issue r =>
    simp only [step] at h
    split at h
    · cases h
    · rename_i hthread; cases h; exact .issue r hthread
  | reissue r =>
    simp only [step] at h
    split at h
    · cases h
    · rename_i hthread; cases h; exact .reissue r hthread
  | kernel op status handles events =>
    simp only [step] at h
    split at h
    · rename_i hop; cases h; exact .kernel op status handles events hop
    · cases h
  | dequeue op =>
    simp only [step] at h
    split at h
    · rename_i hop; cases h; exact .dequeue op hop
    · cases h
  | complete op =>
    simp only [step] at h
    split at h
    · rename_i hop; cases h; exact .complete op hop
    · cases h

/-- The number of operations a status allows in flight. -/
def AfdPollStatus.operations : AfdPollStatus → Nat
  | .idle => 0
  | .pending => 1
  | .cancelled => 1

/-- The bookkeeping invariant: the status counts the operations in flight, every
accepted operation is in flight or consumed and occurs there once, and a pending
status describes the mask of its poll. -/
structure Sound (s : System) : Prop where
  flight : s.inFlight.length = s.state.status.operations
  ids : ((s.inFlight ++ s.consumed).map AfdOperation.id).Perm (List.range s.nextId)
  mask : s.state.status = .pending →
    ∀ op ∈ s.inFlight, op.mask = s.state.pendingEvents ||| afdPollLocalClose

theorem Sound.flight_nil {s : System} (h : Sound s) (hs : s.state.status = .idle) :
    s.inFlight = [] := by
  have hl := h.flight
  rw [hs] at hl
  exact List.length_eq_zero_iff.mp hl

theorem sound_initial (socket baseSocket : NativeHandle) : Sound (initial socket baseSocket) := by
  refine ⟨rfl, ?_, ?_⟩
  · simp [initial, System.inFlight]
  · intro h; cases h

/-- Moving operations between the three places, with the status kept. -/
theorem Sound.of_perm {s t : System} (h : Sound s) (hp : t.inFlight.Perm s.inFlight)
    (hstatus : t.state.status = s.state.status)
    (hpending : t.state.pendingEvents = s.state.pendingEvents)
    (hconsumed : t.consumed = s.consumed) (hnext : t.nextId = s.nextId) : Sound t := by
  refine ⟨?_, ?_, ?_⟩
  · rw [hp.length_eq, hstatus, h.flight]
  · rw [hconsumed, hnext]
    exact ((hp.append_right s.consumed).map _).trans h.ids
  · intro hs op hop
    rw [hpending]
    exact h.mask (hstatus ▸ hs) op (hp.mem_iff.mp hop)

/-- A poll that the section cancelled stays in flight. -/
theorem Sound.cancelled {s t : System} (h : Sound s) (hs : s.state.status = .pending)
    (hflight : t.inFlight = s.inFlight) (hstatus : t.state.status = .cancelled)
    (hconsumed : t.consumed = s.consumed) (hnext : t.nextId = s.nextId) : Sound t := by
  refine ⟨?_, ?_, ?_⟩
  · rw [hflight, h.flight, hs, hstatus]; rfl
  · rw [hflight, hconsumed, hnext]; exact h.ids
  · intro hp; rw [hstatus] at hp; cases hp

/-- An accepted poll is the only operation, since it was issued from `idle`. -/
theorem Sound.polled {s t : System} (h : Sound s) (hs : s.state.status = .idle)
    (hflight : t.inFlight = [⟨s.nextId, requested s.state⟩]) (hstatus : t.state.status = .pending)
    (hpending : t.state.pendingEvents = s.state.userEvents)
    (hconsumed : t.consumed = s.consumed) (hnext : t.nextId = s.nextId + 1) : Sound t := by
  refine ⟨?_, ?_, ?_⟩
  · rw [hflight, hstatus]; rfl
  · have hids := h.ids
    rw [h.flight_nil hs] at hids
    rw [hflight, hconsumed, hnext, List.range_succ]
    exact (hids.cons s.nextId).trans (List.perm_append_singleton _ _).symm
  · intro _ op hop
    rw [hflight, List.mem_singleton] at hop
    rw [hop, hpending]
    rfl

theorem issueStep_sound (r : NtReply) {s : System} (h : Sound s) : Sound (issueStep r s) := by
  unfold issueStep
  rcases issueAfdPoll_cases r s.state with ⟨_, he⟩ | ⟨hs, he⟩ | ⟨e, _, _, he⟩ |
    ⟨hs, _, status, info, ⟨completed, he⟩ | ⟨e, _, _, he⟩⟩
  · rw [he]; exact h.of_perm .rfl rfl rfl rfl rfl
  · rw [he]; exact h.cancelled hs rfl rfl rfl rfl
  · rw [he]; exact h.of_perm .rfl rfl rfl rfl rfl
  · have hnil := h.flight_nil hs
    simp only [System.inFlight, List.append_eq_nil_iff] at hnil
    obtain ⟨⟨hheld, hqueued⟩, hdequeued⟩ := hnil
    rw [he]
    cases completed with
    | true => exact h.polled hs (by simp [System.inFlight, hheld, hqueued, hdequeued]) rfl rfl rfl rfl
    | false => exact h.polled hs (by simp [System.inFlight, hheld, hqueued, hdequeued]) rfl rfl rfl rfl
  · rw [he]; exact h.of_perm .rfl rfl rfl rfl rfl

@[simp] theorem operations_le_one (status : AfdPollStatus) : status.operations ≤ 1 := by
  cases status <;> simp [AfdPollStatus.operations]

/-- Whatever the section decides, it leaves the status idle. -/
theorem completeAfdOperation_idle (st : AfdSocketState) :
    (completeAfdOperation st).2.status = .idle := by
  rcases completeAfdOperation_cases st with ⟨_, he⟩ | ⟨_, he⟩ | ⟨_, mask, _, _, he⟩ | ⟨_, he⟩ <;>
    rw [he] <;> rfl

theorem completeStep_sound {op : AfdOperation} {s : System} (h : Sound s) (hop : op ∈ s.dequeued) :
    Sound (completeStep op s) := by
  have hperm : s.inFlight.Perm (op :: (completeStep op s).inFlight) := by
    change (s.held ++ s.queued ++ s.dequeued).Perm
      (op :: (s.held ++ s.queued ++ s.dequeued.erase op))
    exact ((List.perm_cons_erase hop).append_left _).trans List.perm_middle
  have hidle : (completeStep op s).state.status = .idle := completeAfdOperation_idle s.state
  have hnil : (completeStep op s).inFlight = [] := by
    have hl := hperm.length_eq
    have hone := operations_le_one s.state.status
    rw [h.flight, List.length_cons] at hl
    exact List.length_eq_zero_iff.mp (by omega)
  refine ⟨?_, ?_, ?_⟩
  · rw [hnil, hidle]; rfl
  · have hids := ((hperm.append_right s.consumed).map AfdOperation.id).symm.trans h.ids
    rw [hnil] at hids ⊢
    exact hids
  · intro hp; rw [hidle] at hp; cases hp

theorem step_sound (a : Action) {s t : System} (h : Sound s) (hstep : step a s = some t) :
    Sound t := by
  cases step_fires hstep with
  | arm token interests => exact h.of_perm .rfl rfl rfl rfl rfl
  | issue r _ => exact issueStep_sound r (h.of_perm .rfl rfl rfl rfl rfl)
  | reissue r _ => exact issueStep_sound r (h.of_perm .rfl rfl rfl rfl rfl)
  | remove r =>
    rcases removeFromBackend_cases r s.state with he | ⟨hs, he⟩
    · exact h.of_perm .rfl (by simp [he]) (by simp [he]) rfl rfl
    · exact h.cancelled hs rfl (by simp [he]) rfl rfl
  | kernel op status handles events hop =>
    refine h.of_perm ?_ rfl rfl rfl rfl
    change (s.held.erase op ++ op :: s.queued ++ s.dequeued).Perm (s.held ++ s.queued ++ s.dequeued)
    exact (List.perm_middle.trans ((List.perm_cons_erase hop).symm.append_right _)).append_right _
  | dequeue op hop =>
    refine h.of_perm ?_ rfl rfl rfl rfl
    change (s.held ++ s.queued.erase op ++ op :: s.dequeued).Perm (s.held ++ s.queued ++ s.dequeued)
    rw [List.append_assoc, List.append_assoc]
    exact (List.perm_middle.trans ((List.perm_cons_erase hop).symm.append_right _)).append_left _
  | complete op hop => exact completeStep_sound h hop

/-- The bookkeeping holds in every run, whatever the native API answers. -/
theorem reach_sound {ok : Action → System → Prop} {socket baseSocket : NativeHandle} {s : System}
    (h : Reach step ok (initial socket baseSocket) s) : Sound s :=
  h.invariant (sound_initial socket baseSocket) fun a _ _ hs _ hstep => step_sound a hs hstep

/-- The buffers the kernel writes into while it holds a poll. -/
def buffers (st : AfdSocketState) : NtStatus × AfdPollInfo := (st.iosbStatus, st.pollInfo)

/-- No section but a calling `issue_afd_poll` writes the kernel's buffers. -/
theorem issueAfdPoll_buffers (r : NtReply) (st : AfdSocketState)
    (h : (issueAfdPoll r st).1.called = none) : buffers (issueAfdPoll r st).2 = buffers st := by
  rcases issueAfdPoll_cases r st with ⟨_, he⟩ | ⟨_, he⟩ | ⟨e, _, _, he⟩ |
    ⟨_, _, status, info, ⟨completed, he⟩ | ⟨e, _, _, he⟩⟩
  · rw [he]
  · rw [he]; rfl
  · rw [he]
  · simp [he, Issued.called] at h
  · simp [he, Issued.called] at h

theorem completeAfdOperation_buffers (st : AfdSocketState) :
    buffers (completeAfdOperation st).2 = buffers st := by
  rcases completeAfdOperation_cases st with ⟨_, he⟩ | ⟨_, he⟩ | ⟨_, mask, _, _, he⟩ | ⟨_, he⟩ <;>
    rw [he] <;> rfl

theorem removeFromBackend_buffers (r : NtReply) (st : AfdSocketState) :
    buffers (removeFromBackend r st) = buffers st := by
  rcases removeFromBackend_cases r st with he | ⟨_, he⟩ <;> rw [he] <;> rfl

/-- The kernel is only called from `idle`. -/
theorem called_idle (r : NtReply) (st : AfdSocketState)
    (h : (issueAfdPoll r st).1.called ≠ none) : st.status = .idle := by
  rcases issueAfdPoll_cases r st with ⟨_, he⟩ | ⟨_, he⟩ | ⟨e, _, _, he⟩ | ⟨hs, _⟩
  · simp [he, Issued.called] at h
  · simp [he, Issued.called] at h
  · simp [he, Issued.called] at h
  · exact hs

@[simp] theorem issueStep_state (r : NtReply) (s : System) :
    (issueStep r s).state = (issueAfdPoll r s.state).2 := by
  unfold issueStep
  dsimp only
  split <;> rfl

/-- A step of the program, not of the kernel, that changes the buffers finds
nothing in flight. -/
theorem overwrite_finds_nothing {s t : System} (h : Sound s) (a : Action) (hstep : step a s = some t)
    (hprogram : ∀ op status handles events, a ≠ .kernel op status handles events)
    (hchange : buffers t.state ≠ buffers s.state) : s.inFlight = [] := by
  have hissue : ∀ r, buffers (issueAfdPoll r s.state).2 ≠ buffers s.state → s.inFlight = [] := by
    intro r hne
    apply h.flight_nil
    apply called_idle r
    intro hnone
    exact hne (issueAfdPoll_buffers r s.state hnone)
  cases step_fires hstep with
  | arm token interests => exact absurd rfl hchange
  | issue r _ => exact hissue r (by simpa using hchange)
  | reissue r _ => exact hissue r (by simpa using hchange)
  | remove r => exact absurd (removeFromBackend_buffers r s.state) hchange
  | kernel op status handles events _ => exact absurd rfl (hprogram op status handles events)
  | dequeue op _ => exact absurd rfl hchange
  | complete op _ => exact absurd (completeAfdOperation_buffers s.state) hchange

/-- One socket state never has two polls outstanding. The status counts the
operations held, queued or dequeued and not yet taken over; the buffers are
written only when there are none; every accepted operation is in one of these
places or consumed, and occurs there once. -/
theorem single_outstanding_poll (socket baseSocket : NativeHandle) (s : System)
    (h : Reachable step (initial socket baseSocket) s) :
    s.held.length + s.queued.length + s.dequeued.length = s.state.status.operations ∧
    (s.dequeued = [] → s.held.length + s.queued.length = s.state.status.operations) ∧
    (∀ r, (issueAfdPoll r s.state).1.called ≠ none → s.inFlight = []) ∧
    (∀ a t, step a s = some t → (∀ op status handles events, a ≠ .kernel op status handles events) →
      buffers t.state ≠ buffers s.state → s.inFlight = []) ∧
    ((s.held ++ s.queued ++ s.dequeued ++ s.consumed).map AfdOperation.id).Perm
      (List.range s.nextId) := by
  have hs := reach_sound h
  have hcount : s.held.length + s.queued.length + s.dequeued.length = s.state.status.operations := by
    simpa [System.inFlight, Nat.add_assoc] using hs.flight
  refine ⟨hcount, ?_, ?_, ?_, hs.ids⟩
  · intro hd; simpa [hd] using hcount
  · intro r hr; exact hs.flight_nil (called_idle r s.state hr)
  · intro a t hstep hprogram hchange
    exact overwrite_finds_nothing hs a hstep hprogram hchange

/-- A reply under which every native call succeeds and a poll stays pending. -/
def pendingReply : NtReply := ⟨statusPending, 0, 0, statusSuccess, ⟨5, .system, by decide⟩⟩

theorem single_outstanding_poll_pending :
    ∃ s, Reachable step (initial 4 4) s ∧ s.state.status = .pending ∧
      s.held.length + s.queued.length + s.dequeued.length = 1 := by
  have h : Reachable step (initial 4 4) _ :=
    reachable_of_run [.arm ⟨1⟩ Interest.READABLE, .issue pendingReply] rfl
  exact ⟨_, h, rfl, (single_outstanding_poll 4 4 _ h).1⟩

/-- Between the dequeue and the critical section the operation is neither held
nor queued, while the status still counts it. -/
theorem dequeued_poll_uncounted :
    ¬ ∀ s, Reachable step (initial 4 4) s →
      s.held.length + s.queued.length = s.state.status.operations := by
  intro hall
  have h := hall _ (reachable_of_run [.arm ⟨1⟩ Interest.READABLE, .issue pendingReply,
    .kernel ⟨0, requested (setAfdInterest ⟨1⟩ Interest.READABLE (initial 4 4).state)⟩
      statusSuccess 1 afdPollReceive,
    .dequeue ⟨0, requested (setAfdInterest ⟨1⟩ Interest.READABLE (initial 4 4).state)⟩] rfl)
  revert h
  decide

/-- Neither `NtDeviceIoControlFile` nor `NtCancelIoFileEx` fails. -/
def NtReply.succeeds (r : NtReply) : Prop :=
  (r.pollStatus = statusSuccess ∨ r.pollStatus = statusPending) ∧
    (r.cancelStatus = statusSuccess ∨ r.cancelStatus = statusNotFound)

instance (r : NtReply) : Decidable r.succeeds := inferInstanceAs (Decidable (_ ∧ _))

theorem pendingReply_succeeds : pendingReply.succeeds := ⟨.inr rfl, .inl rfl⟩

/-- The steps of a run in which no native call fails. -/
def ntSucceeds : Action → System → Prop
  | .issue r, _ => r.succeeds
  | .reissue r, _ => r.succeeds
  | .remove r, _ => r.succeeds
  | _, _ => True

/-- The state is settled, or some thread still has to issue. -/
def Attended (s : System) : Prop := Settled s.state ∨ 0 < s.arming + s.reissuing

theorem cancel_ok {r : NtReply} (hr : r.succeeds) (st : AfdSocketState) : cancel r st = .ok () := by
  simp only [cancel, if_pos hr.2, ite_self]

/-- `issue_afd_poll` settles the state unless a native call fails. -/
theorem issueAfdPoll_settles (r : NtReply) (st : AfdSocketState) (hr : r.succeeds) :
    Settled (issueAfdPoll r st).2 := by
  rcases issueAfdPoll_cases r st with ⟨h, he⟩ | ⟨_, he⟩ | ⟨e, _, hc, _⟩ |
    ⟨_, _, status, info, ⟨completed, he⟩ | ⟨e, h₁, h₂, _⟩⟩
  · rw [he]; exact h
  · rw [he]; exact .inr (.inr (.inr rfl))
  · rw [cancel_ok hr] at hc; cases hc
  · rw [he]; exact .inr (.inr (.inl ⟨rfl, and_sub_left _ _⟩))
  · rcases hr.1 with h | h
    · exact absurd h h₁
    · exact absurd h h₂

/-- The section of `complete_afd_operation` leaves the state settled, or asks for
the reissue that settles it. -/
theorem completeAfdOperation_attends (st : AfdSocketState) :
    Settled (completeAfdOperation st).2 ∨ (completeAfdOperation st).1.reissue = true := by
  rcases completeAfdOperation_cases st with ⟨hd, he⟩ | ⟨_, he⟩ | ⟨_, mask, _, _, he⟩ | ⟨_, he⟩
  · rw [he]; exact .inl (.inl hd)
  · rw [he]; exact .inl (.inl rfl)
  · rw [he]
    by_cases hrest : st.userEvents &&& ~~~mask = 0#32
    · exact .inl (.inr (.inl hrest))
    · exact .inr (by simp [hrest])
  · rw [he]
    by_cases hrest : st.userEvents = 0#32
    · exact .inl (.inr (.inl hrest))
    · exact .inr (by simp [hrest])

theorem step_attended (a : Action) {s t : System} (h : Attended s) (hok : ntSucceeds a s)
    (hstep : step a s = some t) : Attended t := by
  have hissue : ∀ r u, r.succeeds → u.state = s.state → Attended (issueStep r u) := by
    intro r u hr hu
    left
    rw [issueStep_state, hu]
    exact issueAfdPoll_settles r s.state hr
  cases step_fires hstep with
  | arm token interests =>
    right
    simp only
    omega
  | issue r _ => exact hissue r _ hok rfl
  | reissue r _ => exact hissue r _ hok rfl
  | remove r =>
    left
    rcases removeFromBackend_cases r s.state with he | ⟨_, he⟩ <;> exact .inl (by simp [he])
  | kernel op status handles events _ => exact h
  | dequeue op _ => exact h
  | complete op _ =>
    rcases completeAfdOperation_attends s.state with hc | hc
    · exact .inl hc
    · right
      simp only [completeStep, hc, if_true]
      omega

theorem reach_attended {socket baseSocket : NativeHandle} {s : System}
    (h : Reach step ntSucceeds (initial socket baseSocket) s) : Attended s :=
  h.invariant (.inl (.inr (.inl rfl))) fun a _ _ hs hok hstep => step_attended a hs hok hstep

/-- No thread stands between the halves of `set_afd_interest`, nor between the
section of `complete_afd_operation` and its reissue. -/
def Quiescent (s : System) : Prop := s.arming = 0 ∧ s.reissuing = 0

/-- The user waits for something and the state is not being deleted. -/
def Wanted (s : System) : Prop := s.state.userEvents ≠ 0#32 ∧ s.state.deletePending = false

/-- Exactly one operation is in flight, and it either is the pending poll that
covers the wanted events or has been cancelled. -/
def Armed (s : System) : Prop :=
  ∃ op, s.inFlight = [op] ∧
    ((s.state.status = .pending ∧ Covered s.state ∧
      op.mask = s.state.pendingEvents ||| afdPollLocalClose) ∨ s.state.status = .cancelled)

theorem armed_of_settled {s : System} (hs : Sound s) (hset : Settled s.state) (hw : Wanted s) :
    Armed s := by
  obtain ⟨huser, hdel⟩ := hw
  have hone : s.state.status.operations = 1 → ∃ op, s.inFlight = [op] := by
    intro h
    exact List.length_eq_one_iff.mp (hs.flight.trans h)
  rcases hset with h | h | ⟨hp, hc⟩ | hc
  · rw [h] at hdel; cases hdel
  · exact absurd h huser
  · obtain ⟨op, hop⟩ := hone (by rw [hp]; rfl)
    exact ⟨op, hop, .inl ⟨hp, hc, hs.mask hp op (by simp [hop])⟩⟩
  · obtain ⟨op, hop⟩ := hone (by rw [hc]; rfl)
    exact ⟨op, hop, .inr hc⟩

@[simp] theorem issueStep_consumed (r : NtReply) (s : System) :
    (issueStep r s).consumed = s.consumed := by
  unfold issueStep
  dsimp only
  split <;> rfl

theorem issueStep_threads (r : NtReply) (s : System) :
    (issueStep r s).arming = s.arming ∧ (issueStep r s).reissuing = s.reissuing := by
  unfold issueStep
  dsimp only
  split <;> exact ⟨rfl, rfl⟩

/-- `t` is quiet again and has taken over the operation. -/
def Drained (op : AfdOperation) (s t : System) : Prop :=
  Reach step ntSucceeds s t ∧ Quiescent t ∧ op ∈ t.consumed

/-- A dequeued operation is taken over by its section, and the reissue that the
section may ask for makes the system quiet again. -/
theorem drain_dequeued {op : AfdOperation} {s : System} (hq : Quiescent s) (hop : op ∈ s.dequeued) :
    ∃ t, Drained op s t := by
  obtain ⟨harm, hre⟩ := hq
  have hfirst : Reach step ntSucceeds s (completeStep op s) :=
    .tail (.complete op) .refl trivial (if_pos hop)
  have hmem : op ∈ (completeStep op s).consumed := List.mem_cons_self
  cases hc : (completeAfdOperation s.state).1.reissue with
  | false => exact ⟨_, hfirst, ⟨harm, by simp [completeStep, hc, hre]⟩, hmem⟩
  | true =>
    have hone : (completeStep op s).reissuing = 1 := by simp [completeStep, hc, hre]
    refine ⟨_, .tail (.reissue pendingReply) hfirst pendingReply_succeeds
      (if_neg (by omega)), ⟨?_, ?_⟩, ?_⟩
    · rw [(issueStep_threads _ _).1]; exact harm
    · rw [(issueStep_threads _ _).2]; simp only; omega
    · rw [issueStep_consumed]; exact hmem

/-- The first step of a drain does not matter for its end. -/
theorem Drained.after {op : AfdOperation} {s t u : System} (a : Action) (hok : ntSucceeds a s)
    (hstep : step a s = some t) (h : Drained op t u) : Drained op s u :=
  ⟨(Reach.tail a .refl hok hstep).trans h.1, h.2⟩

theorem drain_queued {op : AfdOperation} {s : System} (hq : Quiescent s) (hop : op ∈ s.queued) :
    ∃ t, Drained op s t := by
  have hstep : step (.dequeue op) s = some { s with queued := s.queued.erase op
                                                    dequeued := op :: s.dequeued } := if_pos hop
  obtain ⟨t, ht⟩ := drain_dequeued
    (s := { s with queued := s.queued.erase op, dequeued := op :: s.dequeued }) hq List.mem_cons_self
  exact ⟨t, ht.after (.dequeue op) trivial hstep⟩

/-- Every operation in flight can be driven to its end: the kernel finishes it,
a thread dequeues it, its section and the reissue run. -/
theorem drain_inFlight {op : AfdOperation} {s : System} (hq : Quiescent s) (hop : op ∈ s.inFlight) :
    ∃ t, Drained op s t := by
  simp only [System.inFlight, List.mem_append] at hop
  rcases hop with (hheld | hqueued) | hdequeued
  · have hstep : step (.kernel op statusCancelled 0 0) s = some { s with
        state := kernelWrites statusCancelled 0 0 s.state
        held := s.held.erase op
        queued := op :: s.queued } := if_pos hheld
    obtain ⟨t, ht⟩ := drain_queued (s := { s with
        state := kernelWrites statusCancelled 0 0 s.state
        held := s.held.erase op
        queued := op :: s.queued }) hq List.mem_cons_self
    exact ⟨t, ht.after (.kernel op statusCancelled 0 0) trivial hstep⟩
  · exact drain_queued hq hqueued
  · exact drain_dequeued hq hdequeued

theorem quiescent_armed {socket baseSocket : NativeHandle} {s : System}
    (h : Reach step ntSucceeds (initial socket baseSocket) s) (hq : Quiescent s) (hw : Wanted s) :
    s.state.status ≠ .idle ∧ Armed s := by
  have hs := reach_sound h
  have harmed : Armed s := by
    rcases reach_attended h with hset | hbusy
    · exact armed_of_settled hs hset hw
    · obtain ⟨harm, hre⟩ := hq
      omega
  refine ⟨?_, harmed⟩
  intro hidle
  obtain ⟨op, hop, _⟩ := harmed
  rw [hs.flight_nil hidle] at hop
  cases hop

/-- No armed interest is lost while the native calls succeed: a quiet state that
still wants events is never idle, its one operation covers them or is cancelled
and still to be taken over, and taking it over leads back to such a state. -/
theorem armed_interest_kept (socket baseSocket : NativeHandle) (s : System)
    (h : Reach step ntSucceeds (initial socket baseSocket) s) (hq : Quiescent s) (hw : Wanted s) :
    s.state.status ≠ .idle ∧ Armed s ∧
    (s.dequeued = [] → ∃ op, s.held ++ s.queued = [op]) ∧
    (s.state.status = .cancelled → ∀ op ∈ s.inFlight, ∃ t, Drained op s t) ∧
    (∀ t, Reach step ntSucceeds s t → Quiescent t → Wanted t → t.state.status ≠ .idle ∧ Armed t) := by
  obtain ⟨hidle, harmed⟩ := quiescent_armed h hq hw
  refine ⟨hidle, harmed, ?_, ?_, ?_⟩
  · intro hd
    obtain ⟨op, hop, _⟩ := harmed
    exact ⟨op, by simpa [System.inFlight, hd] using hop⟩
  · intro _ op hop; exact drain_inFlight hq hop
  · intro t ht htq htw; exact quiescent_armed (h.trans ht) htq htw

theorem armed_interest_kept_pending :
    ∃ s, Reach step ntSucceeds (initial 4 4) s ∧ Quiescent s ∧ Wanted s ∧ Armed s := by
  have h : Reach step ntSucceeds (initial 4 4) _ :=
    reach_of_run [.arm ⟨1⟩ Interest.READABLE, .issue pendingReply]
      (by simp [ntSucceeds, pendingReply_succeeds]) rfl
  exact ⟨_, h, ⟨rfl, rfl⟩, ⟨by decide, rfl⟩,
    (armed_interest_kept 4 4 _ h ⟨rfl, rfl⟩ ⟨by decide, rfl⟩).2.1⟩

/-- A cancelled operation that a polling thread has dequeued is no longer to be
dequeued, though its section has not run. -/
theorem dequeued_cancellation_missed :
    ¬ ∀ s, Reach step ntSucceeds (initial 4 4) s → Quiescent s → Wanted s →
      (s.state.status = .pending ∧ Covered s.state ∧
        ∃ op ∈ s.inFlight, op.mask = s.state.pendingEvents ||| afdPollLocalClose) ∨
      (s.state.status = .cancelled ∧ ∃ op, op ∈ s.held ∨ op ∈ s.queued) := by
  intro hall
  let first := requested (setAfdInterest ⟨1⟩ Interest.READABLE (initial 4 4).state)
  have h := hall _ (reach_of_run [.arm ⟨1⟩ Interest.READABLE, .issue pendingReply,
    .arm ⟨1⟩ (Interest.READABLE ||| Interest.WRITABLE), .issue pendingReply,
    .kernel ⟨0, first⟩ statusCancelled 0 0, .dequeue ⟨0, first⟩]
    (by simp [ntSucceeds, pendingReply_succeeds]) rfl) ⟨rfl, rfl⟩ ⟨by decide, rfl⟩
  rcases h with ⟨hp, _⟩ | ⟨_, op, hop⟩
  · cases hp
  · rcases hop with h | h <;> cases h

end Afd
