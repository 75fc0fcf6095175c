import Ioxx.AfdInvariant

/-!
# What a socket state emits

`Disciplined` says, entry by entry, what the history of a socket state may hold:
an emission is a nonempty, not yet reported part of the latest interests under
the latest token, and neither an emission nor a kernel call follows a deletion.
`Logged` is the invariant that ties the state to its history.
-/

namespace Afd

open Core Masks Runs

/-- The events of a piece of history. -/
def emissions : List Entry → List (Token × ULONG)
  | [] => []
  | .emitted token mask :: rest => (token, mask) :: emissions rest
  | .armed _ _ :: rest => emissions rest
  | .called _ :: rest => emissions rest
  | .deleted :: rest => emissions rest

/-- The events emitted since the latest arm. -/
def sinceArmed : List Entry → List (Token × ULONG)
  | [] => []
  | .armed _ _ :: _ => []
  | .emitted token mask :: rest => (token, mask) :: sinceArmed rest
  | .called _ :: rest => sinceArmed rest
  | .deleted :: rest => sinceArmed rest

def latestArm : List Entry → Option (Token × Interest)
  | [] => none
  | .armed token interests :: _ => some (token, interests)
  | .emitted _ _ :: rest => latestArm rest
  | .called _ :: rest => latestArm rest
  | .deleted :: rest => latestArm rest

/-- Each entry of the history (latest first) is allowed by the entries before it. -/
def Disciplined : List Entry → Prop
  | [] => True
  | .armed _ _ :: rest => Disciplined rest
  | .deleted :: rest => Disciplined rest
  | .called _ :: rest => Disciplined rest ∧ Entry.deleted ∉ rest
  | .emitted token mask :: rest => Disciplined rest ∧ Entry.deleted ∉ rest ∧ mask ≠ 0#32 ∧
      (∃ interests, latestArm rest = some (token, interests) ∧
        Sub mask (interestsToAfdFlags interests)) ∧
      ∀ e ∈ sinceArmed rest, Disj mask e.2

theorem Disciplined.older {newer older : List Entry} (h : Disciplined (newer ++ older)) :
    Disciplined older := by
  induction newer with
  | nil => exact h
  | cons e rest ih =>
    cases e with
    | armed token interests => exact ih h
    | deleted => exact ih h
    | called mask => exact ih h.1
    | emitted token mask => exact ih h.1

/-- No entry of the piece of history arms the state. -/
def NoArm (entries : List Entry) : Prop := ∀ token interests, Entry.armed token interests ∉ entries

theorem NoArm.rest {e : Entry} {entries : List Entry} (h : NoArm (e :: entries)) : NoArm entries :=
  fun token interests hmem => h token interests (List.mem_cons_of_mem e hmem)

/-- Behind entries that do not arm, the latest arm stays what it was. -/
theorem latestArm_append (between : List Entry) (h : NoArm between) (token : Token)
    (interests : Interest) (older : List Entry) :
    latestArm (between ++ .armed token interests :: older) = some (token, interests) := by
  induction between with
  | nil => rfl
  | cons e rest ih =>
    cases e with
    | armed t i => exact absurd List.mem_cons_self (h t i)
    | deleted => exact ih h.rest
    | called mask => exact ih h.rest
    | emitted t mask => exact ih h.rest

theorem sinceArmed_append (between : List Entry) (h : NoArm between) (token : Token)
    (interests : Interest) (older : List Entry) :
    sinceArmed (between ++ .armed token interests :: older) = emissions between := by
  induction between with
  | nil => rfl
  | cons e rest ih =>
    cases e with
    | armed t i => exact absurd List.mem_cons_self (h t i)
    | deleted => exact ih h.rest
    | called mask => exact ih h.rest
    | emitted t mask => exact congrArg ((t, mask) :: ·) (ih h.rest)

/-- Between two arms the emitted masks are disjoint nonempty parts of the armed
events, and the events carry the armed token. -/
theorem Disciplined.between {between older : List Entry} {token : Token} {interests : Interest}
    (h : Disciplined (between ++ .armed token interests :: older)) (hno : NoArm between) :
    (emissions between).Pairwise (fun a b => Disj a.2 b.2) ∧
    ∀ e ∈ emissions between, e.1 = token ∧ e.2 ≠ 0#32 ∧ Sub e.2 (interestsToAfdFlags interests) := by
  induction between with
  | nil => exact ⟨List.Pairwise.nil, by simp [emissions]⟩
  | cons e rest ih =>
    cases e with
    | armed t i => exact absurd List.mem_cons_self (hno t i)
    | deleted => exact ih h hno.rest
    | called mask => exact ih h.1 hno.rest
    | emitted t mask =>
      rw [List.cons_append] at h
      obtain ⟨hrest, _, hmask, ⟨i, harm, hsub⟩, hfresh⟩ := h
      obtain ⟨hpair, hall⟩ := ih hrest hno.rest
      rw [latestArm_append rest hno.rest] at harm
      obtain ⟨rfl, rfl⟩ := Prod.mk.inj (Option.some.inj harm)
      rw [sinceArmed_append rest hno.rest] at hfresh
      refine ⟨List.Pairwise.cons hfresh hpair, ?_⟩
      intro e he
      rcases List.mem_cons.mp he with rfl | he
      · exact ⟨rfl, hmask, hsub⟩
      · exact hall e he

theorem latestArm_mem {entries : List Entry} {token : Token} {interests : Interest}
    (h : latestArm entries = some (token, interests)) : Entry.armed token interests ∈ entries := by
  induction entries with
  | nil => cases h
  | cons e rest ih =>
    cases e with
    | armed t i => cases h; exact List.mem_cons_self
    | deleted => exact List.mem_cons_of_mem _ (ih h)
    | called mask => exact List.mem_cons_of_mem _ (ih h)
    | emitted t mask => exact List.mem_cons_of_mem _ (ih h)

/-- Nothing is emitted and the kernel is not called. -/
def Silent (entries : List Entry) : Prop :=
  (∀ token mask, Entry.emitted token mask ∉ entries) ∧ ∀ mask, Entry.called mask ∉ entries

theorem Silent.cons {e : Entry} {entries : List Entry} (h : Silent entries)
    (he : (∀ token mask, Entry.emitted token mask ≠ e) ∧ ∀ mask, Entry.called mask ≠ e) :
    Silent (e :: entries) := by
  refine ⟨?_, ?_⟩
  · intro token mask hmem
    rcases List.mem_cons.mp hmem with heq | hmem
    · exact he.1 token mask heq
    · exact h.1 token mask hmem
  · intro mask hmem
    rcases List.mem_cons.mp hmem with heq | hmem
    · exact he.2 mask heq
    · exact h.2 mask hmem

/-- After a deletion the history is silent. -/
theorem Disciplined.silent {newer older : List Entry} (h : Disciplined (newer ++ older))
    (hdel : Entry.deleted ∈ older) : Silent newer := by
  induction newer with
  | nil => simp [Silent]
  | cons e rest ih =>
    have hmem : Entry.deleted ∈ rest ++ older := List.mem_append_right rest hdel
    cases e with
    | armed token interests => exact (ih h).cons ⟨by simp, by simp⟩
    | deleted => exact (ih h).cons ⟨by simp, by simp⟩
    | called mask => exact absurd hmem h.2
    | emitted token mask => exact absurd hmem h.2.1

/-- The part of a state that its history determines. -/
def visible (st : AfdSocketState) : Token × Interest × ULONG × Bool :=
  (st.token, st.interests, st.userEvents, st.deletePending)

/-- `issue_afd_poll` changes nothing the user set. -/
theorem issueAfdPoll_visible (r : NtReply) (st : AfdSocketState) :
    visible (issueAfdPoll r st).2 = visible st := by
  rcases issueAfdPoll_cases r st with ⟨_, he⟩ | ⟨_, he⟩ | ⟨e, _, _, he⟩ |
    ⟨_, _, status, info, ⟨completed, he⟩ | ⟨e, _, _, he⟩⟩ <;> rw [he] <;> rfl

theorem removeFromBackend_visible (r : NtReply) (st : AfdSocketState) :
    visible (removeFromBackend r st) = visible { st with deletePending := true } := by
  rcases removeFromBackend_cases r st with he | ⟨_, he⟩
  · rw [he]
  · rw [he]; rfl

/-- A deleted state is never polled for again. -/
theorem issueAfdPoll_called (r : NtReply) (st : AfdSocketState) (h : st.deletePending = true) :
    (issueAfdPoll r st).1.called = none := by
  simp [issueAfdPoll, h, Issued.called]

theorem completeAfdOperation_emit (st : AfdSocketState) (h : st.deletePending = true) :
    (completeAfdOperation st).1.emit = none := by
  simp [completeAfdOperation, h]

/-- What the latest arm says about a state: nothing is wanted before the first
one, and afterwards at most the armed events are. -/
def ArmedBy (seen : Token × Interest × ULONG × Bool) : Option (Token × Interest) → Prop
  | none => seen.2.2.1 = 0#32
  | some (token, interests) => seen.1 = token ∧ seen.2.1 = interests ∧
      Sub seen.2.2.1 (interestsToAfdFlags interests)

/-- The state agrees with a disciplined history. -/
structure Agrees (seen : Token × Interest × ULONG × Bool) (log : List Entry) : Prop where
  disciplined : Disciplined log
  deleted : seen.2.2.2 = true ↔ Entry.deleted ∈ log
  armed : ArmedBy seen (latestArm log)
  fresh : ∀ e ∈ sinceArmed log, Disj seen.2.2.1 e.2

/-- The invariant of a whole run. -/
def Logged (s : System) : Prop := Agrees (visible s.state) s.log

theorem logged_initial (socket baseSocket : NativeHandle) : Logged (initial socket baseSocket) :=
  ⟨trivial, by simp [visible, initial], rfl, by simp [initial, sinceArmed]⟩

theorem Agrees.arm {seen : Token × Interest × ULONG × Bool} {log : List Entry} (h : Agrees seen log)
    (token : Token) (interests : Interest) :
    Agrees (token, interests, interestsToAfdFlags interests, seen.2.2.2)
      (.armed token interests :: log) := by
  refine ⟨h.disciplined, ?_, ⟨rfl, rfl, Sub.refl _⟩, ?_⟩
  · simpa using h.deleted
  · simp [sinceArmed]

theorem Agrees.delete {seen : Token × Interest × ULONG × Bool} {log : List Entry}
    (h : Agrees seen log) : Agrees (seen.1, seen.2.1, seen.2.2.1, true) (.deleted :: log) := by
  refine ⟨h.disciplined, by simp, ?_, h.fresh⟩
  have harmed := h.armed
  cases hl : latestArm log with
  | none => rw [hl] at harmed; rw [latestArm, hl]; exact harmed
  | some arm => rw [hl] at harmed; rw [latestArm, hl]; exact harmed

theorem Agrees.call {seen : Token × Interest × ULONG × Bool} {log : List Entry} (h : Agrees seen log)
    (hlive : seen.2.2.2 = false) (mask : ULONG) : Agrees seen (.called mask :: log) := by
  have hno : Entry.deleted ∉ log := by
    rw [← h.deleted, hlive]
    simp
  refine ⟨⟨h.disciplined, hno⟩, ?_, h.armed, h.fresh⟩
  simpa using h.deleted

/-- An emission of a nonempty wanted mask, with the wanted events narrowed by it. -/
theorem Agrees.emit {token : Token} {interests : Interest} {user mask : ULONG} {log : List Entry}
    (h : Agrees (token, interests, user, false) log) (hmask : mask ≠ 0#32) (hsub : Sub mask user) :
    Agrees (token, interests, user &&& ~~~mask, false) (.emitted token mask :: log) := by
  have hno : Entry.deleted ∉ log := by
    rw [← h.deleted]
    simp
  have hrest : Sub (user &&& ~~~mask) user := and_sub_left _ _
  obtain ⟨i, hl, harm, hwithin⟩ : ∃ i, latestArm log = some (token, i) ∧ interests = i ∧
      Sub user (interestsToAfdFlags i) := by
    have harmed := h.armed
    cases hl : latestArm log with
    | none =>
      rw [hl] at harmed
      have hzero : user = 0#32 := harmed
      rw [hzero] at hsub
      exact absurd hsub.eq_zero hmask
    | some arm =>
      obtain ⟨t, i⟩ := arm
      rw [hl] at harmed
      obtain ⟨rfl, hi, hu⟩ := harmed
      exact ⟨i, rfl, hi, hu⟩
  refine ⟨⟨h.disciplined, hno, hmask, ⟨i, hl, hsub.trans hwithin⟩, ?_⟩, ?_, ?_, ?_⟩
  · intro e he; exact (h.fresh e he).mono hsub
  · simpa using h.deleted
  · rw [latestArm, hl]
    exact ⟨rfl, harm, hrest.trans hwithin⟩
  · intro e he
    rcases List.mem_cons.mp he with rfl | he
    · exact clear_disj user mask
    · exact (h.fresh e he).mono hrest

theorem issueStep_log (r : NtReply) (s : System) :
    (issueStep r s).log = ((issueAfdPoll r s.state).1.called.map Entry.called).toList ++ s.log := by
  unfold issueStep
  dsimp only
  split <;> rfl

theorem issueStep_logged (r : NtReply) {s : System} (h : Logged s) : Logged (issueStep r s) := by
  rw [Logged, issueStep_state, issueStep_log, issueAfdPoll_visible]
  cases hc : (issueAfdPoll r s.state).1.called with
  | none => exact h
  | some mask =>
    cases hd : s.state.deletePending with
    | false => exact Agrees.call h hd mask
    | true => rw [issueAfdPoll_called r s.state hd] at hc; cases hc

theorem completeStep_logged (op : AfdOperation) {s : System} (h : Logged s) :
    Logged (completeStep op s) := by
  unfold completeStep
  rcases completeAfdOperation_cases s.state with ⟨hd, he⟩ | ⟨hd, he⟩ | ⟨hd, mask, hm, hsub, he⟩ |
    ⟨hd, he⟩
  · simpa [Logged, he, visible, taken, hd] using h
  · simpa [Logged, he, visible, taken, hd] using Agrees.delete h
  · have hl : Agrees (s.state.token, s.state.interests, s.state.userEvents, false) s.log := by
      simpa [Logged, visible, hd] using h
    simpa [Logged, he, visible, taken, hd] using hl.emit hm hsub
  · simpa [Logged, he, visible, taken, hd] using h

theorem step_logged (a : Action) {s t : System} (h : Logged s) (hstep : step a s = some t) :
    Logged t := by
  cases step_fires hstep with
  | arm token interests => exact Agrees.arm h token interests
  | issue r _ => exact issueStep_logged r h
  | reissue r _ => exact issueStep_logged r h
  | remove r =>
    rw [Logged, removeFromBackend_visible]
    exact Agrees.delete h
  | kernel op status handles events _ => exact h
  | dequeue op _ => exact h
  | complete op _ => exact completeStep_logged op h

theorem reach_logged {ok : Action → System → Prop} {socket baseSocket : NativeHandle} {s : System}
    (h : Reach step ok (initial socket baseSocket) s) : Logged s :=
  h.invariant (logged_initial socket baseSocket) fun a _ _ hs _ hstep => step_logged a hs hstep

/-- A step only adds to the history. -/
theorem step_log (a : Action) {s t : System} (hstep : step a s = some t) :
    ∃ newer, t.log = newer ++ s.log := by
  cases step_fires hstep with
  | arm token interests => exact ⟨[_], rfl⟩
  | issue r _ => exact ⟨_, issueStep_log _ _⟩
  | reissue r _ => exact ⟨_, issueStep_log _ _⟩
  | remove r => exact ⟨[_], rfl⟩
  | kernel op status handles events _ => exact ⟨[], rfl⟩
  | dequeue op _ => exact ⟨[], rfl⟩
  | complete op _ => exact ⟨_, rfl⟩

theorem reach_log {ok : Action → System → Prop} {s t : System} (h : Reach step ok s t) :
    ∃ newer, t.log = newer ++ s.log := by
  refine h.invariant (I := fun u => ∃ newer, u.log = newer ++ s.log) ⟨[], rfl⟩ ?_
  intro a u v hu _ hstep
  obtain ⟨newer, hnewer⟩ := hu
  obtain ⟨newest, hnewest⟩ := step_log a hstep
  exact ⟨newest ++ newer, by rw [hnewest, hnewer, List.append_assoc]⟩

/-- Once a state is deleted it stays deleted, and the rest of the run is silent. -/
theorem deleted_stays {s t : System} (hs : Logged s) (hdel : s.state.deletePending = true)
    (h : Reachable step s t) :
    t.state.deletePending = true ∧ ∃ newer, t.log = newer ++ s.log ∧ Silent newer := by
  have ht : Logged t := h.invariant hs fun a _ _ hu _ hstep => step_logged a hu hstep
  have hmem : Entry.deleted ∈ s.log := hs.deleted.mp hdel
  obtain ⟨newer, hnewer⟩ := reach_log h
  have hd := ht.disciplined
  rw [hnewer] at hd
  refine ⟨ht.deleted.mpr ?_, newer, hnewer, hd.silent hmem⟩
  rw [hnewer]
  exact List.mem_append_right newer hmem

/-- The finished poll reports that the socket was closed. -/
structure ClosesLocally (st : AfdSocketState) : Prop where
  notCancelled : st.iosbStatus ≠ statusCancelled
  success : ¬ st.iosbStatus.toInt < 0
  answered : ¬ st.pollInfo.numberOfHandles < 1
  closed : st.pollInfo.events &&& afdPollLocalClose ≠ 0#32

theorem completeAfdOperation_closesLocally {st : AfdSocketState} (h : ClosesLocally st) :
    (completeAfdOperation st).1.emit = none ∧ (completeAfdOperation st).2.deletePending = true := by
  have hreported : reportedEvents (taken st) = none := by
    rw [reportedEvents, if_neg (by exact h.notCancelled), if_neg (by exact h.success),
      if_neg (by exact h.answered), if_pos (by exact h.closed)]
  unfold completeAfdOperation
  cases hdel : st.deletePending with
  | true => exact ⟨rfl, hdel⟩
  | false =>
    rw [hreported]
    exact ⟨rfl, rfl⟩

/-- The emission discipline of every run. Between two arms the emitted masks are
pairwise disjoint, nonempty parts of the armed events under the armed token; no
event precedes the first arm; a completion that reports a local close deletes the
state; and a deleted state stays deleted, emits nothing and is not polled for again. -/
theorem emission_discipline (socket baseSocket : NativeHandle) (s : System)
    (h : Reachable step (initial socket baseSocket) s) :
    (∀ newer between older token interests,
      s.log = newer ++ (between ++ .armed token interests :: older) → NoArm between →
      (emissions between).Pairwise (fun a b => Disj a.2 b.2) ∧
      ∀ e ∈ emissions between, e.1 = token ∧ e.2 ≠ 0#32 ∧
        Sub e.2 (interestsToAfdFlags interests)) ∧
    (∀ newer older token mask, s.log = newer ++ .emitted token mask :: older →
      ∃ interests, .armed token interests ∈ older) ∧
    (s.state.deletePending = true ↔ .deleted ∈ s.log) ∧
    (ClosesLocally s.state → ∀ op t, step (.complete op) s = some t →
      (completeAfdOperation s.state).1.emit = none ∧ t.state.deletePending = true) ∧
    (s.state.deletePending = true → (completeAfdOperation s.state).1.emit = none ∧
      (∀ r, (issueAfdPoll r s.state).1.called = none) ∧
      ∀ t, Reachable step s t →
        t.state.deletePending = true ∧ ∃ newer, t.log = newer ++ s.log ∧ Silent newer) := by
  have hs := reach_logged h
  refine ⟨?_, ?_, hs.deleted, ?_, ?_⟩
  · intro newer between older token interests hlog hno
    have hd := hs.disciplined
    rw [hlog] at hd
    exact hd.older.between hno
  · intro newer older token mask hlog
    have hd := hs.disciplined
    rw [hlog] at hd
    obtain ⟨_, _, _, ⟨interests, harm, _⟩, _⟩ := hd.older
    exact ⟨interests, latestArm_mem harm⟩
  · intro hclosed op t hstep
    obtain ⟨hemit, hdeleted⟩ := completeAfdOperation_closesLocally hclosed
    cases step_fires hstep
    exact ⟨hemit, hdeleted⟩
  · intro hdel
    exact ⟨completeAfdOperation_emit s.state hdel, fun r => issueAfdPoll_called r s.state hdel,
      fun t ht => deleted_stays hs hdel ht⟩

/-- A poll armed for both directions that reports one event and is reissued for the rest. -/
theorem emission_discipline_receive :
    ∃ s, Reachable step (initial 4 4) s ∧ emissions s.log = [(⟨1⟩, afdPollReceive)] ∧
      (s.state.deletePending = true ↔ .deleted ∈ s.log) := by
  let first := requested (setAfdInterest ⟨1⟩ Interest.READABLE (initial 4 4).state)
  have h : Reachable step (initial 4 4) _ :=
    reachable_of_run [.arm ⟨1⟩ Interest.READABLE, .issue pendingReply,
      .kernel ⟨0, first⟩ statusSuccess 1 afdPollReceive, .dequeue ⟨0, first⟩, .complete ⟨0, first⟩] rfl
  exact ⟨_, h, by decide, (emission_discipline 4 4 _ h).2.2.1⟩

end Afd
