import Ioxx.AfdSelector
import Ioxx.Select

/-!
# The completion port and `select_iocp`

`select_iocp` dequeues one completion after another while the events have room.
A completion is an entry of the port (a packet of `post_packet`, or I/O of a
registered handle) or an AFD poll, whose completion clears the armed bits it
reports, pushes an event for them and then issues the next poll, which may throw.
`HarmlessFailure` says exactly when a call that throws has taken nothing.
-/

namespace Iocp

open Core Detail Afd AfdSelector Select

/-- An entry of the port other than an AFD operation. -/
inductive Posted where
  | packet (event : Event)
  | io (handle : NativeHandle) (ok : Bool)
  deriving DecidableEq, Repr

structure Machine where
  table : Table
  heap : Heap
  port : List Posted

/-- An operation leaves the completion port. -/
def dequeue (op : AfdOperation) (system : System) : System :=
  { system with queued := system.queued.erase op, dequeued := op :: system.dequeued }

/-- `complete_afd_operation` as a whole, with no other thread in between. -/
def complete (r : NtReply) (op : AfdOperation) (system : System) : System :=
  let completed := completeStep op (dequeue op system)
  if (completeAfdOperation system.state).1.reissue then
    issueStep r { completed with reissuing := completed.reissuing - 1 }
  else completed

/-- The exception that leaves `complete_afd_operation`, if any. -/
def completeThrown (r : NtReply) (st : AfdSocketState) : Option Exception :=
  let (c, st) := completeAfdOperation st
  if c.reissue then (issueAfdPoll r st).1.thrown else none

/-- A whole completion is two or three steps of the system. -/
theorem complete_run (r : NtReply) {op : AfdOperation} {system : System} (hop : op ∈ system.queued) :
    Runs.run step ([.dequeue op, .complete op] ++
      if (completeAfdOperation system.state).1.reissue then [.reissue r] else []) system =
        some (complete r op system) := by
  have hdequeue : step (.dequeue op) system = some (dequeue op system) := if_pos hop
  have hcomplete : step (.complete op) (dequeue op system) =
      some (completeStep op (dequeue op system)) := if_pos List.mem_cons_self
  simp only [List.cons_append, List.nil_append, Runs.run, hdequeue, hcomplete, Option.bind_some]
  unfold complete
  dsimp only
  split
  · rename_i hreissue
    have hthread : (completeStep op (dequeue op system)).reissuing ≠ 0 := by
      change (if (completeAfdOperation system.state).1.reissue then system.reissuing + 1
        else system.reissuing) ≠ 0
      rw [if_pos hreissue]
      exact Nat.succ_ne_zero _
    simp only [Runs.run, step, if_neg hthread, Option.bind_some]
  · rfl

theorem complete_sound (r : NtReply) {op : AfdOperation} {system : System} (h : Sound system)
    (hop : op ∈ system.queued) : Sound (complete r op system) :=
  (Runs.reachable_of_run _ (complete_run r hop)).invariant h fun a _ _ hs _ hstep => step_sound a hs hstep

/-- What happens next during a call: `GetQueuedCompletionStatus` returns the first
entry of the port or a finished poll, or the kernel finishes a poll meanwhile. A
turn that nothing enables changes nothing. -/
inductive Turn where
  | posted
  | polled (ref : AfdRef) (op : AfdOperation) (r : NtReply)
  | finishes (ref : AfdRef) (op : AfdOperation) (status : NtStatus) (handles events : ULONG)
  deriving DecidableEq, Repr

/-- The operation that a turn completes, with the state it belongs to. -/
def Machine.finished (m : Machine) (ref : AfdRef) (op : AfdOperation) :
    Option { system : System // Sound system ∧ op ∈ system.queued } :=
  (m.heap.systems ref).bind fun system =>
    if h : op ∈ system.val.queued then some ⟨system.val, system.property, h⟩ else none

/-- The event a turn makes the loop push. -/
def Turn.event (m : Machine) : Turn → Option Event
  | .posted => match m.port with
    | [] => none
    | .packet event :: _ => some event
    | .io handle ok :: _ =>
      (m.table handle).map fun r => ⟨r.token, r.interests, !ok, !ok, !ok⟩
  | .polled ref op _ =>
    (m.finished ref op).bind fun system => (completeAfdOperation system.val.state).1.event
  | .finishes .. => none

/-- The exception a turn makes the loop throw, after the event is pushed. -/
def Turn.thrown (m : Machine) : Turn → Option Exception
  | .polled ref op r => (m.finished ref op).bind fun system => completeThrown r system.val.state
  | _ => none

def Turn.after (m : Machine) : Turn → Machine
  | .posted => { m with port := m.port.tail }
  | .polled ref op r => match m.finished ref op with
    | some ⟨system, hsound, hop⟩ =>
      { m with heap := m.heap.store ref ⟨complete r op system, complete_sound r hsound hop⟩ }
    | none => m
  | .finishes ref op status handles events => match m.heap.systems ref with
    | some system => match h : step (.kernel op status handles events) system.val with
      | some next => { m with heap := m.heap.store ref ⟨next, step_sound _ system.property h⟩ }
      | none => m
    | none => m

/-- `select_iocp`. The turns are followed by a `GetQueuedCompletionStatus` that
returns nothing: it times out, or it fails with an error. -/
def selectIocp (growth : Growth) (ending : Option Errno) :
    List Turn → Events → Machine → Except Exception Unit × Events × Machine
  | [], events, m =>
    if events.size < events.capacity then
      match ending with
      | none => (.ok (), events, m)
      | some error =>
        (.error (.systemError (.ofLastError error) "GetQueuedCompletionStatus"), events, m)
    else (.ok (), events, m)
  | turn :: turns, events, m =>
    if events.size < events.capacity then
      let events := events.pushAll growth (turn.event m).toList
      match turn.thrown m with
      | some e => (.error e, events, turn.after m)
      | none => selectIocp growth ending turns events (turn.after m)
    else (.ok (), events, m)

/-- The armed bits of a socket state. -/
def Machine.userEvents (m : Machine) (ref : AfdRef) : Option ULONG :=
  (m.heap.systems ref).map fun system => system.val.state.userEvents

/-- The port entries that some source waits for. -/
def Machine.notices (m : Machine) : List Posted :=
  m.port.filter fun
    | .packet _ => true
    | .io handle _ => (m.table handle).isSome

/-- Nothing was taken from any source between two machines. -/
structure Intact (m m' : Machine) : Prop where
  table : m'.table = m.table
  notices : m'.notices = m.notices
  userEvents : ∀ ref, m'.userEvents ref = m.userEvents ref

theorem Intact.refl (m : Machine) : Intact m m := ⟨rfl, rfl, fun _ => rfl⟩

theorem Intact.symm {m m' : Machine} (h : Intact m m') : Intact m' m :=
  ⟨h.table.symm, h.notices.symm, fun ref => (h.userEvents ref).symm⟩

theorem Intact.trans {m m' m'' : Machine} (h : Intact m m') (h' : Intact m' m'') : Intact m m'' :=
  ⟨h'.table.trans h.table, h'.notices.trans h.notices,
    fun ref => (h'.userEvents ref).trans (h.userEvents ref)⟩

/-- Replacing a system by one with the same armed bits takes nothing. -/
theorem Intact.store {m : Machine} {ref : AfdRef} {system system' : { system : System // Sound system }}
    (hfind : m.heap.systems ref = some system)
    (hbits : system'.val.state.userEvents = system.val.state.userEvents) :
    Intact m { m with heap := m.heap.store ref system' } := by
  refine ⟨rfl, rfl, fun other => ?_⟩
  by_cases hother : other = ref
  · subst hother
    simp [Machine.userEvents, Heap.store, hfind, hbits]
  · simp [Machine.userEvents, Heap.store, hother]

theorem finished_eq_some {m : Machine} {ref : AfdRef} {op : AfdOperation}
    {system : { system : System // Sound system ∧ op ∈ system.queued }}
    (h : m.finished ref op = some system) :
    m.heap.systems ref = some ⟨system.val, system.property.1⟩ := by
  obtain ⟨found, hfound, hop⟩ := Option.bind_eq_some_iff.mp h
  split at hop
  · cases hop
    exact hfound
  · cases hop

/-- A completion that reports nothing clears no armed bit. -/
theorem complete_userEvents (r : NtReply) (op : AfdOperation) {system : System}
    (h : (completeAfdOperation system.state).1.event = none) :
    (complete r op system).state.userEvents = system.state.userEvents := by
  have hsection : (completeAfdOperation system.state).2.userEvents = system.state.userEvents := by
    rcases completeAfdOperation_cases system.state with ⟨_, he⟩ | ⟨_, he⟩ | ⟨_, mask, _, _, he⟩ | ⟨_, he⟩
    · rw [he]; rfl
    · rw [he]; rfl
    · rw [he] at h; cases h
    · rw [he]; rfl
  have hvisible := congrArg (fun v => v.2.2.1)
    (issueAfdPoll_visible r (completeStep op (dequeue op system)).state)
  unfold complete
  dsimp only
  split
  · rw [issueStep_state]
    exact hvisible.trans hsection
  · exact hsection

/-- A turn without an event takes nothing from any source. -/
theorem Turn.after_intact {m : Machine} (turn : Turn) (h : turn.event m = none) :
    Intact m (turn.after m) := by
  cases turn with
  | posted =>
    refine ⟨rfl, ?_, fun _ => rfl⟩
    cases hport : m.port with
    | nil => simp [Machine.notices, Turn.after, hport]
    | cons entry port =>
      cases entry with
      | packet event => simp [Turn.event, hport] at h
      | io handle ok =>
        have hunknown : m.table handle = none := by simpa [Turn.event, hport] using h
        simp [Machine.notices, Turn.after, hport, hunknown]
  | polled ref op r =>
    cases hfinished : m.finished ref op with
    | none => simpa only [Turn.after, hfinished] using Intact.refl m
    | some found =>
      obtain ⟨system, hsound, hop⟩ := found
      have hquiet : (completeAfdOperation system.state).1.event = none := by
        simpa only [Turn.event, hfinished, Option.bind_some] using h
      simp only [Turn.after, hfinished]
      refine Intact.store (finished_eq_some hfinished) ?_
      exact complete_userEvents r op hquiet
  | finishes ref op status handles events =>
    cases hfind : m.heap.systems ref with
    | none => simpa only [Turn.after, hfind] using Intact.refl m
    | some system =>
      simp only [Turn.after, hfind]
      split
      · rename_i next hstep
        refine Intact.store hfind ?_
        cases step_fires hstep
        rfl
      · exact Intact.refl m

/-- Every exception of the loop is one that `Poll::poll` catches. -/
theorem Turn.thrown_caught {m : Machine} (turn : Turn) : turn.thrown m ≠ some .badAlloc := by
  cases turn with
  | posted => exact nofun
  | finishes ref op status handles events => exact nofun
  | polled ref op r =>
    intro h
    obtain ⟨system, _, hthrown⟩ := Option.bind_eq_some_iff.mp h
    unfold completeThrown at hthrown
    dsimp only at hthrown
    split at hthrown
    · obtain ⟨operation, he⟩ := issueAfdPoll_thrown hthrown
      cases he
    · cases hthrown

variable (growth : Growth) (ending : Option Errno)

theorem push_event_capacity {events : Events} (h : events.size < events.capacity) (turn : Turn)
    (m : Machine) :
    (events.pushAll growth (turn.event m).toList).capacity = events.capacity := by
  apply Events.pushAll_capacity
  cases turn.event m with
  | none => exact h.le
  | some event => exact h

/-- A call only adds events, and it never makes the vector grow. -/
theorem selectIocp_items (turns : List Turn) (events : Events) (m : Machine) :
    events.items <+: (selectIocp growth ending turns events m).2.1.items ∧
      (selectIocp growth ending turns events m).2.1.capacity = events.capacity := by
  induction turns generalizing events m with
  | nil =>
    unfold selectIocp
    split
    · cases ending <;> exact ⟨List.prefix_rfl, rfl⟩
    · exact ⟨List.prefix_rfl, rfl⟩
  | cons turn turns ih =>
    unfold selectIocp
    split
    · rename_i hroom
      have hcapacity := push_event_capacity growth hroom turn m
      have hgrown : events.items <+: (events.pushAll growth (turn.event m).toList).items := by
        rw [Events.pushAll_items]
        exact List.prefix_append _ _
      dsimp only
      split
      · exact ⟨hgrown, hcapacity⟩
      · obtain ⟨hrest, hsame⟩ := ih (events.pushAll growth (turn.event m).toList) (turn.after m)
        exact ⟨hgrown.trans hrest, hsame.trans hcapacity⟩
    · exact ⟨List.prefix_rfl, rfl⟩

theorem selectIocp_caught (turns : List Turn) (events : Events) (m : Machine) :
    (selectIocp growth ending turns events m).1 ≠ .error .badAlloc := by
  induction turns generalizing events m with
  | nil =>
    unfold selectIocp
    split
    · cases ending <;> exact nofun
    · exact nofun
  | cons turn turns ih =>
    unfold selectIocp
    split
    · dsimp only
      split
      · rename_i e hthrown
        intro he
        cases he
        exact turn.thrown_caught hthrown
      · exact ih _ _
    · exact nofun

/-- The event of some completion that is dequeued in the course of the turns. -/
def Yields (event : Event) : List Turn → Machine → Prop
  | [], _ => False
  | turn :: turns, m => turn.event m = some event ∨ Yields event turns (turn.after m)

theorem selectIocp_yields (turns : List Turn) {events : Events} {m : Machine} {event : Event}
    (h : event ∈ (selectIocp growth ending turns events m).2.1.items) :
    event ∈ events.items ∨ Yields event turns m := by
  induction turns generalizing events m with
  | nil =>
    unfold selectIocp at h
    split at h
    · cases ending <;> exact .inl h
    · exact .inl h
  | cons turn turns ih =>
    have hpushed : event ∈ (events.pushAll growth (turn.event m).toList).items →
        event ∈ events.items ∨ Yields event (turn :: turns) m := by
      intro hmem
      rw [Events.pushAll_items, List.mem_append, Option.mem_toList] at hmem
      rcases hmem with hold | hnew
      · exact .inl hold
      · exact .inr (.inl hnew)
    unfold selectIocp at h
    split at h
    · dsimp only at h
      split at h
      · exact hpushed h
      · rcases ih h with hold | hlater
        · exact hpushed hold
        · exact .inr (.inr hlater)
    · exact .inl h

/-- No native call fails before the events are full or the port times out, with
room left for the given number of events. -/
def Succeeds : List Turn → Nat → Machine → Prop
  | _, 0, _ => True
  | [], _ + 1, _ => ending = none
  | turn :: turns, room + 1, m => turn.thrown m = none ∧
    Succeeds turns (if (turn.event m).isSome then room else room + 1) (turn.after m)

/-- Once a completion carries an event, no native call fails in the call any more,
the next poll of that completion included. -/
def HarmlessFailure (capacity : Nat) : List Turn → Machine → Prop
  | [], _ => True
  | turn :: turns, m =>
    if (turn.event m).isSome then Succeeds ending (turn :: turns) capacity m
    else turn.thrown m = none → HarmlessFailure capacity turns (turn.after m)

instance decidableSucceeds : (turns : List Turn) → (room : Nat) → (m : Machine) →
    Decidable (Succeeds ending turns room m)
  | [], 0, _ => .isTrue trivial
  | _ :: _, 0, _ => .isTrue trivial
  | [], _ + 1, _ => inferInstanceAs (Decidable (ending = none))
  | turn :: turns, room + 1, m =>
    have := decidableSucceeds turns (if (turn.event m).isSome then room else room + 1) (turn.after m)
    inferInstanceAs (Decidable (turn.thrown m = none ∧ _))

instance decidableHarmlessFailure (capacity : Nat) : (turns : List Turn) → (m : Machine) →
    Decidable (HarmlessFailure ending capacity turns m)
  | [], _ => .isTrue trivial
  | turn :: turns, m =>
    have := decidableHarmlessFailure capacity turns (turn.after m)
    inferInstanceAs (Decidable (if (turn.event m).isSome then Succeeds ending (turn :: turns) capacity m
      else turn.thrown m = none → HarmlessFailure ending capacity turns (turn.after m)))

theorem selectIocp_ok_iff (turns : List Turn) (events : Events) (m : Machine) :
    (selectIocp growth ending turns events m).1 = .ok () ↔
      Succeeds ending turns (events.capacity - events.size) m := by
  induction turns generalizing events m with
  | nil =>
    unfold selectIocp
    split
    · rename_i hroom
      obtain ⟨room, hroom⟩ := Nat.exists_eq_add_of_lt hroom
      rw [show events.capacity - events.size = room + 1 by omega]
      cases ending <;> simp [Succeeds]
    · rename_i hfull
      rw [show events.capacity - events.size = 0 by omega]
      simp [Succeeds]
  | cons turn turns ih =>
    unfold selectIocp
    split
    · rename_i hroom
      have hcapacity := push_event_capacity growth hroom turn m
      have hsize : (events.pushAll growth (turn.event m).toList).size =
          events.size + (turn.event m).toList.length := by simp [Events.size]
      obtain ⟨room, hroom⟩ := Nat.exists_eq_add_of_lt hroom
      have hrest : (events.pushAll growth (turn.event m).toList).capacity -
          (events.pushAll growth (turn.event m).toList).size =
          if (turn.event m).isSome then room else room + 1 := by
        rw [hcapacity, hsize]
        cases turn.event m <;> simp <;> omega
      rw [show events.capacity - events.size = room + 1 by omega]
      dsimp only
      split
      · rename_i e hthrown
        simp [Succeeds, hthrown]
      · rename_i hthrown
        rw [ih, hrest]
        simp [Succeeds, hthrown]
    · rename_i hfull
      rw [show events.capacity - events.size = 0 by omega]
      simp [Succeeds]

/-- A call that starts without events returns, or throws with nothing taken,
exactly when its failures are harmless. -/
theorem selectIocp_harmless_iff (turns : List Turn) {events : Events} (hempty : events.items = [])
    (hcapacity : 0 < events.capacity) (m : Machine) :
    ((selectIocp growth ending turns events m).1 = .ok () ∨
      ((selectIocp growth ending turns events m).2.1.items = [] ∧
        Intact m (selectIocp growth ending turns events m).2.2)) ↔
      HarmlessFailure ending events.capacity turns m := by
  have hsize : events.size = 0 := by rw [Events.size, hempty, List.length_nil]
  have hroom : events.size < events.capacity := by omega
  induction turns generalizing m with
  | nil =>
    refine iff_of_true ?_ trivial
    unfold selectIocp
    rw [if_pos hroom]
    cases ending with
    | none => exact .inl rfl
    | some error => exact .inr ⟨hempty, Intact.refl m⟩
  | cons turn turns ih =>
    cases hevent : turn.event m with
    | some event =>
      have hpushed : ¬ (selectIocp growth ending (turn :: turns) events m).2.1.items = [] := by
        have hitems : (events.pushAll growth (turn.event m).toList).items = [event] := by
          rw [Events.pushAll_items, hempty, hevent]
          rfl
        rw [selectIocp, if_pos hroom]
        dsimp only
        split
        · rw [hitems]
          exact List.cons_ne_nil _ _
        · have hgrown := (selectIocp_items growth ending turns
            (events.pushAll growth (turn.event m).toList) (turn.after m)).1
          intro hnil
          rw [hitems, hnil, List.prefix_nil] at hgrown
          cases hgrown
      have hok := selectIocp_ok_iff growth ending (turn :: turns) events m
      rw [hsize, Nat.sub_zero] at hok
      rw [HarmlessFailure, hevent, Option.isSome_some, if_pos rfl, ← hok]
      exact ⟨fun h => h.resolve_right fun hr => hpushed hr.1, .inl⟩
    | none =>
      have hintact := turn.after_intact hevent
      rw [HarmlessFailure, hevent, selectIocp, if_pos hroom]
      simp only [hevent, Option.toList_none, Option.isSome_none, Bool.false_eq_true, if_false]
      cases hthrown : turn.thrown m with
      | some e => exact iff_of_true (.inr ⟨hempty, hintact⟩) fun h => absurd h (Option.some_ne_none e)
      | none =>
        have hsame : Intact m (selectIocp growth ending turns events (turn.after m)).2.2 ↔
            Intact (turn.after m) (selectIocp growth ending turns events (turn.after m)).2.2 :=
          ⟨hintact.symm.trans, hintact.trans⟩
        dsimp only [Events.pushAll, List.foldl_nil]
        rw [hsame]
        exact ⟨fun h _ => (ih (turn.after m)).mp h, fun h => (ih (turn.after m)).mpr (h rfl)⟩

end Iocp
