import Ioxx.Iocp

/-!
# The Windows waker and its packets

On Windows a wake is a packet in the completion port: `post_packet` allocates it and
frees it again if the port refuses it, and the `select_iocp` that dequeues it pushes
its event and frees it. Any number of wakes, registry calls and completions of the
kernel run beside one thread that polls; every entry it dequeues is a step. The
packets that are in the port, and the wakes they belong to, are recorded.
-/

namespace PortWaker

open Core Detail AfdSelector Select Iocp Runs Maps

/-- A call of `wake` that has returned, or thrown. -/
structure Wake where
  token : Token
  threw : Bool
  deriving DecidableEq, Repr

/-- What `post_waker` puts into the packet. -/
def wakeEvent (token : Token) : Event := ⟨token, Interest.READABLE, false, false, false⟩

/-- `poll` is the events of the poll in progress. `queued` lists the wakes whose packets
are in the port and `posts` all that were posted, both in order; `packets` counts the
`Packet` objects; `reported` is what all polls so far have pushed, with the wake that an
event is for. -/
structure State where
  machine : Machine
  poll : Option Events
  wakes : Nat → Option Wake
  posts : List Nat
  queued : List Nat
  packets : Nat
  reported : List (Option Nat × Event)

inductive Action where
  | wakes (id : Nat) (token : Token) (refusal : Option Errno)
  | completes (handle : NativeHandle) (ok : Bool)
  | finishes (turn : Turn)
  | calls (call : Call) (reply : Reply)
  | pollBegins (events : Events)
  | takes (turn : Turn)
  | pollReturns
  | pollFails (error : Errno)

/-- The selector that the registry calls work on. -/
def selector (m : Machine) : Selector Heap := ⟨m.table, invalidNativeHandle .windows, false, m.heap⟩

/-- The turn dequeues a packet. -/
def takesPacket (m : Machine) : Turn → Bool
  | .posted => match m.port with
    | .packet _ :: _ => true
    | _ => false
  | _ => false

/-- The packets in the port. -/
def packetsOf (port : List Posted) : List Event :=
  port.filterMap fun
    | .packet event => some event
    | .io _ _ => none

def State.taken (turn : Turn) (s : State) : State :=
  if takesPacket s.machine turn then { s with
    machine := turn.after s.machine
    queued := s.queued.tail
    packets := s.packets - 1
    reported := s.reported ++ (turn.event s.machine).toList.map fun event => (s.queued.head?, event) }
  else { s with
    machine := turn.after s.machine
    reported := s.reported ++ (turn.event s.machine).toList.map fun event => (none, event) }

def step (growth : Growth) (a : Action) (s : State) : Option State :=
  match a with
  | .wakes id token refusal => match s.wakes id, refusal with
    | some _, _ => none
    | none, none => some { s with
        machine := { s.machine with port := s.machine.port ++ [.packet (wakeEvent token)] }
        wakes := Function.update s.wakes id (some ⟨token, false⟩)
        posts := s.posts ++ [id]
        queued := s.queued ++ [id]
        packets := s.packets + 1 }
    -- the packet is deleted before the exception leaves
    | none, some _ => some { s with wakes := Function.update s.wakes id (some ⟨token, true⟩) }
  | .completes handle ok => some { s with
      machine := { s.machine with port := s.machine.port ++ [.io handle ok] } }
  | .finishes turn => match turn with
    | .finishes .. => some { s with machine := turn.after s.machine }
    | _ => none
  | .calls call reply =>
    let after := (call.perform backend reply (selector s.machine)).2
    some { s with machine := { s.machine with table := after.registrations, heap := after.backend } }
  | .pollBegins events => match s.poll with
    | none => some { s with poll := if events.clear.capacity = 0 then none else some events.clear }
    | some _ => none
  | .takes turn => match s.poll with
    | none => none
    | some events =>
      if events.size < events.capacity then some { s.taken turn with
        poll := if (turn.thrown s.machine).isSome then none
          else some (events.pushAll growth (turn.event s.machine).toList) }
      else none
  | .pollReturns => match s.poll with
    | none => none
    | some events =>
      -- a wait times out only with nothing in the port
      if events.size < events.capacity ∧ s.machine.port ≠ [] then none else some { s with poll := none }
  | .pollFails _ => match s.poll with
    | none => none
    | some events => if events.size < events.capacity then some { s with poll := none } else none

/-- The wakes that have been reported, in order. -/
def State.delivered (s : State) : List Nat := s.reported.filterMap Prod.fst

/-- The event is that of a wake whose packet was posted. -/
def Answers (wakes : Nat → Option Wake) (id : Nat) (event : Event) : Prop :=
  ∃ token, wakes id = some ⟨token, false⟩ ∧ event = wakeEvent token

/-- Where every wake stands. -/
structure Accounted (s : State) : Prop where
  /-- What was posted is reported, in the same order, or is still in the port. -/
  order : s.posts = s.delivered ++ s.queued
  once : s.posts.Nodup
  posted : ∀ id, id ∈ s.posts ↔ ∃ token, s.wakes id = some ⟨token, false⟩
  port : List.Forall₂ (Answers s.wakes) s.queued (packetsOf s.machine.port)
  events : ∀ id event, (some id, event) ∈ s.reported → Answers s.wakes id event
  packets : s.packets = s.queued.length
  current : ∀ events, s.poll = some events → ∃ before, s.reported.map Prod.snd = before ++ events.items

theorem Answers.update {wakes : Nat → Option Wake} {id other : Nat} {event : Event}
    (h : Answers wakes id event) (hnew : wakes other = none) (wake : Wake) :
    Answers (Function.update wakes other (some wake)) id event := by
  obtain ⟨token, hwake, hevent⟩ := h
  refine ⟨token, ?_, hevent⟩
  rw [Function.update_of_ne ?_, hwake]
  rintro rfl
  rw [hnew] at hwake
  cases hwake

/-- A wake that throws has posted nothing. -/
theorem Accounted.refused {s : State} (h : Accounted s) {id : Nat} (hnew : s.wakes id = none)
    (token : Token) :
    Accounted { s with wakes := Function.update s.wakes id (some ⟨token, true⟩) } where
  order := h.order
  once := h.once
  posted other := by
    rw [h.posted]
    by_cases hother : other = id
    · subst hother
      simp [hnew]
    · simp only [Function.update_of_ne hother]
  port := h.port.imp fun _ _ hanswers => hanswers.update hnew _
  events other event hmem := (h.events other event hmem).update hnew _
  packets := h.packets
  current := h.current

/-- A wake that returns has put its packet behind the others. -/
theorem Accounted.posts {s : State} (h : Accounted s) {id : Nat} (hnew : s.wakes id = none)
    (token : Token) :
    Accounted { s with
      machine := { s.machine with port := s.machine.port ++ [.packet (wakeEvent token)] }
      wakes := Function.update s.wakes id (some ⟨token, false⟩)
      posts := s.posts ++ [id]
      queued := s.queued ++ [id]
      packets := s.packets + 1 } where
  order := by
    change s.posts ++ [id] = s.delivered ++ (s.queued ++ [id])
    rw [h.order, List.append_assoc]
  once := by
    have hfresh : id ∉ s.posts := by simp [h.posted, hnew]
    exact List.nodup_append.mpr ⟨h.once, by simp, by simpa using fun other hmem => (ne_of_mem_of_not_mem hmem hfresh)⟩
  posted other := by
    rw [List.mem_append, List.mem_singleton, h.posted]
    by_cases hother : other = id
    · subst hother
      simp
    · simp [hother]
  port := by
    have hport : packetsOf (s.machine.port ++ [.packet (wakeEvent token)]) =
        packetsOf s.machine.port ++ [wakeEvent token] := List.filterMap_append
    change List.Forall₂ _ _ (packetsOf (s.machine.port ++ [.packet (wakeEvent token)]))
    rw [hport]
    refine List.rel_append (h.port.imp fun _ _ hanswers => hanswers.update hnew _) ?_
    exact .cons ⟨token, Function.update_self _ _ _, rfl⟩ .nil
  events other event hmem := (h.events other event hmem).update hnew _
  packets := by
    rw [List.length_append, h.packets]
    rfl
  current := h.current

/-- A step that moves no packet and pushes nothing. -/
theorem Accounted.set_machine {s : State} (h : Accounted s) {machine : Machine}
    (hport : packetsOf machine.port = packetsOf s.machine.port) :
    Accounted { s with machine := machine } :=
  { h with port := hport ▸ h.port }

theorem Accounted.set_poll {s : State} (h : Accounted s) {poll : Option Events}
    (hpoll : ∀ events, poll = some events → events.items = []) : Accounted { s with poll := poll } :=
  { h with current := fun events he => ⟨s.reported.map Prod.snd, by rw [hpoll events he, List.append_nil]⟩ }

/-- The turns that dequeue no packet leave the packets alone. -/
theorem packetsOf_after {m : Machine} {turn : Turn} (h : takesPacket m turn = false) :
    packetsOf (turn.after m).port = packetsOf m.port := by
  cases turn with
  | posted =>
    cases hport : m.port with
    | nil => simp [Turn.after, hport]
    | cons entry port =>
      cases entry with
      | packet event => simp [takesPacket, hport] at h
      | io handle ok => simp [Turn.after, hport, packetsOf]
  | polled ref op r =>
    simp only [Turn.after]
    split <;> rfl
  | finishes ref op status handles events =>
    simp only [Turn.after]
    split
    · split <;> rfl
    · rfl

/-- The turn that dequeues a packet pushes its event. -/
theorem takesPacket_eq {m : Machine} {turn : Turn} (h : takesPacket m turn = true) :
    ∃ event port, m.port = .packet event :: port ∧ turn.event m = some event ∧
      (turn.after m).port = port := by
  cases turn with
  | posted =>
    cases hport : m.port with
    | nil => simp [takesPacket, hport] at h
    | cons entry port =>
      cases entry with
      | packet event => exact ⟨event, port, rfl, by simp [Turn.event, hport], by simp [Turn.after, hport]⟩
      | io handle ok => simp [takesPacket, hport] at h
  | polled ref op r => cases h
  | finishes ref op status handles events => cases h

theorem Accounted.taken {s : State} (h : Accounted s) (turn : Turn) {events : Events}
    (hpoll : s.poll = some events) (growth : Growth) (poll : Option Events)
    (hnext : ∀ events', poll = some events' →
      events' = events.pushAll growth (turn.event s.machine).toList) :
    Accounted { s.taken turn with poll := poll } := by
  obtain ⟨before, hbefore⟩ := h.current events hpoll
  have hcurrent : ∀ tag : Option Nat, ∀ events', poll = some events' →
      ∃ before, (s.reported ++ (turn.event s.machine).toList.map fun event => (tag, event)).map Prod.snd =
        before ++ events'.items := by
    intro tag events' he
    refine ⟨before, ?_⟩
    rw [hnext events' he, Events.pushAll_items, List.map_append, hbefore, List.map_map, List.append_assoc]
    congr 2
    exact List.map_id _
  unfold State.taken
  split
  · rename_i htakes
    obtain ⟨event, port, hport, hevent, hafter⟩ := takesPacket_eq htakes
    -- the first wake that is queued is the one of this packet
    have hqueued : List.Forall₂ (Answers s.wakes) s.queued (event :: packetsOf port) := by
      have hall := h.port
      rw [hport] at hall
      exact hall
    cases hq : s.queued with
    | nil =>
      rw [hq] at hqueued
      cases hqueued
    | cons id rest =>
      rw [hq] at hqueued
      obtain ⟨hanswers, hrest⟩ := List.forall₂_cons.mp hqueued
      exact {
        order := by
          change s.posts = (s.reported ++ _).filterMap Prod.fst ++ rest
          rw [hevent, List.filterMap_append, h.order, hq]
          simp [State.delivered]
        once := h.once
        posted := h.posted
        port := by
          change List.Forall₂ _ rest (packetsOf (turn.after s.machine).port)
          rw [hafter]
          exact hrest
        events := by
          intro other event' hmem
          rw [hevent] at hmem
          rcases List.mem_append.mp hmem with hold | hnew
          · exact h.events other event' hold
          · simp only [Option.toList_some, List.map_cons, List.map_nil, List.head?_cons,
              List.mem_singleton, Prod.mk.injEq, Option.some.injEq] at hnew
            obtain ⟨rfl, rfl⟩ := hnew
            exact hanswers
        packets := by
          change s.packets - 1 = rest.length
          rw [h.packets, hq]
          rfl
        current := hcurrent _ }
  · rename_i htakes
    have hport := packetsOf_after (Bool.not_eq_true _ ▸ htakes)
    exact {
      order := by
        change s.posts = (s.reported ++ _).filterMap Prod.fst ++ s.queued
        have hnone : ((turn.event s.machine).toList.map fun event => ((none : Option Nat), event)).filterMap
            Prod.fst = [] := by
          cases turn.event s.machine <;> rfl
        rw [List.filterMap_append, hnone, List.append_nil]
        exact h.order
      once := h.once
      posted := h.posted
      port := by
        change List.Forall₂ _ s.queued (packetsOf (turn.after s.machine).port)
        rw [hport]
        exact h.port
      events := by
        intro other event' hmem
        rcases List.mem_append.mp hmem with hold | hnew
        · exact h.events other event' hold
        · simp at hnew
      packets := h.packets
      current := hcurrent _ }

theorem step_accounted {growth : Growth} (a : Action) {s t : State} (h : Accounted s)
    (hstep : step growth a s = some t) : Accounted t := by
  cases a with
  | wakes id token refusal =>
    simp only [step] at hstep
    split at hstep
    · cases hstep
    · rename_i hnew
      cases hstep
      exact h.posts hnew token
    · rename_i hnew
      cases hstep
      exact h.refused hnew token
  | completes handle ok =>
    cases hstep
    exact h.set_machine (by simp [packetsOf])
  | finishes turn =>
    cases turn with
    | posted => cases hstep
    | polled ref op r => cases hstep
    | finishes ref op status handles events =>
      cases hstep
      exact h.set_machine (packetsOf_after rfl)
  | calls call reply =>
    cases hstep
    exact h.set_machine rfl
  | pollBegins events =>
    simp only [step] at hstep
    split at hstep
    · cases hstep
      refine h.set_poll fun events' he => ?_
      split at he
      · cases he
      · cases he
        rfl
    · cases hstep
  | takes turn =>
    simp only [step] at hstep
    split at hstep
    · cases hstep
    · rename_i events hpoll
      split at hstep
      · cases hstep
        refine h.taken turn hpoll growth _ fun events' he => ?_
        split at he
        · cases he
        · exact (Option.some.inj he).symm
      · cases hstep
  | pollReturns =>
    simp only [step] at hstep
    split at hstep
    · cases hstep
    · split at hstep
      · cases hstep
      · cases hstep
        exact h.set_poll (by simp)
  | pollFails error =>
    simp only [step] at hstep
    split at hstep
    · cases hstep
    · split at hstep
      · cases hstep
        exact h.set_poll (by simp)
      · cases hstep

/-- No wake yet, and nothing in the port. -/
def start (m : Machine) : State := ⟨{ m with port := [] }, none, fun _ => none, [], [], 0, []⟩

theorem start_accounted (m : Machine) : Accounted (start m) :=
  ⟨rfl, .nil, by simp [start], .nil, by simp [start], rfl, by simp [start]⟩

/-- Left alone, the steps of a poll push what `select_iocp` pushes and leave the machine
as it does. -/
theorem loop_follows_selectIocp {growth : Growth} (ending : Option Errno) (turns : List Turn)
    {events : Events} {s : State} (hpoll : s.poll = some events)
    {before : List Event} (hreported : s.reported.map Prod.snd = before ++ events.items) :
    ∃ t, Reachable (step growth) s t ∧
      t.machine = (selectIocp growth ending turns events s.machine).2.2 ∧
      t.reported.map Prod.snd =
        before ++ (selectIocp growth ending turns events s.machine).2.1.items := by
  have hstop : ∀ result, ∃ t, Reachable (step growth) s t ∧
      t.machine = (result, events, s.machine).2.2 ∧
      t.reported.map Prod.snd = before ++ ((result : Except Exception Unit), events, s.machine).2.1.items :=
    fun _ => ⟨s, .refl, rfl, hreported⟩
  induction turns generalizing events s with
  | nil =>
    unfold selectIocp
    split
    · cases ending <;> exact hstop _
    · exact hstop _
  | cons turn turns ih =>
    unfold selectIocp
    split
    · rename_i hroom
      have hstep : step growth (.takes turn) s = some { s.taken turn with
          poll := if (turn.thrown s.machine).isSome then none
            else some (events.pushAll growth (turn.event s.machine).toList) } := by
        simp only [step, hpoll, if_pos hroom]
      have hmachine : (s.taken turn).machine = turn.after s.machine := by
        unfold State.taken
        split <;> rfl
      have hpushed : (s.taken turn).reported.map Prod.snd =
          before ++ (events.pushAll growth (turn.event s.machine).toList).items := by
        rw [Events.pushAll_items, ← List.append_assoc, ← hreported]
        unfold State.taken
        split <;> simp [Function.comp_def]
      have hfirst : Reachable (step growth) s _ := .tail (.takes turn) .refl trivial hstep
      dsimp only
      cases hthrown : turn.thrown s.machine with
      | some e => exact ⟨_, hfirst, hmachine, hpushed⟩
      | none =>
        rw [hthrown] at hfirst
        obtain ⟨t, hrest, ht, hitems⟩ := ih (s := { s.taken turn with
          poll := some (events.pushAll growth (turn.event s.machine).toList) }) rfl hpushed
          fun _ => ⟨_, .refl, rfl, hpushed⟩
        refine ⟨t, hfirst.trans hrest, ?_, ?_⟩
        · rw [ht]
          exact congrArg (fun m => (selectIocp growth ending turns _ m).2.2) hmachine
        · rw [hitems]
          exact congrArg (fun m => before ++ (selectIocp growth ending turns _ m).2.1.items) hmachine
    · exact hstop _

/-! Polling takes every packet. -/

/-- The steps of a thread that polls and finds entries of the port. -/
def polling : Action → State → Prop
  | .pollBegins _, _ => True
  | .takes .posted, _ => True
  | .pollReturns, _ => True
  | _, _ => False

/-- A poll with room can be begun, after the one in progress has returned if it is full. -/
theorem room_reached (growth : Growth) (s : State) :
    ∃ t events, Reach (step growth) polling s t ∧ t.machine = s.machine ∧ t.posts = s.posts ∧
      t.poll = some events ∧ events.size < events.capacity := by
  have hbegin : ∀ u : State, u.poll = none → ∃ t events, Reach (step growth) polling u t ∧
      t.machine = u.machine ∧ t.posts = u.posts ∧ t.poll = some events ∧
      events.size < events.capacity := by
    intro u hnone
    refine ⟨{ u with poll := some ⟨1, [], by decide⟩ }, ⟨1, [], by decide⟩,
      .tail (.pollBegins ⟨1, [], by decide⟩) .refl trivial ?_, rfl, rfl, rfl, by decide⟩
    simp only [step, hnone]
    rfl
  cases hpoll : s.poll with
  | none => exact hbegin s hpoll
  | some events =>
    by_cases hroom : events.size < events.capacity
    · exact ⟨s, events, .refl, rfl, rfl, hpoll, hroom⟩
    · have hreturn : step growth .pollReturns s = some { s with poll := none } := by
        simp only [step, hpoll, hroom, false_and, if_false]
      obtain ⟨t, events', hreach, hrest⟩ := hbegin { s with poll := none } rfl
      exact ⟨t, events', (Reach.tail .pollReturns .refl trivial hreturn).trans hreach, hrest⟩

theorem drained_reached (growth : Growth) (s : State) :
    ∃ t, Reach (step growth) polling s t ∧ t.machine.port = [] ∧ t.posts = s.posts := by
  induction hport : s.machine.port generalizing s with
  | nil => exact ⟨s, .refl, hport, rfl⟩
  | cons entry port ih =>
    obtain ⟨u, events, hreach, hmachine, hposts, hpoll, hroom⟩ := room_reached growth s
    have hstep : step growth (.takes .posted) u = some { u.taken .posted with
        poll := some (events.pushAll growth (Turn.posted.event u.machine).toList) } := by
      simp only [step, hpoll, if_pos hroom]
      rfl
    have hafter : (u.taken .posted).machine.port = port ∧ (u.taken .posted).posts = u.posts := by
      unfold State.taken
      split <;> simp [Turn.after, hmachine, hport]
    obtain ⟨t, hrest, hempty, hsame⟩ := ih { u.taken .posted with
      poll := some (events.pushAll growth (Turn.posted.event u.machine).toList) } hafter.1
    exact ⟨t, (hreach.trans (.tail (.takes .posted) .refl trivial hstep)).trans hrest, hempty,
      (hsame.trans hafter.2).trans hposts⟩

/-- Every wake that returns is reported exactly once and in order: what was posted is
reported or in the port, a poll that returns with room to spare has reported all of it,
and polling alone comes to where all of it is reported. -/
theorem wake_ups_delivered_once (growth : Growth) (m : Machine) {s : State}
    (h : Reachable (step growth) (start m) s) :
    Accounted s ∧
    (∀ events t, s.poll = some events → events.size < events.capacity →
      step growth .pollReturns s = some t → s.delivered = s.posts) ∧
    ∃ t, Reach (step growth) polling s t ∧ t.delivered = s.posts := by
  have hkept : ∀ {u v : State} {ok : Action → State → Prop}, Accounted u → Reach (step growth) ok u v →
      Accounted v := fun hu hreach => hreach.invariant hu fun a _ _ hv _ hstep => step_accounted a hv hstep
  have haccounted : Accounted s := hkept (start_accounted m) h
  have hempty : ∀ {u : State}, Accounted u → u.machine.port = [] → u.delivered = u.posts := by
    intro u hu hport
    have hqueued : u.queued = [] := by
      have hall := hu.port
      rw [hport] at hall
      exact List.forall₂_nil_right_iff.mp hall
    rw [hu.order, hqueued, List.append_nil]
  refine ⟨haccounted, fun events t hpoll hroom hstep => ?_, ?_⟩
  · refine hempty haccounted ?_
    by_contra hport
    simp only [step, hpoll, if_pos (And.intro hroom hport)] at hstep
    cases hstep
  · obtain ⟨t, hreach, hport, hposts⟩ := drained_reached growth s
    exact ⟨t, hreach, (hempty (hkept haccounted hreach) hport).trans hposts⟩

/-- The port refuses the second wake, and the poll fails between the first and the third. -/
theorem wake_ups_delivered_once_failed_poll :
    ∃ s, Reachable (step ⟨Nat.succ, Nat.lt_succ_self⟩) (start ⟨fun _ => none, ⟨fun _ => none, 0⟩, []⟩) s ∧
      s.poll = none ∧ s.delivered = [0] ∧ s.queued = [2] ∧ Accounted s := by
  have h : Reachable (step ⟨Nat.succ, Nat.lt_succ_self⟩)
      (start ⟨fun _ => none, ⟨fun _ => none, 0⟩, []⟩) _ :=
    reachable_of_run [.wakes 0 ⟨1⟩ none, .wakes 1 ⟨1⟩ (some EINVAL), .wakes 2 ⟨1⟩ none,
      .pollBegins ⟨2, [], by decide⟩, .takes .posted, .pollFails EINVAL] rfl
  exact ⟨_, h, rfl, rfl, rfl, (wake_ups_delivered_once _ _ h).1⟩

end PortWaker
