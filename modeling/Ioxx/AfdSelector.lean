import Ioxx.AfdEmission
import Ioxx.Net

/-!
# The Windows backend, and which sources it really watches

The table of a Windows selector refers to AFD socket states, which live in a
heap of systems that satisfy `Sound`. Whether a registration creates or arms such
a state depends on the kind the source reports, while the success of the call
does not: `TcpStream` inherits the kind `raw_descriptor` and is never armed.
-/

namespace AfdSelector

open Core Detail Registry Afd Net

/-- The socket states of a selector, each with its operations. -/
structure Heap where
  systems : AfdRef → Option { system : System // Sound system }
  next : AfdRef

/-- What Windows answers during one call: the base socket, the native API, and
the error of `CreateIoCompletionPort` for a handle, if any. -/
structure Reply where
  baseSocket : Except ErrorCode NativeHandle
  nt : NtReply
  port : Option ErrorCode

/-- `set_afd_interest` as a whole, with no other thread in between. -/
def setInterest (r : NtReply) (token : Token) (interests : Interest) (system : System) : System :=
  issueStep r { system with
    state := setAfdInterest token interests system.state
    log := .armed token interests :: system.log }

/-- The exception that leaves `set_afd_interest`, if any. -/
def thrown (r : NtReply) (token : Token) (interests : Interest) (system : System) :
    Option Exception :=
  (issueAfdPoll r (setAfdInterest token interests system.state)).1.thrown

/-- The two halves are two steps of the system. -/
theorem setInterest_run (r : NtReply) (token : Token) (interests : Interest) (system : System) :
    Runs.run step [.arm token interests, .issue r] system =
      some (setInterest r token interests system) := rfl

theorem setInterest_sound (r : NtReply) (token : Token) (interests : Interest) {system : System}
    (h : Sound system) : Sound (setInterest r token interests system) :=
  issueStep_sound r (h.of_perm .rfl rfl rfl rfl rfl)

def Heap.store (heap : Heap) (ref : AfdRef) (system : { system : System // Sound system }) : Heap :=
  { heap with systems := Function.update heap.systems ref (some system) }

/-- `set_afd_interest` on a state of the heap. -/
def Heap.setInterest (r : NtReply) (token : Token) (interests : Interest) (ref : AfdRef)
    (system : { system : System // Sound system }) (heap : Heap) : Except Exception Unit × Heap :=
  let heap := heap.store ref ⟨AfdSelector.setInterest r token interests system.val,
    setInterest_sound r token interests system.property⟩
  match thrown r token interests system.val with
  | some e => (.error e, heap)
  | none => (.ok (), heap)

def addToBackend (reply : Reply) (handle : NativeHandle) (kind : SourceKind) (token : Token)
    (interests : Interest) (heap : Heap) : Except Exception (Option AfdRef) × Heap :=
  match kind with
  | .socket => match reply.baseSocket with
    | .error code => (.error (.systemError code "WSAIoctl(SIO_BASE_HANDLE)"), heap)
    | .ok baseSocket =>
      match Heap.setInterest reply.nt token interests heap.next
          ⟨Afd.initial handle baseSocket, sound_initial handle baseSocket⟩
          { heap with next := heap.next + 1 } with
      | (.error e, heap') => (.error e, heap')
      | (.ok _, heap') => (.ok (some heap.next), heap')
  | .handle => match reply.port with
    | some code => (.error (.systemError code "CreateIoCompletionPort(handle)"), heap)
    | none => (.ok none, heap)
  | _ => (.ok none, heap)

/-- The state an entry refers to. -/
def Heap.find (heap : Heap) (registration : Option Registration) :
    Option (AfdRef × { system : System // Sound system }) :=
  registration.bind fun r => r.afdState.bind fun ref =>
    (heap.systems ref).map fun system => (ref, system)

def updateBackend (reply : Reply) (registration : Option Registration) (kind : SourceKind)
    (token : Token) (interests : Interest) (heap : Heap) : Except Exception Unit × Heap :=
  match kind with
  | .socket => match heap.find registration with
    | some (ref, system) => Heap.setInterest reply.nt token interests ref system heap
    | none => (.ok (), heap)
  | _ => (.ok (), heap)

theorem removed_sound (r : NtReply) {system : System} (h : Sound system) :
    Sound { system with state := Afd.removeFromBackend r system.state, log := .deleted :: system.log } :=
  step_sound (.remove r) h rfl

def removeFromBackend (reply : Reply) (registration : Registration) (heap : Heap) : Heap :=
  match heap.find (some registration) with
  | some (ref, system) => heap.store ref ⟨_, removed_sound reply.nt system.property⟩
  | none => heap

def backend : Backend Heap Reply where
  platform := .windows
  addToBackend := addToBackend
  updateBackend reply registration _ := updateBackend reply registration
  removeFromBackend := removeFromBackend

/-- A state is armed for the whole of the given interests: a poll that covers them
is pending, or a cancelled one is still to be taken over and then reissued. -/
def ArmedFor (token : Token) (interests : Interest) (system : System) : Prop :=
  system.state.token = token ∧ system.state.interests = interests ∧
    system.state.userEvents = interestsToAfdFlags interests ∧ system.state.deletePending = false ∧
    Armed system

/-- The selector watches the handle under the given token and interests. -/
def Watched (s : Selector Heap) (handle : NativeHandle) (token : Token) (interests : Interest) : Prop :=
  ∃ ref system, s.backend.find (s.registrations handle) = some (ref, system) ∧
    ArmedFor token interests system.val

theorem interestsToAfdFlags_ne_zero (interests : Interest) : interestsToAfdFlags interests ≠ 0#32 := by
  intro h
  have hbit := congrArg (fun flags : ULONG => flags.getLsbD 8) h
  simp [interestsToAfdFlags, afdPollConnectFail] at hbit

/-- Unless a native call fails, `set_afd_interest` arms every state that is not
being deleted, and no other. -/
theorem setInterest_armed_iff (r : NtReply) (token : Token) (interests : Interest) {system : System}
    (hs : Sound system) (hr : r.succeeds) :
    ArmedFor token interests (setInterest r token interests system) ↔
      system.state.deletePending = false := by
  have hsound := setInterest_sound r token interests hs
  have hstate : (setInterest r token interests system).state =
      (issueAfdPoll r (setAfdInterest token interests system.state)).2 := issueStep_state _ _
  have hvisible : visible (setInterest r token interests system).state =
      (token, interests, interestsToAfdFlags interests, system.state.deletePending) := by
    rw [hstate, issueAfdPoll_visible]
    rfl
  have hsettled : Settled (setInterest r token interests system).state := by
    rw [hstate]
    exact issueAfdPoll_settles r _ hr
  simp only [visible, Prod.mk.injEq] at hvisible
  obtain ⟨htoken, hinterests, huser, hdelete⟩ := hvisible
  constructor
  · intro h; rw [← hdelete]; exact h.2.2.2.1
  · intro h
    have hwanted : Wanted (setInterest r token interests system) :=
      ⟨by rw [huser]; exact interestsToAfdFlags_ne_zero interests, hdelete.trans h⟩
    exact ⟨htoken, hinterests, huser, hwanted.2, armed_of_settled hsound hsettled hwanted⟩

@[simp] theorem find_store (heap : Heap) (ref : AfdRef) (system : { system : System // Sound system })
    {r : Registration} (h : r.afdState = some ref) :
    (heap.store ref system).find (some r) = some (ref, system) := by
  simp [Heap.find, Heap.store, h]

theorem find_ref {heap : Heap} {r : Registration} {ref : AfdRef}
    {system : { system : System // Sound system }} (h : heap.find (some r) = some (ref, system)) :
    r.afdState = some ref := by
  obtain ⟨r', hr, hbind⟩ := Option.bind_eq_some_iff.mp h
  cases hr
  obtain ⟨ref', href, hmap⟩ := Option.bind_eq_some_iff.mp hbind
  obtain ⟨system', _, hpair⟩ := Option.map_eq_some_iff.mp hmap
  cases hpair
  exact href

/-- `update_backend` looks at the socket state of an entry only. -/
theorem find_reassigned (heap : Heap) (kind : SourceKind) (token : Token) (interests : Interest)
    (r : Registration) : heap.find (some (reassigned kind token interests r)) = heap.find (some r) :=
  rfl

theorem Heap.setInterest_heap (r : NtReply) (token : Token) (interests : Interest) (ref : AfdRef)
    (system : { system : System // Sound system }) (heap : Heap) :
    (Heap.setInterest r token interests ref system heap).2 =
      heap.store ref ⟨AfdSelector.setInterest r token interests system.val,
        setInterest_sound r token interests system.property⟩ := by
  unfold Heap.setInterest
  dsimp only
  split <;> rfl

/-- What must hold before an update for the handle to be watched after it: a
socket needs a state that is not being deleted; any other kind is not touched. -/
def Rewatched (s : Selector Heap) (handle : NativeHandle) (kind : SourceKind) (token : Token)
    (interests : Interest) : Prop :=
  match kind with
  | .socket => ∃ ref system, s.backend.find (s.registrations handle) = some (ref, system) ∧
      system.val.state.deletePending = false
  | _ => Watched s handle token interests

/-- The selector after an update that found the entry `r`. -/
def updated (reply : Reply) (handle : NativeHandle) (kind : SourceKind) (token : Token)
    (interests : Interest) (r : Registration) (s : Selector Heap) : Selector Heap :=
  { s with
    registrations :=
      Function.update s.registrations handle (some (reassigned kind token interests r))
    backend := (updateBackend reply (some (reassigned kind token interests r)) kind token interests
      s.backend).2 }

theorem updated_watched_iff (reply : Reply) (hnt : reply.nt.succeeds) (handle : NativeHandle)
    (kind : SourceKind) (token : Token) (interests : Interest) {r : Registration}
    {s : Selector Heap} (hr : s.registrations handle = some r) :
    Watched (updated reply handle kind token interests r s) handle token interests ↔
      Rewatched s handle kind token interests := by
  have hentry : (updated reply handle kind token interests r s).registrations handle =
      some (reassigned kind token interests r) := Function.update_self _ _ _
  have huntouched : (updated reply handle kind token interests r s).backend = s.backend →
      (Watched (updated reply handle kind token interests r s) handle token interests ↔
        Watched s handle token interests) := by
    intro hsame
    rw [Watched, Watched, hentry, hsame, find_reassigned, hr]
  cases kind with
  | handle => exact huntouched rfl
  | rawDescriptor => exact huntouched rfl
  | waker => exact huntouched rfl
  | socket =>
    unfold Watched Rewatched
    rw [hentry, hr]
    cases hf : s.backend.find (some r) with
    | none =>
      have hsame : (updated reply handle .socket token interests r s).backend = s.backend := by
        simp only [updated, updateBackend, find_reassigned, hf]
      rw [hsame, find_reassigned, hf]
      simp
    | some found =>
      obtain ⟨ref, system⟩ := found
      have hstore : (updated reply handle .socket token interests r s).backend =
          s.backend.store ref ⟨setInterest reply.nt token interests system.val,
            setInterest_sound reply.nt token interests system.property⟩ := by
        simp only [updated, updateBackend, find_reassigned, hf, Heap.setInterest_heap]
      have hafd : (reassigned .socket token interests r).afdState = some ref := find_ref hf
      have harmed := setInterest_armed_iff reply.nt token interests system.property hnt
      rw [hstore, find_store _ _ _ hafd]
      constructor
      · rintro ⟨ref', system', hfound, h⟩
        cases hfound
        exact ⟨ref, system, rfl, harmed.mp h⟩
      · rintro ⟨ref', system', hfound, h⟩
        cases hfound
        exact ⟨ref, _, rfl, harmed.mpr h⟩

/-- A new registration is watched exactly when its kind is `socket`. -/
theorem added_watched_iff (reply : Reply) (hnt : reply.nt.succeeds) (handle : NativeHandle)
    (kind : SourceKind) (token : Token) (interests : Interest) {s : Selector Heap}
    {afdState : Option AfdRef} {heap : Heap}
    (hb : addToBackend reply handle kind token interests s.backend = (.ok afdState, heap)) :
    Watched { s with
      registrations := Function.update s.registrations handle
        (some ⟨handle, kind, token, interests, false, afdState⟩)
      backend := heap } handle token interests ↔ kind = .socket := by
  have hunwatched : afdState = none → ¬ Watched { s with
      registrations := Function.update s.registrations handle
        (some ⟨handle, kind, token, interests, false, afdState⟩)
      backend := heap } handle token interests := by
    rintro rfl ⟨ref, system, hfound, _⟩
    simp [Heap.find] at hfound
  cases kind with
  | socket =>
    refine iff_of_true ?_ rfl
    cases hbase : reply.baseSocket with
    | error code => simp [addToBackend, hbase] at hb
    | ok baseSocket =>
      have hsound := sound_initial handle baseSocket
      have hheap := Heap.setInterest_heap reply.nt token interests s.backend.next
        ⟨Afd.initial handle baseSocket, hsound⟩ { s.backend with next := s.backend.next + 1 }
      simp only [addToBackend, hbase] at hb
      cases hset : Heap.setInterest reply.nt token interests s.backend.next
          ⟨Afd.initial handle baseSocket, hsound⟩ { s.backend with next := s.backend.next + 1 } with
      | mk result heap' =>
        rw [hset] at hb hheap
        cases result with
        | error e => simp at hb
        | ok u =>
          simp only [Prod.mk.injEq, Except.ok.injEq] at hb
          obtain ⟨rfl, rfl⟩ := hb
          refine ⟨s.backend.next, ⟨setInterest reply.nt token interests
            (Afd.initial handle baseSocket), setInterest_sound reply.nt token interests hsound⟩, ?_,
            (setInterest_armed_iff reply.nt token interests hsound hnt).mpr rfl⟩
          simp only [Function.update_self]
          rw [show heap' = _ from hheap]
          exact find_store _ _ _ rfl
  | handle =>
    refine iff_of_false (hunwatched ?_) (by simp)
    cases hport : reply.port with
    | some code => simp [addToBackend, hport] at hb
    | none =>
      simp only [addToBackend, hport, Prod.mk.injEq, Except.ok.injEq] at hb
      exact hb.1.symm
  | rawDescriptor =>
    refine iff_of_false (hunwatched ?_) (by simp)
    simp only [addToBackend, Prod.mk.injEq, Except.ok.injEq] at hb
    exact hb.1.symm
  | waker =>
    refine iff_of_false (hunwatched ?_) (by simp)
    simp only [addToBackend, Prod.mk.injEq, Except.ok.injEq] at hb
    exact hb.1.symm

variable {A : Type} [Inhabited A]

/-- A socket source is watched after a call that reports success, or after I/O
that would block on a registered source, exactly when it reports the kind
`socket` and, for a call on an existing entry, that entry has a live state; a
source of another kind is at most watched as it was before. -/
theorem socket_source_watched_iff (reply reply' : Reply) (hnt : reply.nt.succeeds) (source : Source)
    (hkind : keepsCopy source.type = true) (s : Selector Heap) :
    (∀ token interests source' t,
      registerSource backend reply reply' source token interests s = .returned (none, source', t) →
      (Watched t source.handle token interests ↔ sourceKind .windows source.type = .socket)) ∧
    (∀ token interests source' t,
      reregister backend reply reply' source token interests s = .returned (none, source', t) →
      (Watched t source.handle token interests ↔
        Rewatched s source.handle (sourceKind .windows source.type) token interests)) ∧
    (∀ (call : IoCall A) ec value t, WouldBlock backend call source ec → source.registered = true →
      source.interests.empty = false →
      call.perform backend reply source s = .returned (some ec, value, t) →
      (Watched t source.handle source.token source.interests ↔
        Rewatched s source.handle (sourceKind .windows source.type) source.token source.interests)) := by
  have hsignals : source.type ≠ .signals := by
    intro h
    rw [h] at hkind
    cases hkind
  refine ⟨?_, ?_, ?_⟩
  · intro token interests source' t hcall
    rcases registerSource_cases backend reply reply' source token interests s hsignals with
      ⟨_, code, heap, he⟩ | ⟨_, afdState, heap, hb, he⟩
    · rw [he] at hcall; cases hcall
    · rw [he] at hcall
      cases hcall
      exact added_watched_iff reply hnt source.handle _ token interests hb
  · intro token interests source' t hcall
    rcases reregister_cases backend reply reply' source token interests s hsignals with
      ⟨code, he⟩ | ⟨_, r, result, heap, hr, hb, ⟨e, _, he⟩ | ⟨_, he⟩⟩
    · rw [he] at hcall; cases hcall
    · rw [he] at hcall; cases hcall
    · have hheap : heap = (updateBackend reply (some (reassigned (sourceKind .windows source.type)
          token interests r)) (sourceKind .windows source.type) token interests s.backend).2 :=
        (congrArg Prod.snd hb).symm
      rw [he, hheap] at hcall
      cases hcall
      exact updated_watched_iff reply hnt source.handle _ token interests hr
  · intro call ec value t hblock hregistered hnonempty hcall
    obtain ⟨fallback, _, hperform⟩ := perform_wouldBlock backend reply call source s hblock
    cases hrearm : rearmAfterWouldBlock backend reply source s with
    | mk result t' =>
      rw [hperform, hrearm] at hcall
      cases result with
      | error e => cases hcall
      | ok u =>
        cases hcall
        obtain ⟨r, heap, hr, hb, ht⟩ := rearm_ok backend reply ⟨hregistered, hnonempty⟩ hrearm
        have hheap : heap = (updateBackend reply (some (reassigned (sourceKind .windows source.type)
            source.token source.interests r)) (sourceKind .windows source.type) source.token
            source.interests s.backend).2 := (congrArg Prod.snd hb).symm
        rw [ht, hheap]
        exact updated_watched_iff reply hnt source.handle _ source.token source.interests hr

/-- A selector without registrations. -/
def emptySelector : Selector Heap := ⟨fun _ => none, 2 ^ 64 - 1, false, ⟨fun _ => none, 0⟩⟩

/-- Every call succeeds, and a poll stays pending. -/
def agreeable : Reply := ⟨.ok 4, pendingReply, none⟩

theorem socket_source_watched_listener :
    ∃ source' t, registerSource backend agreeable agreeable { type := .tcpListener, handle := 4 } ⟨1⟩
      Interest.READABLE emptySelector = .returned (none, source', t) ∧
      Watched t 4 ⟨1⟩ Interest.READABLE := by
  exact ⟨_, _, rfl, ((socket_source_watched_iff (A := Unit) agreeable agreeable pendingReply_succeeds
    { type := .tcpListener, handle := 4 } rfl emptySelector).1 ⟨1⟩ Interest.READABLE _ _ rfl).mpr rfl⟩

/-- A registered `TcpStream` is not watched. -/
theorem stream_unwatched :
    ¬ ∀ (reply reply' : Reply) (source : Source) (s : Selector Heap) token interests source' t,
      reply.nt.succeeds → keepsCopy source.type = true → interests.isReadable = true →
      registerSource backend reply reply' source token interests s = .returned (none, source', t) →
      Watched t source.handle token interests := by
  intro hall
  obtain ⟨ref, system, hfound, _⟩ := hall agreeable agreeable { type := .tcpStream, handle := 4 }
    emptySelector ⟨1⟩ Interest.READABLE _ _ pendingReply_succeeds rfl rfl rfl
  cases hfound

end AfdSelector
