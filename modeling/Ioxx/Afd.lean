import Ioxx.Core
import Ioxx.Runs

/-!
# One AFD socket state, its threads and the kernel

The critical sections of `set_afd_interest`, `issue_afd_poll`,
`complete_afd_operation` and `remove_from_backend` are functions on an
`AfdSocketState`. `System` adds what surrounds one such state: the operations
the kernel holds, those queued in the completion port, those a polling thread
has dequeued, and the threads that stand between two sections. `step` fires one
section, one kernel completion or one dequeue, so a run is any interleaving.
-/

namespace Afd

open Core

abbrev ULONG := BitVec 32

/-- `LONG`; the sign decides between success and failure codes. -/
abbrev NtStatus := BitVec 32

def statusSuccess : NtStatus := 0x00000000
def statusPending : NtStatus := 0x00000103
def statusCancelled : NtStatus := 0xC0000120
def statusNotFound : NtStatus := 0xC0000225

def afdPollReceive : ULONG := 0b000000001
def afdPollReceiveExpedited : ULONG := 0b000000010
def afdPollSend : ULONG := 0b000000100
def afdPollDisconnect : ULONG := 0b000001000
def afdPollAbort : ULONG := 0b000010000
def afdPollLocalClose : ULONG := 0b000100000
def afdPollAccept : ULONG := 0b010000000
def afdPollConnectFail : ULONG := 0b100000000

def afdKnownEvents : ULONG :=
  afdPollReceive ||| afdPollReceiveExpedited ||| afdPollSend ||| afdPollDisconnect |||
    afdPollAbort ||| afdPollLocalClose ||| afdPollAccept ||| afdPollConnectFail

def afdReadableFlags : ULONG :=
  afdPollReceive ||| afdPollDisconnect ||| afdPollAccept ||| afdPollAbort ||| afdPollConnectFail
def afdWritableFlags : ULONG := afdPollSend ||| afdPollAbort ||| afdPollConnectFail
def afdErrorFlags : ULONG := afdPollConnectFail
def afdReadClosedFlags : ULONG := afdPollDisconnect ||| afdPollAbort ||| afdPollConnectFail
def afdWriteClosedFlags : ULONG := afdPollAbort ||| afdPollConnectFail

def interestsToAfdFlags (interests : Interest) : ULONG :=
  (if interests.isReadable then afdReadableFlags ||| afdReadClosedFlags ||| afdErrorFlags else 0) |||
  (if interests.isWritable then afdWritableFlags ||| afdWriteClosedFlags ||| afdErrorFlags else 0) |||
  (if interests.isPriority then afdPollReceiveExpedited else 0) |||
  afdPollAbort ||| afdPollConnectFail

def afdFlagsToInterest (flags : ULONG) : Interest :=
  (if flags &&& afdReadableFlags ≠ 0#32 then Interest.READABLE else Interest.none) |||
  (if flags &&& afdWritableFlags ≠ 0#32 then Interest.WRITABLE else Interest.none) |||
  (if flags &&& afdPollReceiveExpedited ≠ 0#32 then Interest.PRIORITY else Interest.none)

/-- `AfdPollInfo` with its one `AfdPollHandleInfo` written out. -/
structure AfdPollInfo where
  timeout : Int := 0
  numberOfHandles : ULONG := 0
  exclusive : ULONG := 0
  handle : NativeHandle := 0
  events : ULONG := 0
  status : NtStatus := 0
  deriving DecidableEq, Repr

inductive AfdPollStatus where
  | idle
  | pending
  | cancelled
  deriving DecidableEq, Repr

structure AfdSocketState where
  socket : NativeHandle
  baseSocket : NativeHandle
  token : Token := ⟨0⟩
  interests : Interest := Interest.none
  userEvents : ULONG := 0
  pendingEvents : ULONG := 0
  status : AfdPollStatus := .idle
  deletePending : Bool := false
  /-- `iosb.status`; the other half of the block is never read. -/
  iosbStatus : NtStatus := 0
  pollInfo : AfdPollInfo := {}
  deriving DecidableEq, Repr

/-- What the native API answers during one critical section. `ntError` is
`nt_error` of the status that makes the section throw. The handle count and the
events are what a poll that completes at once writes back. -/
structure NtReply where
  pollStatus : NtStatus
  pollHandles : ULONG
  pollEvents : ULONG
  cancelStatus : NtStatus
  ntError : ErrorCode
  deriving DecidableEq, Repr

def throwNt (operation : String) (ntError : ErrorCode) : Exception := .systemError ntError operation

/-- The kernel writes the status block and the poll information of a finished poll. -/
def kernelWrites (status : NtStatus) (handles events : ULONG) (st : AfdSocketState) :
    AfdSocketState :=
  { st with iosbStatus := status
            pollInfo := { st.pollInfo with numberOfHandles := handles, events := events } }

/-- `AfdHelper::poll`: `true` when the poll completed at once, `false` when it is pending. -/
def poll (r : NtReply) (st : AfdSocketState) : Except Exception Bool × AfdSocketState :=
  let st := { st with iosbStatus := statusPending }
  if r.pollStatus = statusSuccess then
    (.ok true, kernelWrites r.pollStatus r.pollHandles r.pollEvents st)
  else if r.pollStatus = statusPending then (.ok false, st)
  else (.error (throwNt "NtDeviceIoControlFile(IOCTL_AFD_POLL)" r.ntError), st)

/-- `AfdHelper::cancel`: a poll the kernel has already finished is left alone. -/
def cancel (r : NtReply) (st : AfdSocketState) : Except Exception Unit :=
  if st.iosbStatus ≠ statusPending then .ok ()
  else if r.cancelStatus = statusSuccess ∨ r.cancelStatus = statusNotFound then .ok ()
  else .error (throwNt "NtCancelIoFileEx(AFD)" r.ntError)

/-- The first critical section of `set_afd_interest`. -/
def setAfdInterest (token : Token) (interests : Interest) (st : AfdSocketState) : AfdSocketState :=
  { st with token := token, interests := interests, userEvents := interestsToAfdFlags interests }

/-- How the critical section of `issue_afd_poll` ends. The mask is the one handed
to `NtDeviceIoControlFile`. -/
inductive Issued where
  | returned
  | cancelled
  | cancelThrew (e : Exception)
  | polled (mask : ULONG) (completed : Bool)
  | pollThrew (mask : ULONG) (e : Exception)
  deriving DecidableEq, Repr

/-- The exception that leaves `issue_afd_poll`, if any. -/
def Issued.thrown : Issued → Option Exception
  | .cancelThrew e => some e
  | .pollThrew _ e => some e
  | _ => none

/-- The mask of the poll that the section asked the kernel for, if it asked for one. -/
def Issued.called : Issued → Option ULONG
  | .polled mask _ => some mask
  | .pollThrew mask _ => some mask
  | _ => none

/-- The mask of a poll for everything the user waits for. -/
def requested (st : AfdSocketState) : ULONG := st.userEvents ||| afdPollLocalClose

/-- The poll information `issue_afd_poll` writes before it calls the kernel. -/
def prepared (st : AfdSocketState) : AfdSocketState :=
  { st with pollInfo := ⟨2 ^ 63 - 1, 1, 0, st.baseSocket, requested st, 0⟩ }

def issueAfdPoll (r : NtReply) (st : AfdSocketState) : Issued × AfdSocketState :=
  if st.deletePending ∨ st.userEvents = 0#32 then (.returned, st)
  else match st.status with
    | .pending =>
      if st.userEvents &&& afdKnownEvents &&& ~~~st.pendingEvents = 0#32 then (.returned, st)
      else match cancel r st with
        | .error e => (.cancelThrew e, st)
        | .ok _ => (.cancelled, { st with status := .cancelled, pendingEvents := 0#32 })
    | .cancelled => (.returned, st)
    | .idle =>
      match poll r (prepared st) with
      | (.error e, st') => (.pollThrew (requested st) e, st')
      | (.ok completed, st') => (.polled (requested st) completed,
          { st' with status := .pending, pendingEvents := st'.userEvents })

/-- What the critical section of `complete_afd_operation` decides: the token and
the mask of the event to push, and whether to issue the next poll. -/
structure Completion where
  emit : Option (Token × ULONG)
  reissue : Bool
  deriving DecidableEq, Repr

/-- The first two assignments of the section. -/
def taken (st : AfdSocketState) : AfdSocketState := { st with status := .idle, pendingEvents := 0#32 }

/-- What a finished poll reports: whether to reissue at once, and the events.
`none` stands for a local close. -/
def reportedEvents (st : AfdSocketState) : Option (Bool × ULONG) :=
  if st.iosbStatus = statusCancelled then some (decide (st.userEvents ≠ 0#32), 0#32)
  else if st.iosbStatus.toInt < 0 then some (false, afdPollConnectFail)
  else if st.pollInfo.numberOfHandles < 1 then some (decide (st.userEvents ≠ 0#32), 0#32)
  else if st.pollInfo.events &&& afdPollLocalClose ≠ 0#32 then none
  else some (false, st.pollInfo.events)

/-- The end of the section, once the reported events are known. -/
def decideEvents (reissue : Bool) (reported : ULONG) (st : AfdSocketState) :
    Completion × AfdSocketState :=
  let afdEvents := reported &&& st.userEvents
  if afdEvents ≠ 0#32 then
    let rest := st.userEvents &&& ~~~afdEvents
    (⟨some (st.token, afdEvents), reissue || decide (rest ≠ 0#32)⟩, { st with userEvents := rest })
  else (⟨none, reissue || decide (st.userEvents ≠ 0#32)⟩, st)

def completeAfdOperation (st : AfdSocketState) : Completion × AfdSocketState :=
  if st.deletePending then (⟨none, false⟩, taken st)
  else match reportedEvents (taken st) with
    | none => (⟨none, false⟩, { taken st with deletePending := true })
    | some (reissue, reported) => decideEvents reissue reported (taken st)

/-- The event pushed after the section, when it decided to emit one. -/
def Completion.event (c : Completion) : Option Event :=
  c.emit.map fun (token, afdEvents) =>
    ⟨token, afdFlagsToInterest afdEvents, decide (afdEvents &&& afdErrorFlags ≠ 0#32),
      decide (afdEvents &&& afdReadClosedFlags ≠ 0#32), decide (afdEvents &&& afdWriteClosedFlags ≠ 0#32)⟩

/-- The AFD half of `remove_from_backend`; a cancellation that throws is swallowed. -/
def removeFromBackend (r : NtReply) (st : AfdSocketState) : AfdSocketState :=
  let st := { st with deletePending := true }
  if st.status = .pending then
    match cancel r st with
    | .ok _ => { st with status := .cancelled }
    | .error _ => st
  else st

/-- An accepted poll: its number in the order of issue and its event mask. -/
structure AfdOperation where
  id : Nat
  mask : ULONG
  deriving DecidableEq, Repr

/-- What happened to the state so far, as the critical sections decided it. -/
inductive Entry where
  | armed (token : Token) (interests : Interest)
  | emitted (token : Token) (mask : ULONG)
  | called (mask : ULONG)
  | deleted
  deriving DecidableEq, Repr

/-- One socket state with its operations and threads. `arming` counts the threads
between the two halves of `set_afd_interest`, `reissuing` those between the
section of `complete_afd_operation` and its reissue. `dequeued` are the
operations taken out of the port whose section has not begun. `consumed` and
`log` (latest first) only record the history. -/
structure System where
  state : AfdSocketState
  held : List AfdOperation := []
  queued : List AfdOperation := []
  dequeued : List AfdOperation := []
  arming : Nat := 0
  reissuing : Nat := 0
  consumed : List AfdOperation := []
  nextId : Nat := 0
  log : List Entry := []
  deriving DecidableEq, Repr

/-- `AfdSocketState`'s constructor. -/
def initial (socket baseSocket : NativeHandle) : System :=
  { state := { socket := socket, baseSocket := baseSocket } }

/-- The operations that are accepted and not yet taken over by a critical section. -/
def System.inFlight (s : System) : List AfdOperation := s.held ++ s.queued ++ s.dequeued

inductive Action where
  | arm (token : Token) (interests : Interest)
  | issue (r : NtReply)
  | reissue (r : NtReply)
  | remove (r : NtReply)
  | kernel (op : AfdOperation) (status : NtStatus) (handles events : ULONG)
  | dequeue (op : AfdOperation)
  | complete (op : AfdOperation)
  deriving DecidableEq, Repr

/-- The section of `issue_afd_poll` together with the kernel's side of the call. -/
def issueStep (r : NtReply) (s : System) : System :=
  let (issued, st) := issueAfdPoll r s.state
  let s := { s with state := st, log := (issued.called.map Entry.called).toList ++ s.log }
  match issued with
  | .polled mask true => { s with queued := ⟨s.nextId, mask⟩ :: s.queued, nextId := s.nextId + 1 }
  | .polled mask false => { s with held := ⟨s.nextId, mask⟩ :: s.held, nextId := s.nextId + 1 }
  | _ => s

/-- The section of `complete_afd_operation` for an operation already dequeued. -/
def completeStep (op : AfdOperation) (s : System) : System :=
  let (c, st) := completeAfdOperation s.state
  { s with state := st
           dequeued := s.dequeued.erase op
           consumed := op :: s.consumed
           reissuing := if c.reissue then s.reissuing + 1 else s.reissuing
           log := (c.emit.map fun e => Entry.emitted e.1 e.2).toList ++
             (if st.deletePending ∧ ¬s.state.deletePending then [Entry.deleted] else []) ++ s.log }

def step : Action → System → Option System
  | .arm token interests, s => some { s with
      state := setAfdInterest token interests s.state
      arming := s.arming + 1
      log := .armed token interests :: s.log }
  | .issue r, s => if s.arming = 0 then none else
      some (issueStep r { s with arming := s.arming - 1 })
  | .reissue r, s => if s.reissuing = 0 then none else
      some (issueStep r { s with reissuing := s.reissuing - 1 })
  | .remove r, s => some { s with
      state := removeFromBackend r s.state
      log := .deleted :: s.log }
  | .kernel op status handles events, s => if op ∈ s.held then some { s with
      state := kernelWrites status handles events s.state
      held := s.held.erase op
      queued := op :: s.queued } else none
  | .dequeue op, s => if op ∈ s.queued then some { s with
      queued := s.queued.erase op
      dequeued := op :: s.dequeued } else none
  | .complete op, s => if op ∈ s.dequeued then some (completeStep op s) else none

end Afd
