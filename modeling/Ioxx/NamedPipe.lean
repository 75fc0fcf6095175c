import Ioxx.Core
import Ioxx.Runs

/-!
# A named pipe and its overlapped operations

`NamedPipe` is the class of `windows.cpp`, over any type of bytes. Its calls pass
an `Os` along, which remembers the operations that did not finish at once; what
the native functions answer is an argument of the call. `System` is one pipe
object with the operating system: `step` makes one call or lets the kernel finish
one operation, whose bytes then lie in the buffer of the object that started it.
-/

namespace Pipe

open Core Runs

/-- An `OVERLAPPED`, as the name of the operation that was last started with it. -/
abbrev Op := Nat

inductive Kind where
  | connect
  | read
  | write
  deriving DecidableEq, Repr

def errorNoData : Errno := ⟨232, by decide⟩
def errorPipeConnected : Errno := ⟨535, by decide⟩
def errorIoIncomplete : Errno := ⟨996, by decide⟩
def errorIoPending : Errno := ⟨997, by decide⟩

/-- An error of an operation that is over. -/
abbrev Failure := { error : Errno // error ≠ errorIoIncomplete }

/-- An operation that did not finish at once. `session` is the client it was
started for, `data` what a write submitted or a finished read received, and
`result` the count or the error, once there is one. -/
structure Operation (α : Type) where
  kind : Kind
  session : Nat
  data : List α
  result : Option (Except Failure Nat)

/-- What the native functions told the calls of one object: that they were done
at once, or how an operation ended that had stayed pending. -/
inductive Native (α : Type) where
  | finished (kind : Kind) (data : List α)
  | fetched (op : Op) (operation : Operation α)

/-- The operating system's side. `session` counts the clients that were
disconnected; `trace` (latest first) only records the history. -/
structure Os (α : Type) where
  ops : Op → Option (Operation α)
  nextOp : Op
  session : Nat
  trace : List (Native α)

structure NamedPipe (α : Type) where
  handle : NativeHandle
  connectOverlapped : Op := 0
  readOverlapped : Op := 0
  writeOverlapped : Op := 0
  connectPending : Bool := false
  readPending : Bool := false
  writePending : Bool := false
  readBuffer : List α := []
  readReadySize : Nat := 0
  readPos : Nat := 0
  writeBuffer : List α := []
  lastError : Option ErrorCode := none

def invalidHandleValue : NativeHandle := 2 ^ 64 - 1

def isValid (handle : NativeHandle) : Bool := handle != 0 && handle != invalidHandleValue

variable {α : Type}

def NamedPipe.valid (p : NamedPipe α) : Bool := isValid p.handle

/-- An operation that stays pending. -/
def Os.start (kind : Kind) (data : List α) (os : Os α) : Os α :=
  { os with
    ops := Function.update os.ops os.nextOp (some ⟨kind, os.session, data, none⟩)
    nextOp := os.nextOp + 1 }

def Os.record (entry : Native α) (os : Os α) : Os α := { os with trace := entry :: os.trace }

/-- `GetOverlappedResult` without waiting. -/
def getOverlappedResult (op : Op) (os : Os α) : Except Errno Nat × Os α :=
  match os.ops op with
  | none => (.error errorIoIncomplete, os)
  | some operation => match operation.result with
    | none => (.error errorIoIncomplete, os)
    | some (.ok transferred) => (.ok transferred, os.record (.fetched op operation))
    | some (.error error) => (.error error.val, os.record (.fetched op operation))

/-- The kernel fills the front of a buffer. -/
def overwrite (block buffer : List α) : List α := block ++ buffer.drop block.length

/-- `ReadFile`; it never fills more than the buffer. -/
def readFile (answer : Except Errno (List α)) (buffer : List α) (os : Os α) :
    Except Errno Nat × List α × Os α :=
  match answer with
  | .ok block =>
    (.ok (block.take buffer.length).length, overwrite (block.take buffer.length) buffer,
      os.record (.finished .read (block.take buffer.length)))
  | .error error =>
    (.error error, buffer, if error = errorIoPending then os.start .read [] else os)

/-- `WriteFile` of the given bytes; it never accepts more. -/
def writeFile (answer : Except Errno Nat) (submitted : List α) (os : Os α) :
    Except Errno Nat × Os α :=
  match answer with
  | .ok count => (.ok (submitted.take count).length, os.record (.finished .write (submitted.take count)))
  | .error error => (.error error, if error = errorIoPending then os.start .write submitted else os)

def connectNamedPipe (answer : Except Errno Unit) (os : Os α) : Except Errno Unit × Os α :=
  match answer with
  | .ok _ => (.ok (), os)
  | .error error => (.error error, if error = errorIoPending then os.start .connect [] else os)

def disconnectNamedPipe (answer : Except Errno Unit) (os : Os α) : Except Errno Unit × Os α :=
  match answer with
  | .ok _ => (.ok (), { os with session := os.session + 1 })
  | .error error => (.error error, os)

def completeConnectLocked (p : NamedPipe α) (os : Os α) :
    Except Exception Bool × NamedPipe α × Os α :=
  match getOverlappedResult p.connectOverlapped os with
  | (.ok _, os) => (.ok true, { p with connectPending := false }, os)
  | (.error error, os) =>
    if error = errorIoIncomplete then (.ok false, p, os)
    else (.error (.systemError (.ofLastError error) "GetOverlappedResult(connect)"),
      { p with connectPending := false, lastError := some (.ofLastError error) }, os)

def completeReadLocked (p : NamedPipe α) (os : Os α) : Except Exception Bool × NamedPipe α × Os α :=
  match getOverlappedResult p.readOverlapped os with
  | (.ok transferred, os) =>
    (.ok true, { p with readPending := false, readReadySize := transferred, readPos := 0 }, os)
  | (.error error, os) =>
    if error = errorIoIncomplete then (.ok false, p, os)
    else (.error (.systemError (.ofLastError error) "GetOverlappedResult(read)"),
      { p with readPending := false, readReadySize := 0, readPos := 0,
               lastError := some (.ofLastError error) }, os)

/-- The transferred count is not looked at. -/
def completeWriteLocked (p : NamedPipe α) (os : Os α) : Except Exception Bool × NamedPipe α × Os α :=
  match getOverlappedResult p.writeOverlapped os with
  | (.ok _, os) => (.ok true, { p with writePending := false, writeBuffer := [] }, os)
  | (.error error, os) =>
    if error = errorIoIncomplete then (.ok false, p, os)
    else (.error (.systemError (.ofLastError error) "GetOverlappedResult(write)"),
      { p with writePending := false, writeBuffer := [], lastError := some (.ofLastError error) }, os)

/-- `connect`; an exception of `complete_connect_locked` leaves it. -/
def connect (answer : Except Errno Unit) (p : NamedPipe α) (os : Os α) :
    Except Exception (Option ErrorCode) × NamedPipe α × Os α :=
  if p.valid = false then (.ok (some .badFileDescriptor), p, os)
  else if p.connectPending then
    match completeConnectLocked p os with
    | (.error e, p, os) => (.error e, p, os)
    | (.ok true, p, os) => (.ok none, p, os)
    | (.ok false, p, os) => (.ok (some .operationWouldBlock), p, os)
  else
    let p := { p with connectOverlapped := os.nextOp }
    match connectNamedPipe answer os with
    | (.ok _, os) => (.ok none, p, os)
    | (.error error, os) =>
      if error = errorPipeConnected ∨ error = errorNoData then (.ok none, p, os)
      else if error = errorIoPending then
        (.ok (some .operationWouldBlock), { p with connectPending := true }, os)
      else (.ok (some (.ofLastError error)), { p with lastError := some (.ofLastError error) }, os)

/-- `disconnect` does not touch the object. -/
def disconnect (answer : Except Errno Unit) (os : Os α) : Option ErrorCode × Os α :=
  match disconnectNamedPipe answer os with
  | (.ok _, os) => (none, os)
  | (.error error, os) => (some (.ofLastError error), os)

/-- The lambda `copy_ready` of `read`: the bytes it copies to the caller. -/
def copyReady (size : Nat) (p : NamedPipe α) : List α × NamedPipe α :=
  let copied := min size (p.readReadySize - p.readPos)
  let pos := p.readPos + copied
  ((p.readBuffer.drop p.readPos).take copied,
    if pos = p.readReadySize then { p with readReadySize := 0, readPos := 0 }
    else { p with readPos := pos })

def readBufferSize : Nat := 65536

/-- `read`; `memory` is whether the buffer can be allocated. The bytes are those
written to the caller's memory, and their number is the returned value. -/
def read [Inhabited α] (memory : Bool) (answer : Except Errno (List α)) (size : Nat)
    (p : NamedPipe α) (os : Os α) : Option ErrorCode × List α × NamedPipe α × Os α :=
  if p.valid = false then (some .badFileDescriptor, [], p, os)
  else if p.readPos < p.readReadySize then (none, (copyReady size p).1, (copyReady size p).2, os)
  else if p.readPending then
    match completeReadLocked p os with
    | (.error e, p, os) => (some e.code, [], p, os)
    | (.ok false, p, os) => (some .operationWouldBlock, [], p, os)
    | (.ok true, p, os) => (none, (copyReady size p).1, (copyReady size p).2, os)
  else if memory = false then (some .notEnoughMemory, [], p, os)
  else
    let p := { p with
      readBuffer := List.replicate readBufferSize default
      readOverlapped := os.nextOp }
    match readFile answer p.readBuffer os with
    | (.ok count, buffer, os) =>
      let p := { p with readBuffer := buffer, readReadySize := count, readPos := 0 }
      (none, (copyReady size p).1, (copyReady size p).2, os)
    | (.error error, _, os) =>
      if error = errorIoPending then
        (some .operationWouldBlock, [], { p with readPending := true }, os)
      else (some (.ofLastError error), [], { p with lastError := some (.ofLastError error) }, os)

def checkedSize (size : Nat) : Nat := min size (2 ^ 32 - 1)

/-- The part of `write` after a write still pending has been looked at. -/
def submit (memory : Bool) (answer : Except Errno Nat) (data : List α) (p : NamedPipe α)
    (os : Os α) : Option ErrorCode × Nat × NamedPipe α × Os α :=
  if memory = false then (some .notEnoughMemory, 0, p, os)
  else
    let p := { p with writeBuffer := data, writeOverlapped := os.nextOp }
    match writeFile answer (data.take (checkedSize data.length)) os with
    | (.ok written, os) => (none, written, { p with writeBuffer := [] }, os)
    | (.error error, os) =>
      if error = errorIoPending then (none, data.length, { p with writePending := true }, os)
      else (some (.ofLastError error), 0,
        { p with writeBuffer := [], lastError := some (.ofLastError error) }, os)

/-- `write`; the number is the returned value. -/
def write (memory : Bool) (answer : Except Errno Nat) (data : List α) (p : NamedPipe α)
    (os : Os α) : Option ErrorCode × Nat × NamedPipe α × Os α :=
  if p.valid = false then (some .badFileDescriptor, 0, p, os)
  else if p.writePending then
    match completeWriteLocked p os with
    | (.error e, p, os) => (some e.code, 0, p, os)
    | (.ok false, p, os) => (some .operationWouldBlock, 0, p, os)
    | (.ok true, p, os) => submit memory answer data p os
  else submit memory answer data p os

def takeError (p : NamedPipe α) : Option ErrorCode × NamedPipe α :=
  (p.lastError, { p with lastError := none })

def release (p : NamedPipe α) : NativeHandle × NamedPipe α :=
  (p.handle, { p with handle := invalidHandleValue })

/-- The move constructor takes the handle only. -/
def moveConstruct (other : NamedPipe α) : NamedPipe α := { handle := (release other).1 }

/-- Move assignment closes the target's handle and takes the other's; the target
keeps all its other members. -/
def moveAssign (target other : NamedPipe α) : NamedPipe α :=
  { target with handle := (release other).1 }

/-- How an operation that stayed pending ends. -/
inductive Outcome (α : Type) where
  | received (block : List α)
  | transferred (count : Nat)
  | failed (error : Failure)

/-- Whether an operation can end so while the given session lasts. The operations
of a client that was disconnected can only fail. -/
def Outcome.fits (session : Nat) (operation : Operation α) : Outcome α → Prop
  | .received block => operation.kind = .read ∧ operation.session = session ∧
      block.length ≤ readBufferSize
  | .transferred count => operation.kind ≠ .read ∧ operation.session = session ∧
      count ≤ operation.data.length
  | .failed _ => True

instance (session : Nat) (operation : Operation α) (outcome : Outcome α) :
    Decidable (outcome.fits session operation) :=
  match outcome with
  | .received _ => inferInstanceAs (Decidable (_ ∧ _ ∧ _))
  | .transferred _ => inferInstanceAs (Decidable (_ ∧ _ ∧ _))
  | .failed _ => inferInstanceAs (Decidable True)

def Operation.finish (operation : Operation α) : Outcome α → Operation α
  | .received block => { operation with data := block, result := some (.ok block.length) }
  | .transferred count => { operation with result := some (.ok count) }
  | .failed error => { operation with result := some (.error error) }

/-- The kernel ends one operation. -/
def Os.finish (op : Op) (operation : Operation α) (outcome : Outcome α) (os : Os α) : Os α :=
  { os with ops := Function.update os.ops op (some (operation.finish outcome)) }

/-- The kernel writes a received block into the buffer the read was started with. -/
def NamedPipe.receive (op : Op) (outcome : Outcome α) (p : NamedPipe α) : NamedPipe α :=
  match outcome with
  | .received block =>
    if p.readPending ∧ p.readOverlapped = op then
      { p with readBuffer := overwrite block p.readBuffer } else p
  | _ => p

/-- One pipe object and the operating system. `returned` are the bytes that `read`
has returned, `accepted` those that `write` has reported as written, `failed`
whether a write has reported an error other than would-block, and `connected`
whether a `connect` has succeeded since the last `disconnect`. -/
structure System (α : Type) where
  pipe : NamedPipe α
  os : Os α
  returned : List α
  accepted : List α
  failed : Bool
  connected : Bool

def initial (handle : NativeHandle) : System α :=
  ⟨{ handle := handle }, ⟨fun _ => none, 0, 0, []⟩, [], [], false, false⟩

/-- A call, with the answers of the native functions it may make, or the end of
an operation. -/
inductive Action (α : Type) where
  | connect (answer : Except Errno Unit)
  | disconnect (answer : Except Errno Unit)
  | read (memory : Bool) (answer : Except Errno (List α)) (size : Nat)
  | write (memory : Bool) (answer : Except Errno Nat) (data : List α)
  | takeError
  | finish (op : Op) (outcome : Outcome α)

/-- `connect` has returned with `ec` cleared. -/
def succeeded : Except Exception (Option ErrorCode) → Bool
  | .ok none => true
  | _ => false

/-- A `write` has reported an error other than would-block. -/
def writeFailed : Option ErrorCode → Bool
  | none => false
  | some code => code != .operationWouldBlock

def step [Inhabited α] : Action α → System α → Option (System α)
  | .connect answer, s => match connect answer s.pipe s.os with
    | (result, pipe, os) => some { s with
        pipe := pipe, os := os, connected := s.connected || succeeded result }
  | .disconnect answer, s => match disconnect answer s.os with
    | (none, os) => some { s with os := os, connected := false }
    | (some _, os) => some { s with os := os }
  | .read memory answer size, s => match read memory answer size s.pipe s.os with
    | (_, bytes, pipe, os) => some { s with
        pipe := pipe, os := os, returned := s.returned ++ bytes }
  | .write memory answer data, s => match write memory answer data s.pipe s.os with
    | (ec, count, pipe, os) => some { s with
        pipe := pipe, os := os, accepted := s.accepted ++ data.take count,
        failed := s.failed || writeFailed ec }
  | .takeError, s => some { s with pipe := (takeError s.pipe).2 }
  | .finish op outcome, s => match s.os.ops op with
    | none => none
    | some operation => if operation.result.isNone ∧ outcome.fits s.os.session operation then
        some { s with
          pipe := s.pipe.receive op outcome, os := s.os.finish op operation outcome }
      else none

/-- Everything `read` can do: refuse, hand out buffered bytes, fetch the result of
the pending read, or call `ReadFile`, which finishes, stays pending or fails. -/
inductive Reads [Inhabited α] (answer : Except Errno (List α)) (size : Nat) (p : NamedPipe α)
    (os : Os α) :
    Option ErrorCode × List α × NamedPipe α × Os α → Prop where
  | refused (code : ErrorCode) : Reads answer size p os (some code, [], p, os)
  | buffered (h : p.readPos < p.readReadySize) :
      Reads answer size p os (none, (copyReady size p).1, (copyReady size p).2, os)
  | fetched (operation : Operation α) (count : Nat) (h : p.readReadySize ≤ p.readPos)
      (hpending : p.readPending = true) (hop : os.ops p.readOverlapped = some operation)
      (hresult : operation.result = some (.ok count)) {q : NamedPipe α}
      (hq : q = { p with readPending := false, readReadySize := count, readPos := 0 }) :
      Reads answer size p os (none, (copyReady size q).1, (copyReady size q).2,
        os.record (.fetched p.readOverlapped operation))
  | lost (operation : Operation α) (error : Failure) (h : p.readReadySize ≤ p.readPos)
      (hpending : p.readPending = true) (hop : os.ops p.readOverlapped = some operation)
      (hresult : operation.result = some (.error error)) :
      Reads answer size p os (some (.ofLastError error.val), [], { p with
        readPending := false, readReadySize := 0, readPos := 0,
        lastError := some (.ofLastError error.val) }, os.record (.fetched p.readOverlapped operation))
  | finished (block : List α) (h : p.readReadySize ≤ p.readPos) (hpending : p.readPending = false)
      (hlength : block.length ≤ readBufferSize) (hanswer : ∃ whole, answer = .ok whole ∧ block <+: whole)
      {q : NamedPipe α}
      (hq : q = { p with
        readBuffer := overwrite block (List.replicate readBufferSize default)
        readOverlapped := os.nextOp, readReadySize := block.length, readPos := 0 }) :
      Reads answer size p os (none, (copyReady size q).1, (copyReady size q).2,
        os.record (.finished .read block))
  | started (h : p.readReadySize ≤ p.readPos) (hpending : p.readPending = false) :
      Reads answer size p os (some .operationWouldBlock, [], { p with
        readBuffer := List.replicate readBufferSize default
        readOverlapped := os.nextOp, readPending := true }, os.start .read [])
  | failed (error : Errno) (h : p.readReadySize ≤ p.readPos) (hpending : p.readPending = false) :
      Reads answer size p os (some (.ofLastError error), [], { p with
        readBuffer := List.replicate readBufferSize default
        readOverlapped := os.nextOp, lastError := some (.ofLastError error) }, os)

/-- Everything `GetOverlappedResult` can answer. -/
theorem getOverlappedResult_cases (op : Op) (os : Os α) :
    ((∀ operation, os.ops op = some operation → operation.result = none) ∧
      getOverlappedResult op os = (.error errorIoIncomplete, os)) ∨
    (∃ operation count, os.ops op = some operation ∧ operation.result = some (.ok count) ∧
      getOverlappedResult op os = (.ok count, os.record (.fetched op operation))) ∨
    (∃ operation error, os.ops op = some operation ∧ operation.result = some (.error error) ∧
      getOverlappedResult op os = (.error error.val, os.record (.fetched op operation))) := by
  unfold getOverlappedResult
  cases hop : os.ops op with
  | none => exact .inl ⟨by simp, rfl⟩
  | some operation =>
    cases hresult : operation.result with
    | none =>
      refine .inl ⟨?_, by simp only [hresult]⟩
      intro operation' h
      cases h
      exact hresult
    | some result =>
      cases result with
      | ok count => exact .inr (.inl ⟨operation, count, rfl, hresult, by simp only [hresult]⟩)
      | error error => exact .inr (.inr ⟨operation, error, rfl, hresult, by simp only [hresult]⟩)

theorem read_reads [Inhabited α] (memory : Bool) (answer : Except Errno (List α)) (size : Nat)
    (p : NamedPipe α) (os : Os α) : Reads answer size p os (read memory answer size p os) := by
  unfold read
  split
  · exact .refused _
  split
  · rename_i h
    exact .buffered h
  rename_i h
  have hempty : p.readReadySize ≤ p.readPos := by omega
  split
  · rename_i hpending
    unfold completeReadLocked
    rcases getOverlappedResult_cases p.readOverlapped os with ⟨_, hg⟩ |
      ⟨operation, count, hop, hresult, hg⟩ | ⟨operation, error, hop, hresult, hg⟩
    · simp only [hg, if_true]
      exact .refused _
    · simp only [hg]
      exact .fetched operation count hempty hpending hop hresult rfl
    · simp only [hg, if_neg error.property]
      exact .lost operation error hempty hpending hop hresult
  · rename_i hpending
    have hnot : p.readPending = false := by simpa using hpending
    split
    · exact .refused _
    cases answer with
    | ok block =>
      simp only [readFile, List.length_replicate]
      exact .finished (block.take readBufferSize) hempty hnot (List.length_take_le _ _)
        ⟨block, rfl, List.take_prefix _ _⟩ rfl
    | error error =>
      by_cases he : error = errorIoPending
      · simp only [readFile, he, if_true]
        exact .started hempty hnot
      · simp only [readFile, he, if_false]
        exact .failed error hempty hnot

/-- Everything `write` can do once no earlier write is pending. -/
inductive Submits (answer : Except Errno Nat) (data : List α) (p : NamedPipe α) (os : Os α) :
    Option ErrorCode × Nat × NamedPipe α × Os α → Prop where
  | refused (code : ErrorCode) (h : code ≠ .operationWouldBlock) :
      Submits answer data p os (some code, 0, p, os)
  | finished (sent : List α) (h : sent <+: data) :
      Submits answer data p os (none, sent.length,
        { p with writeBuffer := [], writeOverlapped := os.nextOp }, os.record (.finished .write sent))
  | started (h : answer = .error errorIoPending) :
      Submits answer data p os (none, data.length,
        { p with writeBuffer := data, writeOverlapped := os.nextOp, writePending := true },
        os.start .write (data.take (checkedSize data.length)))
  | failed (error : Errno) :
      Submits answer data p os (some (.ofLastError error), 0, { p with
        writeBuffer := [], writeOverlapped := os.nextOp,
        lastError := some (.ofLastError error) }, os)

theorem submit_submits (memory : Bool) (answer : Except Errno Nat) (data : List α)
    (p : NamedPipe α) (os : Os α) :
    Submits answer data p os (submit memory answer data p os) := by
  unfold submit
  split
  · exact .refused _ (by decide)
  cases answer with
  | ok count =>
    refine .finished ((data.take (checkedSize data.length)).take count) ?_
    exact (List.take_prefix _ _).trans (List.take_prefix _ _)
  | error error =>
    by_cases he : error = errorIoPending
    · simp only [writeFile, he, if_true]
      exact .started rfl
    · simp only [writeFile, he, if_false]
      exact .failed error

/-- Everything `write` can do: refuse, report the error of the pending write, or
submit the data, after the pending write is over. -/
inductive Writes (answer : Except Errno Nat) (data : List α) (p : NamedPipe α) (os : Os α) :
    Option ErrorCode × Nat × NamedPipe α × Os α → Prop where
  | refused (code : ErrorCode) : Writes answer data p os (some code, 0, p, os)
  | lost (operation : Operation α) (error : Failure) (hpending : p.writePending = true)
      (hop : os.ops p.writeOverlapped = some operation)
      (hresult : operation.result = some (.error error)) :
      Writes answer data p os (some (.ofLastError error.val), 0, { p with
        writePending := false, writeBuffer := [], lastError := some (.ofLastError error.val) },
        os.record (.fetched p.writeOverlapped operation))
  | idle (hpending : p.writePending = false) {r : Option ErrorCode × Nat × NamedPipe α × Os α}
      (h : Submits answer data p os r) : Writes answer data p os r
  | fetched (operation : Operation α) (count : Nat) (hpending : p.writePending = true)
      (hop : os.ops p.writeOverlapped = some operation)
      (hresult : operation.result = some (.ok count))
      {r : Option ErrorCode × Nat × NamedPipe α × Os α}
      (h : Submits answer data { p with writePending := false, writeBuffer := [] }
        (os.record (.fetched p.writeOverlapped operation)) r) : Writes answer data p os r

theorem write_writes (memory : Bool) (answer : Except Errno Nat) (data : List α)
    (p : NamedPipe α) (os : Os α) : Writes answer data p os (write memory answer data p os) := by
  unfold write
  split
  · exact .refused _
  split
  · rename_i hpending
    unfold completeWriteLocked
    rcases getOverlappedResult_cases p.writeOverlapped os with ⟨_, hg⟩ |
      ⟨operation, count, hop, hresult, hg⟩ | ⟨operation, error, hop, hresult, hg⟩
    · simp only [hg, if_true]
      exact .refused _
    · simp only [hg]
      exact .fetched operation count hpending hop hresult (submit_submits ..)
    · simp only [hg, if_neg error.property]
      exact .lost operation error hpending hop hresult
  · rename_i hpending
    exact .idle (by simpa using hpending) (submit_submits ..)

/-- Everything `connect` can do. -/
inductive Connects (answer : Except Errno Unit) (p : NamedPipe α) (os : Os α) :
    Except Exception (Option ErrorCode) × NamedPipe α × Os α → Prop where
  | refused (code : ErrorCode) : Connects answer p os (.ok (some code), p, os)
  | fetched (operation : Operation α) (count : Nat) (hpending : p.connectPending = true)
      (hop : os.ops p.connectOverlapped = some operation)
      (hresult : operation.result = some (.ok count)) :
      Connects answer p os (.ok none, { p with connectPending := false },
        os.record (.fetched p.connectOverlapped operation))
  | lost (operation : Operation α) (error : Failure) (hpending : p.connectPending = true)
      (hop : os.ops p.connectOverlapped = some operation)
      (hresult : operation.result = some (.error error)) :
      Connects answer p os (.error (.systemError (.ofLastError error.val) "GetOverlappedResult(connect)"),
        { p with connectPending := false, lastError := some (.ofLastError error.val) },
        os.record (.fetched p.connectOverlapped operation))
  | finished (hpending : p.connectPending = false) (hanswer : answer = .ok () ∨
      answer = .error errorPipeConnected ∨ answer = .error errorNoData) :
      Connects answer p os (.ok none, { p with connectOverlapped := os.nextOp }, os)
  | started (hpending : p.connectPending = false) :
      Connects answer p os (.ok (some .operationWouldBlock),
        { p with connectOverlapped := os.nextOp, connectPending := true }, os.start .connect [])
  | failed (code : ErrorCode) (hpending : p.connectPending = false) :
      Connects answer p os (.ok (some code),
        { p with connectOverlapped := os.nextOp, lastError := some code }, os)

theorem connect_connects (answer : Except Errno Unit) (p : NamedPipe α) (os : Os α) :
    Connects answer p os (connect answer p os) := by
  unfold connect
  split
  · exact .refused _
  split
  · rename_i hpending
    unfold completeConnectLocked
    rcases getOverlappedResult_cases p.connectOverlapped os with ⟨_, hg⟩ |
      ⟨operation, count, hop, hresult, hg⟩ | ⟨operation, error, hop, hresult, hg⟩
    · simp only [hg, if_true]
      exact .refused _
    · simp only [hg]
      exact .fetched operation count hpending hop hresult
    · simp only [hg, if_neg error.property]
      exact .lost operation error hpending hop hresult
  · rename_i hpending
    have hnot : p.connectPending = false := by simpa using hpending
    cases answer with
    | ok u => exact .finished hnot (.inl rfl)
    | error error =>
      simp only [connectNamedPipe]
      split
      · rename_i he
        have hne : error ≠ errorIoPending := by
          rcases he with rfl | rfl <;> decide
        rw [if_neg hne]
        refine .finished hnot (.inr ?_)
        rcases he with rfl | rfl
        · exact .inl rfl
        · exact .inr rfl
      · by_cases he : error = errorIoPending
        · simp only [he, if_true]
          exact .started hnot
        · simp only [he, if_false]
          exact .failed _ hnot

/-! What each action does to the whole system. -/

section Steps

variable [Inhabited α] {s t : System α}

theorem step_connect {answer : Except Errno Unit} (h : step (.connect answer) s = some t) :
    ∃ r, Connects answer s.pipe s.os r ∧
      t = { s with pipe := r.2.1, os := r.2.2, connected := s.connected || succeeded r.1 } :=
  ⟨_, connect_connects answer s.pipe s.os, (Option.some.inj h).symm⟩

theorem step_disconnect {answer : Except Errno Unit} (h : step (.disconnect answer) s = some t) :
    (answer = .ok () ∧
      t = { s with os := { s.os with session := s.os.session + 1 }, connected := false }) ∨ t = s := by
  cases answer with
  | ok u => exact .inl ⟨rfl, (Option.some.inj h).symm⟩
  | error error => exact .inr (Option.some.inj h).symm

theorem step_read {memory : Bool} {answer : Except Errno (List α)} {size : Nat}
    (h : step (.read memory answer size) s = some t) :
    ∃ r, Reads answer size s.pipe s.os r ∧
      t = { s with pipe := r.2.2.1, os := r.2.2.2, returned := s.returned ++ r.2.1 } :=
  ⟨_, read_reads memory answer size s.pipe s.os, (Option.some.inj h).symm⟩

theorem step_write {memory : Bool} {answer : Except Errno Nat} {data : List α}
    (h : step (.write memory answer data) s = some t) :
    ∃ r, Writes answer data s.pipe s.os r ∧
      t = { s with
        pipe := r.2.2.1, os := r.2.2.2, accepted := s.accepted ++ data.take r.2.1,
        failed := s.failed || writeFailed r.1 } :=
  ⟨_, write_writes memory answer data s.pipe s.os, (Option.some.inj h).symm⟩

theorem step_takeError (h : step .takeError s = some t) :
    t = { s with pipe := { s.pipe with lastError := none } } :=
  (Option.some.inj h).symm

theorem step_finish {op : Op} {outcome : Outcome α} (h : step (.finish op outcome) s = some t) :
    ∃ operation, s.os.ops op = some operation ∧ operation.result = none ∧
      outcome.fits s.os.session operation ∧
      t = { s with pipe := s.pipe.receive op outcome, os := s.os.finish op operation outcome } := by
  simp only [step] at h
  split at h
  · cases h
  · rename_i operation hop
    split at h
    · rename_i hc
      exact ⟨operation, hop, Option.isNone_iff_eq_none.mp hc.1, hc.2, (Option.some.inj h).symm⟩
    · cases h

end Steps

end Pipe
