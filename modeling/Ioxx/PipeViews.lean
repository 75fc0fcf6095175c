import Ioxx.PipeWrites

/-!
# What a caller of a named pipe can see

A `View` says for each of connecting, reading and writing whether there is nothing
to wait for, an operation to wait for, an error or a result. It has its own calls,
without buffers, indices and flags, and the calls of the object refine them.
-/

namespace Pipe

open Core Runs

variable {α β : Type} {mine : Op → Prop}

inductive Channel (β : Type) where
  | idle
  | waiting (op : Op)
  | failed (error : Failure)
  | ready (result : β)

/-- A finished write has nothing to tell, so `writing` is never ready. -/
structure View (α : Type) where
  valid : Bool
  lastError : Option ErrorCode
  connecting : Channel Unit
  reading : Channel (List α)
  writing : Channel Empty

/-- The channel of an operation, if its flag is set. -/
def operationView (pending : Bool) (op : Op) (ended : Nat → Channel β) (os : Os α) : Channel β :=
  if pending then
    match os.ops op with
    | none => .waiting op
    | some operation => match operation.result with
      | none => .waiting op
      | some (.ok count) => ended count
      | some (.error error) => .failed error
  else .idle

def connectView (p : NamedPipe α) (os : Os α) : Channel Unit :=
  operationView p.connectPending p.connectOverlapped (fun _ => .ready ()) os

def readView (p : NamedPipe α) (os : Os α) : Channel (List α) :=
  if p.readPos < p.readReadySize then .ready (unread p)
  else operationView p.readPending p.readOverlapped (fun count => .ready (p.readBuffer.take count)) os

def writeView (p : NamedPipe α) (os : Os α) : Channel Empty :=
  operationView p.writePending p.writeOverlapped (fun _ => .idle) os

def view (p : NamedPipe α) (os : Os α) : View α :=
  ⟨p.valid, p.lastError, connectView p os, readView p os, writeView p os⟩

/-- The operating system without the history. -/
def Os.forget (os : Os α) : Os α := { os with trace := [] }

namespace View

def connect (answer : Except Errno Unit) (v : View α) (os : Os α) :
    Except Exception (Option ErrorCode) × View α × Os α :=
  if v.valid = false then (.ok (some .badFileDescriptor), v, os)
  else match v.connecting with
    | .ready _ => (.ok none, { v with connecting := .idle }, os)
    | .waiting _ => (.ok (some .operationWouldBlock), v, os)
    | .failed error =>
      (.error (.systemError (.ofLastError error.val) "GetOverlappedResult(connect)"),
        { v with connecting := .idle, lastError := some (.ofLastError error.val) }, os)
    | .idle => match answer with
      | .ok _ => (.ok none, v, os)
      | .error error =>
        if error = errorPipeConnected ∨ error = errorNoData then (.ok none, v, os)
        else if error = errorIoPending then
          (.ok (some .operationWouldBlock), { v with connecting := .waiting os.nextOp },
            os.start .connect [])
        else (.ok (some (.ofLastError error)), { v with lastError := some (.ofLastError error) }, os)

/-- The bytes that are left for the next `read`. -/
def offer : List α → Channel (List α)
  | [] => .idle
  | b :: rest => .ready (b :: rest)

def read (memory : Bool) (answer : Except Errno (List α)) (size : Nat) (v : View α) (os : Os α) :
    (Option ErrorCode × List α) × View α × Os α :=
  if v.valid = false then ((some .badFileDescriptor, []), v, os)
  else match v.reading with
    | .ready block => ((none, block.take size), { v with reading := offer (block.drop size) }, os)
    | .waiting _ => ((some .operationWouldBlock, []), v, os)
    | .failed error => ((some (.ofLastError error.val), []),
        { v with reading := .idle, lastError := some (.ofLastError error.val) }, os)
    | .idle =>
      if memory = false then ((some .notEnoughMemory, []), v, os)
      else match answer with
        | .ok whole => ((none, (whole.take readBufferSize).take size),
            { v with reading := offer ((whole.take readBufferSize).drop size) }, os)
        | .error error =>
          if error = errorIoPending then
            ((some .operationWouldBlock, []), { v with reading := .waiting os.nextOp }, os.start .read [])
          else ((some (.ofLastError error), []), { v with lastError := some (.ofLastError error) }, os)

def submit (memory : Bool) (answer : Except Errno Nat) (data : List α) (v : View α) (os : Os α) :
    (Option ErrorCode × Nat) × View α × Os α :=
  if memory = false then ((some .notEnoughMemory, 0), v, os)
  else match answer with
    | .ok count => ((none, ((data.take (checkedSize data.length)).take count).length), v, os)
    | .error error =>
      if error = errorIoPending then
        ((none, data.length), { v with writing := .waiting os.nextOp },
          os.start .write (data.take (checkedSize data.length)))
      else ((some (.ofLastError error), 0), { v with lastError := some (.ofLastError error) }, os)

def write (memory : Bool) (answer : Except Errno Nat) (data : List α) (v : View α) (os : Os α) :
    (Option ErrorCode × Nat) × View α × Os α :=
  if v.valid = false then ((some .badFileDescriptor, 0), v, os)
  else match v.writing with
    | .waiting _ => ((some .operationWouldBlock, 0), v, os)
    | .failed error => ((some (.ofLastError error.val), 0),
        { v with writing := .idle, lastError := some (.ofLastError error.val) }, os)
    | .idle => v.submit memory answer data os

end View

/-- An operation ends; a channel that waited for it moves on. -/
def Channel.finish (c : Channel β) (op : Op) (next : Channel β) : Channel β :=
  match c with
  | .waiting op' => if op' = op then next else .waiting op'
  | c => c

/-! What an end means for each kind; `transferred` is never said of a read. -/

def Outcome.connecting : Outcome α → Channel Unit
  | .failed error => .failed error
  | _ => .ready ()

def Outcome.reading : Outcome α → Channel (List α)
  | .received block => .ready block
  | .transferred _ => .ready []
  | .failed error => .failed error

def Outcome.writing : Outcome α → Channel Empty
  | .failed error => .failed error
  | _ => .idle

def View.finish (op : Op) (outcome : Outcome α) (v : View α) : View α :=
  { v with
    connecting := v.connecting.finish op outcome.connecting
    reading := v.reading.finish op outcome.reading
    writing := v.writing.finish op outcome.writing }

/-- What a call returns. -/
inductive Result (α : Type) where
  | connected (result : Except Exception (Option ErrorCode))
  | disconnected (ec : Option ErrorCode)
  | read (result : Option ErrorCode × List α)
  | written (result : Option ErrorCode × Nat)
  | error (ec : Option ErrorCode)
  | nothing

/-- An operation that can end so. -/
def Os.ends (op : Op) (outcome : Outcome α) (os : Os α) : Option (Operation α) :=
  (os.ops op).filter fun operation =>
    operation.result.isNone && decide (outcome.fits os.session operation)

/-- `read`, with its two results together. -/
def readCall [Inhabited α] (memory : Bool) (answer : Except Errno (List α)) (size : Nat)
    (p : NamedPipe α) (os : Os α) : (Option ErrorCode × List α) × NamedPipe α × Os α :=
  match read memory answer size p os with
  | (ec, bytes, p, os) => ((ec, bytes), p, os)

/-- `write`, with its two results together. -/
def writeCall (memory : Bool) (answer : Except Errno Nat) (data : List α) (p : NamedPipe α)
    (os : Os α) : (Option ErrorCode × Nat) × NamedPipe α × Os α :=
  match write memory answer data p os with
  | (ec, count, p, os) => ((ec, count), p, os)

/-- One action on one object. An operation that cannot end so is left alone. -/
def call [Inhabited α] (a : Action α) (p : NamedPipe α) (os : Os α) :
    Result α × NamedPipe α × Os α :=
  match a with
  | .connect answer => match connect answer p os with
    | (result, p, os) => (.connected result, p, os)
  | .disconnect answer => match disconnect answer os with
    | (ec, os) => (.disconnected ec, p, os)
  | .read memory answer size => match readCall memory answer size p os with
    | (result, p, os) => (.read result, p, os)
  | .write memory answer data => match writeCall memory answer data p os with
    | (result, p, os) => (.written result, p, os)
  | .takeError => (.error (takeError p).1, (takeError p).2, os)
  | .finish op outcome => match os.ends op outcome with
    | none => (.nothing, p, os)
    | some operation => (.nothing, p.receive op outcome, os.finish op operation outcome)

def View.call (a : Action α) (v : View α) (os : Os α) : Result α × View α × Os α :=
  match a with
  | .connect answer => match v.connect answer os with
    | (result, v, os) => (.connected result, v, os)
  | .disconnect answer => match disconnect answer os with
    | (ec, os) => (.disconnected ec, v, os)
  | .read memory answer size => match v.read memory answer size os with
    | (result, v, os) => (.read result, v, os)
  | .write memory answer data => match v.write memory answer data os with
    | (result, v, os) => (.written result, v, os)
  | .takeError => (.error v.lastError, { v with lastError := none }, os)
  | .finish op outcome => match os.ends op outcome with
    | none => (.nothing, v, os)
    | some operation => (.nothing, v.finish op outcome, os.finish op operation outcome)

/-! ## The object refines its view -/

theorem operationView_idle {pending : Bool} (h : pending = false) (op : Op)
    (ended : Nat → Channel β) (os : Os α) : operationView pending op ended os = .idle := by
  simp [operationView, h]

theorem operationView_waiting {pending : Bool} (h : pending = true) {op : Op}
    (ended : Nat → Channel β) {os : Os α}
    (hop : ∀ operation, os.ops op = some operation → operation.result = none) :
    operationView pending op ended os = .waiting op := by
  simp only [operationView, h, if_true]
  cases hops : os.ops op with
  | none => rfl
  | some operation => simp only [hop operation hops]

theorem operationView_ended {pending : Bool} (h : pending = true) {op : Op}
    (ended : Nat → Channel β) {os : Os α} {operation : Operation α} {count : Nat}
    (hop : os.ops op = some operation) (hresult : operation.result = some (.ok count)) :
    operationView pending op ended os = ended count := by
  simp only [operationView, h, if_true, hop, hresult]

theorem operationView_failed {pending : Bool} (h : pending = true) {op : Op}
    (ended : Nat → Channel β) {os : Os α} {operation : Operation α} {error : Failure}
    (hop : os.ops op = some operation) (hresult : operation.result = some (.error error)) :
    operationView pending op ended os = .failed error := by
  simp only [operationView, h, if_true, hop, hresult]

/-- What the calls need of an object that need not be the only one. -/
structure Sane (p : NamedPipe α) (os : Os α) : Prop where
  tidy : Tidy (fun _ => False) p os
  reading : Reading p os

theorem operationView_start {kind : Kind} {pending : Bool} {op : Op} {os : Os α}
    (hfresh : Fresh os) (howned : Owned mine kind pending op os) (ended : Nat → Channel β)
    (kind' : Kind) (data : List α) :
    operationView pending op ended (os.start kind' data) = operationView pending op ended os := by
  cases hpending : pending with
  | false => rfl
  | true =>
    obtain ⟨operation, hop, -⟩ := howned.held hpending
    simp only [operationView, if_true, hop, ops_start_of_some hfresh hop]

theorem connectView_start {p : NamedPipe α} {os : Os α} (h : Sane p os) (kind : Kind)
    (data : List α) : connectView p (os.start kind data) = connectView p os :=
  operationView_start h.tidy.fresh h.tidy.connects _ kind data

theorem readView_start {p : NamedPipe α} {os : Os α} (h : Sane p os) (kind : Kind)
    (data : List α) : readView p (os.start kind data) = readView p os := by
  simp only [readView, operationView_start h.tidy.fresh h.tidy.reads]

theorem writeView_start {p : NamedPipe α} {os : Os α} (h : Sane p os) (kind : Kind)
    (data : List α) : writeView p (os.start kind data) = writeView p os :=
  operationView_start h.tidy.fresh h.tidy.writes _ kind data

theorem operationView_started (ended : Nat → Channel β) (kind : Kind) (data : List α) (os : Os α) :
    operationView true os.nextOp ended (os.start kind data) = .waiting os.nextOp := by
  apply operationView_waiting rfl
  intro operation hop
  change Function.update os.ops os.nextOp _ os.nextOp = some operation at hop
  rw [Function.update_self] at hop
  cases hop
  rfl

/-- A call of the object and a call of its view return the same and leave the same view. -/
def Refined {ρ : Type} (abstract : ρ × View α × Os α) (concrete : ρ × NamedPipe α × Os α) : Prop :=
  abstract = (concrete.1, view concrete.2.1 concrete.2.2, concrete.2.2.forget)

/-- Two views with the same parts. -/
theorem refined_mk {ρ : Type} {result : ρ} {v : View α} {os os' : Os α} {p : NamedPipe α}
    (hvalid : v.valid = p.valid) (herror : v.lastError = p.lastError)
    (hconnecting : v.connecting = connectView p os') (hreading : v.reading = readView p os')
    (hwriting : v.writing = writeView p os') (hos : os = os'.forget) :
    Refined (result, v, os) (result, p, os') := by
  cases v
  cases hvalid
  cases herror
  cases hconnecting
  cases hreading
  cases hwriting
  cases hos
  rfl

theorem connect_refines {p : NamedPipe α} {os : Os α} (h : Sane p os) (answer : Except Errno Unit) :
    Refined ((view p os).connect answer os.forget) (connect answer p os) := by
  unfold View.connect connect
  by_cases hvalid : p.valid = false
  · have hinvalid : (view p os).valid = false := hvalid
    rw [if_pos hvalid, if_pos hinvalid]
    rfl
  have hstill : ¬ (view p os).valid = false := hvalid
  rw [if_neg hvalid, if_neg hstill]
  cases hpending : p.connectPending with
  | true =>
    unfold completeConnectLocked
    rcases getOverlappedResult_cases p.connectOverlapped os with ⟨hnone, hg⟩ |
      ⟨operation, count, hop, hresult, hg⟩ | ⟨operation, error, hop, hresult, hg⟩
    · have hview : (view p os).connecting = .waiting p.connectOverlapped :=
        operationView_waiting hpending _ hnone
      simp only [hview, hg, if_true]
      rfl
    · have hview : (view p os).connecting = .ready () := operationView_ended hpending _ hop hresult
      simp only [hview, hg, if_true]
      rfl
    · have hview : (view p os).connecting = .failed error :=
        operationView_failed hpending _ hop hresult
      simp only [hview, hg, error.property, if_true, if_false]
      rfl
  | false =>
    have hview : (view p os).connecting = .idle := operationView_idle hpending _ _ _
    have hidle : ∀ op, Channel.idle = operationView false op (fun _ => Channel.ready ()) os :=
      fun _ => rfl
    cases answer with
    | ok u =>
      simp only [hview, connectNamedPipe]
      exact refined_mk rfl rfl (hview.trans (hidle _)) rfl rfl rfl
    | error error =>
      simp only [hview, connectNamedPipe]
      by_cases hfound : error = errorPipeConnected ∨ error = errorNoData
      · have hne : error ≠ errorIoPending := by
          rcases hfound with rfl | rfl <;> decide
        simp only [hfound, hne, if_true, if_false]
        exact refined_mk rfl rfl (hview.trans (hidle _)) rfl rfl rfl
      by_cases hio : error = errorIoPending
      · simp only [hfound, if_false]
        simp only [hio, if_true]
        refine refined_mk rfl rfl ?_ ?_ ?_ rfl
        · exact (operationView_started ..).symm
        · exact (readView_start h _ _).symm
        · exact (writeView_start h _ _).symm
      · simp only [hfound, hio, if_false]
        exact refined_mk rfl rfl (hidle _) rfl rfl rfl

theorem length_unread {p : NamedPipe α} {os : Os α} (h : Reading p os) :
    (unread p).length = p.readReadySize - p.readPos := by
  have hinside := h.inside
  simp only [unread, List.length_drop, List.length_take]
  omega

theorem readView_ready {p : NamedPipe α} (h : p.readPos < p.readReadySize) (os : Os α) :
    readView p os = .ready (unread p) := by
  simp [readView, h]

theorem readView_empty {p : NamedPipe α} (h : p.readReadySize ≤ p.readPos) (os : Os α) :
    readView p os = operationView p.readPending p.readOverlapped
      (fun count => .ready (p.readBuffer.take count)) os := by
  simp [readView, Nat.not_lt.mpr h]

/-- With no read pending, a pipe offers what is unread. -/
theorem readView_idle {p : NamedPipe α} {os : Os α} (h : Reading p os)
    (hpending : p.readPending = false) : readView p os = View.offer (unread p) := by
  have hlength := length_unread h
  by_cases hready : p.readPos < p.readReadySize
  · rw [readView_ready hready]
    cases hunread : unread p with
    | nil =>
      rw [hunread, List.length_nil] at hlength
      omega
    | cons b rest => rfl
  · rw [readView_empty (by omega), unread_of_empty (by omega)]
    exact operationView_idle hpending _ _ _

/-- `copy_ready`, seen from outside. -/
theorem copyReady_refines {p : NamedPipe α} {os : Os α} (h : Reading p os)
    (hpending : p.readPending = false) (size : Nat) :
    (copyReady size p).1 = (unread p).take size ∧
      view (copyReady size p).2 os =
        { view p os with reading := View.offer ((unread p).drop size) } := by
  have hlength := length_unread h
  have hout : (copyReady size p).1 = (unread p).take size := by
    rw [copyReady_fst, ← hlength, ← List.take_eq_take_min]
  have hleft : unread (copyReady size p).2 = (unread p).drop size := by
    rw [unread_copyReady size p h.pos_le, ← hlength, List.drop_eq_drop_iff]
    omega
  refine ⟨hout, ?_⟩
  have hreading := readView_idle (h.copyReady hpending size)
  obtain ⟨ready, pos, hcopy⟩ := copyReady_snd size p
  rw [hleft] at hreading
  rw [hcopy] at hreading ⊢
  rw [← hreading hpending]
  rfl

theorem read_refines [Inhabited α] {p : NamedPipe α} {os : Os α} (h : Sane p os) (memory : Bool)
    (answer : Except Errno (List α)) (size : Nat) :
    Refined ((view p os).read memory answer size os.forget) (readCall memory answer size p os) := by
  unfold View.read readCall read
  by_cases hvalid : p.valid = false
  · have hinvalid : (view p os).valid = false := hvalid
    rw [if_pos hvalid, if_pos hinvalid]
    rfl
  have hstill : ¬ (view p os).valid = false := hvalid
  rw [if_neg hvalid, if_neg hstill]
  by_cases hready : p.readPos < p.readReadySize
  · have hview : (view p os).reading = .ready (unread p) := readView_ready hready os
    have hpending : p.readPending = false := h.reading.not_pending hready
    obtain ⟨hout, hleft⟩ := copyReady_refines h.reading hpending size
    simp only [hready, hview, if_true, hout]
    unfold Refined
    rw [hleft]
  have hempty : p.readReadySize ≤ p.readPos := by omega
  rw [if_neg hready]
  by_cases hpending : p.readPending = true
  · rw [if_pos hpending]
    unfold completeReadLocked
    rcases getOverlappedResult_cases p.readOverlapped os with ⟨hnone, hg⟩ |
      ⟨operation, count, hop, hresult, hg⟩ | ⟨operation, error, hop, hresult, hg⟩
    · have hview : (view p os).reading = .waiting p.readOverlapped :=
        (readView_empty hempty os).trans (operationView_waiting hpending _ hnone)
      simp only [hview, hg, if_true]
      rfl
    · have hview : (view p os).reading = .ready (p.readBuffer.take count) :=
        (readView_empty hempty os).trans (operationView_ended hpending _ hop hresult)
      have hreading : Reading { p with readPending := false, readReadySize := count, readPos := 0 }
          (os.record (.fetched p.readOverlapped operation)) :=
        h.reading.picked_up hpending hop hresult
      obtain ⟨hout, hleft⟩ := copyReady_refines hreading rfl size
      simp only [hview, hg, hout]
      unfold Refined
      rw [hleft]
      rfl
    · have hview : (view p os).reading = .failed error :=
        (readView_empty hempty os).trans (operationView_failed hpending _ hop hresult)
      simp only [hview, hg, error.property, if_false]
      exact refined_mk rfl rfl rfl rfl rfl rfl
  · have hidle : p.readPending = false := by simpa using hpending
    have hview : (view p os).reading = .idle :=
      (readView_empty hempty os).trans (operationView_idle hidle _ _ _)
    simp only [hview]
    rw [if_neg hpending]
    by_cases hmemory : memory = false
    · rw [if_pos hmemory, if_pos hmemory]
      rfl
    rw [if_neg hmemory, if_neg hmemory]
    cases answer with
    | ok whole =>
      simp only [readFile, List.length_replicate]
      have hreading : Reading { p with
          readBuffer := overwrite (whole.take readBufferSize) (List.replicate readBufferSize default)
          readOverlapped := os.nextOp, readReadySize := (whole.take readBufferSize).length
          readPos := 0 } (os.record (.finished .read (whole.take readBufferSize))) :=
        Reading.brought hidle os.nextOp (List.length_take_le _ _)
      obtain ⟨hout, hleft⟩ := copyReady_refines hreading hidle size
      have hunread : unread { p with
          readBuffer := overwrite (whole.take readBufferSize) (List.replicate readBufferSize default)
          readOverlapped := os.nextOp, readReadySize := (whole.take readBufferSize).length
          readPos := 0 } = whole.take readBufferSize := take_overwrite _ _
      rw [hunread] at hout hleft
      unfold Refined
      rw [hout, hleft]
      rfl
    | error error =>
      by_cases hio : error = errorIoPending
      · simp only [readFile, hio, if_true]
        refine refined_mk rfl rfl ?_ ?_ ?_ rfl
        · exact (connectView_start h _ _).symm
        · symm
          refine (readView_empty ?_ _).trans (operationView_started ..)
          exact hempty
        · exact (writeView_start h _ _).symm
      · simp only [readFile, hio, if_false]
        refine refined_mk rfl rfl rfl ?_ rfl rfl
        symm
        refine (readView_empty ?_ _).trans (operationView_idle ?_ _ _ _)
        · exact hempty
        · exact hidle

def submitCall (memory : Bool) (answer : Except Errno Nat) (data : List α) (p : NamedPipe α)
    (os : Os α) : (Option ErrorCode × Nat) × NamedPipe α × Os α :=
  match submit memory answer data p os with
  | (ec, count, p, os) => ((ec, count), p, os)

theorem submit_refines {p : NamedPipe α} {os : Os α} (h : Sane p os)
    (hidle : p.writePending = false) (memory : Bool) (answer : Except Errno Nat) (data : List α) :
    Refined ((view p os).submit memory answer data os.forget)
      (submitCall memory answer data p os) := by
  have hview : (view p os).writing = .idle := operationView_idle hidle _ _ _
  unfold View.submit submitCall submit
  by_cases hmemory : memory = false
  · rw [if_pos hmemory, if_pos hmemory]
    rfl
  rw [if_neg hmemory, if_neg hmemory]
  cases answer with
  | ok count =>
    simp only [writeFile]
    refine refined_mk rfl rfl rfl rfl ?_ rfl
    exact hview.trans (operationView_idle hidle _ _ _).symm
  | error error =>
    by_cases hio : error = errorIoPending
    · simp only [writeFile, hio, if_true]
      refine refined_mk rfl rfl ?_ ?_ ?_ rfl
      · exact (connectView_start h _ _).symm
      · exact (readView_start h _ _).symm
      · exact (operationView_started ..).symm
    · simp only [writeFile, hio, if_false]
      refine refined_mk rfl rfl rfl rfl ?_ rfl
      exact hview.trans (operationView_idle hidle _ _ _).symm

theorem write_refines {p : NamedPipe α} {os : Os α} (h : Sane p os) (memory : Bool)
    (answer : Except Errno Nat) (data : List α) :
    Refined ((view p os).write memory answer data os.forget)
      (writeCall memory answer data p os) := by
  unfold View.write writeCall write
  by_cases hvalid : p.valid = false
  · have hinvalid : (view p os).valid = false := hvalid
    rw [if_pos hvalid, if_pos hinvalid]
    rfl
  have hstill : ¬ (view p os).valid = false := hvalid
  rw [if_neg hvalid, if_neg hstill]
  by_cases hpending : p.writePending = true
  · rw [if_pos hpending]
    unfold completeWriteLocked
    rcases getOverlappedResult_cases p.writeOverlapped os with ⟨hnone, hg⟩ |
      ⟨operation, count, hop, hresult, hg⟩ | ⟨operation, error, hop, hresult, hg⟩
    · have hview : (view p os).writing = .waiting p.writeOverlapped :=
        operationView_waiting hpending _ hnone
      simp only [hview, hg, if_true]
      rfl
    · have hview : (view p os).writing = .idle := operationView_ended hpending _ hop hresult
      simp only [hview, hg]
      have hsane : Sane { p with writePending := false, writeBuffer := [] }
          (os.record (.fetched p.writeOverlapped operation)) := by
        refine ⟨h.tidy.fetch_write hpending hop (by simp [hresult]) p.lastError, ?_⟩
        exact ⟨h.reading.window, h.reading.inside, h.reading.bound, h.reading.room, h.reading.idle,
          h.reading.arrived⟩
      have hsame : view p os = view { p with writePending := false, writeBuffer := [] }
          (os.record (.fetched p.writeOverlapped operation)) := by
        unfold view
        rw [show writeView p os = .idle from hview]
        rfl
      rw [hsame]
      exact submit_refines hsane rfl memory answer data
    · have hview : (view p os).writing = .failed error := operationView_failed hpending _ hop hresult
      simp only [hview, hg, error.property, if_false]
      exact refined_mk rfl rfl rfl rfl rfl rfl
  · have hidle : p.writePending = false := by simpa using hpending
    have hview : (view p os).writing = .idle := operationView_idle hidle _ _ _
    simp only [hview]
    rw [if_neg hpending]
    exact submit_refines h hidle memory answer data

theorem Channel.finish_of_ne {op : Op} {next c : Channel β} (h : c ≠ .waiting op) :
    c.finish op next = c := by
  cases c with
  | waiting op' =>
    have hne : op' ≠ op := by
      rintro rfl
      exact h rfl
    simp [Channel.finish, hne]
  | idle | failed | ready => rfl

/-- The end of another operation is not seen. -/
theorem operationView_finish_other {pending : Bool} {op op' : Op} (ended : Nat → Channel β)
    {os : Os α} {operation : Operation α} {outcome : Outcome α} (hne : pending = true → op' ≠ op) :
    operationView pending op' ended (os.finish op operation outcome) =
      operationView pending op' ended os := by
  cases hpending : pending with
  | false => rfl
  | true =>
    have hops : (os.finish op operation outcome).ops op' = os.ops op' :=
      Function.update_of_ne (hne hpending) ..
    simp only [operationView, hops]

theorem operationView_ne_waiting {pending : Bool} {op op' : Op} {ended : Nat → Channel β}
    {os : Os α} (hne : pending = true → op' ≠ op) (hended : ∀ count, ended count ≠ .waiting op) :
    operationView pending op' ended os ≠ .waiting op := by
  unfold operationView
  intro h
  split at h
  · rename_i hpending
    have hop := hne hpending
    split at h
    · cases h
      exact hop rfl
    · split at h
      · cases h
        exact hop rfl
      · exact hended _ h
      · cases h
  · cases h

/-- The end of the operation a channel waits for. -/
theorem operationView_finish {kind : Kind} {pending : Bool} {op op' : Op} {ended : Nat → Channel β}
    {os : Os α} {operation : Operation α} {outcome : Outcome α} {next : Channel β}
    (howned : Owned mine kind pending op' os) (hop : os.ops op = some operation)
    (hresult : operation.result = none) (hended : ∀ count, ended count ≠ .waiting op)
    (hnext : operation.kind = kind →
      operationView true op ended (os.finish op operation outcome) = next) :
    operationView pending op' ended (os.finish op operation outcome) =
      (operationView pending op' ended os).finish op next := by
  by_cases hsame : pending = true ∧ op' = op
  · obtain ⟨rfl, rfl⟩ := hsame
    have hwaiting : operationView true op' ended os = .waiting op' := by
      apply operationView_waiting rfl
      intro operation' hop'
      rw [hop] at hop'
      cases hop'
      exact hresult
    rw [hnext (howned.kind_eq rfl hop), hwaiting]
    simp [Channel.finish]
  · have hne : pending = true → op' ≠ op := fun hpending heq => hsame ⟨hpending, heq⟩
    rw [operationView_finish_other ended hne,
      Channel.finish_of_ne (operationView_ne_waiting hne hended)]

theorem operationView_finished (op : Op) (ended : Nat → Channel β) (os : Os α)
    (operation : Operation α) (outcome : Outcome α) :
    operationView true op ended (os.finish op operation outcome) =
      match outcome with
      | .received block => ended block.length
      | .transferred count => ended count
      | .failed error => .failed error := by
  have hops : (os.finish op operation outcome).ops op = some (operation.finish outcome) :=
    Function.update_self ..
  cases outcome <;> simp only [operationView, hops, Operation.finish, if_true]

/-- The object's part of an end that brings no bytes for it. -/
theorem receive_other {p : NamedPipe α} {op : Op} (outcome : Outcome α)
    (h : p.readPending = true → p.readOverlapped ≠ op) : p.receive op outcome = p := by
  cases outcome with
  | received block => exact if_neg fun hc => h hc.1 hc.2
  | transferred | failed => rfl

/-- Reading, when the kernel ends an operation. -/
theorem readView_finish {p : NamedPipe α} {os : Os α} (h : Sane p os) {op : Op}
    {operation : Operation α} {outcome : Outcome α} (hop : os.ops op = some operation)
    (hresult : operation.result = none) (hfits : outcome.fits os.session operation) :
    readView (p.receive op outcome) (os.finish op operation outcome) =
      (readView p os).finish op outcome.reading := by
  by_cases hsame : p.readPending = true ∧ p.readOverlapped = op
  · obtain ⟨hpending, rfl⟩ := hsame
    have hready := h.reading.idle hpending
    have hkind := h.tidy.reads.kind_eq hpending hop
    have hwaiting : readView p os = .waiting p.readOverlapped := by
      rw [readView_empty (by omega)]
      apply operationView_waiting hpending
      intro operation' hop'
      rw [hop] at hop'
      cases hop'
      exact hresult
    have hnow : (Channel.waiting p.readOverlapped).finish p.readOverlapped outcome.reading =
        outcome.reading := if_pos rfl
    obtain ⟨buffer, hbuffer⟩ := receive_eq p.readOverlapped outcome p
    have hempty : (p.receive p.readOverlapped outcome).readReadySize ≤
        (p.receive p.readOverlapped outcome).readPos := by
      rw [hbuffer]
      change p.readReadySize ≤ p.readPos
      omega
    rw [hwaiting, hnow, readView_empty hempty]
    cases outcome with
    | received block =>
      have hreceived : p.receive p.readOverlapped (.received block) =
          { p with readBuffer := overwrite block p.readBuffer } := if_pos ⟨hpending, rfl⟩
      simp only [hreceived, hpending, operationView_finished, take_overwrite, Outcome.reading]
    | transferred count => exact absurd hkind hfits.1
    | failed error =>
      change operationView p.readPending p.readOverlapped _ _ = _
      rw [hpending, operationView_finished]
      rfl
  · have hne : p.readPending = true → p.readOverlapped ≠ op := fun hpending heq =>
      hsame ⟨hpending, heq⟩
    rw [receive_other outcome hne]
    by_cases hready : p.readPos < p.readReadySize
    · rw [readView_ready hready, readView_ready hready]
      rfl
    · have hother : readView p os ≠ .waiting op := by
        rw [readView_empty (by omega)]
        exact operationView_ne_waiting hne fun _ => nofun
      rw [Channel.finish_of_ne hother, readView_empty (by omega), readView_empty (by omega),
        operationView_finish_other _ hne]

theorem finish_refines {p : NamedPipe α} {os : Os α} (h : Sane p os) {op : Op}
    {operation : Operation α} {outcome : Outcome α} (hop : os.ops op = some operation)
    (hresult : operation.result = none) (hfits : outcome.fits os.session operation) :
    view (p.receive op outcome) (os.finish op operation outcome) = (view p os).finish op outcome := by
  have hconnect : connectView p (os.finish op operation outcome) =
      (connectView p os).finish op outcome.connecting := by
    refine operationView_finish h.tidy.connects hop hresult (fun _ => nofun) fun _ => ?_
    rw [operationView_finished]
    cases outcome <;> rfl
  have hwrite : writeView p (os.finish op operation outcome) =
      (writeView p os).finish op outcome.writing := by
    refine operationView_finish h.tidy.writes hop hresult (fun _ => nofun) fun _ => ?_
    rw [operationView_finished]
    cases outcome <;> rfl
  have hread := readView_finish h hop hresult hfits
  obtain ⟨buffer, hbuffer⟩ := receive_eq op outcome p
  rw [hbuffer] at hread ⊢
  unfold view View.finish
  rw [hread, ← hconnect, ← hwrite]
  rfl

theorem ends_eq_some {op : Op} {outcome : Outcome α} {os : Os α} {operation : Operation α}
    (h : os.ends op outcome = some operation) :
    os.ops op = some operation ∧ operation.result = none ∧ outcome.fits os.session operation := by
  obtain ⟨hop, hc⟩ := Option.filter_eq_some_iff.mp h
  rw [Bool.and_eq_true, decide_eq_true_iff, Option.isNone_iff_eq_none] at hc
  exact ⟨hop, hc⟩

/-- Every action of the object is the action of its view. -/
theorem call_refines [Inhabited α] {p : NamedPipe α} {os : Os α} (h : Sane p os) (a : Action α) :
    Refined ((view p os).call a os.forget) (call a p os) := by
  cases a with
  | connect answer =>
    have hrefines := connect_refines h answer
    unfold Refined at hrefines
    simp only [View.call, hrefines]
    rfl
  | disconnect answer => cases answer <;> rfl
  | read memory answer size =>
    have hrefines := read_refines h memory answer size
    unfold Refined at hrefines
    simp only [View.call, hrefines]
    rfl
  | write memory answer data =>
    have hrefines := write_refines h memory answer data
    unfold Refined at hrefines
    simp only [View.call, hrefines]
    rfl
  | takeError => rfl
  | finish op outcome =>
    have hsame : os.forget.ends op outcome = os.ends op outcome := rfl
    cases hends : os.ends op outcome with
    | none =>
      simp only [View.call, call, hsame, hends]
      rfl
    | some operation =>
      obtain ⟨hop, hresult, hfits⟩ := ends_eq_some hends
      simp only [View.call, call, hsame, hends, ← finish_refines h hop hresult hfits]
      rfl

end Pipe
