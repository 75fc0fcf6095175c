import Ioxx.PipeOperations
import Mathlib.Data.List.TakeDrop

/-!
# Reading from a named pipe

`carried` is what the native functions have moved in one direction, as the calls
of the object were told. The bytes that `read` has returned and the bytes it has
buffered make up exactly that.
-/

namespace Pipe

open Core Runs

variable {α : Type} {mine : Op → Prop}

/-- The bytes an operation that has ended has moved. -/
def Operation.moved (operation : Operation α) : List α :=
  match operation.result with
  | some (.ok count) => operation.data.take count
  | _ => []

def Native.bytes (kind : Kind) : Native α → List α
  | .finished kind' data => if kind' = kind then data else []
  | .fetched _ operation => if operation.kind = kind then operation.moved else []

/-- All bytes of one direction, in order. -/
def carried (kind : Kind) : List (Native α) → List α
  | [] => []
  | entry :: earlier => carried kind earlier ++ entry.bytes kind

@[simp] theorem carried_record (kind : Kind) (entry : Native α) (os : Os α) :
    carried kind (os.record entry).trace = carried kind os.trace ++ entry.bytes kind := rfl

@[simp] theorem trace_start (kind : Kind) (data : List α) (os : Os α) :
    (os.start kind data).trace = os.trace := rfl

/-- `read_buffer_[read_pos_, read_ready_size_)`. -/
def unread (p : NamedPipe α) : List α := (p.readBuffer.take p.readReadySize).drop p.readPos

/-- The members of the object that reading uses. -/
structure Reading (p : NamedPipe α) (os : Os α) : Prop where
  window : p.readPos < p.readReadySize ∨ p.readPos = 0 ∧ p.readReadySize = 0
  inside : p.readReadySize ≤ p.readBuffer.length
  bound : p.readBuffer.length ≤ readBufferSize
  room : p.readPending = true → p.readBuffer.length = readBufferSize
  idle : p.readPending = true → p.readReadySize = 0
  arrived : p.readPending = true → ∀ operation count, os.ops p.readOverlapped = some operation →
    operation.result = some (.ok count) →
    count = operation.data.length ∧ count ≤ readBufferSize ∧ p.readBuffer.take count = operation.data

theorem length_overwrite (block buffer : List α) :
    (overwrite block buffer).length = max block.length buffer.length := by
  simp only [overwrite, List.length_append, List.length_drop]
  omega

theorem take_overwrite (block buffer : List α) :
    (overwrite block buffer).take block.length = block := by
  simp only [overwrite, List.take_left]

theorem unread_of_empty {p : NamedPipe α} (h : p.readReadySize ≤ p.readPos) : unread p = [] := by
  apply List.drop_eq_nil_of_le
  rw [List.length_take]
  omega

theorem copyReady_fst (size : Nat) (p : NamedPipe α) :
    (copyReady size p).1 = (unread p).take (min size (p.readReadySize - p.readPos)) := by
  simp only [copyReady]
  rw [unread, List.drop_take, List.take_take]
  congr 1
  omega

theorem unread_copyReady (size : Nat) (p : NamedPipe α) (h : p.readPos ≤ p.readReadySize) :
    unread (copyReady size p).2 = (unread p).drop (min size (p.readReadySize - p.readPos)) := by
  simp only [copyReady]
  split
  · rename_i hall
    rw [unread_of_empty (le_refl 0)]
    symm
    apply List.drop_eq_nil_of_le
    simp only [unread, List.length_drop, List.length_take]
    omega
  · simp only [unread, List.drop_drop]

/-- What `copy_ready` hands out and what it leaves make up what was there. -/
theorem copyReady_unread (size : Nat) (p : NamedPipe α) (h : p.readPos ≤ p.readReadySize) :
    (copyReady size p).1 ++ unread (copyReady size p).2 = unread p := by
  rw [copyReady_fst, unread_copyReady size p h, List.take_append_drop]

/-- With no read pending, the window is all there is to check. -/
theorem Reading.of_idle {p : NamedPipe α} {os : Os α} (hpending : p.readPending = false)
    (hwindow : p.readPos < p.readReadySize ∨ p.readPos = 0 ∧ p.readReadySize = 0)
    (hinside : p.readReadySize ≤ p.readBuffer.length)
    (hbound : p.readBuffer.length ≤ readBufferSize) : Reading p os := by
  refine ⟨hwindow, hinside, hbound, ?_, ?_, ?_⟩
  all_goals
    intro htrue
    rw [hpending] at htrue
    cases htrue

theorem Reading.copyReady {p : NamedPipe α} {os : Os α} (h : Reading p os)
    (hpending : p.readPending = false) (size : Nat) : Reading (copyReady size p).2 os := by
  have hwindow := h.window
  simp only [Pipe.copyReady]
  split
  · exact .of_idle hpending (.inr ⟨rfl, rfl⟩) (Nat.zero_le _) h.bound
  · refine .of_idle hpending (.inl ?_) h.inside h.bound
    change p.readPos + _ < p.readReadySize
    omega

theorem Reading.pos_le {p : NamedPipe α} {os : Os α} (h : Reading p os) :
    p.readPos ≤ p.readReadySize := by
  rcases h.window with hlt | ⟨hpos, hready⟩ <;> omega

/-- A block that has just come lies at the front of the buffer. -/
theorem Reading.of_block {p : NamedPipe α} {os : Os α} (hpending : p.readPending = false)
    (hpos : p.readPos = 0) (hinside : p.readReadySize ≤ p.readBuffer.length)
    (hbound : p.readBuffer.length ≤ readBufferSize) : Reading p os := by
  refine .of_idle hpending ?_ hinside hbound
  omega

theorem Reading.not_pending {p : NamedPipe α} {os : Os α} (h : Reading p os)
    (hready : p.readPos < p.readReadySize) : p.readPending = false := by
  cases hp : p.readPending with
  | false => rfl
  | true =>
    have := h.idle hp
    omega

/-- A finished read, once its count is taken over. -/
theorem Reading.picked_up {p : NamedPipe α} {os os' : Os α} (h : Reading p os)
    (hpending : p.readPending = true) {operation : Operation α} {count : Nat}
    (hop : os.ops p.readOverlapped = some operation)
    (hresult : operation.result = some (.ok count)) :
    Reading { p with readPending := false, readReadySize := count, readPos := 0 } os' := by
  obtain ⟨-, hcount, -⟩ := h.arrived hpending operation count hop hresult
  refine .of_block rfl rfl ?_ h.bound
  rw [h.room hpending]
  exact hcount

/-- A block that `ReadFile` has brought at once. -/
theorem Reading.brought [Inhabited α] {p : NamedPipe α} {os : Os α} (hpending : p.readPending = false)
    (op : Op) {block : List α} (hlength : block.length ≤ readBufferSize) :
    Reading { p with
      readBuffer := overwrite block (List.replicate readBufferSize default)
      readOverlapped := op, readReadySize := block.length, readPos := 0 } os := by
  have hsize : (List.replicate readBufferSize (default : α)).length = readBufferSize :=
    List.length_replicate
  refine .of_block hpending rfl ?_ ?_
  · simp only [length_overwrite]
    omega
  · simp only [length_overwrite, hsize]
    omega

theorem Reading.read [Inhabited α] {answer : Except Errno (List α)} {size : Nat}
    {p : NamedPipe α} {os : Os α}
    {r : Option ErrorCode × List α × NamedPipe α × Os α} (h : Reading p os)
    (hr : Reads answer size p os r) : Reading r.2.2.1 r.2.2.2 := by
  have hsize : (List.replicate readBufferSize (default : α)).length = readBufferSize :=
    List.length_replicate
  cases hr with
  | refused code => exact h
  | buffered hlt => exact h.copyReady (h.not_pending hlt) size
  | fetched operation count hle hpending hop hresult hq =>
    subst hq
    exact (h.picked_up hpending hop hresult).copyReady rfl size
  | lost operation error hle hpending hop hresult =>
    exact .of_idle rfl (.inr ⟨rfl, rfl⟩) (Nat.zero_le _) h.bound
  | finished block hle hpending hlength hanswer hq =>
    subst hq
    exact (Reading.brought hpending os.nextOp hlength).copyReady hpending size
  | started hle hpending =>
    have hready := h.window
    refine ⟨?_, ?_, hsize.le, fun _ => hsize, ?_, ?_⟩
    · exact h.window
    · simp only [hsize]
      omega
    · intro _
      change p.readReadySize = 0
      omega
    · intro _ operation count hop hresult
      change Function.update os.ops os.nextOp _ os.nextOp = some operation at hop
      rw [Function.update_self] at hop
      cases hop
      cases hresult
  | failed error hle hpending =>
    have hready := h.window
    refine .of_idle hpending h.window ?_ hsize.le
    simp only [hsize]
    omega

theorem stream_of_empty {p q : NamedPipe α} {before all : List α}
    (hp : p.readReadySize ≤ p.readPos) (hq : q.readReadySize ≤ q.readPos)
    (h : before ++ unread p = all) : before ++ [] ++ unread q = all := by
  rw [unread_of_empty hp] at h
  rw [unread_of_empty hq, List.append_nil]
  exact h

/-- One `read` keeps the stream: what it returns was buffered or has just come. -/
theorem Reading.stream [Inhabited α] {answer : Except Errno (List α)} {size : Nat}
    {p : NamedPipe α} {os : Os α}
    {r : Option ErrorCode × List α × NamedPipe α × Os α} (h : Reading p os)
    (howned : Owned mine .read p.readPending p.readOverlapped os) (hr : Reads answer size p os r)
    {before : List α} (hbefore : before ++ unread p = carried .read os.trace) :
    before ++ r.2.1 ++ unread r.2.2.1 = carried .read r.2.2.2.trace := by
  cases hr with
  | refused code =>
    rw [List.append_nil]
    exact hbefore
  | buffered hlt =>
    rw [List.append_assoc, copyReady_unread size p h.pos_le]
    exact hbefore
  | fetched operation count hle hpending hop hresult hq =>
    obtain ⟨hlength, -, hblock⟩ := h.arrived hpending operation count hop hresult
    have hkind := howned.kind_eq hpending hop
    rw [unread_of_empty hle, List.append_nil] at hbefore
    subst hq
    rw [List.append_assoc, copyReady_unread size _ (Nat.zero_le _), carried_record, ← hbefore]
    congr 1
    simp only [unread, Native.bytes, hkind, if_true, Operation.moved, hresult, List.drop_zero]
    rw [hblock, hlength, List.take_length]
  | lost operation error hle hpending hop hresult =>
    rw [unread_of_empty hle, List.append_nil] at hbefore
    rw [unread_of_empty (le_refl 0), carried_record, ← hbefore]
    simp [Native.bytes, Operation.moved, hresult]
  | finished block hle hpending hlength hanswer hq =>
    rw [unread_of_empty hle, List.append_nil] at hbefore
    subst hq
    rw [List.append_assoc, copyReady_unread size _ (Nat.zero_le _), carried_record, ← hbefore]
    congr 1
    simp only [unread, Native.bytes, if_true, List.drop_zero]
    exact take_overwrite block _
  | started hle hpending => exact stream_of_empty hle hle hbefore
  | failed error hle hpending => exact stream_of_empty hle hle hbefore

/-- A call that has nothing to do with reading. -/
structure KeepsReads (p : NamedPipe α) (os : Os α) (q : NamedPipe α) (os' : Os α) : Prop where
  buffer : q.readBuffer = p.readBuffer
  ready : q.readReadySize = p.readReadySize
  pos : q.readPos = p.readPos
  pending : q.readPending = p.readPending
  overlapped : q.readOverlapped = p.readOverlapped
  ops : ∀ op operation, os.ops op = some operation → os'.ops op = some operation
  carried : carried .read os'.trace = carried .read os.trace

theorem KeepsReads.trans {p q q' : NamedPipe α} {os os' os'' : Os α}
    (h : KeepsReads p os q os') (h' : KeepsReads q os' q' os'') : KeepsReads p os q' os'' :=
  ⟨h'.buffer.trans h.buffer, h'.ready.trans h.ready, h'.pos.trans h.pos, h'.pending.trans h.pending,
    h'.overlapped.trans h.overlapped, fun op operation hop => h'.ops op operation (h.ops op operation hop),
    h'.carried.trans h.carried⟩

theorem KeepsReads.unread_eq {p q : NamedPipe α} {os os' : Os α} (h : KeepsReads p os q os') :
    unread q = unread p := by
  simp only [unread, h.buffer, h.ready, h.pos]

theorem bytes_finished {kind kind' : Kind} (h : kind' ≠ kind) (data : List α) :
    (Native.finished kind' data).bytes kind = [] := by
  simp [Native.bytes, h]

theorem bytes_fetched {kind : Kind} {operation : Operation α} (h : operation.kind ≠ kind) (op : Op) :
    (Native.fetched op operation).bytes kind = [] := by
  simp [Native.bytes, h]

theorem keepsReads_fetched {p q : NamedPipe α} {os : Os α} {op : Op} {operation : Operation α}
    (hkind : operation.kind ≠ .read) (hbuffer : q.readBuffer = p.readBuffer)
    (hready : q.readReadySize = p.readReadySize) (hpos : q.readPos = p.readPos)
    (hpending : q.readPending = p.readPending) (hoverlapped : q.readOverlapped = p.readOverlapped) :
    KeepsReads p os q (os.record (.fetched op operation)) := by
  refine ⟨hbuffer, hready, hpos, hpending, hoverlapped, fun _ _ h => h, ?_⟩
  rw [carried_record, bytes_fetched hkind, List.append_nil]

theorem keepsReads_submit {answer : Except Errno Nat} {data : List α} {p : NamedPipe α} {os : Os α}
    {r : Option ErrorCode × Nat × NamedPipe α × Os α} (hfresh : Fresh os)
    (hr : Submits answer data p os r) : KeepsReads p os r.2.2.1 r.2.2.2 := by
  cases hr with
  | refused code hcode => exact ⟨rfl, rfl, rfl, rfl, rfl, fun _ _ h => h, rfl⟩
  | finished sent hsent =>
    refine ⟨rfl, rfl, rfl, rfl, rfl, fun _ _ h => h, ?_⟩
    rw [carried_record, bytes_finished (by decide), List.append_nil]
  | started hanswer =>
    exact ⟨rfl, rfl, rfl, rfl, rfl, fun _ _ h => ops_start_of_some hfresh h _ _, rfl⟩
  | failed error => exact ⟨rfl, rfl, rfl, rfl, rfl, fun _ _ h => h, rfl⟩

theorem keepsReads_write {answer : Except Errno Nat} {data : List α} {p : NamedPipe α} {os : Os α}
    {r : Option ErrorCode × Nat × NamedPipe α × Os α} (h : Tidy mine p os)
    (hr : Writes answer data p os r) : KeepsReads p os r.2.2.1 r.2.2.2 := by
  have hkind : ∀ operation, p.writePending = true → os.ops p.writeOverlapped = some operation →
      operation.kind ≠ .read := by
    intro operation hpending hop
    rw [h.writes.kind_eq hpending hop]
    decide
  cases hr with
  | refused code => exact ⟨rfl, rfl, rfl, rfl, rfl, fun _ _ h => h, rfl⟩
  | lost operation error hpending hop hresult =>
    exact keepsReads_fetched (hkind operation hpending hop) rfl rfl rfl rfl rfl
  | idle hpending hr => exact keepsReads_submit h.fresh hr
  | fetched operation count hpending hop hresult hr =>
    have hfetch := h.fetch_write hpending hop (by simp [hresult]) p.lastError
    refine KeepsReads.trans ?_ (keepsReads_submit hfetch.fresh hr)
    exact keepsReads_fetched (hkind operation hpending hop) rfl rfl rfl rfl rfl

theorem keepsReads_connect {answer : Except Errno Unit} {p : NamedPipe α} {os : Os α}
    {r : Except Exception (Option ErrorCode) × NamedPipe α × Os α} (h : Tidy mine p os)
    (hr : Connects answer p os r) : KeepsReads p os r.2.1 r.2.2 := by
  have hkind : ∀ operation, p.connectPending = true → os.ops p.connectOverlapped = some operation →
      operation.kind ≠ .read := by
    intro operation hpending hop
    rw [h.connects.kind_eq hpending hop]
    decide
  cases hr with
  | refused code => exact ⟨rfl, rfl, rfl, rfl, rfl, fun _ _ h => h, rfl⟩
  | fetched operation count hpending hop hresult =>
    exact keepsReads_fetched (hkind operation hpending hop) rfl rfl rfl rfl rfl
  | lost operation error hpending hop hresult =>
    exact keepsReads_fetched (hkind operation hpending hop) rfl rfl rfl rfl rfl
  | finished hpending hanswer => exact ⟨rfl, rfl, rfl, rfl, rfl, fun _ _ h => h, rfl⟩
  | started hpending =>
    exact ⟨rfl, rfl, rfl, rfl, rfl, fun _ _ hop => ops_start_of_some h.fresh hop _ _, rfl⟩
  | failed code hpending => exact ⟨rfl, rfl, rfl, rfl, rfl, fun _ _ h => h, rfl⟩

/-- Every call but `read` has nothing to do with reading. -/
theorem keepsReads_step [Inhabited α] {a : Action α} {s t : System α} (h : Tidy mine s.pipe s.os)
    (hstep : step a s = some t) (hread : ∀ memory answer size, a ≠ .read memory answer size)
    (hfinish : ∀ op outcome, a ≠ .finish op outcome) :
    KeepsReads s.pipe s.os t.pipe t.os ∧ t.returned = s.returned := by
  cases a with
  | connect answer =>
    obtain ⟨r, hr, rfl⟩ := step_connect hstep
    exact ⟨keepsReads_connect h hr, rfl⟩
  | disconnect answer =>
    rcases step_disconnect hstep with ⟨-, rfl⟩ | rfl
    · exact ⟨⟨rfl, rfl, rfl, rfl, rfl, fun _ _ h => h, rfl⟩, rfl⟩
    · exact ⟨⟨rfl, rfl, rfl, rfl, rfl, fun _ _ h => h, rfl⟩, rfl⟩
  | read memory answer size => exact absurd rfl (hread memory answer size)
  | write memory answer data =>
    obtain ⟨r, hr, rfl⟩ := step_write hstep
    exact ⟨keepsReads_write h hr, rfl⟩
  | takeError =>
    obtain rfl := step_takeError hstep
    exact ⟨⟨rfl, rfl, rfl, rfl, rfl, fun _ _ h => h, rfl⟩, rfl⟩
  | finish op outcome => exact absurd rfl (hfinish op outcome)

theorem Reading.keep {p q : NamedPipe α} {os os' : Os α} (h : Reading p os) (htidy : Tidy mine p os)
    (hkeep : KeepsReads p os q os') : Reading q os' := by
  obtain ⟨hbuffer, hready, hpos, hpending, hoverlapped, hops, -⟩ := hkeep
  refine ⟨?_, ?_, ?_, ?_, ?_, ?_⟩
  · rw [hpos, hready]
    exact h.window
  · rw [hbuffer, hready]
    exact h.inside
  · rw [hbuffer]
    exact h.bound
  · rw [hpending, hbuffer]
    exact h.room
  · rw [hpending, hready]
    exact h.idle
  · rw [hpending, hbuffer, hoverlapped]
    intro htrue operation count hop hresult
    obtain ⟨held, hheld, -⟩ := htidy.reads.held htrue
    have hsame := hops _ held hheld
    rw [hop] at hsame
    cases hsame
    exact h.arrived htrue operation count hheld hresult

/-- The end of another operation leaves the bytes of the pending read as they are. -/
theorem Reading.finish_other {p : NamedPipe α} {os : Os α} {op : Op} {operation : Operation α}
    {outcome : Outcome α} (h : Reading p os)
    (hother : p.readPending = true → p.readOverlapped = op →
      ∀ count, (operation.finish outcome).result ≠ some (.ok count)) :
    Reading p (os.finish op operation outcome) := by
  refine ⟨h.window, h.inside, h.bound, h.room, h.idle, ?_⟩
  intro hpending operation' count hop' hresult'
  change Function.update os.ops op _ p.readOverlapped = _ at hop'
  by_cases hsame : p.readOverlapped = op
  · rw [hsame, Function.update_self] at hop'
    cases hop'
    exact absurd hresult' (hother hpending hsame count)
  · rw [Function.update_of_ne hsame] at hop'
    exact h.arrived hpending operation' count hop' hresult'

/-- The kernel ends an operation; only a block for the pending read touches the
buffer, where nothing was unread. -/
theorem Reading.finish {p : NamedPipe α} {os : Os α} {op : Op} {operation : Operation α}
    {outcome : Outcome α} (h : Reading p os) (htidy : Tidy mine p os)
    (hop : os.ops op = some operation) (hfits : outcome.fits os.session operation) :
    Reading (p.receive op outcome) (os.finish op operation outcome) ∧
      unread (p.receive op outcome) = unread p := by
  cases outcome with
  | received block =>
    obtain ⟨-, -, hlength⟩ := hfits
    by_cases hc : p.readPending = true ∧ p.readOverlapped = op
    · obtain ⟨hpending, rfl⟩ := hc
      have hready := h.idle hpending
      have hroom := h.room hpending
      simp only [NamedPipe.receive, hpending, true_and, if_true]
      constructor
      · refine ⟨h.window, ?_, ?_, ?_, fun _ => hready, ?_⟩
        · change p.readReadySize ≤ _
          omega
        · simp only [length_overwrite]
          omega
        · intro _
          simp only [length_overwrite]
          omega
        · intro _ operation' count hop' hresult'
          change Function.update os.ops _ _ _ = _ at hop'
          rw [Function.update_self] at hop'
          cases hop'
          cases hresult'
          exact ⟨rfl, hlength, take_overwrite block p.readBuffer⟩
      · have hempty : p.readReadySize ≤ p.readPos := by omega
        rw [unread_of_empty hempty]
        exact unread_of_empty hempty
    · rw [show p.receive op (.received block) = p from if_neg hc]
      exact ⟨h.finish_other fun hpending hsame => absurd ⟨hpending, hsame⟩ hc, rfl⟩
  | transferred count =>
    refine ⟨h.finish_other ?_, rfl⟩
    intro hpending hsame
    rw [← hsame] at hop
    exact absurd (htidy.reads.kind_eq hpending hop) hfits.1
  | failed error =>
    refine ⟨h.finish_other ?_, rfl⟩
    intro _ _ count hresult
    cases hresult

/-- All of reading, over whole runs. -/
structure ReadsInOrder (s : System α) : Prop where
  tidy : Tidy (fun _ => True) s.pipe s.os
  reading : Reading s.pipe s.os
  stream : s.returned ++ unread s.pipe = carried .read s.os.trace

theorem readsInOrder_initial (handle : NativeHandle) :
    ReadsInOrder (initial (α := α) handle) :=
  ⟨tidy_initial handle, .of_idle rfl (.inr ⟨rfl, rfl⟩) (Nat.zero_le _) (Nat.zero_le _), rfl⟩

theorem ReadsInOrder.step [Inhabited α] {a : Action α} {s t : System α} (h : ReadsInOrder s)
    (hstep : step a s = some t) : ReadsInOrder t := by
  obtain ⟨htidy, hreading, hstream⟩ := h
  have htidy' := htidy.step hstep
  cases a with
  | read memory answer size =>
    obtain ⟨r, hr, rfl⟩ := step_read hstep
    exact ⟨htidy', hreading.read hr, hreading.stream htidy.reads hr hstream⟩
  | finish op outcome =>
    obtain ⟨operation, hop, hresult, hfits, rfl⟩ := step_finish hstep
    obtain ⟨hread, hunread⟩ := hreading.finish htidy hop hfits
    refine ⟨htidy', hread, ?_⟩
    change s.returned ++ unread (s.pipe.receive op outcome) = carried .read s.os.trace
    rw [hunread]
    exact hstream
  | connect | disconnect | write | takeError =>
    obtain ⟨hkeep, hreturned⟩ := keepsReads_step htidy hstep nofun nofun
    refine ⟨htidy', hreading.keep htidy hkeep, ?_⟩
    rw [hkeep.unread_eq, hkeep.carried, hreturned]
    exact hstream

theorem reachable_readsInOrder [Inhabited α] {ok : Action α → System α → Prop}
    {handle : NativeHandle} {s : System α} (h : Reach step ok (initial handle) s) : ReadsInOrder s :=
  h.invariant (readsInOrder_initial handle) fun _ _ _ hu _ hstep => hu.step hstep

/-- The only action that is not a call of the object. -/
def Action.isFinish : Action α → Bool
  | .finish _ _ => true
  | _ => false

/-- While a read is pending, no call writes to the buffer it was started with. -/
theorem readBuffer_of_pending [Inhabited α] {a : Action α} {s t : System α}
    (h : ReadsInOrder s) (hstep : step a s = some t) (hcall : a.isFinish = false)
    (hpending : s.pipe.readPending = true) : t.pipe.readBuffer = s.pipe.readBuffer := by
  cases a with
  | read memory answer size =>
    obtain ⟨r, hr, rfl⟩ := step_read hstep
    have hready := h.reading.idle hpending
    cases hr with
    | refused code => rfl
    | buffered hlt => omega
    | fetched operation count hle _ hop hresult hq =>
      obtain ⟨ready, pos, hcopy⟩ := copyReady_snd size _
      subst hq
      rw [hcopy]
    | lost => rfl
    | finished _ _ hidle => rw [hidle] at hpending; cases hpending
    | started _ hidle => rw [hidle] at hpending; cases hpending
    | failed _ _ hidle => rw [hidle] at hpending; cases hpending
  | finish op outcome => cases hcall
  | connect | disconnect | write | takeError =>
    obtain ⟨hkeep, -⟩ := keepsReads_step h.tidy hstep nofun nofun
    exact hkeep.buffer

theorem Reading.nothing_ready {p : NamedPipe α} {os : Os α} (h : Reading p os)
    (hpending : p.readPending = true) : ¬ p.readPos < p.readReadySize := by
  rw [h.idle hpending]
  exact Nat.not_lt_zero _

/-- The next call picks up the bytes of a read that has ended, as many as it asks for. -/
theorem Reading.read_ended [Inhabited α] {p : NamedPipe α} {os : Os α} (h : Reading p os)
    (hvalid : p.valid = true) (hpending : p.readPending = true) {operation : Operation α}
    (hop : os.ops p.readOverlapped = some operation) {count : Nat}
    (hresult : operation.result = some (.ok count)) (memory : Bool) (answer : Except Errno (List α))
    (size : Nat) :
    (Pipe.read memory answer size p os).1 = none ∧
      (Pipe.read memory answer size p os).2.1 = operation.data.take size := by
  obtain ⟨hlength, -, hblock⟩ := h.arrived hpending operation count hop hresult
  have hget : getOverlappedResult p.readOverlapped os =
      (.ok count, os.record (.fetched p.readOverlapped operation)) := by
    simp only [getOverlappedResult, hop, hresult]
  rw [Pipe.read, if_neg (by simp [hvalid]), if_neg (h.nothing_ready hpending), if_pos hpending]
  simp only [completeReadLocked, hget]
  refine ⟨trivial, ?_⟩
  rw [copyReady_fst]
  simp only [unread, List.drop_zero, Nat.sub_zero]
  rw [hblock, hlength, ← List.take_take, List.take_length]

/-- The next call reports the error of a read that has failed. -/
theorem Reading.read_failed [Inhabited α] {p : NamedPipe α} {os : Os α} (h : Reading p os)
    (hvalid : p.valid = true) (hpending : p.readPending = true) {operation : Operation α}
    (hop : os.ops p.readOverlapped = some operation) {error : Failure}
    (hresult : operation.result = some (.error error)) (memory : Bool) (answer : Except Errno (List α))
    (size : Nat) :
    (Pipe.read memory answer size p os).1 = some (.ofLastError error.val) ∧
      (Pipe.read memory answer size p os).2.1 = [] := by
  have hget : getOverlappedResult p.readOverlapped os =
      (.error error.val, os.record (.fetched p.readOverlapped operation)) := by
    simp only [getOverlappedResult, hop, hresult]
  rw [Pipe.read, if_neg (by simp [hvalid]), if_neg (h.nothing_ready hpending), if_pos hpending]
  simp only [completeReadLocked, hget, if_neg error.property]
  exact ⟨rfl, trivial⟩

/-- `read` is a faithful byte stream, whatever the sizes asked for, the blocks and
the moments at which they come: nothing is lost, repeated or reordered, the window
stays in the buffer, at most one `ReadFile` is outstanding, whose buffer no call
touches, and once it has ended the next `read` returns its bytes or its error. -/
theorem reads_are_a_stream [Inhabited α] (handle : NativeHandle) (s : System α)
    (h : Reachable step (initial handle) s) :
    s.returned ++ (s.pipe.readBuffer.take s.pipe.readReadySize).drop s.pipe.readPos =
      carried .read s.os.trace ∧
    s.pipe.readPos ≤ s.pipe.readReadySize ∧ s.pipe.readReadySize ≤ s.pipe.readBuffer.length ∧
    s.pipe.readReadySize ≤ 65536 ∧
    (∀ op operation, s.os.ops op = some operation → operation.kind = .read →
      operation.result = none → s.pipe.readPending = true ∧ op = s.pipe.readOverlapped) ∧
    (∀ a t, step a s = some t → a.isFinish = false → s.pipe.readPending = true →
      t.pipe.readBuffer = s.pipe.readBuffer) ∧
    ∀ operation, s.pipe.valid = true → s.pipe.readPending = true →
      s.os.ops s.pipe.readOverlapped = some operation → ∀ memory answer size,
      (∀ count, operation.result = some (.ok count) →
        (read memory answer size s.pipe s.os).1 = none ∧
        (read memory answer size s.pipe s.os).2.1 = operation.data.take size) ∧
      ∀ error, operation.result = some (.error error) →
        (read memory answer size s.pipe s.os).1 = some (.ofLastError error.val) ∧
        (read memory answer size s.pipe s.os).2.1 = [] := by
  have hs := reachable_readsInOrder h
  refine ⟨hs.stream, hs.reading.pos_le, hs.reading.inside, ?_, ?_, ?_, ?_⟩
  · exact hs.reading.inside.trans hs.reading.bound
  · intro op operation hop hkind hresult
    exact hs.tidy.reads.single op operation trivial hop hkind hresult
  · intro a t hstep hcall hpending
    exact readBuffer_of_pending hs hstep hcall hpending
  · intro operation hvalid hpending hop memory answer size
    constructor
    · intro count hresult
      exact hs.reading.read_ended hvalid hpending hop hresult memory answer size
    · intro error hresult
      exact hs.reading.read_failed hvalid hpending hop hresult memory answer size

/-- One block, read in two parts, with the read pending in between. -/
theorem reads_are_a_stream_split_block : ∃ s : System Nat, Reachable step (initial 4) s ∧
    s.returned = [7] ∧ s.returned ++ (s.pipe.readBuffer.take s.pipe.readReadySize).drop s.pipe.readPos =
      carried .read s.os.trace := by
  have h : Reachable step (initial 4) _ := reachable_of_run
    [.read true (.error errorIoPending) 5, .finish 0 (.received [7, 8]), .read true (.ok []) 1] rfl
  exact ⟨_, h, rfl, (reads_are_a_stream 4 _ h).1⟩

end Pipe
