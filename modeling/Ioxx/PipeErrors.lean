import Ioxx.Net
import Ioxx.NamedPipe

/-!
# How a named pipe reports failures

What the operating system tells a call of `connect`, `read` or `write`, at once or
through the operation that is pending, against what the call passes on: the `ec`,
the error kept for `take_error`, and the pending flag. `read` and `write` catch what
their `complete_*_locked` throws; `connect` does not. The `ec` of a call that has to
wait is a `std::errc`, and `is_would_block` looks for `WSAEWOULDBLOCK`.
-/

namespace Pipe

open Core Runs

variable {α : Type}

/-- A call, with what the native function that it may make answers. -/
inductive Request (α : Type) where
  | connect (answer : Except Errno Unit)
  | read (answer : Except Errno (List α)) (size : Nat)
  | write (answer : Except Errno Nat) (data : List α)

def Request.kind : Request α → Kind
  | .connect _ => .connect
  | .read .. => .read
  | .write .. => .write

/-- `ec` or an exception, and the object and the system after the call. -/
def Request.perform [Inhabited α] (p : NamedPipe α) (os : Os α) :
    Request α → Except Exception (Option ErrorCode) × NamedPipe α × Os α
  | .connect answer => Pipe.connect answer p os
  | .read answer size => match Pipe.read true answer size p os with
    | (ec, _, p, os) => (.ok ec, p, os)
  | .write answer data => match Pipe.write true answer data p os with
    | (ec, _, p, os) => (.ok ec, p, os)

def NamedPipe.pending (p : NamedPipe α) : Kind → Bool
  | .connect => p.connectPending
  | .read => p.readPending
  | .write => p.writePending

/-- What the system tells a call: nothing that is in its way, that an operation is
still pending, or that one has failed. -/
inductive Told where
  | proceeds
  | blocked
  | failed (error : Errno)
  deriving DecidableEq

/-- What an operation that stayed pending tells. -/
def Os.told (op : Op) (os : Os α) : Told :=
  match os.ops op with
  | none => .blocked
  | some operation => match operation.result with
    | none => .blocked
    | some (.ok _) => .proceeds
    | some (.error error) => .failed error.val

/-- What the answer of a native function tells; `pending` is what it means that the
operation has been started. -/
def answered {ρ : Type} (pending : Told) : Except Errno ρ → Told
  | .ok _ => .proceeds
  | .error error => if error = errorIoPending then pending else .failed error

/-- `ConnectNamedPipe` also fails when there is a client already. -/
def connectAnswered (answer : Except Errno Unit) : Told :=
  if answer = .error errorPipeConnected ∨ answer = .error errorNoData then .proceeds
  else answered .blocked answer

/-- A write that has been started counts as made. -/
def Request.told (p : NamedPipe α) (os : Os α) : Request α → Told
  | .connect answer =>
    if p.valid = false then .proceeds
    else if p.connectPending then os.told p.connectOverlapped
    else connectAnswered answer
  | .read answer _ =>
    if p.valid = false ∨ p.readPos < p.readReadySize then .proceeds
    else if p.readPending then os.told p.readOverlapped
    else answered .blocked answer
  | .write answer _ =>
    if p.valid = false then .proceeds
    else if p.writePending ∧ os.told p.writeOverlapped ≠ .proceeds then os.told p.writeOverlapped
    else answered .proceeds answer

/-- The operation is pending, and if it was so before, nothing has changed. -/
def StaysPending (kind : Kind) (p : NamedPipe α) (os : Os α) (p' : NamedPipe α) (os' : Os α) : Prop :=
  p'.pending kind = true ∧ (p.pending kind = true → p' = p ∧ os' = os)

/-- Nothing is pending or left over, so the next call starts an operation. -/
def Anew (kind : Kind) (p : NamedPipe α) : Prop :=
  p.pending kind = false ∧ (kind = .read → p.readReadySize ≤ p.readPos)

/-- The call does not throw, a call that has to wait says so, and the call that
learns of a failure returns it, keeps it, and makes way for the next one. -/
def Reports [Inhabited α] (request : Request α) (p : NamedPipe α) (os : Os α) : Prop :=
  ∃ ec p' os', request.perform p os = (.ok ec, p', os') ∧
    match request.told p os with
    | .proceeds => True
    | .blocked => (∃ code, ec = some code ∧ Net.isWouldBlockError .windows code = true) ∧
      StaysPending request.kind p os p' os'
    | .failed error => ec = some (.ofLastError error) ∧ p'.lastError = some (.ofLastError error) ∧
      Anew request.kind p'

/-- The call is not told to wait, and is not a `connect` that finds the pending one failed. -/
def Heard (request : Request α) (p : NamedPipe α) (os : Os α) : Prop :=
  match request.told p os with
  | .proceeds => True
  | .blocked => False
  | .failed _ => ¬ (request.kind = .connect ∧ p.connectPending = true)

/-- `GetOverlappedResult` in the terms of what it tells. -/
theorem told_cases (op : Op) (os : Os α) :
    (os.told op = .blocked ∧ getOverlappedResult op os = (.error errorIoIncomplete, os)) ∨
    (∃ count os', os.told op = .proceeds ∧ getOverlappedResult op os = (.ok count, os')) ∨
    (∃ (error : Failure) (os' : Os α), os.told op = .failed error.val ∧
      getOverlappedResult op os = (.error error.val, os')) := by
  rcases getOverlappedResult_cases op os with ⟨hnone, hg⟩ | ⟨operation, count, hop, hresult, hg⟩ |
    ⟨operation, error, hop, hresult, hg⟩
  · refine .inl ⟨?_, hg⟩
    cases hop : os.ops op with
    | none => simp only [Os.told, hop]
    | some operation => simp only [Os.told, hop, hnone operation hop]
  · exact .inr (.inl ⟨count, _, by simp only [Os.told, hop, hresult], hg⟩)
  · exact .inr (.inr ⟨error, _, by simp only [Os.told, hop, hresult], hg⟩)

section Reporting

variable [Inhabited α] {request : Request α} {p p' : NamedPipe α} {os os' : Os α}

/-! The four ways in which a call can end. -/

theorem iff_of_proceeds {ec : Option ErrorCode} (htold : request.told p os = .proceeds)
    (h : request.perform p os = (.ok ec, p', os')) : Reports request p os ↔ Heard request p os := by
  apply iff_of_true
  · exact ⟨ec, p', os', h, by simp only [htold]⟩
  · simp only [Heard, htold]

/-- The code of a call that has to wait is not the one that is looked for. -/
theorem iff_of_blocked (htold : request.told p os = .blocked)
    (h : request.perform p os = (.ok (some .operationWouldBlock), p', os')) :
    Reports request p os ↔ Heard request p os := by
  apply iff_of_false
  · rintro ⟨ec, q, os₁, hperform, hreport⟩
    simp only [htold] at hreport
    obtain ⟨⟨code, rfl, hblock⟩, -⟩ := hreport
    rw [h] at hperform
    cases hperform
    exact absurd hblock (by decide)
  · simp only [Heard, htold, not_false_iff]

theorem iff_of_failed {error : Errno} (htold : request.told p os = .failed error)
    (h : request.perform p os = (.ok (some (.ofLastError error)), p', os'))
    (hlast : p'.lastError = some (.ofLastError error)) (hanew : Anew request.kind p')
    (hcaught : ¬ (request.kind = .connect ∧ p.connectPending = true)) :
    Reports request p os ↔ Heard request p os := by
  apply iff_of_true
  · refine ⟨_, p', os', h, ?_⟩
    simp only [htold]
    exact ⟨trivial, hlast, hanew⟩
  · simp only [Heard, htold]
    exact hcaught

theorem iff_of_thrown {error : Errno} {e : Exception} (htold : request.told p os = .failed error)
    (h : request.perform p os = (.error e, p', os'))
    (hconnect : request.kind = .connect ∧ p.connectPending = true) :
    Reports request p os ↔ Heard request p os := by
  apply iff_of_false
  · rintro ⟨ec, q, os₁, hperform, -⟩
    rw [h] at hperform
    cases hperform
  · simp only [Heard, htold]
    exact fun hcaught => hcaught hconnect

theorem connect_reports_iff (answer : Except Errno Unit) (p : NamedPipe α) (os : Os α) :
    Reports (.connect answer) p os ↔ Heard (.connect answer) p os := by
  cases hvalid : p.valid with
  | false => exact iff_of_proceeds (if_pos hvalid) (if_pos hvalid)
  | true =>
  cases hpending : p.connectPending with
  | true =>
    have htold : (Request.connect answer : Request α).told p os = os.told p.connectOverlapped := by
      simp [Request.told, hvalid, hpending]
    rcases told_cases p.connectOverlapped os with ⟨ht, hg⟩ | ⟨count, os', ht, hg⟩ | ⟨error, os', ht, hg⟩
    · have hperform : (Request.connect answer).perform p os =
          (.ok (some .operationWouldBlock), p, os) := by
        simp [Request.perform, Pipe.connect, completeConnectLocked, hvalid, hpending, hg]
      exact iff_of_blocked (htold.trans ht) hperform
    · have hperform : (Request.connect answer).perform p os =
          (.ok none, { p with connectPending := false }, os') := by
        simp [Request.perform, Pipe.connect, completeConnectLocked, hvalid, hpending, hg]
      exact iff_of_proceeds (htold.trans ht) hperform
    · have hperform : (Request.connect answer).perform p os =
          (.error (.systemError (.ofLastError error.val) "GetOverlappedResult(connect)"),
            { p with connectPending := false, lastError := some (.ofLastError error.val) }, os') := by
        simp [Request.perform, Pipe.connect, completeConnectLocked, hvalid, hpending, hg, error.property]
      exact iff_of_thrown (htold.trans ht) hperform ⟨rfl, hpending⟩
  | false =>
    have htold : (Request.connect answer : Request α).told p os = connectAnswered answer := by
      simp [Request.told, hvalid, hpending]
    cases answer with
    | ok u =>
      have hperform : (Request.connect (.ok u)).perform p os =
          (.ok none, { p with connectOverlapped := os.nextOp }, os) := by
        simp [Request.perform, Pipe.connect, connectNamedPipe, hvalid, hpending]
      exact iff_of_proceeds htold hperform
    | error error =>
      by_cases hclient : error = errorPipeConnected ∨ error = errorNoData
      · have hnew : error ≠ errorIoPending := by rcases hclient with rfl | rfl <;> decide
        have ht : connectAnswered (.error error) = .proceeds := by simp [connectAnswered, hclient]
        have hperform : (Request.connect (.error error)).perform p os =
            (.ok none, { p with connectOverlapped := os.nextOp }, os) := by
          simp [Request.perform, Pipe.connect, connectNamedPipe, hvalid, hpending, hclient, hnew]
        exact iff_of_proceeds (htold.trans ht) hperform
      · by_cases hstarted : error = errorIoPending
        · subst hstarted
          have ht : connectAnswered (.error errorIoPending) = .blocked := by
            simp [connectAnswered, answered, hclient]
          have hperform : (Request.connect (.error errorIoPending)).perform p os =
              (.ok (some .operationWouldBlock),
                { p with connectOverlapped := os.nextOp, connectPending := true },
                os.start .connect []) := by
            simp [Request.perform, Pipe.connect, connectNamedPipe, hvalid, hpending, hclient]
          exact iff_of_blocked (htold.trans ht) hperform
        · have ht : connectAnswered (.error error) = .failed error := by
            simp [connectAnswered, answered, hclient, hstarted]
          have hperform : (Request.connect (.error error)).perform p os =
              (.ok (some (.ofLastError error)), { p with
                connectOverlapped := os.nextOp, lastError := some (.ofLastError error) }, os) := by
            simp [Request.perform, Pipe.connect, connectNamedPipe, hvalid, hpending, hclient, hstarted]
          exact iff_of_failed (htold.trans ht) hperform rfl ⟨hpending, by rintro ⟨⟩⟩
            (by simp [hpending])

theorem read_reports_iff (answer : Except Errno (List α)) (size : Nat) (p : NamedPipe α) (os : Os α) :
    Reports (.read answer size) p os ↔ Heard (.read answer size) p os := by
  have hcaught : ¬ ((Request.read answer size).kind = .connect ∧ p.connectPending = true) := by
    rintro ⟨⟨⟩, -⟩
  cases hvalid : p.valid with
  | false =>
    have hperform : (Request.read answer size).perform p os = (.ok (some .badFileDescriptor), p, os) := by
      simp [Request.perform, Pipe.read, hvalid]
    exact iff_of_proceeds (if_pos (.inl hvalid)) hperform
  | true =>
  by_cases hready : p.readPos < p.readReadySize
  · have hperform : (Request.read answer size).perform p os = (.ok none, (copyReady size p).2, os) := by
      simp [Request.perform, Pipe.read, hvalid, hready]
    exact iff_of_proceeds (if_pos (.inr hready)) hperform
  have hempty : p.readReadySize ≤ p.readPos := not_lt.mp hready
  cases hpending : p.readPending with
  | true =>
    have htold : (Request.read answer size).told p os = os.told p.readOverlapped := by
      simp [Request.told, hvalid, hready, hpending]
    rcases told_cases p.readOverlapped os with ⟨ht, hg⟩ | ⟨count, os', ht, hg⟩ | ⟨error, os', ht, hg⟩
    · have hperform : (Request.read answer size).perform p os =
          (.ok (some .operationWouldBlock), p, os) := by
        simp [Request.perform, Pipe.read, completeReadLocked, hvalid, hready, hpending, hg]
      exact iff_of_blocked (htold.trans ht) hperform
    · have hperform : (Request.read answer size).perform p os = (.ok none, (copyReady size { p with
          readPending := false, readReadySize := count, readPos := 0 }).2, os') := by
        simp [Request.perform, Pipe.read, completeReadLocked, hvalid, hready, hpending, hg]
      exact iff_of_proceeds (htold.trans ht) hperform
    · have hperform : (Request.read answer size).perform p os =
          (.ok (some (.ofLastError error.val)), { p with
            readPending := false, readReadySize := 0, readPos := 0,
            lastError := some (.ofLastError error.val) }, os') := by
        simp [Request.perform, Pipe.read, completeReadLocked, hvalid, hready, hpending, hg,
          error.property, Exception.code]
      exact iff_of_failed (htold.trans ht) hperform rfl ⟨rfl, fun _ => le_refl _⟩ hcaught
  | false =>
    have htold : (Request.read answer size).told p os = answered .blocked answer := by
      simp [Request.told, hvalid, hready, hpending]
    cases answer with
    | ok block =>
      have hperform : (Request.read (.ok block) size).perform p os =
          (.ok none, (copyReady size { p with
            readBuffer := overwrite (block.take readBufferSize) (List.replicate readBufferSize default)
            readOverlapped := os.nextOp
            readReadySize := (block.take readBufferSize).length, readPos := 0 }).2,
            os.record (.finished .read (block.take readBufferSize))) := by
        simp [Request.perform, Pipe.read, readFile, hvalid, hready, hpending]
      exact iff_of_proceeds htold hperform
    | error error =>
      by_cases hstarted : error = errorIoPending
      · have hperform : (Request.read (.error error) size).perform p os =
            (.ok (some .operationWouldBlock), { p with
              readBuffer := List.replicate readBufferSize default
              readOverlapped := os.nextOp, readPending := true }, os.start .read []) := by
          simp [Request.perform, Pipe.read, hvalid, hready, hpending, readFile, hstarted]
        exact iff_of_blocked (htold.trans (if_pos hstarted)) hperform
      · have hperform : (Request.read (.error error) size).perform p os =
            (.ok (some (.ofLastError error)), { p with
              readBuffer := List.replicate readBufferSize default
              readOverlapped := os.nextOp, lastError := some (.ofLastError error) }, os) := by
          simp [Request.perform, Pipe.read, hvalid, hready, hpending, readFile, hstarted]
        exact iff_of_failed (htold.trans (if_neg hstarted)) hperform rfl ⟨hpending, fun _ => hempty⟩
          hcaught

/-- A `write` that gets as far as `WriteFile`; `q` and `os₁` are the object and the
system by then. -/
theorem submit_reports_iff {answer : Except Errno Nat} {data : List α} (q : NamedPipe α) (os₁ : Os α)
    (htold : (Request.write answer data).told p os = answered .proceeds answer)
    (hperform : ∀ ec count p' os', submit true answer data q os₁ = (ec, count, p', os') →
      (Request.write answer data).perform p os = (.ok ec, p', os'))
    (hidle : q.writePending = false) :
    Reports (.write answer data) p os ↔ Heard (.write answer data) p os := by
  cases answer with
  | ok count => exact iff_of_proceeds htold (hperform _ _ _ _ rfl)
  | error error =>
    by_cases hstarted : error = errorIoPending
    · have hsubmit : submit true (.error error) data q os₁ = (none, data.length, { q with
          writeBuffer := data, writeOverlapped := os₁.nextOp, writePending := true },
          os₁.start .write (data.take (checkedSize data.length))) := by
        simp [submit, writeFile, hstarted]
      exact iff_of_proceeds (htold.trans (if_pos hstarted)) (hperform _ _ _ _ hsubmit)
    · have hsubmit : submit true (.error error) data q os₁ = (some (.ofLastError error), 0, { q with
          writeBuffer := [], writeOverlapped := os₁.nextOp,
          lastError := some (.ofLastError error) }, os₁) := by
        simp [submit, writeFile, hstarted]
      exact iff_of_failed (htold.trans (if_neg hstarted)) (hperform _ _ _ _ hsubmit) rfl
        ⟨hidle, by rintro ⟨⟩⟩ (by rintro ⟨⟨⟩, -⟩)

theorem write_reports_iff (answer : Except Errno Nat) (data : List α) (p : NamedPipe α) (os : Os α) :
    Reports (.write answer data) p os ↔ Heard (.write answer data) p os := by
  cases hvalid : p.valid with
  | false =>
    have hperform : (Request.write answer data).perform p os = (.ok (some .badFileDescriptor), p, os) := by
      simp [Request.perform, Pipe.write, hvalid]
    exact iff_of_proceeds (if_pos hvalid) hperform
  | true =>
  cases hpending : p.writePending with
  | true =>
    have htold : (Request.write answer data).told p os =
        if os.told p.writeOverlapped ≠ .proceeds then os.told p.writeOverlapped
        else answered .proceeds answer := by
      simp [Request.told, hvalid, hpending]
    rcases told_cases p.writeOverlapped os with ⟨ht, hg⟩ | ⟨count, os', ht, hg⟩ | ⟨error, os', ht, hg⟩
    · have hperform : (Request.write answer data).perform p os =
          (.ok (some .operationWouldBlock), p, os) := by
        simp [Request.perform, Pipe.write, completeWriteLocked, hvalid, hpending, hg]
      exact iff_of_blocked (by simp [htold, ht]) hperform
    · refine submit_reports_iff { p with writePending := false, writeBuffer := [] } os'
        (by simp [htold, ht]) (fun ec count' p' os'' hsubmit => ?_) rfl
      simp [Request.perform, Pipe.write, completeWriteLocked, hvalid, hpending, hg, hsubmit]
    · have hperform : (Request.write answer data).perform p os =
          (.ok (some (.ofLastError error.val)), { p with
            writePending := false, writeBuffer := [],
            lastError := some (.ofLastError error.val) }, os') := by
        simp [Request.perform, Pipe.write, completeWriteLocked, hvalid, hpending, hg,
          error.property, Exception.code]
      exact iff_of_failed (by simp [htold, ht]) hperform rfl ⟨rfl, by rintro ⟨⟩⟩ (by rintro ⟨⟨⟩, -⟩)
  | false =>
    refine submit_reports_iff p os ?_ (fun ec count p' os' hsubmit => ?_) hpending
    · simp [Request.told, hvalid, hpending]
    · simp [Request.perform, Pipe.write, hvalid, hpending, hsubmit]

/-- In every state of the object and the system, a call reports what it is told
exactly if it need not wait and is not a `connect` whose pending operation failed. -/
theorem requests_report_iff (request : Request α) (p : NamedPipe α) (os : Os α) :
    Reports request p os ↔ Heard request p os := by
  cases request with
  | connect answer => exact connect_reports_iff answer p os
  | read answer size => exact read_reports_iff answer size p os
  | write answer data => exact write_reports_iff answer data p os

end Reporting

/-- A client breaks off while the server's `connect` is pending; the next `connect(ec)`
throws. -/
theorem failed_connect_throws : ¬ ∀ (handle : NativeHandle) (s : System Nat),
    Reachable step (initial handle) s → ∀ request : Request Nat, Reports request s.pipe s.os := by
  intro h
  have hrun : (run step [.connect (.error errorIoPending),
      .finish 0 (.failed ⟨⟨109, by decide⟩, by decide⟩)] (initial (α := Nat) 4)).isSome := rfl
  obtain ⟨s, hs⟩ := Option.isSome_iff_exists.mp hrun
  obtain ⟨ec, p', os', hperform, -⟩ := h 4 s (reachable_of_run _ hs) (.connect (.ok ()))
  cases hs
  cases hperform

end Pipe
