import Ioxx.NamedPipe

/-!
# Which operations of a named pipe are pending

The flags of the object against the operations the kernel knows: a flag that is
set stands for an operation of its kind, and an operation that has not ended has
its flag set. No call and no end of an operation disturbs that. The second half is
about the operations in `mine` only: all of them for the only object of a process,
none where other objects have operations too.
-/

namespace Pipe

open Core Runs

variable {α : Type} {mine : Op → Prop}

/-- No operation has a name that is still to be given. -/
def Fresh (os : Os α) : Prop := ∀ op, os.nextOp ≤ op → os.ops op = none

/-- The operations of one kind as the object sees them: a pending one exists, and
one of `mine` that the kernel has not ended is pending. -/
structure Owned (mine : Op → Prop) (kind : Kind) (pending : Bool) (op : Op) (os : Os α) : Prop where
  held : pending = true → ∃ operation, os.ops op = some operation ∧ operation.kind = kind
  single : ∀ op' operation, mine op' → os.ops op' = some operation → operation.kind = kind →
    operation.result = none → pending = true ∧ op' = op

theorem Fresh.start {os : Os α} (h : Fresh os) (kind : Kind) (data : List α) :
    Fresh (os.start kind data) := by
  intro op hop
  change os.nextOp + 1 ≤ op at hop
  change Function.update os.ops os.nextOp _ op = none
  rw [Function.update_of_ne (Nat.ne_of_gt hop)]
  exact h op (Nat.le_of_succ_le hop)

/-- A new operation does not disturb a pending one. -/
theorem ops_start_of_some {os : Os α} (h : Fresh os) {op : Op} {operation : Operation α}
    (hop : os.ops op = some operation) (kind : Kind) (data : List α) :
    (os.start kind data).ops op = some operation := by
  have hne : op ≠ os.nextOp := by
    rintro rfl
    rw [h _ (le_refl _)] at hop
    cases hop
  change Function.update os.ops os.nextOp _ op = _
  rw [Function.update_of_ne hne, hop]

theorem Owned.start_same {kind : Kind} {op : Op} {os : Os α} (h : Owned mine kind false op os)
    (data : List α) : Owned mine kind true os.nextOp (os.start kind data) := by
  refine ⟨fun _ => ⟨_, Function.update_self .., rfl⟩, ?_⟩
  intro op' operation hmine hop hkind hresult
  by_cases hnew : op' = os.nextOp
  · exact ⟨rfl, hnew⟩
  · change Function.update os.ops os.nextOp _ op' = _ at hop
    rw [Function.update_of_ne hnew] at hop
    cases (h.single op' operation hmine hop hkind hresult).1

theorem Owned.start_other {kind kind' : Kind} {pending : Bool} {op : Op} {os : Os α}
    (h : Owned mine kind pending op os) (hfresh : Fresh os) (hne : kind' ≠ kind) (data : List α) :
    Owned mine kind pending op (os.start kind' data) := by
  constructor
  · intro hpending
    obtain ⟨operation, hop, hkind⟩ := h.held hpending
    exact ⟨operation, ops_start_of_some hfresh hop kind' data, hkind⟩
  · intro op' operation hmine hop hkind hresult
    change Function.update os.ops os.nextOp _ op' = _ at hop
    by_cases hnew : op' = os.nextOp
    · rw [hnew, Function.update_self] at hop
      cases hop
      exact absurd hkind hne
    · rw [Function.update_of_ne hnew] at hop
      exact h.single op' operation hmine hop hkind hresult

theorem Owned.congr {kind : Kind} {pending : Bool} {op : Op} {os os' : Os α}
    (h : Owned mine kind pending op os) (hops : os'.ops = os.ops) : Owned mine kind pending op os' := by
  constructor
  · rw [hops]
    exact h.held
  · rw [hops]
    exact h.single

/-- Once its result is there, the pending operation can be given up. -/
theorem Owned.settled {kind : Kind} {op op' : Op} {os : Os α} {operation : Operation α}
    (h : Owned mine kind true op os) (hop : os.ops op = some operation)
    (hresult : operation.result ≠ none) : Owned mine kind false op' os := by
  refine ⟨nofun, ?_⟩
  intro other operation' hmine hother hkind hnone
  obtain ⟨-, rfl⟩ := h.single other operation' hmine hother hkind hnone
  rw [hop] at hother
  cases hother
  exact absurd hnone hresult

theorem Owned.idle {kind : Kind} {op op' : Op} {os : Os α} (h : Owned mine kind false op os) :
    Owned mine kind false op' os := by
  refine ⟨nofun, ?_⟩
  intro other operation hmine hother hkind hnone
  cases (h.single other operation hmine hother hkind hnone).1

@[simp] theorem finish_kind (operation : Operation α) (outcome : Outcome α) :
    (operation.finish outcome).kind = operation.kind := by cases outcome <;> rfl

theorem finish_result (operation : Operation α) (outcome : Outcome α) :
    (operation.finish outcome).result ≠ none := by cases outcome <;> simp [Operation.finish]

theorem Fresh.finish {os : Os α} (h : Fresh os) {op : Op} {operation : Operation α}
    (hop : os.ops op = some operation) (outcome : Outcome α) :
    Fresh (os.finish op operation outcome) := by
  intro op' hop'
  have hne : op' ≠ op := by
    rintro rfl
    rw [h _ hop'] at hop
    cases hop
  change Function.update os.ops op _ op' = none
  rw [Function.update_of_ne hne]
  exact h op' hop'

theorem Owned.finish {kind : Kind} {pending : Bool} {op op' : Op} {os : Os α}
    {operation : Operation α} (h : Owned mine kind pending op os) (hop : os.ops op' = some operation)
    (outcome : Outcome α) : Owned mine kind pending op (os.finish op' operation outcome) := by
  constructor
  · intro hpending
    obtain ⟨held, hheld, hkind⟩ := h.held hpending
    by_cases hsame : op = op'
    · subst hsame
      rw [hop] at hheld
      cases hheld
      exact ⟨operation.finish outcome, Function.update_self .., by rw [finish_kind, hkind]⟩
    · exact ⟨held, by rw [← hheld]; exact Function.update_of_ne hsame .., hkind⟩
  · intro other operation' hmine hother hkind hnone
    change Function.update os.ops op' _ other = _ at hother
    by_cases hsame : other = op'
    · rw [hsame, Function.update_self] at hother
      cases hother
      exact absurd hnone (finish_result operation outcome)
    · rw [Function.update_of_ne hsame] at hother
      exact h.single other operation' hmine hother hkind hnone

/-- No name is given twice, and the three kinds of operations are as the object
sees them. -/
structure Tidy (mine : Op → Prop) (p : NamedPipe α) (os : Os α) : Prop where
  fresh : Fresh os
  connects : Owned mine .connect p.connectPending p.connectOverlapped os
  reads : Owned mine .read p.readPending p.readOverlapped os
  writes : Owned mine .write p.writePending p.writeOverlapped os

/-- A result was fetched for an operation of the kind that was asked for. -/
theorem Owned.kind_eq {kind : Kind} {pending : Bool} {op : Op} {os : Os α} {operation : Operation α}
    (h : Owned mine kind pending op os) (hpending : pending = true) (hop : os.ops op = some operation) :
    operation.kind = kind := by
  obtain ⟨held, hheld, hkind⟩ := h.held hpending
  rw [hop] at hheld
  cases hheld
  exact hkind

/-- `copy_ready` moves the two indices and nothing else. -/
theorem copyReady_snd (size : Nat) (p : NamedPipe α) :
    ∃ ready pos, (copyReady size p).2 = { p with readReadySize := ready, readPos := pos } := by
  simp only [Pipe.copyReady]
  split
  · exact ⟨0, 0, rfl⟩
  · exact ⟨p.readReadySize, _, rfl⟩

theorem Tidy.copyReady {p : NamedPipe α} {os : Os α} (h : Tidy mine p os) (size : Nat) :
    Tidy mine (copyReady size p).2 os := by
  obtain ⟨ready, pos, hq⟩ := copyReady_snd size p
  rw [hq]
  exact ⟨h.fresh, h.connects, h.reads, h.writes⟩

theorem Tidy.read [Inhabited α] {answer : Except Errno (List α)} {size : Nat}
    {p : NamedPipe α} {os : Os α}
    {r : Option ErrorCode × List α × NamedPipe α × Os α} (h : Tidy mine p os) (hr : Reads answer size p os r) :
    Tidy mine r.2.2.1 r.2.2.2 := by
  obtain ⟨hfresh, hconnects, hreads, hwrites⟩ := h
  cases hr with
  | refused code => exact ⟨hfresh, hconnects, hreads, hwrites⟩
  | buffered hlt => exact Tidy.copyReady ⟨hfresh, hconnects, hreads, hwrites⟩ size
  | fetched operation count hle hpending hop hresult hq =>
    rw [hpending] at hreads
    subst hq
    apply Tidy.copyReady
    exact ⟨hfresh, hconnects.congr rfl, (hreads.settled hop (by simp [hresult])).congr rfl,
      hwrites.congr rfl⟩
  | lost operation error hle hpending hop hresult =>
    rw [hpending] at hreads
    exact ⟨hfresh, hconnects.congr rfl, (hreads.settled hop (by simp [hresult])).congr rfl,
      hwrites.congr rfl⟩
  | finished block hle hpending hlength hanswer hq =>
    rw [hpending] at hreads
    subst hq
    apply Tidy.copyReady
    refine ⟨hfresh, hconnects.congr rfl, ?_, hwrites.congr rfl⟩
    rw [hpending]
    exact hreads.idle.congr rfl
  | started hle hpending =>
    rw [hpending] at hreads
    exact ⟨hfresh.start _ _, hconnects.start_other hfresh (by decide) _, hreads.start_same _,
      hwrites.start_other hfresh (by decide) _⟩
  | failed error hle hpending =>
    rw [hpending] at hreads
    refine ⟨hfresh, hconnects, ?_, hwrites⟩
    rw [hpending]
    exact hreads.idle

theorem Tidy.submit {answer : Except Errno Nat} {data : List α} {p : NamedPipe α} {os : Os α}
    {r : Option ErrorCode × Nat × NamedPipe α × Os α} (h : Tidy mine p os)
    (hpending : p.writePending = false) (hr : Submits answer data p os r) :
    Tidy mine r.2.2.1 r.2.2.2 := by
  obtain ⟨hfresh, hconnects, hreads, hwrites⟩ := h
  rw [hpending] at hwrites
  have hidle : Owned mine .write p.writePending os.nextOp os := by
    rw [hpending]
    exact hwrites.idle
  cases hr with
  | refused code hcode =>
    rw [← hpending] at hwrites
    exact ⟨hfresh, hconnects, hreads, hwrites⟩
  | finished sent hsent =>
    exact ⟨hfresh, hconnects.congr rfl, hreads.congr rfl, hidle.congr rfl⟩
  | started hanswer =>
    exact ⟨hfresh.start _ _, hconnects.start_other hfresh (by decide) _,
      hreads.start_other hfresh (by decide) _, hwrites.start_same _⟩
  | failed error => exact ⟨hfresh, hconnects, hreads, hidle⟩

/-- The object and the system after the result of the pending write was fetched. -/
theorem Tidy.fetch_write {p : NamedPipe α} {os : Os α} (h : Tidy mine p os)
    (hpending : p.writePending = true) {operation : Operation α}
    (hop : os.ops p.writeOverlapped = some operation) (hresult : operation.result ≠ none)
    (error : Option ErrorCode) :
    Tidy mine { p with writePending := false, writeBuffer := [], lastError := error }
      (os.record (.fetched p.writeOverlapped operation)) := by
  have hwrites := h.writes
  rw [hpending] at hwrites
  exact ⟨h.fresh, h.connects.congr rfl, h.reads.congr rfl, (hwrites.settled hop hresult).congr rfl⟩

theorem Tidy.write {answer : Except Errno Nat} {data : List α} {p : NamedPipe α} {os : Os α}
    {r : Option ErrorCode × Nat × NamedPipe α × Os α} (h : Tidy mine p os)
    (hr : Writes answer data p os r) : Tidy mine r.2.2.1 r.2.2.2 := by
  cases hr with
  | refused code => exact h
  | lost operation error hpending hop hresult =>
    exact h.fetch_write hpending hop (by simp [hresult]) _
  | idle hpending hr => exact h.submit hpending hr
  | fetched operation count hpending hop hresult hr =>
    exact (h.fetch_write hpending hop (by simp [hresult]) p.lastError).submit rfl hr

theorem Tidy.connect {answer : Except Errno Unit} {p : NamedPipe α} {os : Os α}
    {r : Except Exception (Option ErrorCode) × NamedPipe α × Os α} (h : Tidy mine p os)
    (hr : Connects answer p os r) : Tidy mine r.2.1 r.2.2 := by
  obtain ⟨hfresh, hconnects, hreads, hwrites⟩ := h
  cases hr with
  | refused code => exact ⟨hfresh, hconnects, hreads, hwrites⟩
  | fetched operation count hpending hop hresult =>
    rw [hpending] at hconnects
    exact ⟨hfresh, (hconnects.settled hop (by simp [hresult])).congr rfl, hreads.congr rfl,
      hwrites.congr rfl⟩
  | lost operation error hpending hop hresult =>
    rw [hpending] at hconnects
    exact ⟨hfresh, (hconnects.settled hop (by simp [hresult])).congr rfl, hreads.congr rfl,
      hwrites.congr rfl⟩
  | finished hpending hanswer =>
    rw [hpending] at hconnects
    refine ⟨hfresh, ?_, hreads, hwrites⟩
    rw [hpending]
    exact hconnects.idle
  | started hpending =>
    rw [hpending] at hconnects
    exact ⟨hfresh.start _ _, hconnects.start_same _, hreads.start_other hfresh (by decide) _,
      hwrites.start_other hfresh (by decide) _⟩
  | failed code hpending =>
    rw [hpending] at hconnects
    refine ⟨hfresh, ?_, hreads, hwrites⟩
    rw [hpending]
    exact hconnects.idle

/-- The kernel touches the bytes of the read buffer only. -/
theorem receive_eq (op : Op) (outcome : Outcome α) (p : NamedPipe α) :
    ∃ buffer, p.receive op outcome = { p with readBuffer := buffer } := by
  cases outcome with
  | received block =>
    simp only [NamedPipe.receive]
    split
    · exact ⟨_, rfl⟩
    · exact ⟨p.readBuffer, rfl⟩
  | transferred count => exact ⟨p.readBuffer, rfl⟩
  | failed error => exact ⟨p.readBuffer, rfl⟩

theorem Tidy.step [Inhabited α] {a : Action α} {s t : System α} (h : Tidy mine s.pipe s.os)
    (hstep : step a s = some t) : Tidy mine t.pipe t.os := by
  cases a with
  | connect answer =>
    obtain ⟨r, hr, rfl⟩ := step_connect hstep
    exact h.connect hr
  | disconnect answer =>
    rcases step_disconnect hstep with ⟨-, rfl⟩ | rfl
    · exact ⟨h.fresh, h.connects.congr rfl, h.reads.congr rfl, h.writes.congr rfl⟩
    · exact h
  | read memory answer size =>
    obtain ⟨r, hr, rfl⟩ := step_read hstep
    exact h.read hr
  | write memory answer data =>
    obtain ⟨r, hr, rfl⟩ := step_write hstep
    exact h.write hr
  | takeError =>
    obtain rfl := step_takeError hstep
    exact ⟨h.fresh, h.connects, h.reads, h.writes⟩
  | finish op outcome =>
    obtain ⟨operation, hop, -, -, rfl⟩ := step_finish hstep
    obtain ⟨buffer, hbuffer⟩ := receive_eq op outcome s.pipe
    simp only [hbuffer]
    exact ⟨h.fresh.finish hop outcome, h.connects.finish hop outcome, h.reads.finish hop outcome,
      h.writes.finish hop outcome⟩

theorem tidy_initial (handle : NativeHandle) :
    Tidy mine (initial (α := α) handle).pipe (initial (α := α) handle).os :=
  ⟨fun _ _ => rfl, ⟨nofun, nofun⟩, ⟨nofun, nofun⟩, ⟨nofun, nofun⟩⟩

end Pipe
