import Ioxx.PipeReads

/-!
# Writing to a named pipe

`write` reports a write that stays pending as done, and a later call looks at its
result but not at its count. What was reported is what was moved and what is in
flight, as long as no write is cut short.
-/

namespace Pipe

open Core Runs

variable {α : Type} {mine : Op → Prop}

/-- The bytes of a write whose result has not been looked at: those it has moved,
or all of them as long as it has not come to an end. -/
def Operation.sent (operation : Operation α) : List α :=
  match operation.result with
  | some (.ok count) => operation.data.take count
  | _ => operation.data

/-- The bytes of the one write that is pending. -/
def inFlight (p : NamedPipe α) (os : Os α) : List α :=
  if p.writePending then
    match os.ops p.writeOverlapped with
    | some operation => operation.sent
    | none => []
  else []

theorem inFlight_of_idle {p : NamedPipe α} (h : p.writePending = false) (os : Os α) :
    inFlight p os = [] := by
  simp [inFlight, h]

theorem inFlight_of_pending {p : NamedPipe α} {os : Os α} (h : p.writePending = true)
    {operation : Operation α} (hop : os.ops p.writeOverlapped = some operation) :
    inFlight p os = operation.sent := by
  simp [inFlight, h, hop]

/-- A call or an end of an operation that has nothing to do with writing. -/
structure KeepsWrites (p : NamedPipe α) (os : Os α) (q : NamedPipe α) (os' : Os α) : Prop where
  pending : q.writePending = p.writePending
  overlapped : q.writeOverlapped = p.writeOverlapped
  ops : ∀ op operation, os.ops op = some operation → os'.ops op = some operation
  carried : carried .write os'.trace = carried .write os.trace

theorem KeepsWrites.inFlight_eq {p q : NamedPipe α} {os os' : Os α} (h : KeepsWrites p os q os')
    (htidy : Tidy mine p os) : inFlight q os' = inFlight p os := by
  cases hpending : p.writePending with
  | false =>
    rw [inFlight_of_idle hpending, inFlight_of_idle (h.pending.trans hpending)]
  | true =>
    obtain ⟨operation, hop, -⟩ := htidy.writes.held hpending
    rw [inFlight_of_pending hpending hop]
    apply inFlight_of_pending (h.pending.trans hpending)
    rw [h.overlapped]
    exact h.ops _ operation hop

theorem keepsWrites_fetched {p q : NamedPipe α} {os : Os α} {op : Op} {operation : Operation α}
    (hkind : operation.kind ≠ .write) (hpending : q.writePending = p.writePending)
    (hoverlapped : q.writeOverlapped = p.writeOverlapped) :
    KeepsWrites p os q (os.record (.fetched op operation)) := by
  refine ⟨hpending, hoverlapped, fun _ _ h => h, ?_⟩
  rw [carried_record, bytes_fetched hkind, List.append_nil]

theorem keepsWrites_read [Inhabited α] {answer : Except Errno (List α)} {size : Nat}
    {p : NamedPipe α} {os : Os α}
    {r : Option ErrorCode × List α × NamedPipe α × Os α} (h : Tidy mine p os) (hr : Reads answer size p os r) :
    KeepsWrites p os r.2.2.1 r.2.2.2 := by
  have hkind : ∀ operation, p.readPending = true → os.ops p.readOverlapped = some operation →
      operation.kind ≠ .write := by
    intro operation hpending hop
    rw [h.reads.kind_eq hpending hop]
    decide
  cases hr with
  | refused code => exact ⟨rfl, rfl, fun _ _ h => h, rfl⟩
  | buffered hlt =>
    obtain ⟨ready, pos, hcopy⟩ := copyReady_snd size p
    simp only [hcopy]
    exact ⟨rfl, rfl, fun _ _ h => h, rfl⟩
  | fetched operation count hle hpending hop hresult hq =>
    rename_i q
    obtain ⟨ready, pos, hcopy⟩ := copyReady_snd size q
    simp only [hcopy]
    subst hq
    exact keepsWrites_fetched (hkind operation hpending hop) rfl rfl
  | lost operation error hle hpending hop hresult =>
    exact keepsWrites_fetched (hkind operation hpending hop) rfl rfl
  | finished block hle hpending hlength hanswer hq =>
    rename_i q
    obtain ⟨ready, pos, hcopy⟩ := copyReady_snd size q
    simp only [hcopy]
    subst hq
    refine ⟨rfl, rfl, fun _ _ h => h, ?_⟩
    rw [carried_record, bytes_finished (by decide), List.append_nil]
  | started hle hpending =>
    exact ⟨rfl, rfl, fun _ _ hop => ops_start_of_some h.fresh hop _ _, rfl⟩
  | failed error hle hpending => exact ⟨rfl, rfl, fun _ _ h => h, rfl⟩

theorem keepsWrites_connect {answer : Except Errno Unit} {p : NamedPipe α} {os : Os α}
    {r : Except Exception (Option ErrorCode) × NamedPipe α × Os α} (h : Tidy mine p os)
    (hr : Connects answer p os r) : KeepsWrites p os r.2.1 r.2.2 := by
  have hkind : ∀ operation, p.connectPending = true → os.ops p.connectOverlapped = some operation →
      operation.kind ≠ .write := by
    intro operation hpending hop
    rw [h.connects.kind_eq hpending hop]
    decide
  cases hr with
  | refused code => exact ⟨rfl, rfl, fun _ _ h => h, rfl⟩
  | fetched operation count hpending hop hresult =>
    exact keepsWrites_fetched (hkind operation hpending hop) rfl rfl
  | lost operation error hpending hop hresult =>
    exact keepsWrites_fetched (hkind operation hpending hop) rfl rfl
  | finished hpending hanswer => exact ⟨rfl, rfl, fun _ _ h => h, rfl⟩
  | started hpending => exact ⟨rfl, rfl, fun _ _ hop => ops_start_of_some h.fresh hop _ _, rfl⟩
  | failed code hpending => exact ⟨rfl, rfl, fun _ _ h => h, rfl⟩

/-- What `write` has reported is what was moved and what is in flight. -/
def Accounted (s : System α) : Prop :=
  s.failed = false → s.accepted = carried .write s.os.trace ++ inFlight s.pipe s.os

/-- The steps that no write is cut short by: `WriteFile` leaves no more bytes
pending than its count can say, and a write that ends has moved all its bytes. -/
def Whole : Action α → System α → Prop
  | .write _ answer data, _ => answer = .error errorIoPending → data.length ≤ 2 ^ 32 - 1
  | .finish op (.transferred count), s =>
      ∀ operation, s.os.ops op = some operation → count = operation.data.length
  | _, _ => True

/-- No error of `GetLastError` is would-block. -/
theorem writeFailed_ofLastError (error : Errno) : writeFailed (some (.ofLastError error)) = true := by
  simp [writeFailed, ErrorCode.ofLastError, ErrorCode.operationWouldBlock]

/-- The bytes of a submission are accounted for at once. -/
theorem submit_accounted {answer : Except Errno Nat} {data : List α} {p : NamedPipe α} {os : Os α}
    {r : Option ErrorCode × Nat × NamedPipe α × Os α} (hr : Submits answer data p os r)
    (hpending : p.writePending = false)
    (hwhole : answer = .error errorIoPending → data.length ≤ 2 ^ 32 - 1)
    {before : List α} (hbefore : before = carried .write os.trace) (hsuccess : writeFailed r.1 = false) :
    before ++ data.take r.2.1 = carried .write r.2.2.2.trace ++ inFlight r.2.2.1 r.2.2.2 := by
  cases hr with
  | refused code hcode =>
    rw [inFlight_of_idle hpending, hbefore]
    rfl
  | finished sent hsent =>
    have hflight : inFlight { p with writeBuffer := [], writeOverlapped := os.nextOp }
        (os.record (.finished .write sent)) = [] := by
      apply inFlight_of_idle
      exact hpending
    simp only [hflight, carried_record, Native.bytes, if_true, List.append_nil]
    rw [hbefore, ← List.prefix_iff_eq_take.mp hsent]
  | started hanswer =>
    have hall : checkedSize data.length = data.length := Nat.min_eq_left (hwhole hanswer)
    rw [inFlight_of_pending rfl (Function.update_self ..), trace_start, hbefore]
    simp only [Operation.sent, hall, List.take_length]
  | failed error =>
    rw [writeFailed_ofLastError] at hsuccess
    cases hsuccess

/-- One `write` keeps the account. -/
theorem write_accounted {answer : Except Errno Nat} {data : List α} {p : NamedPipe α} {os : Os α}
    {r : Option ErrorCode × Nat × NamedPipe α × Os α} (h : Tidy mine p os)
    (hr : Writes answer data p os r)
    (hwhole : answer = .error errorIoPending → data.length ≤ 2 ^ 32 - 1)
    {before : List α} (hbefore : before = carried .write os.trace ++ inFlight p os)
    (hsuccess : writeFailed r.1 = false) :
    before ++ data.take r.2.1 = carried .write r.2.2.2.trace ++ inFlight r.2.2.1 r.2.2.2 := by
  cases hr with
  | refused code =>
    rw [hbefore]
    exact List.append_nil _
  | lost operation error hpending hop hresult =>
    rw [writeFailed_ofLastError] at hsuccess
    cases hsuccess
  | idle hpending hr =>
    rw [inFlight_of_idle hpending, List.append_nil] at hbefore
    exact submit_accounted hr hpending hwhole hbefore hsuccess
  | fetched operation count hpending hop hresult hr =>
    have hkind := h.writes.kind_eq hpending hop
    refine submit_accounted hr rfl hwhole ?_ hsuccess
    rw [hbefore, inFlight_of_pending hpending hop, carried_record]
    simp only [Operation.sent, Native.bytes, Operation.moved, hkind, hresult, if_true]

/-- A write that has moved all its bytes stands for the same bytes as before. -/
theorem inFlight_finish {p q : NamedPipe α} {os : Os α} {op : Op} {operation : Operation α}
    {outcome : Outcome α} (h : Tidy mine p os) (hop : os.ops op = some operation)
    (hresult : operation.result = none) (hpending : q.writePending = p.writePending)
    (hoverlapped : q.writeOverlapped = p.writeOverlapped)
    (hsent : operation.kind = .write → (operation.finish outcome).sent = operation.data) :
    inFlight q (os.finish op operation outcome) = inFlight p os := by
  cases hp : p.writePending with
  | false => rw [inFlight_of_idle hp, inFlight_of_idle (hpending.trans hp)]
  | true =>
    obtain ⟨held, hheld, hkind⟩ := h.writes.held hp
    rw [inFlight_of_pending hp hheld]
    by_cases hsame : p.writeOverlapped = op
    · rw [hsame, hop] at hheld
      cases hheld
      have hupdate : (os.finish op operation outcome).ops q.writeOverlapped =
          some (operation.finish outcome) := by
        rw [hoverlapped, hsame]
        exact Function.update_self ..
      rw [inFlight_of_pending (hpending.trans hp) hupdate, hsent hkind]
      simp only [Operation.sent, hresult]
    · apply inFlight_of_pending (hpending.trans hp)
      rw [hoverlapped, ← hheld]
      exact Function.update_of_ne hsame ..

/-- The object and the account of its writes. -/
structure WritesInOrder (s : System α) : Prop where
  tidy : Tidy (fun _ => True) s.pipe s.os
  accounted : Accounted s

theorem writesInOrder_initial (handle : NativeHandle) : WritesInOrder (initial (α := α) handle) :=
  ⟨tidy_initial handle, fun _ => rfl⟩

/-- A step that has nothing to do with writing keeps the account. -/
theorem Accounted.keep {s t : System α} (h : Accounted s) (htidy : Tidy mine s.pipe s.os)
    (hkeep : KeepsWrites s.pipe s.os t.pipe t.os) (haccepted : t.accepted = s.accepted)
    (hfailed : t.failed = s.failed) : Accounted t := by
  intro hsuccess
  rw [haccepted, hkeep.carried, hkeep.inFlight_eq htidy]
  exact h (hfailed ▸ hsuccess)

theorem WritesInOrder.step [Inhabited α] {a : Action α} {s t : System α} (h : WritesInOrder s)
    (hwhole : Whole a s) (hstep : step a s = some t) : WritesInOrder t := by
  obtain ⟨htidy, haccounted⟩ := h
  refine ⟨htidy.step hstep, ?_⟩
  cases a with
  | connect answer =>
    obtain ⟨r, hr, rfl⟩ := step_connect hstep
    exact haccounted.keep htidy (keepsWrites_connect htidy hr) rfl rfl
  | disconnect answer =>
    rcases step_disconnect hstep with ⟨-, rfl⟩ | rfl
    · exact haccounted.keep htidy ⟨rfl, rfl, fun _ _ h => h, rfl⟩ rfl rfl
    · exact haccounted
  | read memory answer size =>
    obtain ⟨r, hr, rfl⟩ := step_read hstep
    exact haccounted.keep htidy (keepsWrites_read htidy hr) rfl rfl
  | write memory answer data =>
    obtain ⟨r, hr, rfl⟩ := step_write hstep
    intro hsuccess
    obtain ⟨hbefore, hnow⟩ := Bool.or_eq_false_iff.mp hsuccess
    exact write_accounted htidy hr hwhole (haccounted hbefore) hnow
  | takeError =>
    obtain rfl := step_takeError hstep
    exact haccounted.keep htidy ⟨rfl, rfl, fun _ _ h => h, rfl⟩ rfl rfl
  | finish op outcome =>
    obtain ⟨operation, hop, hresult, hfits, rfl⟩ := step_finish hstep
    intro hsuccess
    obtain ⟨buffer, hbuffer⟩ := receive_eq op outcome s.pipe
    have hsent : operation.kind = .write → (operation.finish outcome).sent = operation.data := by
      intro hkind
      cases outcome with
      | received block =>
        rw [hfits.1] at hkind
        cases hkind
      | transferred count =>
        have hcount := hwhole operation hop
        simp only [Operation.finish, Operation.sent, hcount, List.take_length]
      | failed error => rfl
    have hflight := inFlight_finish (q := s.pipe.receive op outcome) htidy hop hresult
      (by rw [hbuffer]) (by rw [hbuffer]) hsent
    change s.accepted = carried .write s.os.trace ++ _
    rw [hflight]
    exact haccounted hsuccess

/-- In every run in which no write is cut short, the bytes reported as written are
those moved and those in flight, until a write reports an error. -/
theorem writes_are_accounted [Inhabited α] (handle : NativeHandle) (s : System α)
    (h : Reach step Whole (initial handle) s) (hfailed : s.failed = false) :
    s.accepted = carried .write s.os.trace ++ inFlight s.pipe s.os := by
  have hs : WritesInOrder s := h.invariant (writesInOrder_initial handle)
    fun _ _ _ hu hwhole hstep => hu.step hwhole hstep
  exact hs.accounted hfailed

/-- Two writes, of which the first was pending. -/
theorem writes_are_accounted_two_writes : ∃ s : System Nat, s.accepted = [1, 2, 3, 4] ∧
    s.accepted = carried .write s.os.trace ++ inFlight s.pipe s.os := by
  have h₁ : Reach step Whole (initial (α := Nat) 4) _ :=
    .tail (.write true (.error errorIoPending) [1, 2]) .refl (fun _ => by decide) rfl
  have h₂ : Reach step Whole (initial (α := Nat) 4) _ :=
    .tail (.finish 0 (.transferred 2)) h₁ (fun operation hop => by cases hop; rfl) rfl
  have h₃ : Reach step Whole (initial (α := Nat) 4) _ :=
    .tail (.write true (.ok 2) [3, 4]) h₂ (fun h => by cases h) rfl
  exact ⟨_, rfl, writes_are_accounted 4 _ h₃ rfl⟩

/-- A pending write of three bytes ends with one of them moved; the next write
takes it for a full one, and five bytes are reported of which three were moved. -/
theorem short_write_taken_for_full : ∃ s : System Nat, Reachable step (initial 4) s ∧
    s.failed = false ∧ s.accepted = [1, 2, 3, 4, 5] ∧ carried .write s.os.trace = [1, 4, 5] ∧
    inFlight s.pipe s.os = [] := by
  have h : Reachable step (initial 4) _ := reachable_of_run
    [.write true (.error errorIoPending) [1, 2, 3], .finish 0 (.transferred 1),
      .write true (.ok 2) [4, 5]] rfl
  exact ⟨_, h, rfl, rfl, rfl, rfl⟩

end Pipe
