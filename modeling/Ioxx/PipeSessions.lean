import Ioxx.PipeWrites

/-!
# Clients of a named pipe, one after another

`disconnect` touches neither the buffer of the object nor the operations it has
pending, so what is left of one client can reach the next. `origin` tells the
session a byte was received in. Sessions do not mix as long as a client is only
disconnected when nothing of it is buffered, and the next one is only accepted
when no read or write of an earlier one is pending.
-/

namespace Pipe

open Core Runs

variable {α : Type} {mine : Op → Prop}

/-- The bytes of a finished read that `read` has not picked up. -/
def arrived (p : NamedPipe α) (os : Os α) : List α :=
  if p.readPending then
    match os.ops p.readOverlapped with
    | some operation => operation.moved
    | none => []
  else []

/-- The operation behind a flag was started in the session that lasts. -/
def Current (pending : Bool) (op : Op) (os : Os α) : Prop :=
  pending = true → ∀ operation, os.ops op = some operation → operation.session = os.session

/-- The kernel's side: bytes come from the client that is connected. -/
def Tagged (origin : α → Nat) : Action α → System α → Prop
  | .read _ (.ok block) _, s => ∀ b ∈ block, origin b = s.os.session
  | .finish _ (.received block), s => ∀ b ∈ block, origin b = s.os.session
  | _, _ => True

/-- `connect` finds a client: `ConnectNamedPipe` says so at once, or the pending
operation has ended well. -/
def ClientFound (answer : Except Errno Unit) (s : System α) : Prop :=
  if s.pipe.connectPending then
    ∃ operation count, s.os.ops s.pipe.connectOverlapped = some operation ∧
      operation.result = some (.ok count)
  else answer = .ok () ∨ answer = .error errorPipeConnected ∨ answer = .error errorNoData

/-- The caller's side: a client is disconnected when nothing of it is buffered, and
the next is accepted when no read or write of an earlier one is pending. -/
def Drained : Action α → System α → Prop
  | .disconnect (.ok _), s => unread s.pipe = [] ∧ arrived s.pipe s.os = []
  | .connect answer, s => ClientFound answer s →
      Current s.pipe.readPending s.pipe.readOverlapped s.os ∧
      Current s.pipe.writePending s.pipe.writeOverlapped s.os
  | _, _ => True

theorem clientFound_of_succeeded {answer : Except Errno Unit} {s : System α}
    {r : Except Exception (Option ErrorCode) × NamedPipe α × Os α}
    (hr : Connects answer s.pipe s.os r) (h : succeeded r.1 = true) : ClientFound answer s := by
  unfold ClientFound
  cases hr with
  | fetched operation count hpending hop hresult =>
    rw [if_pos hpending]
    exact ⟨operation, count, hop, hresult⟩
  | finished hpending hanswer =>
    rw [if_neg (by simp [hpending])]
    exact hanswer
  | refused | lost | started | failed => cases h

theorem session_submit {answer : Except Errno Nat} {data : List α} {p : NamedPipe α} {os : Os α}
    {r : Option ErrorCode × Nat × NamedPipe α × Os α} (hr : Submits answer data p os r) :
    r.2.2.2.session = os.session := by
  cases hr <;> rfl

theorem session_write {answer : Except Errno Nat} {data : List α} {p : NamedPipe α} {os : Os α}
    {r : Option ErrorCode × Nat × NamedPipe α × Os α} (hr : Writes answer data p os r) :
    r.2.2.2.session = os.session := by
  cases hr with
  | refused | lost => rfl
  | idle hpending hr => exact session_submit hr
  | fetched operation count hpending hop hresult hr =>
    have h := session_submit hr
    exact h

theorem session_read [Inhabited α] {answer : Except Errno (List α)} {size : Nat}
    {p : NamedPipe α} {os : Os α} {r : Option ErrorCode × List α × NamedPipe α × Os α}
    (hr : Reads answer size p os r) : r.2.2.2.session = os.session := by
  cases hr <;> rfl

theorem session_connect {answer : Except Errno Unit} {p : NamedPipe α} {os : Os α}
    {r : Except Exception (Option ErrorCode) × NamedPipe α × Os α} (hr : Connects answer p os r) :
    r.2.2.session = os.session := by
  cases hr <;> rfl

theorem arrived_of_idle {p : NamedPipe α} (h : p.readPending = false) (os : Os α) :
    arrived p os = [] := by
  simp [arrived, h]

theorem arrived_of_pending {p : NamedPipe α} {os : Os α} (h : p.readPending = true)
    {operation : Operation α} (hop : os.ops p.readOverlapped = some operation) :
    arrived p os = operation.moved := by
  simp [arrived, h, hop]

theorem KeepsReads.arrived_eq {p q : NamedPipe α} {os os' : Os α} (h : KeepsReads p os q os')
    (htidy : Tidy mine p os) : arrived q os' = arrived p os := by
  cases hpending : p.readPending with
  | false => rw [arrived_of_idle hpending, arrived_of_idle (h.pending.trans hpending)]
  | true =>
    obtain ⟨operation, hop, -⟩ := htidy.reads.held hpending
    rw [arrived_of_pending hpending hop]
    apply arrived_of_pending (h.pending.trans hpending)
    rw [h.overlapped]
    exact h.ops _ operation hop

theorem Current.of_idle {pending : Bool} (h : pending = false) (op : Op) (os : Os α) :
    Current pending op os := by
  intro htrue
  rw [h] at htrue
  cases htrue

theorem Current.of_start (pending : Bool) (kind : Kind) (data : List α) (os : Os α) :
    Current pending os.nextOp (os.start kind data) := by
  intro _ operation hop
  change Function.update os.ops os.nextOp _ os.nextOp = some operation at hop
  rw [Function.update_self] at hop
  cases hop
  rfl

theorem Current.keep {kind : Kind} {pending : Bool} {op : Op} {os os' : Os α}
    (h : Current pending op os) (howned : Owned mine kind pending op os)
    (hops : ∀ operation, os.ops op = some operation → os'.ops op = some operation)
    (hsession : os'.session = os.session) : Current pending op os' := by
  intro hpending operation hop
  obtain ⟨held, hheld, -⟩ := howned.held hpending
  have hsame := hops held hheld
  rw [hop] at hsame
  cases hsame
  rw [hsession]
  exact h hpending operation hheld

theorem Current.finish {pending : Bool} {op op' : Op} {os : Os α} {operation : Operation α}
    (h : Current pending op os) (hop : os.ops op' = some operation) (outcome : Outcome α) :
    Current pending op (os.finish op' operation outcome) := by
  intro hpending ended hended
  change Function.update os.ops op' _ op = some ended at hended
  by_cases hsame : op = op'
  · subst hsame
    rw [Function.update_self] at hended
    cases hended
    have hsession : (operation.finish outcome).session = operation.session := by
      cases outcome <;> rfl
    rw [hsession]
    exact h hpending operation hop
  · rw [Function.update_of_ne hsame] at hended
    exact h hpending ended hended

/-- The bytes of one session: buffered, arrived, or handed out by a call. -/
def Own (origin : α → Nat) (session : Nat) (bytes : List α) : Prop :=
  ∀ b ∈ bytes, origin b = session

/-- The invariant: what is buffered is of this session, and once a client is
accepted so is what is pending. -/
structure Unmixed (origin : α → Nat) (s : System α) : Prop where
  order : ReadsInOrder s
  buffered : Own origin s.os.session (unread s.pipe)
  arrived : Own origin s.os.session (arrived s.pipe s.os)
  reads : s.connected = true → Current s.pipe.readPending s.pipe.readOverlapped s.os
  writes : s.connected = true → Current s.pipe.writePending s.pipe.writeOverlapped s.os

theorem own_nil (origin : α → Nat) (session : Nat) : Own origin session ([] : List α) := by
  intro b hb
  cases hb

theorem own_unread {origin : α → Nat} {session : Nat} {p : NamedPipe α}
    (h : p.readReadySize ≤ p.readPos) : Own origin session (unread p) := by
  rw [unread_of_empty h]
  exact own_nil origin session

theorem own_arrived {origin : α → Nat} {session : Nat} {p : NamedPipe α} {os : Os α}
    (h : p.readPending = false) : Own origin session (arrived p os) := by
  rw [arrived_of_idle h]
  exact own_nil origin session

/-- `copy_ready` hands out and leaves bytes that were there. -/
theorem own_copyReady {origin : α → Nat} {session : Nat} {p : NamedPipe α} (size : Nat)
    (h : Own origin session (unread p)) (hpos : p.readPos ≤ p.readReadySize) :
    Own origin session (copyReady size p).1 ∧ Own origin session (unread (copyReady size p).2) := by
  rw [← copyReady_unread size p hpos] at h
  exact ⟨fun b hb => h b (List.mem_append_left _ hb), fun b hb => h b (List.mem_append_right _ hb)⟩

/-- The same when a block has just come and nothing is pending. -/
theorem own_block {origin : α → Nat} {session : Nat} {p : NamedPipe α} (size : Nat) (os : Os α)
    (connected : Bool) (h : Own origin session (p.readBuffer.take p.readReadySize))
    (hpos : p.readPos = 0) (hpending : p.readPending = false) :
    Own origin session (copyReady size p).1 ∧ Own origin session (unread (copyReady size p).2) ∧
      Own origin session (arrived (copyReady size p).2 os) ∧
      (connected = true →
        Current (copyReady size p).2.readPending (copyReady size p).2.readOverlapped os) := by
  have hunread : Own origin session (unread p) := by
    rw [unread, hpos]
    exact h
  obtain ⟨hout, hleft⟩ := own_copyReady size hunread (by omega)
  have hidle : (copyReady size p).2.readPending = false := by
    obtain ⟨ready, pos, hcopy⟩ := copyReady_snd size p
    rw [hcopy]
    exact hpending
  exact ⟨hout, hleft, own_arrived hidle, fun _ => .of_idle hidle _ _⟩

/-- What one `read` returns, and what it leaves, is of this session. -/
theorem Unmixed.read [Inhabited α] {origin : α → Nat} {s : System α}
    {answer : Except Errno (List α)} {size : Nat}
    {r : Option ErrorCode × List α × NamedPipe α × Os α} (h : Unmixed origin s)
    (htagged : ∀ block, answer = .ok block → Own origin s.os.session block)
    (hr : Reads answer size s.pipe s.os r) :
    Own origin s.os.session r.2.1 ∧ Own origin s.os.session (unread r.2.2.1) ∧
      Own origin s.os.session (Pipe.arrived r.2.2.1 r.2.2.2) ∧
      (s.connected = true → Current r.2.2.1.readPending r.2.2.1.readOverlapped r.2.2.2) := by
  have hnil := own_nil origin s.os.session
  have hreading := h.order.reading
  cases hr with
  | refused code => exact ⟨hnil, h.buffered, h.arrived, h.reads⟩
  | buffered hlt =>
    obtain ⟨ready, pos, hcopy⟩ := copyReady_snd size s.pipe
    obtain ⟨hout, hleft⟩ := own_copyReady size h.buffered hreading.pos_le
    refine ⟨hout, hleft, ?_, ?_⟩
    · simp only [hcopy]
      exact h.arrived
    · simp only [hcopy]
      exact h.reads
  | fetched operation count hle hpending hop hresult hq =>
    obtain ⟨hlength, -, hblock⟩ := hreading.arrived hpending operation count hop hresult
    have harrived := h.arrived
    rw [arrived_of_pending hpending hop] at harrived
    simp only [Operation.moved, hresult, hlength, List.take_length] at harrived
    subst hq
    refine own_block size _ s.connected ?_ rfl rfl
    change Own origin _ (s.pipe.readBuffer.take count)
    rw [hblock]
    exact harrived
  | lost operation error hle hpending hop hresult =>
    exact ⟨hnil, own_unread (le_refl 0), own_arrived rfl, fun _ => .of_idle rfl _ _⟩
  | finished block hle hpending hlength hanswer hq =>
    obtain ⟨whole, hwhole, hfront⟩ := hanswer
    subst hq
    refine own_block size _ s.connected ?_ rfl hpending
    change Own origin _ ((overwrite block _).take block.length)
    rw [take_overwrite]
    intro b hb
    exact htagged whole hwhole b (hfront.subset hb)
  | started hle hpending =>
    refine ⟨hnil, own_unread hle, ?_, fun _ => Current.of_start true .read [] s.os⟩
    rw [arrived_of_pending rfl (Function.update_self ..)]
    exact hnil
  | failed error hle hpending =>
    exact ⟨hnil, own_unread hle, own_arrived hpending, fun _ => .of_idle hpending _ _⟩

/-- The write that is pending after `write` is of this session if the one before was. -/
theorem current_submit {answer : Except Errno Nat} {data : List α} {p : NamedPipe α} {os : Os α}
    {r : Option ErrorCode × Nat × NamedPipe α × Os α} (hpending : p.writePending = false)
    (hr : Submits answer data p os r) :
    Current r.2.2.1.writePending r.2.2.1.writeOverlapped r.2.2.2 := by
  cases hr with
  | started hanswer => exact Current.of_start true .write _ os
  | refused | finished | failed => exact .of_idle hpending _ _

theorem current_write {answer : Except Errno Nat} {data : List α} {p : NamedPipe α} {os : Os α}
    {r : Option ErrorCode × Nat × NamedPipe α × Os α}
    (h : Current p.writePending p.writeOverlapped os) (hr : Writes answer data p os r) :
    Current r.2.2.1.writePending r.2.2.1.writeOverlapped r.2.2.2 := by
  cases hr with
  | refused code => exact h
  | lost operation error hpending hop hresult => exact .of_idle rfl _ _
  | idle hpending hr => exact current_submit hpending hr
  | fetched operation count hpending hop hresult hr => exact current_submit rfl hr

/-- The end of an operation brings bytes of this session, or none. -/
theorem Unmixed.finish {origin : α → Nat} {s : System α} {op : Op} {operation : Operation α}
    {outcome : Outcome α} (h : Unmixed origin s)
    (htagged : ∀ block, outcome = .received block → Own origin s.os.session block)
    (hop : s.os.ops op = some operation) (hfits : outcome.fits s.os.session operation) :
    Own origin s.os.session
      (Pipe.arrived (s.pipe.receive op outcome) (s.os.finish op operation outcome)) := by
  obtain ⟨buffer, hbuffer⟩ := receive_eq op outcome s.pipe
  have hsame : Pipe.arrived (s.pipe.receive op outcome) (s.os.finish op operation outcome) =
      Pipe.arrived s.pipe (s.os.finish op operation outcome) := by
    rw [hbuffer]
    rfl
  rw [hsame]
  cases hpending : s.pipe.readPending with
  | false => exact own_arrived hpending
  | true =>
    by_cases hsame : s.pipe.readOverlapped = op
    · subst hsame
      have hkind := h.order.tidy.reads.kind_eq hpending hop
      rw [arrived_of_pending hpending (Function.update_self ..)]
      cases outcome with
      | received block =>
        simp only [Operation.finish, Operation.moved, List.take_length]
        exact htagged block rfl
      | transferred count => exact absurd hkind hfits.1
      | failed error => exact own_nil origin _
    · obtain ⟨held, hheld, -⟩ := h.order.tidy.reads.held hpending
      have harrived := h.arrived
      rw [arrived_of_pending hpending hheld] at harrived
      have hop' : (s.os.finish op operation outcome).ops s.pipe.readOverlapped = some held := by
        rw [← hheld]
        exact Function.update_of_ne hsame ..
      rw [arrived_of_pending hpending hop']
      exact harrived

theorem Unmixed.step [Inhabited α] {origin : α → Nat} {a : Action α} {s t : System α}
    (h : Unmixed origin s) (htagged : Tagged origin a s) (hdrained : Drained a s)
    (hstep : step a s = some t) : Unmixed origin t := by
  have horder := h.order.step hstep
  have htidy := h.order.tidy
  cases a with
  | connect answer =>
    obtain ⟨r, hr, rfl⟩ := step_connect hstep
    have hkeep := keepsReads_connect htidy hr
    have hkeepw := keepsWrites_connect htidy hr
    have hsession := session_connect hr
    have hfound : s.connected = true ∨ succeeded r.1 = true →
        Current s.pipe.readPending s.pipe.readOverlapped s.os ∧
        Current s.pipe.writePending s.pipe.writeOverlapped s.os := by
      rintro (hconnected | hsucceeded)
      · exact ⟨h.reads hconnected, h.writes hconnected⟩
      · exact hdrained (clientFound_of_succeeded hr hsucceeded)
    refine ⟨horder, ?_, ?_, ?_, ?_⟩
    · change Own origin r.2.2.session (unread r.2.1)
      rw [hsession, hkeep.unread_eq]
      exact h.buffered
    · change Own origin r.2.2.session (Pipe.arrived r.2.1 r.2.2)
      rw [hsession, hkeep.arrived_eq htidy]
      exact h.arrived
    · intro hconnected
      have hcurrent := (hfound (by simpa using hconnected)).1
      change Current r.2.1.readPending r.2.1.readOverlapped r.2.2
      rw [hkeep.pending, hkeep.overlapped]
      exact hcurrent.keep htidy.reads (hkeep.ops _) hsession
    · intro hconnected
      have hcurrent := (hfound (by simpa using hconnected)).2
      change Current r.2.1.writePending r.2.1.writeOverlapped r.2.2
      rw [hkeepw.pending, hkeepw.overlapped]
      exact hcurrent.keep htidy.writes (hkeepw.ops _) hsession
  | disconnect answer =>
    rcases step_disconnect hstep with ⟨rfl, rfl⟩ | rfl
    · obtain ⟨hunread, harrived⟩ := hdrained
      refine ⟨horder, ?_, ?_, nofun, nofun⟩
      · change Own origin _ (unread s.pipe)
        rw [hunread]
        exact own_nil origin _
      · change Own origin _ (Pipe.arrived s.pipe s.os)
        rw [harrived]
        exact own_nil origin _
    · exact h
  | read memory answer size =>
    obtain ⟨r, hr, rfl⟩ := step_read hstep
    have hkeepw := keepsWrites_read htidy hr
    have hsession := session_read hr
    have htag : ∀ block, answer = .ok block → Own origin s.os.session block := by
      rintro block rfl
      exact htagged
    obtain ⟨-, hunread, harrived, hreads⟩ := h.read htag hr
    refine ⟨horder, ?_, ?_, hreads, ?_⟩
    · change Own origin r.2.2.2.session (unread r.2.2.1)
      rw [hsession]
      exact hunread
    · change Own origin r.2.2.2.session (Pipe.arrived r.2.2.1 r.2.2.2)
      rw [hsession]
      exact harrived
    · intro hconnected
      change Current r.2.2.1.writePending r.2.2.1.writeOverlapped r.2.2.2
      rw [hkeepw.pending, hkeepw.overlapped]
      exact (h.writes hconnected).keep htidy.writes (hkeepw.ops _) hsession
  | write memory answer data =>
    obtain ⟨r, hr, rfl⟩ := step_write hstep
    have hkeep := keepsReads_write htidy hr
    have hsession := session_write hr
    refine ⟨horder, ?_, ?_, ?_, fun hconnected => current_write (h.writes hconnected) hr⟩
    · change Own origin r.2.2.2.session (unread r.2.2.1)
      rw [hsession, hkeep.unread_eq]
      exact h.buffered
    · change Own origin r.2.2.2.session (Pipe.arrived r.2.2.1 r.2.2.2)
      rw [hsession, hkeep.arrived_eq htidy]
      exact h.arrived
    · intro hconnected
      change Current r.2.2.1.readPending r.2.2.1.readOverlapped r.2.2.2
      rw [hkeep.pending, hkeep.overlapped]
      exact (h.reads hconnected).keep htidy.reads (hkeep.ops _) hsession
  | takeError =>
    obtain rfl := step_takeError hstep
    exact ⟨horder, h.buffered, h.arrived, h.reads, h.writes⟩
  | finish op outcome =>
    obtain ⟨operation, hop, -, hfits, rfl⟩ := step_finish hstep
    have htag : ∀ block, outcome = .received block → Own origin s.os.session block := by
      rintro block rfl
      exact htagged
    obtain ⟨-, hunread⟩ := h.order.reading.finish htidy hop hfits
    obtain ⟨buffer, hbuffer⟩ := receive_eq op outcome s.pipe
    refine ⟨horder, ?_, h.finish htag hop hfits, ?_, ?_⟩
    · change Own origin s.os.session (unread (s.pipe.receive op outcome))
      rw [hunread]
      exact h.buffered
    · intro hconnected
      simp only [hbuffer]
      exact (h.reads hconnected).finish hop outcome
    · intro hconnected
      simp only [hbuffer]
      exact (h.writes hconnected).finish hop outcome

/-! ## What the calls report -/

/-- The step returned the error of an operation that had stayed pending, other
than of a connect. -/
def Reported (operation : Operation α) (s t : System α) : Prop :=
  (∃ op, t.os.trace = .fetched op operation :: s.os.trace) ∧ operation.kind ≠ .connect ∧
    ∃ error, operation.result = some (.error error)

theorem fetched_read [Inhabited α] {answer : Except Errno (List α)} {size : Nat} {p : NamedPipe α}
    {os : Os α} {r : Option ErrorCode × List α × NamedPipe α × Os α}
    (hr : Reads answer size p os r) {op : Op} {operation : Operation α}
    (h : r.2.2.2.trace = .fetched op operation :: os.trace) :
    p.readPending = true ∧ os.ops p.readOverlapped = some operation := by
  cases hr with
  | fetched operation' count hle hpending hop hresult hq =>
    cases h
    exact ⟨hpending, hop⟩
  | lost operation' error hle hpending hop hresult =>
    cases h
    exact ⟨hpending, hop⟩
  | finished => cases h
  | refused | buffered | started | failed => exact absurd h (List.cons_ne_self _ _).symm

theorem fetched_submit {answer : Except Errno Nat} {data : List α} {p : NamedPipe α} {os : Os α}
    {r : Option ErrorCode × Nat × NamedPipe α × Os α} (hr : Submits answer data p os r) :
    (∃ sent, r.2.2.2.trace = .finished .write sent :: os.trace) ∨ r.2.2.2.trace = os.trace := by
  cases hr with
  | finished sent hsent => exact .inl ⟨sent, rfl⟩
  | refused | started | failed => exact .inr rfl

theorem fetched_write {answer : Except Errno Nat} {data : List α} {p : NamedPipe α} {os : Os α}
    {r : Option ErrorCode × Nat × NamedPipe α × Os α} (hr : Writes answer data p os r) {op : Op}
    {operation : Operation α} (h : r.2.2.2.trace = .fetched op operation :: os.trace) :
    p.writePending = true ∧ os.ops p.writeOverlapped = some operation := by
  cases hr with
  | refused code => exact absurd h (List.cons_ne_self _ _).symm
  | lost operation' error hpending hop hresult =>
    cases h
    exact ⟨hpending, hop⟩
  | idle hpending hr =>
    rcases fetched_submit hr with ⟨sent, hsent⟩ | hsame
    · rw [hsent] at h
      cases h
    · rw [hsame] at h
      exact absurd h (List.cons_ne_self _ _).symm
  | fetched operation' count hpending hop hresult hr =>
    rcases fetched_submit hr with ⟨sent, hsent⟩ | hsame
    · rw [hsent] at h
      cases h
    · rw [hsame] at h
      cases h
      exact ⟨hpending, hop⟩

theorem fetched_connect {answer : Except Errno Unit} {p : NamedPipe α} {os : Os α}
    {r : Except Exception (Option ErrorCode) × NamedPipe α × Os α} (hr : Connects answer p os r) {op : Op}
    {operation : Operation α} (h : r.2.2.trace = .fetched op operation :: os.trace) :
    p.connectPending = true ∧ os.ops p.connectOverlapped = some operation := by
  cases hr with
  | fetched operation' count hpending hop hresult =>
    cases h
    exact ⟨hpending, hop⟩
  | lost operation' error hpending hop hresult =>
    cases h
    exact ⟨hpending, hop⟩
  | refused | finished | started | failed => exact absurd h (List.cons_ne_self _ _).symm

/-- In a session that has been accepted, only its own operations are reported. -/
theorem Unmixed.reported [Inhabited α] {origin : α → Nat} {a : Action α} {s t : System α}
    (h : Unmixed origin s) (hstep : Pipe.step a s = some t) (hconnected : s.connected = true)
    {operation : Operation α} (hreported : Reported operation s t) :
    operation.session = s.os.session := by
  obtain ⟨⟨op, htrace⟩, hkind, -⟩ := hreported
  cases a with
  | connect answer =>
    obtain ⟨r, hr, rfl⟩ := step_connect hstep
    obtain ⟨hpending, hop⟩ := fetched_connect hr htrace
    exact absurd (h.order.tidy.connects.kind_eq hpending hop) hkind
  | disconnect answer =>
    rcases step_disconnect hstep with ⟨-, rfl⟩ | rfl
    · exact absurd htrace (List.cons_ne_self _ _).symm
    · exact absurd htrace (List.cons_ne_self _ _).symm
  | read memory answer size =>
    obtain ⟨r, hr, rfl⟩ := step_read hstep
    obtain ⟨hpending, hop⟩ := fetched_read hr htrace
    exact h.reads hconnected hpending operation hop
  | write memory answer data =>
    obtain ⟨r, hr, rfl⟩ := step_write hstep
    obtain ⟨hpending, hop⟩ := fetched_write hr htrace
    exact h.writes hconnected hpending operation hop
  | takeError =>
    obtain rfl := step_takeError hstep
    exact absurd htrace (List.cons_ne_self _ _).symm
  | finish op' outcome =>
    obtain ⟨operation', -, -, -, rfl⟩ := step_finish hstep
    exact absurd htrace (List.cons_ne_self _ _).symm

/-- Every byte that a step returns is of this session. -/
theorem Unmixed.returned [Inhabited α] {origin : α → Nat} {a : Action α} {s t : System α}
    (h : Unmixed origin s) (htagged : Tagged origin a s) (hstep : Pipe.step a s = some t)
    {bytes : List α} (hbytes : t.returned = s.returned ++ bytes) : Own origin s.os.session bytes := by
  cases a with
  | read memory answer size =>
    obtain ⟨r, hr, rfl⟩ := step_read hstep
    have htag : ∀ block, answer = .ok block → Own origin s.os.session block := by
      rintro block rfl
      exact htagged
    obtain rfl := List.append_cancel_left hbytes
    exact (h.read htag hr).1
  | finish op outcome =>
    obtain ⟨operation, -, -, -, rfl⟩ := step_finish hstep
    obtain rfl := List.self_eq_append_right.mp hbytes
    exact own_nil origin _
  | connect | disconnect | write | takeError =>
    obtain ⟨-, hreturned⟩ := keepsReads_step h.order.tidy hstep nofun nofun
    rw [hreturned] at hbytes
    obtain rfl := List.self_eq_append_right.mp hbytes
    exact own_nil origin _

theorem unmixed_initial (origin : α → Nat) (handle : NativeHandle) :
    Unmixed origin (initial handle) :=
  ⟨readsInOrder_initial handle, own_unread (le_refl 0), own_arrived rfl, nofun, nofun⟩

/-- Clients do not mix in a run whose steps are all `Drained`: what `read` returns
was received in this session, and an error that `read` or `write` returns once a
client is accepted is one of an operation started in this session. -/
theorem sessions_do_not_mix [Inhabited α] (handle : NativeHandle) (origin : α → Nat)
    (a : Action α) (s t : System α)
    (h : Reach step (fun a s => Tagged origin a s ∧ Drained a s) (initial handle) s)
    (hok : Tagged origin a s ∧ Drained a s) (hstep : step a s = some t) :
    (∀ bytes, t.returned = s.returned ++ bytes → ∀ b ∈ bytes, origin b = s.os.session) ∧
    (s.connected = true → ∀ operation, Reported operation s t →
      operation.session = s.os.session) := by
  have hs : Unmixed origin s := h.invariant (unmixed_initial origin handle)
    fun _ _ _ hu hok hstep => hu.step hok.1 hok.2 hstep
  constructor
  · intro bytes hbytes
    exact hs.returned hok.1 hstep hbytes
  · intro hconnected operation hreported
    exact hs.reported hstep hconnected hreported

/-- A client is served to the end, and the next one's byte is the next one's. -/
theorem sessions_do_not_mix_two_clients : ∃ s t : System (Nat × Nat),
    s.os.session = 1 ∧ t.returned = s.returned ++ [(2, 1)] ∧
    ∀ bytes, t.returned = s.returned ++ bytes → ∀ b ∈ bytes, b.2 = s.os.session := by
  have h₁ : Reach step (fun a s => Tagged Prod.snd a s ∧ Drained a s) (initial (α := Nat × Nat) 4) _ :=
    .tail (.read true (.error errorIoPending) 5) .refl ⟨trivial, trivial⟩ rfl
  have h₂ : Reach step (fun a s => Tagged Prod.snd a s ∧ Drained a s) (initial (α := Nat × Nat) 4) _ :=
    .tail (.finish 0 (.received [(1, 0)])) h₁ ⟨List.forall_mem_singleton.mpr rfl, trivial⟩ rfl
  have h₃ : Reach step (fun a s => Tagged Prod.snd a s ∧ Drained a s) (initial (α := Nat × Nat) 4) _ :=
    .tail (.read true (.ok []) 5) h₂ ⟨nofun, trivial⟩ rfl
  have h₄ : Reach step (fun a s => Tagged Prod.snd a s ∧ Drained a s) (initial (α := Nat × Nat) 4) _ :=
    .tail (.disconnect (.ok ())) h₃ ⟨trivial, rfl, rfl⟩ rfl
  have h₅ : Reach step (fun a s => Tagged Prod.snd a s ∧ Drained a s) (initial (α := Nat × Nat) 4) _ :=
    .tail (.connect (.ok ())) h₄ ⟨trivial, fun _ => ⟨nofun, nofun⟩⟩ rfl
  have h₆ : Reach step (fun a s => Tagged Prod.snd a s ∧ Drained a s) (initial (α := Nat × Nat) 4) _ :=
    .tail (.read true (.error errorIoPending) 5) h₅ ⟨trivial, trivial⟩ rfl
  have h₇ : Reach step (fun a s => Tagged Prod.snd a s ∧ Drained a s) (initial (α := Nat × Nat) 4) _ :=
    .tail (.finish 1 (.received [(2, 1)])) h₆ ⟨List.forall_mem_singleton.mpr rfl, trivial⟩ rfl
  exact ⟨_, _, rfl, rfl,
    (sessions_do_not_mix 4 Prod.snd (.read true (.ok []) 5) _ _ h₇ ⟨nofun, trivial⟩ rfl).1⟩

/-- Two bytes come, one is read, the client is disconnected and another accepted:
the next byte read is still the first client's. -/
theorem left_over_byte_reaches_next_client : ∃ s t : System (Nat × Nat),
    Reach step (Tagged Prod.snd) (initial 4) s ∧ s.connected = true ∧ s.os.session = 1 ∧
    step (.read true (.ok []) 1) s = some t ∧ t.returned = s.returned ++ [(2, 0)] := by
  have h₁ : Reach step (Tagged Prod.snd) (initial (α := Nat × Nat) 4) _ :=
    .tail (.read true (.error errorIoPending) 1) .refl trivial rfl
  have h₂ : Reach step (Tagged Prod.snd) (initial (α := Nat × Nat) 4) _ :=
    .tail (.finish 0 (.received [(1, 0), (2, 0)])) h₁
      (List.forall_mem_cons.mpr ⟨rfl, List.forall_mem_singleton.mpr rfl⟩) rfl
  have h₃ : Reach step (Tagged Prod.snd) (initial (α := Nat × Nat) 4) _ :=
    .tail (.read true (.ok []) 1) h₂ nofun rfl
  have h₄ : Reach step (Tagged Prod.snd) (initial (α := Nat × Nat) 4) _ :=
    .tail (.disconnect (.ok ())) h₃ trivial rfl
  have h₅ : Reach step (Tagged Prod.snd) (initial (α := Nat × Nat) 4) _ :=
    .tail (.connect (.ok ())) h₄ trivial rfl
  exact ⟨_, _, h₅, rfl, rfl, rfl, rfl⟩

end Pipe
