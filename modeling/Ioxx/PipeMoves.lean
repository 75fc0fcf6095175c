import Ioxx.PipeViews

/-!
# Moving a named pipe

The move operations of `NamedPipe` carry the handle and nothing else, so the
object that is moved to starts with the members it had. Its calls return what the
original's would have returned exactly when the two have the same view, as far as
a caller can tell.
-/

namespace Pipe

open Core Runs

variable {α β : Type} {mine : Op → Prop}

/-! ## Results of whole sequences of actions -/

def results [Inhabited α] : List (Action α) → NamedPipe α → Os α → List (Result α)
  | [], _, _ => []
  | a :: rest, p, os => (call a p os).1 :: results rest (call a p os).2.1 (call a p os).2.2

def View.results : List (Action α) → View α → Os α → List (Result α)
  | [], _, _ => []
  | a :: rest, v, os => (v.call a os).1 :: View.results rest (v.call a os).2.1 (v.call a os).2.2

theorem Sane.finish {p : NamedPipe α} {os : Os α} (h : Sane p os) {op : Op} {outcome : Outcome α}
    {operation : Operation α} (hends : os.ends op outcome = some operation) :
    Sane (p.receive op outcome) (os.finish op operation outcome) := by
  obtain ⟨htidy, hreading⟩ := h
  obtain ⟨hop, hresult, hfits⟩ := ends_eq_some hends
  refine ⟨?_, (hreading.finish htidy hop hfits).1⟩
  obtain ⟨buffer, hbuffer⟩ := receive_eq op outcome p
  rw [hbuffer]
  exact ⟨htidy.fresh.finish hop outcome, htidy.connects.finish hop outcome,
    htidy.reads.finish hop outcome, htidy.writes.finish hop outcome⟩

/-- An action leaves the object as its calls need it. -/
theorem Sane.call [Inhabited α] {p : NamedPipe α} {os : Os α} (h : Sane p os) (a : Action α) :
    Sane (call a p os).2.1 (call a p os).2.2 := by
  obtain ⟨htidy, hreading⟩ := h
  cases a with
  | connect answer =>
    have hr := connect_connects answer p os
    exact ⟨htidy.connect hr, hreading.keep htidy (keepsReads_connect htidy hr)⟩
  | disconnect answer =>
    cases answer with
    | ok u =>
      exact ⟨⟨htidy.fresh, htidy.connects.congr rfl, htidy.reads.congr rfl, htidy.writes.congr rfl⟩,
        hreading.keep htidy ⟨rfl, rfl, rfl, rfl, rfl, fun _ _ h => h, rfl⟩⟩
    | error error => exact ⟨htidy, hreading⟩
  | read memory answer size =>
    have hr := read_reads memory answer size p os
    exact ⟨htidy.read hr, hreading.read hr⟩
  | write memory answer data =>
    have hr := write_writes memory answer data p os
    exact ⟨htidy.write hr, hreading.keep htidy (keepsReads_write htidy hr)⟩
  | takeError =>
    exact ⟨⟨htidy.fresh, htidy.connects, htidy.reads, htidy.writes⟩,
      hreading.keep htidy ⟨rfl, rfl, rfl, rfl, rfl, fun _ _ h => h, rfl⟩⟩
  | finish op outcome =>
    simp only [Pipe.call]
    cases hends : os.ends op outcome with
    | none => exact ⟨htidy, hreading⟩
    | some operation => exact Sane.finish ⟨htidy, hreading⟩ hends

theorem results_refine [Inhabited α] (actions : List (Action α)) {p : NamedPipe α} {os : Os α}
    (h : Sane p os) : results actions p os = View.results actions (view p os) os.forget := by
  induction actions generalizing p os with
  | nil => rfl
  | cons a rest ih =>
    have hrefines := call_refines h a
    unfold Refined at hrefines
    simp only [results, View.results, hrefines]
    rw [ih (h.call a)]

/-! ## Views that a caller cannot tell apart -/

/-- The same last error and, for a valid handle, the same three channels. -/
structure Alike (v w : View α) : Prop where
  valid : v.valid = w.valid
  lastError : v.lastError = w.lastError
  connecting : v.valid = true → v.connecting = w.connecting
  reading : v.valid = true → v.reading = w.reading
  writing : v.valid = true → v.writing = w.writing

theorem Alike.eq {v w : View α} (h : Alike v w) (hvalid : v.valid = true) : v = w := by
  cases v
  cases w
  cases h.valid
  cases h.lastError
  cases h.connecting hvalid
  cases h.reading hvalid
  cases h.writing hvalid
  rfl

/-- An action on views that are alike returns the same and leaves them alike. -/
theorem Alike.call {v w : View α} (h : Alike v w) (a : Action α) (os : Os α) :
    (v.call a os).1 = (w.call a os).1 ∧ (v.call a os).2.2 = (w.call a os).2.2 ∧
      Alike (v.call a os).2.1 (w.call a os).2.1 := by
  cases hvalid : v.valid with
  | true =>
    obtain rfl := h.eq hvalid
    exact ⟨rfl, rfl, rfl, rfl, fun _ => rfl, fun _ => rfl, fun _ => rfl⟩
  | false =>
    have hw : w.valid = false := h.valid ▸ hvalid
    have hno : ∀ P : Prop, v.valid = true → P := by
      intro P htrue
      rw [hvalid] at htrue
      cases htrue
    cases a with
    | connect answer =>
      simp only [View.call, View.connect, hvalid, hw, if_true]
      exact ⟨trivial, trivial, h⟩
    | disconnect answer => exact ⟨rfl, rfl, h⟩
    | read memory answer size =>
      simp only [View.call, View.read, hvalid, hw, if_true]
      exact ⟨trivial, trivial, h⟩
    | write memory answer data =>
      simp only [View.call, View.write, hvalid, hw, if_true]
      exact ⟨trivial, trivial, h⟩
    | takeError =>
      simp only [View.call, h.lastError]
      exact ⟨trivial, trivial, h.valid, rfl, hno _, hno _, hno _⟩
    | finish op outcome =>
      simp only [View.call]
      cases os.ends op outcome with
      | none => exact ⟨rfl, rfl, h⟩
      | some operation => exact ⟨rfl, rfl, h.valid, h.lastError, hno _, hno _, hno _⟩

theorem Alike.results {v w : View α} (h : Alike v w) (actions : List (Action α)) (os : Os α) :
    View.results actions v os = View.results actions w os := by
  induction actions generalizing v w os with
  | nil => rfl
  | cons a rest ih =>
    obtain ⟨hresult, hos, halike⟩ := h.call a os
    simp only [View.results]
    rw [hresult, hos, ih halike]

/-! ## Telling views apart -/

def errorInvalidFunction : Errno := ⟨1, by decide⟩
def errorFileNotFound : Errno := ⟨2, ENOENT.property⟩
def errorOperationAborted : Failure := ⟨⟨995, by decide⟩, by decide⟩

/-- The code a call returns when the native function it may make fails. -/
def Channel.code (error : Errno) : Channel β → Option ErrorCode
  | .idle => some (.ofLastError error)
  | .waiting _ => some .operationWouldBlock
  | .failed error' => some (.ofLastError error'.val)
  | .ready _ => none

theorem ofLastError_inj {error error' : Errno}
    (h : some (ErrorCode.ofLastError error) = some (ErrorCode.ofLastError error')) :
    error = error' := by
  simp only [ErrorCode.ofLastError, Option.some.injEq, ErrorCode.mk.injEq, and_true] at h
  exact Subtype.ext h

theorem ofLastError_ne_wouldBlock (error : Errno) :
    some (ErrorCode.ofLastError error) ≠ some .operationWouldBlock := by
  simp [ErrorCode.ofLastError, ErrorCode.operationWouldBlock]

/-- Two native errors, and the end of the operation that is waited for, tell any
two channels apart that are not both ready. -/
theorem Channel.eq_of_code {c d : Channel β}
    (h₁ : c.code errorInvalidFunction = d.code errorInvalidFunction)
    (h₂ : c.code errorFileNotFound = d.code errorFileNotFound)
    (hready : ∀ r r', c = .ready r → d = .ready r' → r = r')
    (hwait : ∀ op, c = .waiting op → (c.finish op (.failed errorOperationAborted)).code
      errorInvalidFunction = (d.finish op (.failed errorOperationAborted)).code errorInvalidFunction) :
    c = d := by
  have hdiffer : ∀ error, ¬ (errorInvalidFunction = error ∧ errorFileNotFound = error) := by
    rintro error ⟨rfl, h⟩
    revert h
    decide
  cases c with
  | idle =>
    cases d with
    | idle => rfl
    | waiting op => exact absurd h₁ (ofLastError_ne_wouldBlock _)
    | failed error => exact absurd ⟨ofLastError_inj h₁, ofLastError_inj h₂⟩ (hdiffer error.val)
    | ready r => cases h₁
  | waiting op =>
    cases d with
    | idle => exact absurd h₁.symm (ofLastError_ne_wouldBlock _)
    | waiting op' =>
      by_cases hop : op' = op
      · rw [hop]
      · have hended := hwait op rfl
        simp only [Channel.finish, hop, if_true, if_false] at hended
        exact absurd hended (ofLastError_ne_wouldBlock _)
    | failed error => exact absurd h₁.symm (ofLastError_ne_wouldBlock _)
    | ready r => cases h₁
  | failed error =>
    cases d with
    | idle =>
      exact absurd ⟨ofLastError_inj h₁.symm, ofLastError_inj h₂.symm⟩ (hdiffer error.val)
    | waiting op => exact absurd h₁ (ofLastError_ne_wouldBlock _)
    | failed error' => rw [Subtype.ext (ofLastError_inj h₁)]
    | ready r => cases h₁
  | ready r =>
    cases d with
    | ready r' => rw [hready r r' rfl rfl]
    | idle | waiting | failed => cases h₁

/-- Every operation that is waited for can still end. -/
def Waits (c : Channel β) (os : Os α) : Prop :=
  ∀ op, c = .waiting op → ∃ operation, os.ops op = some operation ∧ operation.result = none

theorem Waits.ends {c : Channel β} {os : Os α} (h : Waits c os) {op : Op} (hc : c = .waiting op)
    (error : Failure) : ∃ operation, os.ends op (.failed error) = some operation := by
  obtain ⟨operation, hop, hresult⟩ := h op hc
  refine ⟨operation, Option.filter_eq_some_iff.mpr ⟨hop, ?_⟩⟩
  rw [Bool.and_eq_true, Option.isNone_iff_eq_none, decide_eq_true_iff]
  exact ⟨hresult, trivial⟩

theorem waits_operationView {kind : Kind} {pending : Bool} {op : Op} {os : Os α}
    (howned : Owned mine kind pending op os) {ended : Nat → Channel β}
    (hended : ∀ count op, ended count ≠ .waiting op) :
    Waits (operationView pending op ended os) os := by
  intro op' h
  unfold operationView at h
  split at h
  · rename_i hpending
    obtain ⟨operation, hop, -⟩ := howned.held hpending
    rw [hop] at h
    simp only at h
    cases hresult : operation.result with
    | none =>
      rw [hresult] at h
      cases h
      exact ⟨operation, hop, hresult⟩
    | some result =>
      rw [hresult] at h
      cases result with
      | ok count => exact absurd h (hended count op')
      | error error => cases h
  · cases h

/-- The views of the object, all of whose operations can still end. -/
structure Waiting (v : View α) (os : Os α) : Prop where
  connecting : Waits v.connecting os
  reading : Waits v.reading os
  writing : Waits v.writing os

theorem Sane.waiting {p : NamedPipe α} {os : Os α} (h : Sane p os) : Waiting (view p os) os := by
  refine ⟨waits_operationView h.tidy.connects fun _ _ => nofun, ?_,
    waits_operationView h.tidy.writes fun _ _ => nofun⟩
  change Waits (readView p os) os
  unfold readView
  split
  · exact fun _ => nofun
  · exact waits_operationView h.tidy.reads fun _ _ => nofun

/-- `connect` may throw what the other calls return. -/
def connectCode : Except Exception (Option ErrorCode) → Option ErrorCode
  | .ok ec => ec
  | .error e => some e.code

/-- Errors that mean nothing but failure to the calls. -/
def plainError (error : Errno) : Bool :=
  error ≠ errorIoPending ∧ error ≠ errorPipeConnected ∧ error ≠ errorNoData

theorem connect_code {v : View α} (hvalid : v.valid = true) {error : Errno}
    (hplain : plainError error = true) (os : Os α) :
    connectCode (v.connect (.error error) os).1 = v.connecting.code error := by
  simp only [plainError, decide_eq_true_eq] at hplain
  obtain ⟨hio, hconnected, hdata⟩ := hplain
  unfold View.connect
  rw [if_neg (by simp [hvalid])]
  cases v.connecting with
  | idle =>
    simp only [hio, hconnected, hdata, or_self, if_false]
    rfl
  | waiting | failed | ready => rfl

theorem read_code {v : View α} (hvalid : v.valid = true) {error : Errno}
    (hplain : plainError error = true) (size : Nat) (os : Os α) :
    (v.read true (.error error) size os).1.1 = v.reading.code error := by
  simp only [plainError, decide_eq_true_eq] at hplain
  obtain ⟨hio, -, -⟩ := hplain
  unfold View.read
  rw [if_neg (by simp [hvalid])]
  cases v.reading with
  | idle =>
    simp only [hio, if_false]
    rfl
  | waiting | failed | ready => rfl

theorem write_code {v : View α} (hvalid : v.valid = true) {error : Errno}
    (hplain : plainError error = true) (os : Os α) :
    (v.write true (.error error) [] os).1.1 = v.writing.code error := by
  simp only [plainError, decide_eq_true_eq] at hplain
  obtain ⟨hio, -, -⟩ := hplain
  unfold View.write
  rw [if_neg (by simp [hvalid])]
  cases v.writing with
  | idle =>
    simp only [View.submit, hio, if_false]
    rfl
  | waiting | failed => rfl
  | ready nothing => cases nothing

def Action.isDisconnect : Action α → Bool
  | .disconnect _ => true
  | _ => false

/-- The results of all later sequences of `connect`, `read`, `write` and
`take_error` calls and ends of operations. -/
def SameResults (v w : View α) (os : Os α) : Prop :=
  ∀ actions : List (Action α), (∀ a ∈ actions, a.isDisconnect = false) →
    View.results actions v os = View.results actions w os

theorem SameResults.one {v w : View α} {os : Os α} (h : SameResults v w os) (a : Action α)
    (ha : a.isDisconnect = false) : (v.call a os).1 = (w.call a os).1 := by
  have hresults := h [a] (List.forall_mem_singleton.mpr ha)
  exact (List.cons.inj hresults).1

theorem SameResults.step {v w : View α} {os : Os α} (h : SameResults v w os) {op : Op}
    {outcome : Outcome α} {operation : Operation α} (hends : os.ends op outcome = some operation) :
    SameResults (v.finish op outcome) (w.finish op outcome) (os.finish op operation outcome) := by
  intro actions hactions
  have hresults := h (.finish op outcome :: actions) (List.forall_mem_cons.mpr ⟨rfl, hactions⟩)
  simp only [View.results, View.call, hends] at hresults
  exact (List.cons.inj hresults).2

/-- Calls that always return the same see the same codes in all three channels. -/
theorem SameResults.codes {v w : View α} {os : Os α} (h : SameResults v w os)
    (hv : v.valid = true) (hw : w.valid = true) {error : Errno} (hplain : plainError error = true) :
    v.connecting.code error = w.connecting.code error ∧
      v.reading.code error = w.reading.code error ∧ v.writing.code error = w.writing.code error := by
  have hconnect := h.one (.connect (.error error)) rfl
  have hread := h.one (.read true (.error error) 0) rfl
  have hwrite := h.one (.write true (.error error) []) rfl
  simp only [View.call, Result.connected.injEq] at hconnect
  simp only [View.call, Result.read.injEq] at hread
  simp only [View.call, Result.written.injEq] at hwrite
  rw [← connect_code hv hplain os, ← connect_code hw hplain os, hconnect]
  rw [← read_code hv hplain 0 os, ← read_code hw hplain 0 os, hread]
  rw [← write_code hv hplain os, ← write_code hw hplain os, hwrite]
  exact ⟨rfl, rfl, rfl⟩

/-- Ready bytes are returned by a `read` that asks for enough. -/
theorem SameResults.bytes {v w : View α} {os : Os α} (h : SameResults v w os)
    (hv : v.valid = true) (hw : w.valid = true) {block block' : List α}
    (hblock : v.reading = .ready block) (hblock' : w.reading = .ready block') : block = block' := by
  have hread := h.one (.read true (.ok []) (max block.length block'.length)) rfl
  simp only [View.call, Result.read.injEq, View.read, hv, hw, hblock, hblock', reduceCtorEq,
    if_false, Prod.mk.injEq, true_and] at hread
  rw [List.take_of_length_le (by omega), List.take_of_length_le (by omega)] at hread
  exact hread

/-- Views whose results are always the same are alike. -/
theorem alike_of_results {v w : View α} {os : Os α} (hvalid : v.valid = w.valid)
    (hwaiting : Waiting v os) (h : SameResults v w os) : Alike v w := by
  have hplain₁ : plainError errorInvalidFunction = true := by decide
  have hplain₂ : plainError errorFileNotFound = true := by decide
  have herror := h.one .takeError rfl
  simp only [View.call, Result.error.injEq] at herror
  refine ⟨hvalid, herror, ?_, ?_, ?_⟩
  all_goals
    intro hv
    have hw : w.valid = true := hvalid ▸ hv
    obtain ⟨hc₁, hr₁, hw₁⟩ := h.codes hv hw hplain₁
    obtain ⟨hc₂, hr₂, hw₂⟩ := h.codes hv hw hplain₂
  · refine Channel.eq_of_code hc₁ hc₂ (fun _ _ _ _ => rfl) ?_
    intro op hop
    obtain ⟨operation, hends⟩ := hwaiting.connecting.ends hop errorOperationAborted
    exact ((h.step hends).codes hv hw hplain₁).1
  · refine Channel.eq_of_code hr₁ hr₂ (fun _ _ hb hb' => h.bytes hv hw hb hb') ?_
    intro op hop
    obtain ⟨operation, hends⟩ := hwaiting.reading.ends hop errorOperationAborted
    exact ((h.step hends).codes hv hw hplain₁).2.1
  · refine Channel.eq_of_code hw₁ hw₂ (fun r => r.elim) ?_
    intro op hop
    obtain ⟨operation, hends⟩ := hwaiting.writing.ends hop errorOperationAborted
    exact ((h.step hends).codes hv hw hplain₁).2.2

/-! ## Two objects of one process -/

/-- The object that is moved from and one that is assigned to. -/
structure Objects (α : Type) where
  source : NamedPipe α
  target : NamedPipe α
  os : Os α

def Objects.initial (source target : NativeHandle) : Objects α :=
  ⟨{ handle := source }, { handle := target }, ⟨fun _ => none, 0, 0, []⟩⟩

inductive Side where
  | source
  | target

/-- One action on one of the objects; the kernel writes to the buffers of both.
`disconnect` touches neither, and an operation started before it may end in any
way here, which only adds states. -/
def Objects.step [Inhabited α] : Side × Action α → Objects α → Option (Objects α)
  | (_, .finish op outcome), s => match s.os.ends op outcome with
    | none => none
    | some operation => some ⟨s.source.receive op outcome, s.target.receive op outcome,
        s.os.finish op operation outcome⟩
  | (_, .disconnect _), s => some s
  | (.source, a), s =>
      some { s with source := (call a s.source s.os).2.1, os := (call a s.source s.os).2.2 }
  | (.target, a), s =>
      some { s with target := (call a s.target s.os).2.1, os := (call a s.target s.os).2.2 }

/-- A call keeps the operations there are. -/
theorem call_ops [Inhabited α] {p : NamedPipe α} {os : Os α} (h : Sane p os) {a : Action α}
    (hcall : a.isFinish = false) {op : Op} {operation : Operation α}
    (hop : os.ops op = some operation) : (call a p os).2.2.ops op = some operation := by
  cases a with
  | connect answer =>
    exact (keepsReads_connect h.tidy (connect_connects answer p os)).ops op operation hop
  | disconnect answer => cases answer <;> exact hop
  | read memory answer size =>
    exact (keepsWrites_read h.tidy (read_reads memory answer size p os)).ops op operation hop
  | write memory answer data =>
    exact (keepsReads_write h.tidy (write_writes memory answer data p os)).ops op operation hop
  | takeError => exact hop
  | finish op outcome => cases hcall

/-- What another object does leaves this one as its calls need it. -/
theorem Sane.bystander [Inhabited α] {p q : NamedPipe α} {os : Os α} (h : Sane q os)
    (hp : Sane p os) {a : Action α} (hcall : a.isFinish = false) : Sane q (Pipe.call a p os).2.2 := by
  have hheld : ∀ {kind pending op}, Owned (fun _ => False) kind pending op os →
      Owned (fun _ => False) kind pending op (Pipe.call a p os).2.2 := by
    intro kind pending op howned
    refine ⟨fun hpending => ?_, nofun⟩
    obtain ⟨operation, hop, hkind⟩ := howned.held hpending
    exact ⟨operation, call_ops hp hcall hop, hkind⟩
  refine ⟨⟨(hp.call a).tidy.fresh, hheld h.tidy.connects, hheld h.tidy.reads,
    hheld h.tidy.writes⟩, ?_⟩
  refine ⟨h.reading.window, h.reading.inside, h.reading.bound, h.reading.room, h.reading.idle, ?_⟩
  intro hpending operation count hop hresult
  obtain ⟨held, hop', -⟩ := h.tidy.reads.held hpending
  have hkept := call_ops hp hcall hop'
  rw [hop] at hkept
  cases hkept
  exact h.reading.arrived hpending operation count hop' hresult

theorem sane_initial (handle : NativeHandle) :
    Sane { handle := handle } (⟨fun _ => none, 0, 0, []⟩ : Os α) :=
  ⟨⟨fun _ _ => rfl, ⟨nofun, nofun⟩, ⟨nofun, nofun⟩, ⟨nofun, nofun⟩⟩,
    .of_idle rfl (.inr ⟨rfl, rfl⟩) (Nat.zero_le _) (Nat.zero_le _)⟩

theorem Objects.sane_step [Inhabited α] {a : Side × Action α} {s t : Objects α}
    (h : Sane s.source s.os ∧ Sane s.target s.os) (hstep : step a s = some t) :
    Sane t.source t.os ∧ Sane t.target t.os := by
  obtain ⟨side, a⟩ := a
  obtain ⟨hsource, htarget⟩ := h
  cases a with
  | finish op outcome =>
    simp only [step] at hstep
    split at hstep
    · cases hstep
    · rename_i operation hends
      cases hstep
      exact ⟨hsource.finish hends, htarget.finish hends⟩
  | disconnect answer =>
    cases hstep
    exact ⟨hsource, htarget⟩
  | connect | read | write | takeError =>
    cases side with
    | source =>
      rw [← Option.some.inj hstep]
      exact ⟨hsource.call _, htarget.bystander hsource rfl⟩
    | target =>
      rw [← Option.some.inj hstep]
      exact ⟨hsource.bystander htarget rfl, htarget.call _⟩

theorem Objects.reachable_sane [Inhabited α] {source target : NativeHandle} {s : Objects α}
    (h : Reachable step (initial source target) s) : Sane s.source s.os ∧ Sane s.target s.os := by
  refine Reach.invariant (I := fun s => Sane s.source s.os ∧ Sane s.target s.os) h
    ⟨sane_initial source, sane_initial target⟩ ?_
  intro a u v hu _ hstep
  exact sane_step hu hstep

/-- A moved object, whose members are its own and whose handle is the source's. -/
theorem Sane.with_handle {q : NamedPipe α} {os : Os α} (h : Sane q os) (handle : NativeHandle) :
    Sane { q with handle := handle } os :=
  ⟨⟨h.tidy.fresh, h.tidy.connects, h.tidy.reads, h.tidy.writes⟩,
    ⟨h.reading.window, h.reading.inside, h.reading.bound, h.reading.room, h.reading.idle,
      h.reading.arrived⟩⟩

theorem sameResults_iff [Inhabited α] {p q : NamedPipe α} {os : Os α} (hp : Sane p os)
    (hq : Sane q os) (hvalid : q.valid = p.valid) :
    (∀ actions : List (Action α), (∀ a ∈ actions, a.isDisconnect = false) →
      results actions q os = results actions p os) ↔ Alike (view q os) (view p os) := by
  constructor
  · intro h
    have hwaiting : Waiting (view q os) os.forget :=
      ⟨hq.waiting.connecting, hq.waiting.reading, hq.waiting.writing⟩
    refine alike_of_results hvalid hwaiting ?_
    intro actions hactions
    rw [← results_refine actions hq, ← results_refine actions hp]
    exact h actions hactions
  · intro h actions _
    rw [results_refine actions hq, results_refine actions hp]
    exact h.results actions os.forget

/-- Nothing of the object is lost with its members: no error is recorded and, if
the handle is valid, nothing is unread, no connect or read is pending, and a
pending write has ended well. -/
def Movable (p : NamedPipe α) (os : Os α) : Prop :=
  p.lastError = none ∧ (p.valid = true → p.connectPending = false ∧ p.readPending = false ∧
    unread p = [] ∧ (p.writePending = true → ∃ operation count,
      os.ops p.writeOverlapped = some operation ∧ operation.result = some (.ok count)))

theorem operationView_eq_idle {pending : Bool} {op : Op} {ended : Nat → Channel β} {os : Os α} :
    operationView pending op ended os = .idle ↔ (pending = true → ∃ operation count,
      os.ops op = some operation ∧ operation.result = some (.ok count) ∧ ended count = .idle) := by
  constructor
  · intro h hpending
    rcases getOverlappedResult_cases op os with ⟨hnone, -⟩ | ⟨operation, count, hop, hresult, -⟩ |
      ⟨operation, error, hop, hresult, -⟩
    · rw [operationView_waiting hpending ended hnone] at h
      cases h
    · rw [operationView_ended hpending ended hop hresult] at h
      exact ⟨operation, count, hop, hresult, h⟩
    · rw [operationView_failed hpending ended hop hresult] at h
      cases h
  · intro h
    cases hpending : pending with
    | false => rfl
    | true =>
      obtain ⟨operation, count, hop, hresult, hended⟩ := h hpending
      rw [operationView_ended rfl ended hop hresult, hended]

theorem connectView_eq_idle {p : NamedPipe α} {os : Os α} :
    connectView p os = .idle ↔ p.connectPending = false := by
  unfold connectView
  rw [operationView_eq_idle]
  simp

theorem readView_eq_idle {p : NamedPipe α} {os : Os α} (h : Reading p os) :
    readView p os = .idle ↔ p.readPending = false ∧ unread p = [] := by
  have hlength := length_unread h
  by_cases hready : p.readPos < p.readReadySize
  · rw [readView_ready hready]
    constructor
    · nofun
    · rintro ⟨-, hunread⟩
      rw [hunread, List.length_nil] at hlength
      omega
  · rw [readView_empty (by omega), operationView_eq_idle, unread_of_empty (by omega)]
    simp

theorem writeView_eq_idle {p : NamedPipe α} {os : Os α} :
    writeView p os = .idle ↔ (p.writePending = true → ∃ operation count,
      os.ops p.writeOverlapped = some operation ∧ operation.result = some (.ok count)) := by
  unfold writeView
  rw [operationView_eq_idle]
  simp

/-- A fresh object is alike to the source exactly when the source is movable. -/
theorem alike_fresh_iff {p : NamedPipe α} {os : Os α} (h : Sane p os) :
    Alike (view (moveConstruct p) os) (view p os) ↔ Movable p os := by
  have hidle : view (moveConstruct p) os = ⟨p.valid, none, .idle, .idle, .idle⟩ := rfl
  rw [hidle]
  constructor
  · intro halike
    refine ⟨halike.lastError.symm, fun hvalid => ?_⟩
    have hread := (readView_eq_idle h.reading).mp (halike.reading hvalid).symm
    exact ⟨connectView_eq_idle.mp (halike.connecting hvalid).symm, hread.1, hread.2,
      writeView_eq_idle.mp (halike.writing hvalid).symm⟩
  · rintro ⟨herror, hchannels⟩
    refine ⟨rfl, herror.symm, ?_, ?_, ?_⟩
    all_goals
      intro hvalid
      obtain ⟨hconnect, hpending, hunread, hwrite⟩ := hchannels hvalid
    · exact (connectView_eq_idle.mpr hconnect).symm
    · exact ((readView_eq_idle h.reading).mpr ⟨hpending, hunread⟩).symm
    · exact (writeView_eq_idle.mpr hwrite).symm

/-- Move construction and move assignment are transparent exactly when a caller
cannot tell the members that are not carried over from those that are lost. -/
theorem move_is_transparent_iff [Inhabited α] (source target : NativeHandle) (s : Objects α)
    (h : Reachable Objects.step (Objects.initial source target) s) :
    ((∀ actions : List (Action α), (∀ a ∈ actions, a.isDisconnect = false) →
        results actions (moveConstruct s.source) s.os = results actions s.source s.os) ↔
      Movable s.source s.os) ∧
    ((∀ actions : List (Action α), (∀ a ∈ actions, a.isDisconnect = false) →
        results actions (moveAssign s.target s.source) s.os = results actions s.source s.os) ↔
      s.target.lastError = s.source.lastError ∧ (s.source.valid = true →
        connectView s.target s.os = connectView s.source s.os ∧
        readView s.target s.os = readView s.source s.os ∧
        writeView s.target s.os = writeView s.source s.os)) := by
  obtain ⟨hsource, htarget⟩ := Objects.reachable_sane h
  have hnew : Sane (moveConstruct s.source) s.os := by
    refine ⟨⟨hsource.tidy.fresh, ⟨nofun, nofun⟩, ⟨nofun, nofun⟩, ⟨nofun, nofun⟩⟩, ?_⟩
    exact .of_idle rfl (.inr ⟨rfl, rfl⟩) (Nat.zero_le _) (Nat.zero_le _)
  have hassigned : Sane (moveAssign s.target s.source) s.os := htarget.with_handle _
  constructor
  · rw [sameResults_iff hsource hnew rfl]
    exact alike_fresh_iff hsource
  · rw [sameResults_iff hsource hassigned rfl]
    constructor
    · intro halike
      exact ⟨halike.lastError, fun hvalid =>
        ⟨halike.connecting hvalid, halike.reading hvalid, halike.writing hvalid⟩⟩
    · rintro ⟨herror, hchannels⟩
      exact ⟨rfl, herror, fun hvalid => (hchannels hvalid).1, fun hvalid => (hchannels hvalid).2.1,
        fun hvalid => (hchannels hvalid).2.2⟩

/-- A pipe whose one block has been read to the end can be moved. -/
theorem move_is_transparent_read_to_end : ∃ s : Objects Nat,
    Reachable Objects.step (Objects.initial 4 8) s ∧
    ∀ actions : List (Action Nat), (∀ a ∈ actions, a.isDisconnect = false) →
      results actions (moveConstruct s.source) s.os = results actions s.source s.os := by
  have h : Reachable Objects.step (Objects.initial 4 8) _ := reachable_of_run
    [(.source, .read true (.error errorIoPending) 5), (.source, .finish 0 (.received [7])),
      (.source, .read true (.ok []) 5)] rfl
  exact ⟨_, h, (move_is_transparent_iff 4 8 _ h).1.mpr ⟨rfl, fun _ => ⟨rfl, rfl, rfl, nofun⟩⟩⟩

/-- A pipe with one byte unread: the original returns it, the moved object asks the
operating system, which has nothing. -/
theorem move_loses_unread_byte : ∃ s : Objects Nat,
    Reachable Objects.step (Objects.initial 4 8) s ∧
    results [.read true (.error errorFileNotFound) 1] s.source s.os = [.read (none, [8])] ∧
    results [.read true (.error errorFileNotFound) 1] (moveConstruct s.source) s.os =
      [.read (some (.ofLastError errorFileNotFound), [])] := by
  have h : Reachable Objects.step (Objects.initial 4 8) _ := reachable_of_run
    [(.source, .read true (.error errorIoPending) 5), (.source, .finish 0 (.received [7, 8])),
      (.source, .read true (.ok []) 1)] rfl
  exact ⟨_, h, rfl, rfl⟩

end Pipe
