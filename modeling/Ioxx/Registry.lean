import Ioxx.Epoll

/-!
# The registry and its sources

`Registry` turns the selector's exceptions into error codes, and calls a hook of
the source after a successful call. A hook that throws inside one of these
`noexcept` functions ends the process, so a source-level call is `Noexcept`.
-/

namespace Registry

open Core Detail

variable {β Ω : Type}

/-- The two `catch` clauses behind a handle-level call. -/
def caught (outcome : Except Exception Unit × Selector β) : Option ErrorCode × Selector β :=
  match outcome with
  | (.ok _, s) => (none, s)
  | (.error e, s) => (some e.code, s)

/-- The throwing overload of a handle-level call. -/
def rethrown (what : String) (outcome : Option ErrorCode × Selector β) :
    Except Exception Unit × Selector β :=
  match outcome with
  | (none, s) => (.ok (), s)
  | (some code, s) => (.error (.systemError code what), s)

variable (b : Backend β Ω) (ω : Ω)

def registerHandle (handle : NativeHandle) (kind : SourceKind) (token : Token) (interests : Interest)
    (s : Selector β) : Option ErrorCode × Selector β :=
  caught (add b ω handle kind token interests false s)

def reregisterHandle (handle : NativeHandle) (kind : SourceKind) (token : Token)
    (interests : Interest) (s : Selector β) : Option ErrorCode × Selector β :=
  caught (update b ω handle kind token interests s)

def deregisterHandle (handle : NativeHandle) (s : Selector β) : Option ErrorCode × Selector β :=
  caught (remove b ω handle s)

def registerHandleOrThrow (handle : NativeHandle) (kind : SourceKind) (token : Token)
    (interests : Interest) (s : Selector β) : Except Exception Unit × Selector β :=
  rethrown "register_handle" (registerHandle b ω handle kind token interests s)

def reregisterHandleOrThrow (handle : NativeHandle) (kind : SourceKind) (token : Token)
    (interests : Interest) (s : Selector β) : Except Exception Unit × Selector β :=
  rethrown "reregister_handle" (reregisterHandle b ω handle kind token interests s)

def deregisterHandleOrThrow (handle : NativeHandle) (s : Selector β) :
    Except Exception Unit × Selector β :=
  rethrown "deregister_handle" (deregisterHandle b ω handle s)

inductive HandleCall where
  | register (handle : NativeHandle) (kind : SourceKind) (token : Token) (interests : Interest)
  | reregister (handle : NativeHandle) (kind : SourceKind) (token : Token) (interests : Interest)
  | deregister (handle : NativeHandle)
  deriving DecidableEq, Repr

def HandleCall.handle : HandleCall → NativeHandle
  | .register handle _ _ _ => handle
  | .reregister handle _ _ _ => handle
  | .deregister handle => handle

def HandleCall.perform (call : HandleCall) (s : Selector β) : Option ErrorCode × Selector β :=
  match call with
  | .register handle kind token interests => registerHandle b ω handle kind token interests s
  | .reregister handle kind token interests => reregisterHandle b ω handle kind token interests s
  | .deregister handle => deregisterHandle b ω handle s

/-- A handle-level call touches the entry of its handle only. -/
theorem HandleCall.perform_other (call : HandleCall) (s : Selector β) {other : NativeHandle}
    (h : other ≠ call.handle) :
    (call.perform b ω s).2.registrations other = s.registrations other := by
  cases call with
  | register handle kind token interests =>
    simp only [HandleCall.perform, registerHandle]
    rcases add_cases b ω handle kind token interests false s with ⟨e, _, he⟩ |
      ⟨_, _, ⟨e, backend, _, he⟩ | ⟨afdState, backend, _, he⟩⟩
    · rw [he]; rfl
    · rw [he]; rfl
    · rw [he]; exact Function.update_of_ne h _ _
  | reregister handle kind token interests =>
    simp only [HandleCall.perform, reregisterHandle]
    rcases update_cases b ω handle kind token interests s with ⟨e, _, he⟩ |
      ⟨_, r, result, backend, _, _, he⟩
    · rw [he]; rfl
    · rw [he]
      cases result <;> exact Function.update_of_ne h _ _
  | deregister handle =>
    simp only [HandleCall.perform, deregisterHandle]
    rcases remove_cases b ω handle s with ⟨e, _, he⟩ | ⟨r, _, he⟩
    · rw [he]; rfl
    · rw [he]; exact Function.update_of_ne h _ _

theorem HandleCall.perform_keyed (call : HandleCall) {s : Selector β} (h : Keyed s.registrations) :
    Keyed (call.perform b ω s).2.registrations := by
  have hcaught : ∀ outcome : Except Exception Unit × Selector β, (caught outcome).2 = outcome.2 := by
    rintro ⟨result, t⟩
    cases result <;> rfl
  cases call with
  | register handle kind token interests =>
    simp only [HandleCall.perform, registerHandle, hcaught]
    exact Detail.perform_keyed b ω (.add handle kind token interests false) h
  | reregister handle kind token interests =>
    simp only [HandleCall.perform, reregisterHandle, hcaught]
    exact Detail.perform_keyed b ω (.update handle kind token interests) h
  | deregister handle =>
    simp only [HandleCall.perform, deregisterHandle, hcaught]
    exact Detail.perform_keyed b ω (.remove handle) h

/-- The selector's own records, without the backend. -/
def records (s : Selector β) : Table × NativeHandle := (s.registrations, s.wakerHandle)

/-- A failed registration is rolled back. -/
theorem registerHandle_failed (handle : NativeHandle) (kind : SourceKind) (token : Token)
    (interests : Interest) (s : Selector β)
    (h : (registerHandle b ω handle kind token interests s).1 ≠ none) :
    records (registerHandle b ω handle kind token interests s).2 = records s := by
  unfold registerHandle at h ⊢
  rcases add_cases b ω handle kind token interests false s with ⟨e, _, he⟩ |
    ⟨_, _, ⟨e, backend, _, he⟩ | ⟨afdState, backend, _, he⟩⟩
  · rw [he]; rfl
  · rw [he]; rfl
  · rw [he] at h; exact absurd rfl h

theorem deregisterHandle_failed (handle : NativeHandle) (s : Selector β)
    (h : (deregisterHandle b ω handle s).1 ≠ none) :
    records (deregisterHandle b ω handle s).2 = records s := by
  unfold deregisterHandle at h ⊢
  rcases remove_cases b ω handle s with ⟨e, _, he⟩ | ⟨registration, _, he⟩
  · rw [he]; rfl
  · rw [he] at h; exact absurd rfl h

/-- A valid reregistration with other values than the stored ones that the
backend refuses. -/
def RefusedChange (s : Selector β) : HandleCall → Prop
  | .reregister handle kind token interests =>
    validate b.platform handle interests = .ok () ∧ ∃ r, s.registrations handle = some r ∧
      reassigned kind token interests r ≠ r ∧
      ∃ e, (b.updateBackend ω (some (reassigned kind token interests r)) handle kind token interests
        s.backend).1 = .error e
  | _ => False

/-- A reregistration that fails leaves the records alone exactly when its values
had no entry to overwrite, or were the stored ones. -/
theorem reregisterHandle_unchanged_iff (handle : NativeHandle) (kind : SourceKind) (token : Token)
    (interests : Interest) (s : Selector β) :
    ((reregisterHandle b ω handle kind token interests s).1 ≠ none →
      records (reregisterHandle b ω handle kind token interests s).2 = records s) ↔
    ¬ RefusedChange b ω s (.reregister handle kind token interests) := by
  unfold reregisterHandle
  rcases update_cases b ω handle kind token interests s with ⟨e, hrefused, he⟩ |
    ⟨hv, r, result, backend, hr, hb, he⟩
  · rw [he]
    refine iff_of_true (fun _ => rfl) ?_
    rintro ⟨hv, r, hr, _⟩
    rcases hrefused with hn | hn
    · rw [hv] at hn; cases hn
    · rw [hr] at hn; cases hn
  · rw [he]
    cases result with
    | ok u =>
      refine iff_of_true (fun h => absurd rfl h) ?_
      rintro ⟨_, r', hr', _, e, herror⟩
      rw [hr] at hr'
      cases hr'
      rw [hb] at herror
      cases herror
    | error e =>
      have hchange : RefusedChange b ω s (.reregister handle kind token interests) ↔
          reassigned kind token interests r ≠ r := by
        constructor
        · rintro ⟨_, r', hr', hne, _⟩
          rw [hr] at hr'
          cases hr'
          exact hne
        · intro hne; exact ⟨hv, r, hr, hne, e, by rw [hb]⟩
      rw [hchange, not_not, ← update_reassigned_iff hr]
      constructor
      · intro h; exact congrArg Prod.fst (h (by simp [caught]))
      · intro h _; exact Prod.ext h rfl

/-- A failed handle-level call leaves the registration table and the waker handle
as they were, except when the backend refuses to change an existing entry: only
`add` takes its change of the table back. -/
theorem failed_call_unchanged_iff (call : HandleCall) (s : Selector β) :
    ((call.perform b ω s).1 ≠ none → records (call.perform b ω s).2 = records s) ↔
      ¬ RefusedChange b ω s call := by
  cases call with
  | register handle kind token interests =>
    exact iff_of_true (registerHandle_failed b ω handle kind token interests s) not_false
  | reregister handle kind token interests =>
    exact reregisterHandle_unchanged_iff b ω handle kind token interests s
  | deregister handle => exact iff_of_true (deregisterHandle_failed b ω handle s) not_false

/-- A descriptor closed behind the selector's back: the failing reregistration
keeps its new token and interests in the table. -/
theorem refused_change_kept :
    ¬ ∀ (refusal : Option Errno) (call : HandleCall) (s : Selector Epoll.EpollSet),
      (call.perform Epoll.backend refusal s).1 ≠ none →
        records (call.perform Epoll.backend refusal s).2 = records s := by
  intro hall
  have h := hall none (.reregister 5 .rawDescriptor ⟨2⟩ Interest.WRITABLE)
    { (registerHandle Epoll.backend none 5 .rawDescriptor ⟨1⟩ Interest.READABLE
        Epoll.initialSelector).2 with backend := fun _ => none } (by decide)
  have hentry := congrFun (congrArg Prod.fst h) 5
  revert hentry
  decide

inductive SourceType where
  | tcpStream
  | tcpListener
  | udpSocket
  | unixStream
  | unixListener
  | unixDatagram
  | sender
  | receiver
  | sourceFd
  | namedPipe
  | signals
  deriving DecidableEq, Repr

/-- The virtual `source_kind` of each type. `TcpStream` inherits the default. -/
def sourceKind (platform : Platform) : SourceType → SourceKind
  | .tcpListener => .socket
  | .udpSocket => .socket
  | .namedPipe => .handle
  | .signals => if platform = .windows then .socket else .rawDescriptor
  | _ => .rawDescriptor

/-- A source object. `handle` is what `native_handle()` returns. The last three
members are the copy that `TcpStream`, `TcpListener` and `UdpSocket` keep of
their registration (`registered` is `registry_.has_value()`). -/
structure Source where
  type : SourceType
  handle : NativeHandle
  registered : Bool := false
  token : Token := ⟨0⟩
  interests : Interest := Interest.none
  deriving DecidableEq, Repr

/-- `on_registered` of the three types that keep a copy. -/
def remember (token : Token) (interests : Interest) (source : Source) : Source :=
  { source with registered := true, token := token, interests := interests }

/-- `on_deregistered` of these types. -/
def forget (source : Source) : Source :=
  { source with registered := false, interests := Interest.none }

/-- What a hook does: nothing, refresh the copy, or call back into the registry. -/
def hook (refresh : Source → Source) (callback : Selector β → Except Exception Unit × Selector β)
    (source : Source) (s : Selector β) : Except Exception Source × Selector β :=
  match source.type with
  | .tcpStream => (.ok (refresh source), s)
  | .tcpListener => (.ok (refresh source), s)
  | .udpSocket => (.ok (refresh source), s)
  | .signals => match callback s with
    | (.ok _, s) => (.ok source, s)
    | (.error e, s) => (.error e, s)
  | _ => (.ok source, s)

def onRegistered (source : Source) (token : Token) (interests : Interest) :
    Selector β → Except Exception Source × Selector β :=
  hook (remember token interests) (registerHandleOrThrow b ω source.handle
    (sourceKind b.platform source.type) token interests) source

def onReregistered (source : Source) (token : Token) (interests : Interest) :
    Selector β → Except Exception Source × Selector β :=
  hook (remember token interests) (reregisterHandleOrThrow b ω source.handle
    (sourceKind b.platform source.type) token interests) source

def onDeregistered (source : Source) : Selector β → Except Exception Source × Selector β :=
  hook forget (deregisterHandleOrThrow b ω source.handle) source

/-- A source-level call: the handle-level call, and the hook unless it failed. -/
def withHook (source : Source) (outcome : Option ErrorCode × Selector β)
    (after : Selector β → Except Exception Source × Selector β) :
    Noexcept (Option ErrorCode × Source × Selector β) :=
  match outcome with
  | (some code, s) => .returned (some code, source, s)
  | (none, s) => match after s with
    | (.ok source, s) => .returned (none, source, s)
    | (.error _, _) => .terminated

variable (ω' : Ω)

/-- `Registry::register_source`; `ω'` answers the backend calls of the hook. -/
def registerSource (source : Source) (token : Token) (interests : Interest) (s : Selector β) :
    Noexcept (Option ErrorCode × Source × Selector β) :=
  withHook source (registerHandle b ω source.handle (sourceKind b.platform source.type) token
    interests s) (onRegistered b ω' source token interests)

def reregister (source : Source) (token : Token) (interests : Interest) (s : Selector β) :
    Noexcept (Option ErrorCode × Source × Selector β) :=
  withHook source (reregisterHandle b ω source.handle (sourceKind b.platform source.type) token
    interests s) (onReregistered b ω' source token interests)

def deregister (source : Source) (s : Selector β) :
    Noexcept (Option ErrorCode × Source × Selector β) :=
  withHook source (deregisterHandle b ω source.handle s) (onDeregistered b ω' source)

/-- The types whose hooks refresh a copy of the registration. -/
def keepsCopy : SourceType → Bool
  | .tcpStream => true
  | .tcpListener => true
  | .udpSocket => true
  | _ => false

def refreshed (refresh : Source → Source) (source : Source) : Source :=
  if keepsCopy source.type then refresh source else source

/-- A hook of any type but `Signals` returns and leaves the selector alone. -/
theorem hook_eq (refresh : Source → Source)
    (callback : Selector β → Except Exception Unit × Selector β) (source : Source)
    (h : source.type ≠ .signals) (s : Selector β) :
    hook refresh callback source s = (.ok (refreshed refresh source), s) := by
  unfold hook refreshed
  cases ht : source.type with
  | signals => exact absurd ht h
  | _ => rfl

/-- A source-level call on a source that is no `Signals` does to the selector what
its handle-level call does, and keeps the type of the source. -/
theorem withHook_returned {source source' : Source} {outcome : Option ErrorCode × Selector β}
    {refresh : Source → Source} {callback : Selector β → Except Exception Unit × Selector β}
    {ec : Option ErrorCode} {t : Selector β} (htype : source.type ≠ .signals)
    (h : withHook source outcome (hook refresh callback source) = .returned (ec, source', t)) :
    t = outcome.2 ∧ (source' = source ∨ source' = refreshed refresh source) := by
  obtain ⟨code, s⟩ := outcome
  cases code with
  | some code =>
    cases h
    exact ⟨rfl, .inl rfl⟩
  | none =>
    simp only [withHook, hook_eq refresh callback source htype] at h
    cases h
    exact ⟨rfl, .inr rfl⟩

@[simp] theorem refreshed_remember_type (token : Token) (interests : Interest) (source : Source) :
    (refreshed (remember token interests) source).type = source.type := by
  unfold refreshed
  split <;> rfl

@[simp] theorem refreshed_remember_handle (token : Token) (interests : Interest) (source : Source) :
    (refreshed (remember token interests) source).handle = source.handle := by
  unfold refreshed
  split <;> rfl

@[simp] theorem refreshed_forget_type (source : Source) :
    (refreshed forget source).type = source.type := by
  unfold refreshed
  split <;> rfl

@[simp] theorem refreshed_forget_handle (source : Source) :
    (refreshed forget source).handle = source.handle := by
  unfold refreshed
  split <;> rfl

/-- The selector accepts a registration of the handle. -/
def Accepts (s : Selector β) (handle : NativeHandle) (kind : SourceKind) (token : Token)
    (interests : Interest) : Prop :=
  validate b.platform handle interests = .ok () ∧ s.registrations handle = none ∧
    ∃ afdState, (b.addToBackend ω handle kind token interests s.backend).1 = .ok afdState

/-- An accepted registration adds one entry; any other sets `ec` and adds none. -/
theorem registerHandle_cases (handle : NativeHandle) (kind : SourceKind) (token : Token)
    (interests : Interest) (s : Selector β) :
    (¬ Accepts b ω s handle kind token interests ∧ ∃ code backend,
      registerHandle b ω handle kind token interests s =
        (some code, { s with backend := backend })) ∨
    (Accepts b ω s handle kind token interests ∧ ∃ afdState backend,
      b.addToBackend ω handle kind token interests s.backend = (.ok afdState, backend) ∧
      registerHandle b ω handle kind token interests s = (none, { s with
        registrations := Function.update s.registrations handle
          (some ⟨handle, kind, token, interests, false, afdState⟩)
        backend := backend })) := by
  unfold registerHandle
  rcases add_cases b ω handle kind token interests false s with ⟨e, hrefused, he⟩ |
    ⟨hv, hr, ⟨e, backend, hb, he⟩ | ⟨afdState, backend, hb, he⟩⟩
  · refine .inl ⟨?_, e.code, s.backend, by rw [he]; rfl⟩
    rintro ⟨hv, hr, _⟩
    rcases hrefused with hn | hn
    · rw [hv] at hn; cases hn
    · rw [hr] at hn; cases hn
  · refine .inl ⟨?_, e.code, backend, by rw [he]; rfl⟩
    rintro ⟨_, _, afdState, hok⟩
    rw [hb] at hok
    cases hok
  · exact .inr ⟨⟨hv, hr, afdState, by rw [hb]⟩, afdState, backend, hb, by rw [he]; rfl⟩

/-- Everything `register_source` can do to a source that is no `Signals`. -/
theorem registerSource_cases (source : Source) (token : Token) (interests : Interest)
    (s : Selector β) (h : source.type ≠ .signals) :
    (¬ Accepts b ω s source.handle (sourceKind b.platform source.type) token interests ∧
      ∃ code backend, registerSource b ω ω' source token interests s =
        .returned (some code, source, { s with backend := backend })) ∨
    (Accepts b ω s source.handle (sourceKind b.platform source.type) token interests ∧
      ∃ afdState backend, b.addToBackend ω source.handle (sourceKind b.platform source.type) token
        interests s.backend = (.ok afdState, backend) ∧
      registerSource b ω ω' source token interests s =
        .returned (none, refreshed (remember token interests) source, { s with
          registrations := Function.update s.registrations source.handle (some ⟨source.handle,
            sourceKind b.platform source.type, token, interests, false, afdState⟩)
          backend := backend })) := by
  rcases registerHandle_cases b ω source.handle (sourceKind b.platform source.type) token interests s
    with ⟨hn, code, backend, he⟩ | ⟨ha, afdState, backend, hb, he⟩
  · exact .inl ⟨hn, code, backend, by simp only [registerSource, withHook, he]⟩
  · refine .inr ⟨ha, afdState, backend, hb, ?_⟩
    simp only [registerSource, withHook, he, onRegistered, hook_eq _ _ _ h]

/-- Everything `reregister` can do to such a source. -/
theorem reregister_cases (source : Source) (token : Token) (interests : Interest)
    (s : Selector β) (h : source.type ≠ .signals) :
    (∃ code, reregister b ω ω' source token interests s = .returned (some code, source, s)) ∨
    (validate b.platform source.handle interests = .ok () ∧
      ∃ r result backend, s.registrations source.handle = some r ∧
      b.updateBackend ω (some (reassigned (sourceKind b.platform source.type) token interests r))
        source.handle (sourceKind b.platform source.type) token interests s.backend =
          (result, backend) ∧
      ((∃ e, result = .error e ∧
        reregister b ω ω' source token interests s = .returned (some e.code, source, { s with
          registrations := Function.update s.registrations source.handle
            (some (reassigned (sourceKind b.platform source.type) token interests r))
          backend := backend })) ∨
      (result = .ok () ∧ reregister b ω ω' source token interests s =
        .returned (none, refreshed (remember token interests) source, { s with
          registrations := Function.update s.registrations source.handle
            (some (reassigned (sourceKind b.platform source.type) token interests r))
          backend := backend })))) := by
  rcases update_cases b ω source.handle (sourceKind b.platform source.type) token interests s with
    ⟨e, _, he⟩ | ⟨hv, r, result, backend, hr, hb, he⟩
  · exact .inl ⟨e.code, by simp only [reregister, withHook, reregisterHandle, he, caught]⟩
  · refine .inr ⟨hv, r, result, backend, hr, hb, ?_⟩
    cases result with
    | error e =>
      exact .inl ⟨e, rfl, by simp only [reregister, withHook, reregisterHandle, he, caught]⟩
    | ok u =>
      refine .inr ⟨rfl, ?_⟩
      simp only [reregister, withHook, reregisterHandle, he, caught, onReregistered, hook_eq _ _ _ h]

/-- Everything `deregister` can do to such a source. -/
theorem deregister_cases (source : Source) (s : Selector β) (h : source.type ≠ .signals) :
    (s.registrations source.handle = none ∧
      ∃ code, deregister b ω ω' source s = .returned (some code, source, s)) ∨
    (∃ r t, s.registrations source.handle = some r ∧
      t.registrations = erase source.handle s.registrations ∧
      deregister b ω ω' source s = .returned (none, refreshed forget source, t)) := by
  rcases remove_cases b ω source.handle s with ⟨e, hr, he⟩ | ⟨r, hr, he⟩
  · exact .inl ⟨hr, e.code, by simp only [deregister, withHook, deregisterHandle, he, caught]⟩
  · refine .inr ⟨r, (remove b ω source.handle s).2, hr, by rw [he], ?_⟩
    simp only [deregister, withHook, deregisterHandle, he, caught, onDeregistered, hook_eq _ _ _ h]

/-- A handle that is in the table cannot be registered again. -/
theorem registerHandleOrThrow_present (handle : NativeHandle) (kind : SourceKind) (token : Token)
    (interests : Interest) {s : Selector β} {r : Registration} (hr : s.registrations handle = some r) :
    ∃ e t, registerHandleOrThrow b ω handle kind token interests s = (.error e, t) := by
  rcases registerHandle_cases b ω handle kind token interests s with ⟨_, code, backend, he⟩ |
    ⟨haccepts, _⟩
  · exact ⟨.systemError code "register_handle", { s with backend := backend },
      by simp only [registerHandleOrThrow, he, rethrown]⟩
  · rw [haccepts.2.1] at hr; cases hr

/-- The callback of an accepted `Signals` registers the handle a second time. -/
theorem signals_terminates (source : Source) (token : Token) (interests : Interest)
    (s : Selector β) (htype : source.type = .signals)
    (h : Accepts b ω s source.handle (sourceKind b.platform source.type) token interests) :
    registerSource b ω ω' source token interests s = .terminated := by
  rcases registerHandle_cases b ω source.handle (sourceKind b.platform source.type) token interests s
    with ⟨hn, _⟩ | ⟨_, afdState, backend, _, he⟩
  · exact absurd h hn
  · obtain ⟨e, t, hagain⟩ := registerHandleOrThrow_present b ω' source.handle
      (sourceKind b.platform source.type) token interests (s := { s with
        registrations := Function.update s.registrations source.handle (some ⟨source.handle,
          sourceKind b.platform source.type, token, interests, false, afdState⟩)
        backend := backend }) (Function.update_self _ _ _)
    rw [htype] at he hagain
    simp only [registerSource, withHook, onRegistered, hook, htype, he, hagain]

/-- The registry and the callbacks of a source agree: `register_source` returns,
with `ec` set and the table unchanged or with one new entry under the source's
handle, and then a following `deregister` returns and takes this entry out. -/
def CallbacksAgree (source : Source) (token : Token) (interests : Interest) (s : Selector β) : Prop :=
  ∃ ec source' s', registerSource b ω ω' source token interests s = .returned (ec, source', s') ∧
    ((ec ≠ none ∧ s'.registrations = s.registrations) ∨
    (ec = none ∧ s.registrations source.handle = none ∧
      (∃ r, s'.registrations = Function.update s.registrations source.handle (some r) ∧
        r.handle = source.handle ∧ r.token = token ∧ r.interests = interests) ∧
      ∀ χ χ', ∃ source'' s'', deregister b χ χ' source' s' = .returned (none, source'', s'') ∧
        s''.registrations = s.registrations))

/-- The callbacks agree with the registry for every source but a `Signals` whose
registration the selector accepts. -/
theorem callbacksAgree_iff (source : Source) (token : Token) (interests : Interest)
    (s : Selector β) :
    CallbacksAgree b ω ω' source token interests s ↔
      (source.type = .signals →
        ¬ Accepts b ω s source.handle (sourceKind b.platform source.type) token interests) := by
  constructor
  · rintro ⟨ec, source', s', hreturned, _⟩ htype haccepts
    rw [signals_terminates b ω ω' source token interests s htype haccepts] at hreturned
    cases hreturned
  · intro h
    by_cases htype : source.type = .signals
    · rcases registerHandle_cases b ω source.handle (sourceKind b.platform source.type) token
        interests s with ⟨_, code, backend, he⟩ | ⟨haccepts, _⟩
      · refine ⟨some code, source, { s with backend := backend }, ?_, .inl ⟨by simp, rfl⟩⟩
        simp only [registerSource, withHook, he]
      · exact absurd haccepts (h htype)
    · rcases registerSource_cases b ω ω' source token interests s htype with
        ⟨_, code, backend, he⟩ | ⟨haccepts, afdState, backend, _, he⟩
      · exact ⟨some code, source, _, he, .inl ⟨by simp, rfl⟩⟩
      · have hfree : s.registrations source.handle = none := haccepts.2.1
        refine ⟨none, _, _, he, .inr ⟨rfl, hfree, ⟨_, rfl, rfl, rfl, rfl⟩, ?_⟩⟩
        intro χ χ'
        rcases deregister_cases b χ χ' (refreshed (remember token interests) source) { s with
          registrations := Function.update s.registrations source.handle (some ⟨source.handle,
            sourceKind b.platform source.type, token, interests, false, afdState⟩)
          backend := backend } (by simpa using htype) with ⟨hr, _⟩ | ⟨r, t, _, ht, hd⟩
        · simp at hr
        · refine ⟨_, t, hd, ?_⟩
          rw [ht, refreshed_remember_handle, erase]
          change Function.update (Function.update s.registrations source.handle _) source.handle none
            = s.registrations
          rw [Function.update_idem, ← hfree, Function.update_eq_self]

/-- A `Signals` on a fresh Linux selector. -/
theorem signals_callbacks_disagree :
    ¬ ∀ (refusal refusal' : Option Errno) (source : Source) (token : Token) (interests : Interest)
        (s : Selector Epoll.EpollSet),
      CallbacksAgree Epoll.backend refusal refusal' source token interests s := by
  intro hall
  obtain ⟨ec, source', s', hreturned, _⟩ :=
    hall none none { type := .signals, handle := 7 } ⟨42⟩ Interest.READABLE Epoll.initialSelector
  cases hreturned

end Registry
