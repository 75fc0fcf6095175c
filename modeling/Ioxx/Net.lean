import Ioxx.Registry

/-!
# I/O on registered sockets

All I/O functions of `TcpStream`, `TcpListener` and `UdpSocket` share one shape:
check the socket, make the system call, and, when it would block, register the
source again from the copy it keeps. The copy is refreshed by source-level calls
only, and the re-arming throws inside a `noexcept` function, so would-block I/O
is harmless exactly when the copy is current and the backend accepts it.
-/

namespace Net

open Core Detail Registry Runs

/-- `EAGAIN`, which is `EWOULDBLOCK`, or `WSAEWOULDBLOCK`. -/
def wouldBlockCode : Platform → Int
  | .windows => 10035
  | .kqueue => 35
  | _ => 11

def isWouldBlockError (platform : Platform) (error : ErrorCode) : Bool :=
  error.value == wouldBlockCode platform

/-- What an I/O function returns beside `ec`: a size, a size and the sender, or an
accepted stream and its peer. `none` is the invalid `TcpStream{}`. -/
inductive IoValue (A : Type) where
  | size (n : Nat)
  | sizeFrom (n : Nat) (sender : A)
  | accepted (stream : Option NativeHandle) (peer : A)
  deriving DecidableEq, Repr

/-- Zero bytes, or an invalid stream. -/
def IoValue.nothing {A : Type} : IoValue A → Prop
  | .size n => n = 0
  | .sizeFrom n _ => n = 0
  | .accepted stream _ => stream = none

variable {β Ω A ρ : Type} [Inhabited A] (b : Backend β Ω) (ω : Ω)

def rearmAfterWouldBlock (source : Source) (s : Selector β) : Except Exception Unit × Selector β :=
  if source.registered ∧ source.interests.empty = false then
    reregisterHandleOrThrow b ω source.handle (sourceKind b.platform source.type) source.token
      source.interests s
  else (.ok (), s)

/-- `require_socket`, the system call with its `result`, the re-arming, and what
the function does with a successful call. `fallback` is returned with every error. -/
def io (fallback : IoValue A) (finish : ρ → Option ErrorCode × IoValue A)
    (result : Except ErrorCode ρ) (source : Source) (s : Selector β) :
    Noexcept (Option ErrorCode × IoValue A × Selector β) :=
  if source.handle = invalidNativeHandle b.platform then
    .returned (some .badFileDescriptor, fallback, s)
  else match result with
    | .ok value => .returned ((finish value).1, (finish value).2, s)
    | .error ec =>
      if isWouldBlockError b.platform ec then
        match rearmAfterWouldBlock b ω source s with
        | (.ok _, s) => .returned (some ec, fallback, s)
        | (.error _, _) => .terminated
      else .returned (some ec, fallback, s)

/-- The functions that return a number of bytes. -/
def transfer : Except ErrorCode Nat → Source → Selector β →
    Noexcept (Option ErrorCode × IoValue A × Selector β) :=
  io b ω (.size 0) fun n => (none, .size n)

/-- The functions that also return the sender; `none` is an address of a family
that `endpoint_from_sockaddr` does not know. -/
def receiveFrom : Except ErrorCode (Nat × Option A) → Source → Selector β →
    Noexcept (Option ErrorCode × IoValue A × Selector β) :=
  io b ω (.sizeFrom 0 default) fun (n, sender) => match sender with
    | none => (some .addressFamilyNotSupported, .sizeFrom 0 default)
    | some sender => (none, .sizeFrom n sender)

/-- `TcpListener::accept`. `setup` is the error of what is done with the new
descriptor (allocation, close-on-exec, non-blocking mode), if any. -/
def accept : Except ErrorCode (NativeHandle × Option ErrorCode × Option A) → Source →
    Selector β → Noexcept (Option ErrorCode × IoValue A × Selector β) :=
  io b ω (.accepted none default) fun (handle, setup, peer) => match setup, peer with
    | some ec, _ => (some ec, .accepted none default)
    | none, none => (some .addressFamilyNotSupported, .accepted none default)
    | none, some peer => (none, .accepted (some handle) peer)

/-! `TcpStream`. -/

def read : Except ErrorCode Nat → Source → Selector β →
    Noexcept (Option ErrorCode × IoValue A × Selector β) := transfer b ω

def readVectored : Except ErrorCode Nat → Source → Selector β →
    Noexcept (Option ErrorCode × IoValue A × Selector β) := transfer b ω

def write : Except ErrorCode Nat → Source → Selector β →
    Noexcept (Option ErrorCode × IoValue A × Selector β) := transfer b ω

def writeVectored : Except ErrorCode Nat → Source → Selector β →
    Noexcept (Option ErrorCode × IoValue A × Selector β) := transfer b ω

/-! `UdpSocket`. The address of `send_to` and `send_vectored_to` always resolves. -/

def send : Except ErrorCode Nat → Source → Selector β →
    Noexcept (Option ErrorCode × IoValue A × Selector β) := transfer b ω

def recv : Except ErrorCode Nat → Source → Selector β →
    Noexcept (Option ErrorCode × IoValue A × Selector β) := transfer b ω

def sendTo : Except ErrorCode Nat → Source → Selector β →
    Noexcept (Option ErrorCode × IoValue A × Selector β) := transfer b ω

def sendVectoredTo : Except ErrorCode Nat → Source → Selector β →
    Noexcept (Option ErrorCode × IoValue A × Selector β) := transfer b ω

def recvFrom : Except ErrorCode (Nat × Option A) → Source → Selector β →
    Noexcept (Option ErrorCode × IoValue A × Selector β) := receiveFrom b ω

def recvVectoredFrom : Except ErrorCode (Nat × Option A) → Source → Selector β →
    Noexcept (Option ErrorCode × IoValue A × Selector β) := receiveFrom b ω

def peekFrom : Except ErrorCode (Nat × Option A) → Source → Selector β →
    Noexcept (Option ErrorCode × IoValue A × Selector β) := receiveFrom b ω

/-- The `error_code` overloads, each with the answer of its system call. -/
inductive IoCall (A : Type) where
  | read (result : Except ErrorCode Nat)
  | readVectored (result : Except ErrorCode Nat)
  | write (result : Except ErrorCode Nat)
  | writeVectored (result : Except ErrorCode Nat)
  | accept (result : Except ErrorCode (NativeHandle × Option ErrorCode × Option A))
  | send (result : Except ErrorCode Nat)
  | recv (result : Except ErrorCode Nat)
  | sendTo (result : Except ErrorCode Nat)
  | sendVectoredTo (result : Except ErrorCode Nat)
  | recvFrom (result : Except ErrorCode (Nat × Option A))
  | recvVectoredFrom (result : Except ErrorCode (Nat × Option A))
  | peekFrom (result : Except ErrorCode (Nat × Option A))

def IoCall.perform (call : IoCall A) (source : Source) (s : Selector β) :
    Noexcept (Option ErrorCode × IoValue A × Selector β) :=
  match call with
  | .read result => Net.read b ω result source s
  | .readVectored result => Net.readVectored b ω result source s
  | .write result => Net.write b ω result source s
  | .writeVectored result => Net.writeVectored b ω result source s
  | .accept result => Net.accept b ω result source s
  | .send result => Net.send b ω result source s
  | .recv result => Net.recv b ω result source s
  | .sendTo result => Net.sendTo b ω result source s
  | .sendVectoredTo result => Net.sendVectoredTo b ω result source s
  | .recvFrom result => Net.recvFrom b ω result source s
  | .recvVectoredFrom result => Net.recvVectoredFrom b ω result source s
  | .peekFrom result => Net.peekFrom b ω result source s

def errorOf : Except ErrorCode ρ → Option ErrorCode
  | .ok _ => none
  | .error ec => some ec

/-- The error of the system call, if it failed. -/
def IoCall.error : IoCall A → Option ErrorCode
  | .read result => errorOf result
  | .readVectored result => errorOf result
  | .write result => errorOf result
  | .writeVectored result => errorOf result
  | .accept result => errorOf result
  | .send result => errorOf result
  | .recv result => errorOf result
  | .sendTo result => errorOf result
  | .sendVectoredTo result => errorOf result
  | .recvFrom result => errorOf result
  | .recvVectoredFrom result => errorOf result
  | .peekFrom result => errorOf result

/-- The class that has the function. -/
def IoCall.owner : IoCall A → SourceType
  | .read _ => .tcpStream
  | .readVectored _ => .tcpStream
  | .write _ => .tcpStream
  | .writeVectored _ => .tcpStream
  | .accept _ => .tcpListener
  | _ => .udpSocket

/-- The system call of an I/O function was made on a valid socket and failed with
a would-block error. -/
def WouldBlock (call : IoCall A) (source : Source) (ec : ErrorCode) : Prop :=
  source.handle ≠ invalidNativeHandle b.platform ∧ call.error = some ec ∧
    isWouldBlockError b.platform ec = true

/-- Every I/O function is the shared body, with a fallback that is nothing. -/
theorem perform_eq_io (call : IoCall A) :
    ∃ (ρ : Type) (fallback : IoValue A) (finish : ρ → Option ErrorCode × IoValue A)
      (result : Except ErrorCode ρ), fallback.nothing ∧ errorOf result = call.error ∧
      ∀ (source : Source) (s : Selector β),
        call.perform b ω source s = io b ω fallback finish result source s := by
  cases call with
  | read result => exact ⟨_, .size 0, _, result, rfl, rfl, fun _ _ => rfl⟩
  | readVectored result => exact ⟨_, .size 0, _, result, rfl, rfl, fun _ _ => rfl⟩
  | write result => exact ⟨_, .size 0, _, result, rfl, rfl, fun _ _ => rfl⟩
  | writeVectored result => exact ⟨_, .size 0, _, result, rfl, rfl, fun _ _ => rfl⟩
  | accept result => exact ⟨_, .accepted none default, _, result, rfl, rfl, fun _ _ => rfl⟩
  | send result => exact ⟨_, .size 0, _, result, rfl, rfl, fun _ _ => rfl⟩
  | recv result => exact ⟨_, .size 0, _, result, rfl, rfl, fun _ _ => rfl⟩
  | sendTo result => exact ⟨_, .size 0, _, result, rfl, rfl, fun _ _ => rfl⟩
  | sendVectoredTo result => exact ⟨_, .size 0, _, result, rfl, rfl, fun _ _ => rfl⟩
  | recvFrom result => exact ⟨_, .sizeFrom 0 default, _, result, rfl, rfl, fun _ _ => rfl⟩
  | recvVectoredFrom result => exact ⟨_, .sizeFrom 0 default, _, result, rfl, rfl, fun _ _ => rfl⟩
  | peekFrom result => exact ⟨_, .sizeFrom 0 default, _, result, rfl, rfl, fun _ _ => rfl⟩

/-- When its system call would block, a call re-arms its source and returns nothing. -/
theorem perform_wouldBlock (call : IoCall A) (source : Source) (s : Selector β) {ec : ErrorCode}
    (h : WouldBlock b call source ec) :
    ∃ fallback : IoValue A, fallback.nothing ∧ call.perform b ω source s =
      match rearmAfterWouldBlock b ω source s with
      | (.ok _, s) => .returned (some ec, fallback, s)
      | (.error _, _) => .terminated := by
  obtain ⟨hvalid, herror, hblock⟩ := h
  obtain ⟨ρ, fallback, finish, result, hnothing, hresult, hio⟩ := perform_eq_io b ω call
  refine ⟨fallback, hnothing, ?_⟩
  rw [hio]
  unfold io
  rw [if_neg hvalid]
  rw [herror] at hresult
  cases result with
  | ok value => cases hresult
  | error e =>
    cases hresult
    simp only [hblock, if_true]

/-- The call returns nothing with its error in `ec`, and leaves the table alone. -/
def Harmless (call : IoCall A) (source : Source) (s : Selector β) (ec : ErrorCode) : Prop :=
  ∃ value t, call.perform b ω source s = .returned (some ec, value, t) ∧ value.nothing ∧
    t.registrations = s.registrations

/-- The table has an entry for the source, with the values of its copy. -/
def Current (source : Source) (s : Selector β) : Prop :=
  ∃ r, s.registrations source.handle = some r ∧
    reassigned (sourceKind b.platform source.type) source.token source.interests r = r

/-- The backend would accept an update of the source's entry. -/
def Accepted (source : Source) (token : Token) (interests : Interest) (s : Selector β) : Prop :=
  ∀ r, s.registrations source.handle = some r → ∃ u, (b.updateBackend ω
    (some (reassigned (sourceKind b.platform source.type) token interests r)) source.handle
    (sourceKind b.platform source.type) token interests s.backend).1 = .ok u

/-- A source that keeps a copy of its registration keeps a current one, and the
backend accepts it. -/
def Rearmable (source : Source) (s : Selector β) : Prop :=
  source.registered = true → source.interests.empty = false →
    Current b source s ∧ Accepted b ω source source.token source.interests s

/-- A successful re-arming from a copy has found an entry and assigned the copy to it. -/
theorem rearm_ok {source : Source} {s t : Selector β} {u : Unit}
    (hcopy : source.registered = true ∧ source.interests.empty = false)
    (h : rearmAfterWouldBlock b ω source s = (.ok u, t)) :
    ∃ r backend, s.registrations source.handle = some r ∧
      b.updateBackend ω (some (reassigned (sourceKind b.platform source.type) source.token
        source.interests r)) source.handle (sourceKind b.platform source.type) source.token
        source.interests s.backend = (.ok (), backend) ∧
      t = { s with
        registrations := Function.update s.registrations source.handle (some (reassigned
          (sourceKind b.platform source.type) source.token source.interests r))
        backend := backend } := by
  rw [rearmAfterWouldBlock, if_pos hcopy, reregisterHandleOrThrow, reregisterHandle] at h
  rcases update_cases b ω source.handle (sourceKind b.platform source.type) source.token
    source.interests s with ⟨e, _, he⟩ | ⟨_, r, result, backend, hr, hb, he⟩
  · rw [he] at h; cases h
  · rw [he] at h
    cases result with
    | error e => cases h
    | ok v =>
      cases h
      exact ⟨r, backend, hr, hb, rfl⟩

/-- A successful re-arming from a current copy leaves the table as it was. -/
theorem rearm_registrations {source : Source} {s t : Selector β} {u : Unit}
    (h : Rearmable b ω source s) (he : rearmAfterWouldBlock b ω source s = (.ok u, t)) :
    t.registrations = s.registrations := by
  by_cases hcopy : source.registered = true ∧ source.interests.empty = false
  · obtain ⟨⟨r, hr, hcurrent⟩, _⟩ := h hcopy.1 hcopy.2
    obtain ⟨r', backend, hr', _, rfl⟩ := rearm_ok b ω hcopy he
    rw [hr] at hr'
    cases hr'
    exact (update_reassigned_iff hr _ _ _).mpr hcurrent
  · rw [rearmAfterWouldBlock, if_neg hcopy] at he
    cases he
    rfl

/-- Re-arming from a copy succeeds when the handle is in the table and the backend accepts. -/
theorem rearm_succeeds {source : Source} {s : Selector β} {r : Registration}
    (hvalid : source.handle ≠ invalidNativeHandle b.platform)
    (hcopy : source.registered = true ∧ source.interests.empty = false)
    (hr : s.registrations source.handle = some r)
    (haccepted : Accepted b ω source source.token source.interests s) :
    ∃ u t, rearmAfterWouldBlock b ω source s = (.ok u, t) := by
  rw [rearmAfterWouldBlock, if_pos hcopy, reregisterHandleOrThrow, reregisterHandle]
  rcases update_cases b ω source.handle (sourceKind b.platform source.type) source.token
    source.interests s with ⟨e, hrefused, _⟩ | ⟨_, r', result, backend, hr', hb, he⟩
  · rcases hrefused with hn | hn
    · rw [validate_ok hvalid hcopy.2] at hn; cases hn
    · rw [hr] at hn; cases hn
  · obtain ⟨u, hu⟩ := haccepted r' hr'
    rw [hb] at hu
    cases hu
    exact ⟨u, _, by rw [he]; rfl⟩

/-- Would-block I/O is harmless exactly when its re-arming succeeds and leaves the table alone. -/
theorem harmless_iff_rearm (call : IoCall A) (source : Source) (s : Selector β) (ec : ErrorCode)
    (h : WouldBlock b call source ec) :
    Harmless b ω call source s ec ↔ ∃ u t, rearmAfterWouldBlock b ω source s = (.ok u, t) ∧
      t.registrations = s.registrations := by
  obtain ⟨fallback, hnothing, hperform⟩ := perform_wouldBlock b ω call source s h
  unfold Harmless
  rw [hperform]
  cases rearmAfterWouldBlock b ω source s with
  | mk result t =>
    cases result with
    | error e =>
      refine iff_of_false ?_ ?_
      · rintro ⟨value, t', hreturned, _⟩
        cases hreturned
      · rintro ⟨u, t', hok, _⟩
        cases hok
    | ok u =>
      constructor
      · rintro ⟨value, t', hreturned, _, htable⟩
        cases hreturned
        exact ⟨u, t, rfl, htable⟩
      · rintro ⟨u', t', hok, htable⟩
        cases hok
        exact ⟨fallback, t, rfl, hnothing, htable⟩

/-- Would-block I/O is harmless exactly on a source that is rearmable. -/
theorem harmless_iff (call : IoCall A) (source : Source) (s : Selector β) (ec : ErrorCode)
    (h : WouldBlock b call source ec) :
    Harmless b ω call source s ec ↔ Rearmable b ω source s := by
  rw [harmless_iff_rearm b ω call source s ec h]
  by_cases hcopy : source.registered = true ∧ source.interests.empty = false
  · constructor
    · rintro ⟨u, t, hrearm, htable⟩ _ _
      obtain ⟨r, backend, hr, hb, rfl⟩ := rearm_ok b ω hcopy hrearm
      refine ⟨⟨r, hr, (update_reassigned_iff hr _ _ _).mp htable⟩, ?_⟩
      intro r' hr'
      rw [hr] at hr'
      cases hr'
      exact ⟨(), by rw [hb]⟩
    · intro hrearmable
      obtain ⟨⟨r, hr, _⟩, haccepted⟩ := hrearmable hcopy.1 hcopy.2
      obtain ⟨u, t, hrearm⟩ := rearm_succeeds b ω h.1 hcopy hr haccepted
      exact ⟨u, t, hrearm, rearm_registrations b ω hrearmable hrearm⟩
  · rw [rearmAfterWouldBlock, if_neg hcopy]
    exact iff_of_true ⟨(), s, rfl, rfl⟩ fun h₁ h₂ => absurd ⟨h₁, h₂⟩ hcopy

/-- An I/O call that returns has left the selector alone, or has re-armed its
source because it would block. -/
theorem perform_selector (call : IoCall A) (source : Source) (s t : Selector β)
    {ec : Option ErrorCode} {value : IoValue A}
    (h : call.perform b ω source s = .returned (ec, value, t)) :
    t = s ∨ (∃ error, WouldBlock b call source error) ∧
      ∃ u, rearmAfterWouldBlock b ω source s = (.ok u, t) := by
  obtain ⟨ρ, fallback, finish, result, _, herror, hio⟩ := perform_eq_io b ω call
  rw [hio] at h
  unfold io at h
  split at h
  · cases h; exact .inl rfl
  · rename_i hvalid
    split at h
    · cases h; exact .inl rfl
    · rename_i error
      split at h
      · rename_i hblock
        split at h
        · rename_i u s' hrearm
          cases h
          exact .inr ⟨⟨error, hvalid, herror.symm, hblock⟩, u, hrearm⟩
        · cases h
      · cases h; exact .inl rfl

/-- A selector and the source objects of the program. -/
structure World (β : Type) where
  selector : Selector β
  sources : Nat → Source

inductive Action (Ω A : Type) where
  | register (id : Nat) (token : Token) (interests : Interest) (ω ω' : Ω)
  | reregister (id : Nat) (token : Token) (interests : Interest) (ω ω' : Ω)
  | deregister (id : Nat) (ω ω' : Ω)
  | handle (call : HandleCall) (ω : Ω)
  | io (id : Nat) (call : IoCall A) (ω : Ω)

/-- A source-level call that returned. -/
def World.called (w : World β) (id : Nat)
    (outcome : Noexcept (Option ErrorCode × Source × Selector β)) : Option (World β) :=
  match outcome with
  | .terminated => none
  | .returned (_, source, selector) => some ⟨selector, Function.update w.sources id source⟩

def step : Action Ω A → World β → Option (World β)
  | .register id token interests ω ω', w =>
    w.called id (registerSource b ω ω' (w.sources id) token interests w.selector)
  | .reregister id token interests ω ω', w =>
    w.called id (Registry.reregister b ω ω' (w.sources id) token interests w.selector)
  | .deregister id ω ω', w =>
    w.called id (Registry.deregister b ω ω' (w.sources id) w.selector)
  | .handle call ω, w => some { w with selector := (call.perform b ω w.selector).2 }
  | .io id call ω, w =>
    if call.owner = (w.sources id).type then
      match call.perform b ω (w.sources id) w.selector with
      | .terminated => none
      | .returned (_, _, selector) => some { w with selector := selector }
    else none

/-- The sources are sockets of their own, each no other's, and none is registered yet. -/
structure Fresh (w : World β) : Prop where
  kinds : ∀ id, keepsCopy (w.sources id).type = true
  apart : ∀ id id', (w.sources id).handle = (w.sources id').handle →
    (w.sources id).handle ≠ invalidNativeHandle b.platform → id = id'
  unregistered : ∀ id, (w.sources id).registered = false

/-- A handle-level call keeps away from the handles of registered sources, and the
backend accepts the updates that `reregister` and the re-arming ask it for. -/
def undisturbed : Action Ω A → World β → Prop
  | .handle call _, w => ∀ id, (w.sources id).registered = true → (w.sources id).handle ≠ call.handle
  | .reregister id token interests ω _, w => Accepted b ω (w.sources id) token interests w.selector
  | .io id _ ω, w => (w.sources id).registered = true →
      Accepted b ω (w.sources id) (w.sources id).token (w.sources id).interests w.selector
  | _, _ => True

/-- The invariant of such runs: every copy is current. -/
structure Coherent (w : World β) : Prop where
  kinds : ∀ id, keepsCopy (w.sources id).type = true
  apart : ∀ id id', (w.sources id).handle = (w.sources id').handle →
    (w.sources id).handle ≠ invalidNativeHandle b.platform → id = id'
  current : ∀ id, (w.sources id).registered = true →
    (w.sources id).handle ≠ invalidNativeHandle b.platform ∧ Current b (w.sources id) w.selector

theorem Fresh.coherent {w : World β} (h : Fresh b w) : Coherent b w := by
  refine ⟨h.kinds, h.apart, ?_⟩
  intro id hreg
  rw [h.unregistered id] at hreg
  cases hreg

variable {b}

theorem Coherent.not_signals {w : World β} (h : Coherent b w) (id : Nat) :
    (w.sources id).type ≠ .signals := by
  intro ht
  have hk := h.kinds id
  rw [ht] at hk
  cases hk

theorem Current.frame {source : Source} {s t : Selector β} (h : Current b source s)
    (hsame : t.registrations source.handle = s.registrations source.handle) : Current b source t := by
  obtain ⟨r, hr, hcurrent⟩ := h
  exact ⟨r, hsame.trans hr, hcurrent⟩

/-- A change of the table away from the handles of registered sources. -/
theorem Coherent.frame {w : World β} (h : Coherent b w) (selector : Selector β)
    (hsame : ∀ id, (w.sources id).registered = true → selector.registrations (w.sources id).handle =
      w.selector.registrations (w.sources id).handle) : Coherent b { w with selector := selector } := by
  refine ⟨h.kinds, h.apart, ?_⟩
  intro id hreg
  obtain ⟨hvalid, hcurrent⟩ := h.current id hreg
  exact ⟨hvalid, hcurrent.frame (hsame id hreg)⟩

/-- A source-level call on one source, which changes at most the entry of its handle. -/
theorem Coherent.called {w : World β} (h : Coherent b w) (id : Nat) (source : Source)
    (selector : Selector β) (htype : source.type = (w.sources id).type)
    (hhandle : source.handle = (w.sources id).handle)
    (hother : ∀ other, other ≠ source.handle →
      selector.registrations other = w.selector.registrations other)
    (hcurrent : source.registered = true →
      source.handle ≠ invalidNativeHandle b.platform ∧ Current b source selector) :
    Coherent b ⟨selector, Function.update w.sources id source⟩ := by
  have hsource : ∀ i, (Function.update w.sources id source i).type = (w.sources i).type ∧
      (Function.update w.sources id source i).handle = (w.sources i).handle := by
    intro i
    by_cases hi : i = id
    · subst hi; rw [Function.update_self]; exact ⟨htype, hhandle⟩
    · rw [Function.update_of_ne hi]; exact ⟨rfl, rfl⟩
  refine ⟨?_, ?_, ?_⟩
  · intro i
    rw [(hsource i).1]
    exact h.kinds i
  · intro i j heq hvalid
    rw [(hsource i).2, (hsource j).2] at heq
    exact h.apart i j heq ((hsource i).2 ▸ hvalid)
  · intro i hreg
    by_cases hi : i = id
    · subst hi
      simp only [Function.update_self] at hreg ⊢
      exact hcurrent hreg
    · simp only [Function.update_of_ne hi] at hreg ⊢
      obtain ⟨hvalid, hcur⟩ := h.current i hreg
      refine ⟨hvalid, hcur.frame (hother _ ?_)⟩
      intro heq
      exact hi (h.apart i id (heq.trans hhandle) hvalid)

theorem register_coherent {w v : World β} (h : Coherent b w) (id : Nat) (token : Token)
    (interests : Interest) (ω ω' : Ω)
    (hcall : w.called id (registerSource b ω ω' (w.sources id) token interests w.selector) = some v) :
    Coherent b v := by
  rcases registerSource_cases b ω ω' (w.sources id) token interests w.selector (h.not_signals id)
    with ⟨_, code, backend, he⟩ | ⟨haccepts, afdState, backend, _, he⟩
  · rw [he] at hcall
    cases hcall
    exact h.called id _ _ rfl rfl (fun _ _ => rfl) (h.current id)
  · rw [he, refreshed, if_pos (h.kinds id)] at hcall
    cases hcall
    refine h.called id _ _ rfl rfl (fun _ ho => Function.update_of_ne ho _ _) ?_
    intro _
    exact ⟨validate_valid haccepts.1, _, Function.update_self _ _ _, rfl⟩

theorem reregister_coherent {w v : World β} (h : Coherent b w) (id : Nat) (token : Token)
    (interests : Interest) (ω ω' : Ω)
    (hok : Accepted b ω (w.sources id) token interests w.selector)
    (hcall : w.called id (Registry.reregister b ω ω' (w.sources id) token interests w.selector) =
      some v) : Coherent b v := by
  rcases reregister_cases b ω ω' (w.sources id) token interests w.selector (h.not_signals id) with
    ⟨code, he⟩ | ⟨hv, r, result, backend, hr, hb, ⟨e, hresult, _⟩ | ⟨_, he⟩⟩
  · rw [he] at hcall
    cases hcall
    exact h.called id _ _ rfl rfl (fun _ _ => rfl) (h.current id)
  · obtain ⟨u, hu⟩ := hok r hr
    rw [hb, hresult] at hu
    cases hu
  · rw [he, refreshed, if_pos (h.kinds id)] at hcall
    cases hcall
    refine h.called id _ _ rfl rfl (fun _ ho => Function.update_of_ne ho _ _) ?_
    intro _
    exact ⟨validate_valid hv, _, Function.update_self _ _ _, rfl⟩

theorem deregister_coherent {w v : World β} (h : Coherent b w) (id : Nat) (ω ω' : Ω)
    (hcall : w.called id (Registry.deregister b ω ω' (w.sources id) w.selector) = some v) :
    Coherent b v := by
  rcases deregister_cases b ω ω' (w.sources id) w.selector (h.not_signals id) with
    ⟨_, code, he⟩ | ⟨r, t, _, ht, he⟩
  · rw [he] at hcall
    cases hcall
    exact h.called id _ _ rfl rfl (fun _ _ => rfl) (h.current id)
  · rw [he, refreshed, if_pos (h.kinds id)] at hcall
    cases hcall
    refine h.called id _ _ rfl rfl ?_ ?_
    · intro other ho
      rw [ht]
      exact Function.update_of_ne ho _ _
    · intro hreg; cases hreg

omit [Inhabited A] in
theorem Coherent.rearmable {w : World β} (h : Coherent b w) (id : Nat) (ω : Ω) (call : IoCall A)
    (hok : undisturbed b (.io id call ω) w) : Rearmable b ω (w.sources id) w.selector :=
  fun hreg _ => ⟨(h.current id hreg).2, hok hreg⟩

theorem step_coherent (a : Action Ω A) {w v : World β} (h : Coherent b w) (hok : undisturbed b a w)
    (hstep : step b a w = some v) : Coherent b v := by
  cases a with
  | register id token interests ω ω' => exact register_coherent h id token interests ω ω' hstep
  | reregister id token interests ω ω' => exact reregister_coherent h id token interests ω ω' hok hstep
  | deregister id ω ω' => exact deregister_coherent h id ω ω' hstep
  | handle call ω =>
    cases hstep
    exact h.frame _ fun id hreg => call.perform_other b ω w.selector (hok id hreg)
  | io id call ω =>
    simp only [step] at hstep
    split at hstep
    · split at hstep
      · cases hstep
      · rename_i ec value selector hreturned
        cases hstep
        refine h.frame selector fun j _ => ?_
        rcases perform_selector b ω call (w.sources id) w.selector selector hreturned with
          rfl | ⟨_, u, hrearm⟩
        · rfl
        · rw [rearm_registrations b ω (h.rearmable id ω call hok) hrearm]
    · cases hstep

variable (b)

/-- Would-block I/O returns nothing with its error and leaves the registrations
alone exactly when the source has no copy of a registration, or a current one
that the backend accepts; and this is so at every I/O call of a run in which
handle-level calls keep away from registered sources and no backend update fails. -/
theorem would_block_harmless (w₀ : World β) (hfresh : Fresh b w₀) :
    (∀ (ω : Ω) (call : IoCall A) (source : Source) (s : Selector β) (ec : ErrorCode),
      WouldBlock b call source ec → (Harmless b ω call source s ec ↔ Rearmable b ω source s)) ∧
    ∀ w, Reach (step (A := A) b) (undisturbed b) w₀ w → ∀ id (call : IoCall A) (ω : Ω) ec,
      undisturbed b (.io id call ω) w → WouldBlock b call (w.sources id) ec →
      Harmless b ω call (w.sources id) w.selector ec := by
  refine ⟨fun ω call source s ec h => harmless_iff b ω call source s ec h, ?_⟩
  intro w h id call ω ec hok hblock
  have hw : Coherent b w :=
    h.invariant hfresh.coherent fun a _ _ hu hadmitted hstep => step_coherent a hu hadmitted hstep
  exact (harmless_iff b ω call _ _ ec hblock).mpr (hw.rearmable id ω call hok)

/-- A Linux program with one stream, on descriptor 5. -/
def oneStream : World Epoll.EpollSet :=
  ⟨Epoll.initialSelector, fun id => { type := .tcpStream, handle := if id = 0 then 5 else -1 }⟩

theorem oneStream_fresh : Fresh Epoll.backend oneStream := by
  refine ⟨fun _ => rfl, ?_, fun _ => rfl⟩
  intro id id' heq hvalid
  by_cases h : id = 0
  · by_cases h' : id' = 0
    · rw [h, h']
    · simp [oneStream, h, h'] at heq
  · exact absurd (by simp [oneStream, h, Epoll.backend, invalidNativeHandle]) hvalid

/-- `EAGAIN` of a socket call on Linux. -/
def again : ErrorCode := ⟨11, .generic, EAGAIN.property⟩

theorem would_block_harmless_registered :
    ∃ w, Reach (step (A := Unit) Epoll.backend) (undisturbed Epoll.backend) oneStream w ∧
      (w.sources 0).registered = true ∧
      Harmless (A := Unit) Epoll.backend none (.read (.error again)) (w.sources 0) w.selector again := by
  have h : Reach (step (A := Unit) Epoll.backend) (undisturbed Epoll.backend) oneStream _ :=
    .tail (.register 0 ⟨1⟩ Interest.READABLE none none) .refl trivial rfl
  exact ⟨_, h, rfl, (would_block_harmless (A := Unit) Epoll.backend oneStream oneStream_fresh).2 _ h 0
    (.read (.error again)) none again (by intro _ r hr; cases hr; exact ⟨(), rfl⟩)
    ⟨by decide, rfl, by decide⟩⟩

/-- The handle of a registered stream is deregistered through the registry: the
next read that would block ends the process. -/
theorem stale_copy_terminates :
    ¬ ∀ w, Reachable (step (A := Unit) Epoll.backend) oneStream w →
      ∀ id (call : IoCall Unit) refusal ec, WouldBlock Epoll.backend call (w.sources id) ec →
        Harmless Epoll.backend refusal call (w.sources id) w.selector ec := by
  intro hall
  obtain ⟨value, t, hreturned, _⟩ := hall _ (reachable_of_run [
    .register 0 ⟨1⟩ Interest.READABLE none none, .handle (.deregister 5) none] rfl) 0
    (.read (.error again)) none again ⟨by decide, rfl, by decide⟩
  cases hreturned

end Net
