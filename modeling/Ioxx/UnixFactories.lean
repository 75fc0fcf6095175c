import Ioxx.Posix
import Ioxx.UnixPaths

/-!
# The functions that make Unix sockets and pipes

The `error_code` overloads of `unix.cpp` that return new objects. They open and
prepare their descriptors with helpers that report through `ec`, and then hand
them to constructors that check and prepare them once more and throw. An exception
inside these `noexcept` functions ends the process.
-/

namespace UnixFactories

open Core Addresses Posix Programs UnixPaths

/-- A `sockaddr_un` and its length. -/
abbrev RawAddress := SockaddrUn × Nat

abbrev unixEnvironment : Environment (Call RawAddress) Call.Answer Kernel :=
  environment fun _ => some .unix

abbrev UnixProgram (α : Type) := Program RawAddress α

def closeFd (fd : Fd) : UnixProgram Unit := if 0 ≤ fd then close fd else pure ()

def prepareFd (fd : Fd) : UnixProgram (Option ErrorCode) := do
  match ← setNonBlocking fd with
  | some ec => return some ec
  | none => setCloseOnExec fd

def makeSocket (type : SocketType) : UnixProgram (Option ErrorCode × Fd) := do
  match ← socket .unix type none with
  | .error errno => return (some (.ofErrno errno), -1)
  | .ok fd =>
    match ← prepareFd fd with
    | some ec =>
      closeFd fd
      return (some ec, -1)
    | none => return (none, fd)

def requireFd (fd : Fd) : Option ErrorCode := if fd < 0 then some .badFileDescriptor else none

/-- The constructor from a descriptor of `Sender`, `Receiver`, `UnixStream`,
`UnixListener` and `UnixDatagram`. -/
def construct (fd : Fd) : UnixProgram (Except Exception Fd) := do
  match requireFd fd with
  | some ec => return .error (.systemError ec "invalid Unix socket")
  | none =>
    match ← prepareFd fd with
    | some ec => return .error (.systemError ec "prepare_fd")
    | none => return .ok fd

/-- The end of a `noexcept` function that returns one object. -/
def returning (ec : Option ErrorCode) (fd : Fd) :
    UnixProgram (Noexcept (Option ErrorCode × Fd)) := do
  match ← construct fd with
  | .error _ => return .terminated
  | .ok object => return .returned (ec, object)

/-- The descriptor is closed, and an invalid object returned with the error. -/
def failing (fd : Fd) (ec : ErrorCode) : UnixProgram (Noexcept (Option ErrorCode × Fd)) := do
  closeFd fd
  return .returned (some ec, -1)

/-- `UnixStream::connect`. -/
def streamConnect (path : List Bytes.Byte) : UnixProgram (Noexcept (Option ErrorCode × Fd)) := do
  match ← makeSocket .stream with
  | (some ec, _) => return .returned (some ec, -1)
  | (none, fd) =>
    match socketAddress path with
    | (some ec, _) => failing fd ec
    | (none, address) =>
      match ← connect fd (address, socketAddressLength address) with
      | .error errno =>
        if errno ≠ EINPROGRESS then failing fd (.ofErrno errno) else returning none fd
      | .ok _ => returning none fd

/-- `UnixListener::bind`. -/
def listenerBind (path : List Bytes.Byte) (backlog : Int) :
    UnixProgram (Noexcept (Option ErrorCode × Fd)) := do
  match ← makeSocket .stream with
  | (some ec, _) => return .returned (some ec, -1)
  | (none, fd) =>
    match socketAddress path with
    | (some ec, _) => failing fd ec
    | (none, address) =>
      match ← bind fd (address, socketAddressLength address) with
      | .error errno => failing fd (.ofErrno errno)
      | .ok _ =>
        match ← listen fd backlog with
        | .error errno => failing fd (.ofErrno errno)
        | .ok _ => returning none fd

/-- `UnixDatagram::bind`. -/
def datagramBind (path : List Bytes.Byte) : UnixProgram (Noexcept (Option ErrorCode × Fd)) := do
  match ← makeSocket .dgram with
  | (some ec, _) => return .returned (some ec, -1)
  | (none, fd) =>
    match socketAddress path with
    | (some ec, _) => failing fd ec
    | (none, address) =>
      match ← bind fd (address, socketAddressLength address) with
      | .error errno => failing fd (.ofErrno errno)
      | .ok _ => returning none fd

/-- `UnixDatagram::unbound`: the result of `make_socket` is not looked at. -/
def unbound : UnixProgram (Noexcept (Option ErrorCode × Fd)) := do
  let (ec, fd) ← makeSocket .dgram
  returning ec fd

/-- Both descriptors of a pair are prepared, unless the first one fails. -/
def prepareBoth (fds : Fd × Fd) : UnixProgram (Option ErrorCode) := do
  match ← prepareFd fds.1 with
  | some ec => return some ec
  | none => prepareFd fds.2

/-- The end of a `noexcept` function that returns two objects. -/
def returningPair (first second : Fd) : UnixProgram (Noexcept (Option ErrorCode × Fd × Fd)) := do
  match ← construct first with
  | .error _ => return .terminated
  | .ok first =>
    match ← construct second with
    | .error _ => return .terminated
    | .ok second => return .returned (none, first, second)

/-- What `pipe` and the two `pair` functions do with the descriptors they open;
`order` is the order in which the objects take them. -/
def fromPair (opened : Except Errno (Fd × Fd)) (order : Fd × Fd → Fd × Fd) :
    UnixProgram (Noexcept (Option ErrorCode × Fd × Fd)) := do
  match opened with
  | .error errno => return .returned (some (.ofErrno errno), -1, -1)
  | .ok fds =>
    match ← prepareBoth fds with
    | some ec =>
      closeFd fds.1
      closeFd fds.2
      return .returned (some ec, -1, -1)
    | none => returningPair (order fds).1 (order fds).2

/-- `unix::pipe`: the sender writes to the second descriptor. -/
def pipe : UnixProgram (Noexcept (Option ErrorCode × Fd × Fd)) := do
  fromPair (← Posix.pipe) Prod.swap

/-- `UnixStream::pair`. -/
def streamPair : UnixProgram (Noexcept (Option ErrorCode × Fd × Fd)) := do
  fromPair (← socketpair .stream) id

/-- `UnixDatagram::pair`. -/
def datagramPair : UnixProgram (Noexcept (Option ErrorCode × Fd × Fd)) := do
  fromPair (← socketpair .dgram) id

/-- `UnixListener::accept` of a listener with the given descriptor; `memory` is
whether the peer's path can be allocated. -/
def listenerAccept (memory : Bool) (beyond : Nat → Bytes.Byte) (fd : Fd) :
    UnixProgram (Noexcept (Option ErrorCode × Fd × List Bytes.Byte)) := do
  match requireFd fd with
  | some ec => return .returned (some ec, -1, [])
  | none =>
    match ← accept fd with
    | .error errno => return .returned (some (.ofErrno errno), -1, [])
    | .ok (accepted, address, length) =>
      if memory = false then
        closeFd accepted
        return .returned (some .notEnoughMemory, -1, [])
      else
        match ← construct accepted with
        | .error _ => return .terminated
        | .ok stream => return .returned (none, stream, pathFromSockaddr address beyond length)

/-! The functions as one family: each returns `ec` and the descriptors of its objects. -/

inductive Factory where
  | pipe
  | streamConnect (path : List Bytes.Byte)
  | streamPair
  | listenerBind (path : List Bytes.Byte) (backlog : Int)
  | listenerAccept (memory : Bool) (beyond : Nat → Bytes.Byte) (fd : Fd)
  | datagramBind (path : List Bytes.Byte)
  | unbound
  | datagramPair

/-- The descriptors of what a function returned. -/
def handles {α : Type} (of : α → List Fd) :
    Noexcept (Option ErrorCode × α) → Noexcept (Option ErrorCode × List Fd)
  | .terminated => .terminated
  | .returned (ec, objects) => .returned (ec, of objects)

def both (objects : Fd × Fd) : List Fd := [objects.1, objects.2]

def Factory.perform : Factory → UnixProgram (Noexcept (Option ErrorCode × List Fd))
  | .pipe => do return handles both (← UnixFactories.pipe)
  | .streamConnect path => do return handles ([·]) (← UnixFactories.streamConnect path)
  | .streamPair => do return handles both (← UnixFactories.streamPair)
  | .listenerBind path backlog => do
    return handles ([·]) (← UnixFactories.listenerBind path backlog)
  | .listenerAccept memory beyond fd => do
    return handles (fun accepted => [accepted.1]) (← UnixFactories.listenerAccept memory beyond fd)
  | .datagramBind path => do return handles ([·]) (← UnixFactories.datagramBind path)
  | .unbound => do return handles ([·]) (← UnixFactories.unbound)
  | .datagramPair => do return handles both (← UnixFactories.datagramPair)

/-- Either `ec` is clear and the objects are valid and own what was opened, or it is
set, the objects are invalid and what was opened has been closed once. -/
def AllOrNothing (log : Log) : Noexcept (Option ErrorCode × List Fd) → Prop
  | .terminated => False
  | .returned (none, objects) =>
    (∀ fd ∈ objects, 0 ≤ fd) ∧ objects.Perm log.opened ∧ log.closed = []
  | .returned (some _, objects) =>
    (∀ fd ∈ objects, fd = -1) ∧ log.closed.Perm log.opened ∧ log.opened.Nodup

/-- No `fcntl` fails on a descriptor that is prepared already; for `accept`, which
prepares the socket in the constructor only, none fails; for `unbound` `socket`
does not fail either. -/
def Kept (log : Log) : Factory → Prop
  | .unbound => log.opened ≠ [] ∧ log.refused = []
  | .listenerAccept .. => log.refused = []
  | _ => true ∉ log.refused

/-! The calls of the helpers. -/

variable {k k' : Kernel} {fd : Fd}

theorem closeFd_run {u : Unit} (hfd : 0 ≤ fd) (h : Run unixEnvironment (closeFd fd) k u k') :
    k' = k.closeFile fd := by
  rw [closeFd, if_pos hfd] at h
  exact (called (.close fd) h).2

/-- The descriptor is open and close-on-exec. -/
def Prepared (k : Kernel) (fd : Fd) : Prop := (k.files fd).any File.closeOnExec = true

/-- `prepare_fd` changes its own descriptor only; if it fails, close-on-exec is as before. -/
theorem prepareFd_run {ec : Option ErrorCode} (h : Run unixEnvironment (prepareFd fd) k ec k') :
    (∀ other, other ≠ fd → k'.files other = k.files other) ∧
    ((ec = none ∧ k'.log = k.log ∧ ((k.files fd).isSome → Prepared k' fd)) ∨
      (∃ failure, ec = some failure ∧ k'.log = (k.refuse fd).log)) := by
  obtain ⟨blocking, k₁, hblocking, h⟩ := run_bind.mp h
  rcases setNonBlocking_run hblocking with ⟨rfl, rfl⟩ | ⟨errno, rfl, rfl⟩
  · rcases setCloseOnExec_run h with ⟨rfl, rfl⟩ | ⟨errno, rfl, rfl⟩
    · refine ⟨fun other hother => by simp [Kernel.setFile, hother], .inl ⟨rfl, rfl, fun hopen => ?_⟩⟩
      obtain ⟨file, hfile⟩ := Option.isSome_iff_exists.mp hopen
      simp [Prepared, Kernel.setFile, hfile]
    · refine ⟨fun other hother => by simp [Kernel.setFile, Kernel.refuse, hother],
        .inr ⟨_, rfl, ?_⟩⟩
      cases hfile : k.files fd <;> simp [Kernel.setFile, Kernel.refuse, hfile]
  · obtain ⟨rfl, rfl⟩ := run_pure.mp h
    exact ⟨fun other _ => rfl, .inr ⟨_, rfl, rfl⟩⟩

theorem refuse_log_of_prepared (h : Prepared k fd) :
    (k.refuse fd).log = { k.log with refused := true :: k.log.refused } := by
  rw [Kernel.refuse, h]

/-- A constructor throws if a call on a prepared descriptor fails. -/
theorem construct_run {result : Except Exception Fd} (hfd : 0 ≤ fd)
    (h : Run unixEnvironment (construct fd) k result k') :
    (∀ other, other ≠ fd → k'.files other = k.files other) ∧
    ((result = .ok fd ∧ k'.log = k.log) ∨
      (∃ exception, result = .error exception ∧ k'.log = (k.refuse fd).log)) := by
  rw [construct, requireFd, if_neg (not_lt.mpr hfd)] at h
  obtain ⟨ec, k₁, hprepare, h⟩ := run_bind.mp h
  obtain ⟨hframe, ⟨rfl, hlog, -⟩ | ⟨failure, rfl, hlog⟩⟩ := prepareFd_run hprepare
  · obtain ⟨rfl, rfl⟩ := run_pure.mp h
    exact ⟨hframe, .inl ⟨rfl, hlog⟩⟩
  · obtain ⟨rfl, rfl⟩ := run_pure.mp h
    exact ⟨hframe, .inr ⟨_, rfl, hlog⟩⟩

/-- One descriptor is open and prepared, and nothing else happened. -/
structure Ready (fd : Fd) (k : Kernel) : Prop where
  nonneg : 0 ≤ fd
  prepared : Prepared k fd
  opened : k.log.opened = [fd]
  closed : k.log.closed = []
  refused : k.log.refused = []

theorem Ready.addressed {domain : Option Domain} (h : Ready fd k) :
    Ready fd (k.addressed fd domain) :=
  ⟨h.nonneg, h.prepared, h.opened, h.closed, h.refused⟩

/-- A function keeps the promise exactly if no prepared descriptor refuses a call. -/
def Faithful (log : Log) (result : Noexcept (Option ErrorCode × List Fd)) : Prop :=
  AllOrNothing log result ↔ true ∉ log.refused

/-- `make_socket` fails with nothing left open, or prepares the socket. -/
theorem makeSocket_run {type : SocketType} {result : Option ErrorCode × Fd} (hlog : k.log = {})
    (h : Run unixEnvironment (makeSocket type) k result k') :
    (∃ ec, result = (some ec, -1) ∧ k'.log = {}) ∨
    (∃ ec fd, result = (some ec, -1) ∧ k'.log.opened = [fd] ∧ k'.log.closed = [fd] ∧
      k'.log.refused = [false]) ∨
    (∃ fd, result = (none, fd) ∧ Ready fd k') := by
  obtain ⟨answer, k₁, hsocket, h⟩ := run_bind.mp h
  obtain ⟨hanswer, rfl⟩ := called (.socket .unix type none) hsocket
  cases answer with
  | error errno =>
    obtain ⟨rfl, rfl⟩ := run_pure.mp h
    exact .inl ⟨_, rfl, hlog⟩
  | ok fd =>
    have hfd : 0 ≤ fd := hanswer.1
    obtain ⟨ec, k₂, hprepare, h⟩ := run_bind.mp h
    obtain ⟨-, ⟨rfl, hsame, hprepared⟩ | ⟨failure, rfl, hrefused⟩⟩ := prepareFd_run hprepare
    · obtain ⟨rfl, rfl⟩ := run_pure.mp h
      refine .inr (.inr ⟨fd, rfl, hfd, hprepared ?_, ?_, ?_, ?_⟩)
      · simp [afterCall, Kernel.openFile]
      all_goals simp [hsame, afterCall, Kernel.openFile, hlog]
    · obtain ⟨u, k₃, hclose, h⟩ := run_bind.mp h
      obtain rfl := closeFd_run hfd hclose
      obtain ⟨rfl, rfl⟩ := run_pure.mp h
      refine .inr (.inl ⟨failure, fd, rfl, ?_, ?_, ?_⟩)
      all_goals
        simp [Kernel.closeFile, hrefused, Kernel.refuse, afterCall, Kernel.openFile, hlog]

theorem failing_run {ec : ErrorCode} {result : Noexcept (Option ErrorCode × Fd)} (hready : Ready fd k)
    (h : Run unixEnvironment (failing fd ec) k result k') : Faithful k'.log (handles ([·]) result) := by
  obtain ⟨u, k₁, hclose, h⟩ := run_bind.mp h
  obtain rfl := closeFd_run hready.nonneg hclose
  obtain ⟨rfl, rfl⟩ := run_pure.mp h
  apply iff_of_true
  · simp [AllOrNothing, handles, Kernel.closeFile, hready.opened, hready.closed]
  · simp [Kernel.closeFile, hready.refused]

theorem returning_run {result : Noexcept (Option ErrorCode × Fd)} (hready : Ready fd k)
    (h : Run unixEnvironment (returning none fd) k result k') :
    Faithful k'.log (handles ([·]) result) := by
  obtain ⟨object, k₁, hconstruct, h⟩ := run_bind.mp h
  obtain ⟨-, ⟨rfl, hlog⟩ | ⟨exception, rfl, hlog⟩⟩ := construct_run hready.nonneg hconstruct
  · obtain ⟨rfl, rfl⟩ := run_pure.mp h
    apply iff_of_true
    · simp [AllOrNothing, handles, hlog, hready.opened, hready.closed, hready.nonneg]
    · simp [hlog, hready.refused]
  · obtain ⟨rfl, rfl⟩ := run_pure.mp h
    apply iff_of_false
    · simp [AllOrNothing, handles]
    · simp [hlog, refuse_log_of_prepared hready.prepared]

/-- Three functions start with `make_socket` and then `use` the socket. -/
theorem afterMakeSocket_run {type : SocketType} {use : Fd → UnixProgram (Noexcept (Option ErrorCode × Fd))}
    {result : Noexcept (Option ErrorCode × Fd)} (hlog : k.log = {})
    (huse : ∀ {fd k result k'}, Ready fd k → Run unixEnvironment (use fd) k result k' →
      Faithful k'.log (handles ([·]) result))
    (h : Run unixEnvironment (do
      match ← makeSocket type with
      | (some ec, _) => return .returned (some ec, -1)
      | (none, fd) => use fd) k result k') :
    Faithful k'.log (handles ([·]) result) := by
  obtain ⟨made, k₁, hmake, h⟩ := run_bind.mp h
  rcases makeSocket_run hlog hmake with ⟨ec, rfl, hempty⟩ | ⟨ec, fd, rfl, hopened, hclosed, hrefused⟩ |
    ⟨fd, rfl, hready⟩
  · obtain ⟨rfl, rfl⟩ := run_pure.mp h
    apply iff_of_true
    · simp [AllOrNothing, handles, hempty]
    · simp [hempty]
  · obtain ⟨rfl, rfl⟩ := run_pure.mp h
    apply iff_of_true
    · simp [AllOrNothing, handles, hopened, hclosed]
    · simp [hrefused]
  · exact huse hready h

/-- What they do next: a path that is too long ends the call, and else the address is used. -/
theorem afterAddress_run {type : SocketType} {path : List Bytes.Byte}
    {use : Fd → SockaddrUn → UnixProgram (Noexcept (Option ErrorCode × Fd))}
    {result : Noexcept (Option ErrorCode × Fd)} (hlog : k.log = {})
    (huse : ∀ {fd address k result k'}, Ready fd k → Run unixEnvironment (use fd address) k result k' →
      Faithful k'.log (handles ([·]) result))
    (h : Run unixEnvironment (do
      match ← makeSocket type with
      | (some ec, _) => return .returned (some ec, -1)
      | (none, fd) =>
        match socketAddress path with
        | (some ec, _) => failing fd ec
        | (none, address) => use fd address) k result k') :
    Faithful k'.log (handles ([·]) result) := by
  refine afterMakeSocket_run hlog (fun {fd k result k'} hready h => ?_) h
  rcases haddress : socketAddress path with ⟨_ | ec, address⟩
  · simp only [haddress] at h
    exact huse hready h
  · simp only [haddress] at h
    exact failing_run hready h

theorem streamConnect_faithful {path : List Bytes.Byte} {result : Noexcept (Option ErrorCode × Fd)}
    (hlog : k.log = {}) (h : Run unixEnvironment (streamConnect path) k result k') :
    Faithful k'.log (handles ([·]) result) := by
  refine afterAddress_run hlog (fun {fd address k result k'} hready h => ?_) h
  obtain ⟨connected, k₁, hconnect, h⟩ := run_bind.mp h
  obtain ⟨-, rfl⟩ := called (.connect fd (address, socketAddressLength address)) hconnect
  cases connected with
  | ok u => exact returning_run hready.addressed h
  | error errno =>
    change Run unixEnvironment (if errno ≠ EINPROGRESS then failing fd (.ofErrno errno)
      else returning none fd) (k.addressed fd (some .unix)) result k' at h
    by_cases hprogress : errno ≠ EINPROGRESS
    · rw [if_pos hprogress] at h
      exact failing_run hready.addressed h
    · rw [if_neg hprogress] at h
      exact returning_run hready.addressed h

theorem listenerBind_faithful {path : List Bytes.Byte} {backlog : Int}
    {result : Noexcept (Option ErrorCode × Fd)}
    (hlog : k.log = {}) (h : Run unixEnvironment (listenerBind path backlog) k result k') :
    Faithful k'.log (handles ([·]) result) := by
  refine afterAddress_run hlog (fun {fd address k result k'} hready h => ?_) h
  obtain ⟨bound, k₁, hbind, h⟩ := run_bind.mp h
  obtain ⟨-, rfl⟩ := called (.bind fd (address, socketAddressLength address)) hbind
  cases bound with
  | error errno => exact failing_run hready.addressed h
  | ok u =>
    obtain ⟨listening, k₂, hlisten, h⟩ := run_bind.mp h
    obtain ⟨-, rfl⟩ := called (.listen fd backlog) hlisten
    cases listening with
    | error errno => exact failing_run hready.addressed h
    | ok u => exact returning_run hready.addressed h

theorem datagramBind_faithful {path : List Bytes.Byte} {result : Noexcept (Option ErrorCode × Fd)}
    (hlog : k.log = {}) (h : Run unixEnvironment (datagramBind path) k result k') :
    Faithful k'.log (handles ([·]) result) := by
  refine afterAddress_run hlog (fun {fd address k result k'} hready h => ?_) h
  obtain ⟨bound, k₁, hbind, h⟩ := run_bind.mp h
  obtain ⟨-, rfl⟩ := called (.bind fd (address, socketAddressLength address)) hbind
  cases bound with
  | error errno => exact failing_run hready.addressed h
  | ok u => exact returning_run hready.addressed h

/-- Two descriptors are open and prepared, and nothing else happened. -/
structure ReadyPair (fds : Fd × Fd) (k : Kernel) : Prop where
  nonneg : 0 ≤ fds.1 ∧ 0 ≤ fds.2
  distinct : fds.1 ≠ fds.2
  prepared : Prepared k fds.1 ∧ Prepared k fds.2
  opened : [fds.1, fds.2].Perm k.log.opened
  closed : k.log.closed = []
  refused : k.log.refused = []

theorem ReadyPair.swap {fds : Fd × Fd} (h : ReadyPair fds k) : ReadyPair fds.swap k :=
  ⟨h.nonneg.symm, h.distinct.symm, h.prepared.symm, (List.Perm.swap _ _ _).trans h.opened,
    h.closed, h.refused⟩

theorem returningPair_run {fds : Fd × Fd} {result : Noexcept (Option ErrorCode × Fd × Fd)}
    (hready : ReadyPair fds k)
    (h : Run unixEnvironment (returningPair fds.1 fds.2) k result k') :
    Faithful k'.log (handles both result) := by
  obtain ⟨first, k₁, hfirst, h⟩ := run_bind.mp h
  obtain ⟨hframe, ⟨rfl, hlog⟩ | ⟨exception, rfl, hlog⟩⟩ := construct_run hready.nonneg.1 hfirst
  · obtain ⟨second, k₂, hsecond, h⟩ := run_bind.mp h
    have hprepared : Prepared k₁ fds.2 := by
      rw [Prepared, hframe fds.2 hready.distinct.symm]
      exact hready.prepared.2
    obtain ⟨-, ⟨rfl, hlog₂⟩ | ⟨exception, rfl, hlog₂⟩⟩ := construct_run hready.nonneg.2 hsecond
    · obtain ⟨rfl, rfl⟩ := run_pure.mp h
      apply iff_of_true
      · simpa [AllOrNothing, handles, both, hlog₂, hlog, hready.closed, hready.nonneg]
          using hready.opened
      · simp [hlog₂, hlog, hready.refused]
    · obtain ⟨rfl, rfl⟩ := run_pure.mp h
      apply iff_of_false
      · simp [AllOrNothing, handles]
      · simp [hlog₂, refuse_log_of_prepared hprepared]
  · obtain ⟨rfl, rfl⟩ := run_pure.mp h
    apply iff_of_false
    · simp [AllOrNothing, handles]
    · simp [hlog, refuse_log_of_prepared hready.prepared.1]

/-- Two descriptors have just been opened. -/
structure OpenedPair (fds : Fd × Fd) (k : Kernel) : Prop where
  nonneg : 0 ≤ fds.1 ∧ 0 ≤ fds.2
  distinct : fds.1 ≠ fds.2
  fresh : ∃ domain, k.files fds.1 = some ⟨domain, false, false⟩ ∧
    k.files fds.2 = some ⟨domain, false, false⟩
  opened : k.log.opened = [fds.2, fds.1]
  closed : k.log.closed = []
  refused : k.log.refused = []

theorem openFile_pair {fds : Fd × Fd} {domain : Option Domain} (hlog : k.log = {})
    (hnonneg : 0 ≤ fds.1 ∧ 0 ≤ fds.2) (hdistinct : fds.1 ≠ fds.2) :
    OpenedPair fds ((k.openFile domain fds.1).openFile domain fds.2) where
  nonneg := hnonneg
  distinct := hdistinct
  fresh := ⟨domain, by simp [Kernel.openFile, hdistinct], by simp [Kernel.openFile]⟩
  opened := by simp [Kernel.openFile, hlog]
  closed := by simp [Kernel.openFile, hlog]
  refused := by simp [Kernel.openFile, hlog]

/-- Both descriptors are prepared, or one that was not prepared refuses a call. -/
theorem prepareBoth_run {fds : Fd × Fd} {ec : Option ErrorCode} (hopened : OpenedPair fds k)
    (h : Run unixEnvironment (prepareBoth fds) k ec k') :
    (ec = none ∧ ReadyPair fds k') ∨
    (∃ failure, ec = some failure ∧ k'.log = { k.log with refused := [false] }) := by
  obtain ⟨domain, hfirst, hsecond⟩ := hopened.fresh
  obtain ⟨ec₁, k₁, hprepare, h⟩ := run_bind.mp h
  obtain ⟨hframe₁, ⟨rfl, hlog₁, hprepared₁⟩ | ⟨failure, rfl, hlog₁⟩⟩ := prepareFd_run hprepare
  · have hsecond₁ : k₁.files fds.2 = some ⟨domain, false, false⟩ := by
      rw [hframe₁ fds.2 hopened.distinct.symm, hsecond]
    obtain ⟨hframe₂, ⟨rfl, hlog₂, hprepared₂⟩ | ⟨failure, rfl, hlog₂⟩⟩ := prepareFd_run h
    · have hfirst₂ : Prepared k' fds.1 := by
        rw [Prepared, hframe₂ fds.1 hopened.distinct]
        exact hprepared₁ (by simp [hfirst])
      refine .inl ⟨rfl, hopened.nonneg, hopened.distinct,
        ⟨hfirst₂, hprepared₂ (by simp [hsecond₁])⟩, ?_, ?_, ?_⟩
      · rw [hlog₂, hlog₁, hopened.opened]
        exact .swap _ _ _
      · rw [hlog₂, hlog₁, hopened.closed]
      · rw [hlog₂, hlog₁, hopened.refused]
    · exact .inr ⟨failure, rfl, by simp [hlog₂, Kernel.refuse, hsecond₁, hlog₁, hopened.refused]⟩
  · obtain ⟨rfl, rfl⟩ := run_pure.mp h
    exact .inr ⟨failure, rfl, by simp [hlog₁, Kernel.refuse, hfirst, hopened.refused]⟩

theorem fromPair_run {fds : Fd × Fd} {order : Fd × Fd → Fd × Fd}
    {result : Noexcept (Option ErrorCode × Fd × Fd)} (hopened : OpenedPair fds k)
    (horder : order = id ∨ order = Prod.swap)
    (h : Run unixEnvironment (fromPair (.ok fds) order) k result k') :
    Faithful k'.log (handles both result) := by
  obtain ⟨ec, k₁, hprepare, h⟩ := run_bind.mp h
  rcases prepareBoth_run hopened hprepare with ⟨rfl, hready⟩ | ⟨failure, rfl, hlog⟩
  · rcases horder with rfl | rfl
    · exact returningPair_run hready h
    · exact returningPair_run hready.swap h
  · obtain ⟨u₁, k₂, hclose₁, h⟩ := run_bind.mp h
    obtain rfl := closeFd_run hopened.nonneg.1 hclose₁
    obtain ⟨u₂, k₃, hclose₂, h⟩ := run_bind.mp h
    obtain rfl := closeFd_run hopened.nonneg.2 hclose₂
    obtain ⟨rfl, rfl⟩ := run_pure.mp h
    apply iff_of_true
    · simp [AllOrNothing, handles, both, Kernel.closeFile, hlog, hopened.opened, hopened.closed,
        hopened.distinct.symm]
    · simp [Kernel.closeFile, hlog]

theorem fromPair_error_run {errno : Errno} {order : Fd × Fd → Fd × Fd}
    {result : Noexcept (Option ErrorCode × Fd × Fd)} (hlog : k.log = {})
    (h : Run unixEnvironment (fromPair (.error errno) order) k result k') :
    Faithful k'.log (handles both result) := by
  obtain ⟨rfl, rfl⟩ := run_pure.mp h
  apply iff_of_true
  · simp [AllOrNothing, handles, both, hlog]
  · simp [hlog]

theorem pipe_faithful {result : Noexcept (Option ErrorCode × Fd × Fd)} (hlog : k.log = {})
    (h : Run unixEnvironment pipe k result k') : Faithful k'.log (handles both result) := by
  obtain ⟨opened, k₁, hcall, h⟩ := run_bind.mp h
  obtain ⟨hanswer, rfl⟩ := called .pipe hcall
  cases opened with
  | error errno => exact fromPair_error_run hlog h
  | ok fds =>
    have hpair : OpenedPair fds ((k.openFile none fds.1).openFile none fds.2) :=
      openFile_pair hlog ⟨hanswer.1.1, hanswer.2.1.1⟩ hanswer.2.2
    exact fromPair_run hpair (.inr rfl) h

/-- `UnixStream::pair` and `UnixDatagram::pair`. -/
theorem socketPair_faithful {type : SocketType} {result : Noexcept (Option ErrorCode × Fd × Fd)}
    (hlog : k.log = {})
    (h : Run unixEnvironment (do fromPair (← socketpair type) id) k result k') :
    Faithful k'.log (handles both result) := by
  obtain ⟨opened, k₁, hcall, h⟩ := run_bind.mp h
  obtain ⟨hanswer, rfl⟩ := called (.socketpair type) hcall
  cases opened with
  | error errno => exact fromPair_error_run hlog h
  | ok fds =>
    have hpair : OpenedPair fds ((k.openFile (some .unix) fds.1).openFile (some .unix) fds.2) :=
      openFile_pair hlog ⟨hanswer.1.1, hanswer.2.1.1⟩ hanswer.2.2
    exact fromPair_run hpair (.inl rfl) h

/-- The constructor of an accepted socket is the only one that prepares it. -/
theorem listenerAccept_faithful {memory : Bool} {beyond : Nat → Bytes.Byte}
    {result : Noexcept (Option ErrorCode × Fd × List Bytes.Byte)} (hlog : k.log = {})
    (h : Run unixEnvironment (listenerAccept memory beyond fd) k result k') :
    AllOrNothing k'.log (handles (fun accepted => [accepted.1]) result) ↔ k'.log.refused = [] := by
  rw [listenerAccept] at h
  cases hrequire : requireFd fd with
  | some ec =>
    rw [hrequire] at h
    obtain ⟨rfl, rfl⟩ := run_pure.mp h
    simp [AllOrNothing, handles, hlog]
  | none =>
    rw [hrequire] at h
    obtain ⟨answer, k₁, hcall, h⟩ := run_bind.mp h
    obtain ⟨hanswer, rfl⟩ := called (.accept fd) hcall
    cases answer with
    | error errno =>
      obtain ⟨rfl, rfl⟩ := run_pure.mp h
      simp [AllOrNothing, handles, hlog]
    | ok accepted =>
      have haccepted : 0 ≤ accepted.1 := hanswer.1
      cases memory with
      | false =>
        obtain ⟨u, k₂, hclose, h⟩ := run_bind.mp h
        obtain rfl := closeFd_run haccepted hclose
        obtain ⟨rfl, rfl⟩ := run_pure.mp h
        simp [AllOrNothing, handles, afterCall, Kernel.closeFile, Kernel.openFile, hlog]
      | true =>
        obtain ⟨object, k₂, hconstruct, h⟩ := run_bind.mp h
        obtain ⟨-, ⟨rfl, hlog₂⟩ | ⟨exception, rfl, hlog₂⟩⟩ := construct_run haccepted hconstruct
        · obtain ⟨rfl, rfl⟩ := run_pure.mp h
          simp [AllOrNothing, handles, hlog₂, afterCall, Kernel.openFile, hlog, haccepted]
        · obtain ⟨rfl, rfl⟩ := run_pure.mp h
          simp [AllOrNothing, handles, hlog₂, Kernel.refuse]

/-- The constructor of an invalid descriptor throws. -/
theorem returning_invalid {ec : Option ErrorCode} {result : Noexcept (Option ErrorCode × Fd)}
    (h : Run unixEnvironment (returning ec (-1)) k result k') : result = .terminated ∧ k' = k :=
  run_pure.mp h

theorem unbound_faithful {result : Noexcept (Option ErrorCode × Fd)} (hlog : k.log = {})
    (h : Run unixEnvironment unbound k result k') :
    AllOrNothing k'.log (handles ([·]) result) ↔ k'.log.opened ≠ [] ∧ k'.log.refused = [] := by
  obtain ⟨made, k₁, hmake, h⟩ := run_bind.mp h
  rcases makeSocket_run hlog hmake with ⟨ec, rfl, hempty⟩ | ⟨ec, fd, rfl, -, -, hrefused⟩ |
    ⟨fd, rfl, hready⟩
  · obtain ⟨rfl, rfl⟩ := returning_invalid h
    simp [AllOrNothing, handles, hempty]
  · obtain ⟨rfl, rfl⟩ := returning_invalid h
    simp [AllOrNothing, handles, hrefused]
  · obtain ⟨object, k₂, hconstruct, h⟩ := run_bind.mp h
    obtain ⟨-, ⟨rfl, hlog₂⟩ | ⟨exception, rfl, hlog₂⟩⟩ := construct_run hready.nonneg hconstruct
    · obtain ⟨rfl, rfl⟩ := run_pure.mp h
      simp [AllOrNothing, handles, hlog₂, hready.opened, hready.closed, hready.refused, hready.nonneg]
    · obtain ⟨rfl, rfl⟩ := run_pure.mp h
      simp [AllOrNothing, handles, hlog₂, Kernel.refuse]

/-- Whatever the system calls answer, the functions are all-or-nothing as long as no
constructor has a reason to throw. -/
theorem factory_all_or_nothing_iff (factory : Factory) (files : Fd → Option File)
    (result : Noexcept (Option ErrorCode × List Fd)) (k' : Kernel)
    (h : Run unixEnvironment factory.perform ⟨files, {}⟩ result k') :
    AllOrNothing k'.log result ↔ Kept k'.log factory := by
  cases factory
  all_goals
    obtain ⟨objects, k₁, h, hresult⟩ := run_bind.mp h
    obtain ⟨rfl, rfl⟩ := run_pure.mp hresult
  case pipe => exact pipe_faithful rfl h
  case streamConnect path => exact streamConnect_faithful rfl h
  case streamPair => exact socketPair_faithful rfl h
  case listenerBind path backlog => exact listenerBind_faithful rfl h
  case listenerAccept memory beyond fd => exact listenerAccept_faithful rfl h
  case datagramBind path => exact datagramBind_faithful rfl h
  case unbound => exact unbound_faithful rfl h
  case datagramPair => exact socketPair_faithful rfl h

/-- A peer without a path is accepted, and every call succeeds. -/
theorem factory_all_or_nothing_accepted : ∃ result k',
    Run unixEnvironment (Factory.listenerAccept true (fun _ => 0) 3).perform
      ⟨fun fd => if fd = 3 then some ⟨some .unix, true, true⟩ else none, {}⟩ result k' ∧
    Kept k'.log (.listenerAccept true (fun _ => 0) 3) ∧ AllOrNothing k'.log result := by
  have h : Run unixEnvironment (Factory.listenerAccept true (fun _ => 0) 3).perform
      ⟨fun fd => if fd = 3 then some ⟨some .unix, true, true⟩ else none, {}⟩
      (.returned (none, [4])) _ :=
    .call (.ok (4, (socketAddress []).2, 2)) ⟨by decide, by decide⟩
      (.call (.ok 2) trivial (.call (.ok ()) trivial
        (.call (.ok 0) trivial (.call (.ok ()) trivial (.done _ _)))))
  exact ⟨_, _, h, rfl, (factory_all_or_nothing_iff _ _ _ _ h).mpr rfl⟩

/-- `UnixDatagram::unbound` when `socket` fails with `EMFILE`: the constructor throws. -/
theorem unbound_terminates : ¬ ∀ (factory : Factory) (files : Fd → Option File)
    (result : Noexcept (Option ErrorCode × List Fd)) (k' : Kernel),
    Run unixEnvironment factory.perform ⟨files, {}⟩ result k' → AllOrNothing k'.log result := by
  intro h
  have hrun : Run unixEnvironment Factory.unbound.perform ⟨fun _ => none, {}⟩ .terminated
      ⟨fun _ => none, {}⟩ := .call (.error ⟨24, by decide⟩) trivial (.done _ _)
  exact h _ _ _ _ hrun

end UnixFactories
