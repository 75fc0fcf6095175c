import Ioxx.Net
import Ioxx.Posix

/-!
# The functions that make TCP and UDP sockets

The `error_code` overloads of `net.cpp` that return a new socket, on POSIX. A socket
is held by a `unique_ptr`, which closes it when it is dropped; a returned object
holds the pointer, or none. A `TcpSocket` builder keeps its socket until `bind` or
`connect` succeeds and passes it on. Memory is never exhausted.
-/

namespace NetFactories

open Core Addresses Posix Programs

/-- A `sockaddr_storage` and its length. -/
abbrev RawAddress := Storage × Nat

abbrev NetProgram (α : Type) := Program RawAddress α

variable (abi : Abi)

/-- The family that the kernel finds in an address. -/
def domainOf (address : RawAddress) : Option Domain :=
  if saFamily abi address.1 = abi.value .inet then some (.ip .inet)
  else if saFamily abi address.1 = abi.value .inet6 then some (.ip .inet6)
  else none

abbrev netEnvironment : Environment (Call RawAddress) Call.Answer Kernel := environment (domainOf abi)

/-- `is_connect_in_progress`. -/
def isConnectInProgress (error : ErrorCode) : Bool :=
  Net.isWouldBlockError .linux error || error.value == EINPROGRESS.val || error.value == EALREADY.val

def closeSocket (fd : Fd) : NetProgram Unit := if fd ≠ -1 then close fd else pure ()

/-- `ec` and the pointer that a function returns. -/
abbrev Made := Option ErrorCode × Option Fd

/-- The socket is dropped, and an error returned. -/
def dropping (fd : Fd) (ec : ErrorCode) : NetProgram Made := do
  closeSocket fd
  return (some ec, none)

/-- `set_close_on_exec` and `set_non_blocking` on a new socket. -/
def prepare (fd : Fd) : NetProgram Made := do
  match ← setCloseOnExec fd with
  | some ec => dropping fd ec
  | none =>
    match ← setNonBlocking fd with
    | some ec => dropping fd ec
    | none => return (none, some fd)

/-- What `make_socket`, `TcpSocket::new_v4` and `TcpSocket::new_v6` share. -/
def openSocket (family : Family) (type : SocketType) (protocol : Protocol) : NetProgram Made := do
  match ← socket (.ip family) type (some protocol) with
  | .error errno => return (some (.ofErrno errno), none)
  | .ok fd => prepare fd

def makeSocket (address : ResolvedAddress) : NetProgram Made :=
  openSocket address.family address.type address.protocol

def newV4 : NetProgram Made := openSocket .inet .stream .tcp
def newV6 : NetProgram Made := openSocket .inet6 .stream .tcp

/-- `try_address`. -/
def tryAddress (endpoint : SocketAddr) (type : SocketType) (protocol : Protocol)
    (action : Fd → ResolvedAddress → NetProgram (Option ErrorCode)) : NetProgram Made := do
  match resolveEndpoint abi endpoint type protocol with
  | (some ec, _) => return (some ec, none)
  | (none, address) =>
    match ← makeSocket address with
    | (some ec, _) => return (some ec, none)
    | (none, none) => return (none, none) -- not reached: no error comes with a socket
    | (none, some fd) =>
      match ← action fd address with
      | some ec => dropping fd ec
      | none => return (none, some fd)

/-- The `connect` call of `TcpStream::connect` and `TcpSocket::connect`. -/
def connectTo (fd : Fd) (address : ResolvedAddress) : NetProgram (Option ErrorCode) := do
  match ← connect fd (address.storage, address.length) with
  | .ok _ => return none
  | .error errno =>
    if isConnectInProgress (.ofErrno errno) = false then return some (.ofErrno errno)
    else return none

def setReuseAddr (fd : Fd) (enabled : Bool) : NetProgram (Option ErrorCode) := do
  match ← setsockoptReuseAddr fd enabled with
  | .error errno => return some (.ofErrno errno)
  | .ok _ => return none

/-- `TcpStream::connect`. -/
def streamConnect (endpoint : SocketAddr) : NetProgram Made :=
  tryAddress abi endpoint .stream .tcp connectTo

/-- `UdpSocket::bind`. -/
def udpBind (endpoint : SocketAddr) : NetProgram Made :=
  tryAddress abi endpoint .dgram .udp fun fd address => do
    match ← setReuseAddr fd true with
    | some ec => return some ec
    | none =>
      match ← bind fd (address.storage, address.length) with
      | .error errno => return some (.ofErrno errno)
      | .ok _ => return none

/-- `require_socket`, with the descriptor of a socket that passes. -/
def requireSocket : Option Fd → Except ErrorCode Fd
  | none => .error .badFileDescriptor
  | some fd => if fd = -1 then .error .badFileDescriptor else .ok fd

/-- `TcpSocket::set_reuseaddr`. -/
def TcpSocket.setReuseaddr (builder : Option Fd) (reuse : Bool) : NetProgram (Option ErrorCode) := do
  match requireSocket builder with
  | .error ec => return some ec
  | .ok fd => setReuseAddr fd reuse

/-- `bind` and `connect` of `TcpSocket` return `ec`, the socket of the new object and
the one that is left in the builder. -/
abbrev Finished := Option ErrorCode × Option Fd × Option Fd

/-- `TcpSocket::bind`. -/
def TcpSocket.bind (builder : Option Fd) (endpoint : SocketAddr) (backlog : Int) :
    NetProgram Finished := do
  match requireSocket builder with
  | .error ec => return (some ec, none, builder)
  | .ok fd =>
    match resolveEndpoint abi endpoint .stream .tcp with
    | (some ec, _) => return (some ec, none, builder)
    | (none, address) =>
      match ← Posix.bind fd (address.storage, address.length) with
      | .error errno => return (some (.ofErrno errno), none, builder)
      | .ok _ =>
        match ← listen fd backlog with
        | .error errno => return (some (.ofErrno errno), none, builder)
        | .ok _ => return (none, builder, none)

/-- `TcpSocket::connect`. -/
def TcpSocket.connect (builder : Option Fd) (endpoint : SocketAddr) : NetProgram Finished := do
  match requireSocket builder with
  | .error ec => return (some ec, none, builder)
  | .ok fd =>
    match resolveEndpoint abi endpoint .stream .tcp with
    | (some ec, _) => return (some ec, none, builder)
    | (none, address) =>
      match ← connectTo fd address with
      | some ec => return (some ec, none, builder)
      | none => return (none, builder, none)

/-- What becomes of a builder that goes out of scope. -/
def dropBuilder : Option Fd → NetProgram Unit
  | none => return ()
  | some fd => closeSocket fd

/-- `TcpListener::bind`. -/
def listenerBind (endpoint : SocketAddr) (backlog : Int) : NetProgram Made := do
  match ← newV4 with
  | (some ec, _) => return (some ec, none)
  | (none, builder) =>
    match ← TcpSocket.setReuseaddr builder true with
    | some ec =>
      dropBuilder builder
      return (some ec, none)
    | none =>
      let (ec, listener, builder) ← TcpSocket.bind abi builder endpoint backlog
      dropBuilder builder
      return (ec, listener)

/-- `TcpListener::accept` of a listener that is not registered. -/
def listenerAccept (listener : Option Fd) :
    NetProgram (Option ErrorCode × Option Fd × SocketAddr) := do
  match requireSocket listener with
  | .error ec => return (some ec, none, default)
  | .ok fd =>
    match ← accept fd with
    | .error errno => return (some (.ofErrno errno), none, default)
    | .ok (accepted, address) =>
      match ← prepare accepted with
      | (some ec, _) => return (some ec, none, default)
      | (none, stream) =>
        match endpointFromSockaddr abi address.1 with
        | (some ec, _) =>
          closeSocket accepted
          return (some ec, none, default)
        | (none, endpoint) => return (none, stream, endpoint)

/-! What the helpers leave behind. -/

variable {abi} {k k' : Kernel} {fd : Fd} {domain : Option Domain}

theorem closeSocket_run {u : Unit} (hfd : 0 ≤ fd)
    (h : Run (netEnvironment abi) (closeSocket fd) k u k') : k' = k.closeFile fd := by
  rw [closeSocket, if_pos (by rintro rfl; exact absurd hfd (by decide))] at h
  exact (called (.close fd) h).2

/-- A socket that was opened by the call is open, has both flags, and is not closed. -/
structure Holds (domain : Option Domain) (fd : Fd) (k : Kernel) : Prop where
  nonneg : 0 ≤ fd
  file : k.files fd = some ⟨domain, true, true⟩
  opened : k.log.opened = [fd]
  closed : k.log.closed = []

theorem Holds.addressed {of : Option Domain} (h : Holds domain fd k) :
    Holds domain fd (k.addressed fd of) :=
  ⟨h.nonneg, h.file, h.opened, h.closed⟩

/-- Whatever the call opened is closed. -/
def NothingHeld (k : Kernel) : Prop :=
  k.log.closed = k.log.opened ∧ k.log.opened.Nodup

/-- A function returns a socket of the domain, or an error and nothing. -/
def Settled (domain : Option Domain) (k' : Kernel) (made : Made) : Prop :=
  (∃ fd, made = (none, some fd) ∧ Holds domain fd k') ∨
  (∃ ec, made = (some ec, none) ∧ NothingHeld k')

theorem nothingHeld_of_empty (h : k.log = {}) : NothingHeld k := by
  simp [NothingHeld, h]

theorem dropping_run {ec : ErrorCode} {made : Made} (hfd : 0 ≤ fd) (hopened : k.log.opened = [fd])
    (hclosed : k.log.closed = []) (h : Run (netEnvironment abi) (dropping fd ec) k made k') :
    made = (some ec, none) ∧ NothingHeld k' ∧ k'.log.addressed = k.log.addressed := by
  obtain ⟨u, k₁, hclose, h⟩ := run_bind.mp h
  obtain rfl := closeSocket_run hfd hclose
  obtain ⟨rfl, rfl⟩ := run_pure.mp h
  exact ⟨rfl, by simp [NothingHeld, Kernel.closeFile, hopened, hclosed], rfl⟩

/-- A new socket gets both flags, or is dropped. -/
theorem prepare_run {made : Made} (hlog : k.log = {}) (hfd : 0 ≤ fd)
    (h : Run (netEnvironment abi) (prepare fd) (k.openFile domain fd) made k') :
    ((made = (none, some fd) ∧ Holds domain fd k') ∨
      (∃ ec, made = (some ec, none) ∧ NothingHeld k')) ∧ k'.log.addressed = [] := by
  obtain ⟨ec, k₁, hexec, h⟩ := run_bind.mp h
  rcases setCloseOnExec_run hexec with ⟨rfl, rfl⟩ | ⟨errno, rfl, rfl⟩
  · obtain ⟨ec, k₂, hblocking, h⟩ := run_bind.mp h
    rcases setNonBlocking_run hblocking with ⟨rfl, rfl⟩ | ⟨errno, rfl, rfl⟩
    · obtain ⟨rfl, rfl⟩ := run_pure.mp h
      refine ⟨.inl ⟨rfl, hfd, ?_, ?_, ?_⟩, ?_⟩
      all_goals simp [Kernel.setFile, Kernel.openFile, hlog]
    · obtain ⟨rfl, hheld, haddressed⟩ := dropping_run hfd
        (by simp [Kernel.refuse, Kernel.setFile, Kernel.openFile, hlog])
        (by simp [Kernel.refuse, Kernel.setFile, Kernel.openFile, hlog]) h
      refine ⟨.inr ⟨_, rfl, hheld⟩, ?_⟩
      simp [haddressed, Kernel.refuse, Kernel.setFile, Kernel.openFile, hlog]
  · obtain ⟨rfl, hheld, haddressed⟩ := dropping_run hfd
      (by simp [Kernel.refuse, Kernel.openFile, hlog])
      (by simp [Kernel.refuse, Kernel.openFile, hlog]) h
    refine ⟨.inr ⟨_, rfl, hheld⟩, ?_⟩
    simp [haddressed, Kernel.refuse, Kernel.openFile, hlog]

theorem openSocket_run {family : Family} {type : SocketType} {protocol : Protocol} {made : Made}
    (hlog : k.log = {}) (h : Run (netEnvironment abi) (openSocket family type protocol) k made k') :
    Settled (some (.ip family)) k' made ∧ k'.log.addressed = [] := by
  obtain ⟨answer, k₁, hsocket, h⟩ := run_bind.mp h
  obtain ⟨hanswer, rfl⟩ := called (.socket (.ip family) type (some protocol)) hsocket
  cases answer with
  | error errno =>
    obtain ⟨rfl, rfl⟩ := run_pure.mp h
    exact ⟨.inr ⟨_, rfl, nothingHeld_of_empty hlog⟩, by simp [hlog]⟩
  | ok fd =>
    obtain ⟨⟨rfl, hholds⟩ | hfailed, haddressed⟩ := prepare_run hlog hanswer.1 h
    · exact ⟨.inl ⟨fd, rfl, hholds⟩, haddressed⟩
    · exact ⟨.inr hfailed, haddressed⟩

theorem domainOf_encode (endpoint : SocketAddr) (length : Nat) :
    domainOf abi (encode abi endpoint, length) = some (.ip endpoint.family) := by
  rw [domainOf, saFamily_encode]
  cases endpoint.family with
  | inet => exact if_pos rfl
  | inet6 => rw [if_neg (Ne.symm abi.differ), if_pos rfl]

/-- All addresses that were passed were passed for a socket of the domain, and are `of` it. -/
def Passed (domain of : Option Domain) (k : Kernel) : Prop :=
  ∀ pair ∈ k.log.addressed, pair = (domain, of)

theorem passed_nil {of : Option Domain} (h : k.log.addressed = []) : Passed domain of k := by
  simp [Passed, h]

/-- One call passes the address for a socket that is held. -/
theorem Holds.passed {of : Option Domain} (hholds : Holds domain fd k) (h : Passed domain of k) :
    Passed domain of (k.addressed fd of) := by
  simp only [Passed, Kernel.addressed, hholds.file, List.mem_cons]
  rintro pair (rfl | hpair)
  · rfl
  · exact h pair hpair

theorem connectTo_run {address : ResolvedAddress} {ec : Option ErrorCode}
    (h : Run (netEnvironment abi) (connectTo fd address) k ec k') :
    k' = k.addressed fd (domainOf abi (address.storage, address.length)) := by
  obtain ⟨answer, k₁, hconnect, h⟩ := run_bind.mp h
  obtain ⟨-, rfl⟩ := called (.connect fd (address.storage, address.length)) hconnect
  cases answer with
  | ok u => exact (run_pure.mp h).2
  | error errno =>
    by_cases hprogress : isConnectInProgress (.ofErrno errno) = false
    · simp only [hprogress, if_true] at h
      exact (run_pure.mp h).2
    · simp only [hprogress] at h
      exact (run_pure.mp h).2

theorem setReuseAddr_run {enabled : Bool} {ec : Option ErrorCode}
    (h : Run (netEnvironment abi) (setReuseAddr fd enabled) k ec k') : k' = k := by
  obtain ⟨answer, k₁, hset, h⟩ := run_bind.mp h
  obtain ⟨-, rfl⟩ := called (.setReuseAddr fd enabled) hset
  cases answer <;> exact (run_pure.mp h).2

/-- A socket that an action keeps is returned or dropped by `try_address`. -/
theorem tryAddress_run {endpoint : SocketAddr} {type : SocketType} {protocol : Protocol}
    {action : Fd → ResolvedAddress → NetProgram (Option ErrorCode)} {made : Made} (hlog : k.log = {})
    (haction : ∀ {fd k ec k'} (address : ResolvedAddress),
      Run (netEnvironment abi) (action fd address) k ec k' →
      k' = k ∨ k' = k.addressed fd (domainOf abi (address.storage, address.length)))
    (h : Run (netEnvironment abi) (tryAddress abi endpoint type protocol action) k made k') :
    Settled (some (.ip endpoint.family)) k' made ∧
      Passed (some (.ip endpoint.family)) (some (.ip endpoint.family)) k' := by
  obtain ⟨opened, k₁, hopen, h⟩ := run_bind.mp h
  obtain ⟨⟨fd, rfl, hholds⟩ | ⟨ec, rfl, hheld⟩, haddressed⟩ := openSocket_run hlog hopen
  · obtain ⟨ec, k₂, hrun, h⟩ := run_bind.mp h
    have hkept : Holds (some (.ip endpoint.family)) fd k₂ ∧
        Passed (some (.ip endpoint.family)) (some (.ip endpoint.family)) k₂ := by
      rcases haction _ hrun with rfl | rfl
      · exact ⟨hholds, passed_nil haddressed⟩
      · rw [domainOf_encode]
        exact ⟨hholds.addressed, hholds.passed (passed_nil haddressed)⟩
    cases ec with
    | some ec =>
      obtain ⟨rfl, hheld, hsame⟩ := dropping_run hkept.1.nonneg hkept.1.opened hkept.1.closed h
      refine ⟨.inr ⟨_, rfl, hheld⟩, ?_⟩
      rw [Passed, hsame]
      exact hkept.2
    | none =>
      obtain ⟨rfl, rfl⟩ := run_pure.mp h
      exact ⟨.inl ⟨fd, rfl, hkept.1⟩, hkept.2⟩
  · obtain ⟨rfl, rfl⟩ := run_pure.mp h
    exact ⟨.inr ⟨_, rfl, hheld⟩, passed_nil haddressed⟩

theorem streamConnect_run {endpoint : SocketAddr} {made : Made} (hlog : k.log = {})
    (h : Run (netEnvironment abi) (streamConnect abi endpoint) k made k') :
    Settled (some (.ip endpoint.family)) k' made ∧
      Passed (some (.ip endpoint.family)) (some (.ip endpoint.family)) k' :=
  tryAddress_run hlog (fun _ hconnect => .inr (connectTo_run hconnect)) h

theorem udpBind_run {endpoint : SocketAddr} {made : Made} (hlog : k.log = {})
    (h : Run (netEnvironment abi) (udpBind abi endpoint) k made k') :
    Settled (some (.ip endpoint.family)) k' made ∧
      Passed (some (.ip endpoint.family)) (some (.ip endpoint.family)) k' := by
  refine tryAddress_run hlog (fun {fd k ec k'} address hrun => ?_) h
  obtain ⟨ec₁, k₁, hreuse, hrun⟩ := run_bind.mp hrun
  obtain rfl := setReuseAddr_run hreuse
  cases ec₁ with
  | some ec => exact .inl (run_pure.mp hrun).2
  | none =>
    obtain ⟨answer, k₂, hbind, hrun⟩ := run_bind.mp hrun
    obtain ⟨-, rfl⟩ := called (.bind fd (address.storage, address.length)) hbind
    cases answer <;> exact .inr (run_pure.mp hrun).2

/-! The builder. -/

theorem requireSocket_cases (socket : Option Fd) :
    requireSocket socket = .error .badFileDescriptor ∨
    (∃ fd, socket = some fd ∧ requireSocket socket = .ok fd) := by
  cases socket with
  | none => exact .inl rfl
  | some fd =>
    by_cases hfd : fd = -1
    · exact .inl (if_pos hfd)
    · exact .inr ⟨fd, rfl, if_neg hfd⟩

theorem addressed_encode (endpoint : SocketAddr) (length : Nat) :
    k.addressed fd (domainOf abi (encode abi endpoint, length)) =
      k.addressed fd (some (.ip endpoint.family)) := by
  rw [domainOf_encode]

/-- `bind` and `connect` of a builder pass at most one address, and then either fail
and leave the socket, or pass it on. -/
def Finishes (builder : Option Fd) (endpoint : SocketAddr) (k k' : Kernel) (finished : Finished) : Prop :=
  (k' = k ∨ (∃ fd, builder = some fd ∧ k' = k.addressed fd (some (.ip endpoint.family)))) ∧
  ((∃ ec, finished = (some ec, none, builder)) ∨
    (∃ fd, builder = some fd ∧ finished = (none, some fd, none)))

theorem bind_run {builder : Option Fd} {endpoint : SocketAddr} {backlog : Int} {finished : Finished}
    (h : Run (netEnvironment abi) (TcpSocket.bind abi builder endpoint backlog) k finished k') :
    Finishes builder endpoint k k' finished := by
  rw [TcpSocket.bind] at h
  rcases requireSocket_cases builder with hrequire | ⟨fd, rfl, hrequire⟩
  · simp only [hrequire] at h
    obtain ⟨rfl, rfl⟩ := run_pure.mp h
    exact ⟨.inl rfl, .inl ⟨_, rfl⟩⟩
  · simp only [hrequire] at h
    obtain ⟨bound, k₁, hbind, h⟩ := run_bind.mp h
    obtain ⟨-, rfl⟩ := called (.bind fd (encode abi endpoint, sockaddrSize endpoint.family)) hbind
    cases bound with
    | error errno =>
      obtain ⟨rfl, rfl⟩ := run_pure.mp h
      exact ⟨.inr ⟨fd, rfl, addressed_encode endpoint _⟩, .inl ⟨_, rfl⟩⟩
    | ok u =>
      obtain ⟨listening, k₂, hlisten, h⟩ := run_bind.mp h
      obtain ⟨-, rfl⟩ := called (.listen fd backlog) hlisten
      cases listening with
      | error errno =>
        obtain ⟨rfl, rfl⟩ := run_pure.mp h
        exact ⟨.inr ⟨fd, rfl, addressed_encode endpoint _⟩, .inl ⟨_, rfl⟩⟩
      | ok u =>
        obtain ⟨rfl, rfl⟩ := run_pure.mp h
        exact ⟨.inr ⟨fd, rfl, addressed_encode endpoint _⟩, .inr ⟨fd, rfl, rfl⟩⟩

theorem connect_run {builder : Option Fd} {endpoint : SocketAddr} {finished : Finished}
    (h : Run (netEnvironment abi) (TcpSocket.connect abi builder endpoint) k finished k') :
    Finishes builder endpoint k k' finished := by
  rw [TcpSocket.connect] at h
  rcases requireSocket_cases builder with hrequire | ⟨fd, rfl, hrequire⟩
  · simp only [hrequire] at h
    obtain ⟨rfl, rfl⟩ := run_pure.mp h
    exact ⟨.inl rfl, .inl ⟨_, rfl⟩⟩
  · simp only [hrequire] at h
    obtain ⟨ec, k₁, hconnect, h⟩ := run_bind.mp h
    obtain rfl := connectTo_run hconnect
    cases ec with
    | some ec =>
      obtain ⟨rfl, rfl⟩ := run_pure.mp h
      exact ⟨.inr ⟨fd, rfl, addressed_encode endpoint _⟩, .inl ⟨_, rfl⟩⟩
    | none =>
      obtain ⟨rfl, rfl⟩ := run_pure.mp h
      exact ⟨.inr ⟨fd, rfl, addressed_encode endpoint _⟩, .inr ⟨fd, rfl, rfl⟩⟩

theorem setReuseaddr_run {builder : Option Fd} {reuse : Bool} {ec : Option ErrorCode}
    (h : Run (netEnvironment abi) (TcpSocket.setReuseaddr builder reuse) k ec k') : k' = k := by
  rw [TcpSocket.setReuseaddr] at h
  rcases requireSocket_cases builder with hrequire | ⟨fd, rfl, hrequire⟩
  · simp only [hrequire] at h
    exact (run_pure.mp h).2
  · simp only [hrequire] at h
    exact setReuseAddr_run h

/-- The builder of `TcpListener::bind` is always one of IPv4. -/
theorem listenerBind_run {endpoint : SocketAddr} {backlog : Int} {made : Made} (hlog : k.log = {})
    (h : Run (netEnvironment abi) (listenerBind abi endpoint backlog) k made k') :
    Settled (some (.ip .inet)) k' made ∧ Passed (some (.ip .inet)) (some (.ip endpoint.family)) k' := by
  obtain ⟨opened, k₁, hopen, h⟩ := run_bind.mp h
  obtain ⟨⟨fd, rfl, hholds⟩ | ⟨ec, rfl, hheld⟩, haddressed⟩ := openSocket_run hlog hopen
  · obtain ⟨ec, k₂, hreuse, h⟩ := run_bind.mp h
    obtain rfl := setReuseaddr_run hreuse
    cases ec with
    | some ec =>
      obtain ⟨rfl, hheld, hsame⟩ := dropping_run hholds.nonneg hholds.opened hholds.closed h
      exact ⟨.inr ⟨_, rfl, hheld⟩, passed_nil (hsame.trans haddressed)⟩
    | none =>
      obtain ⟨finished, k₃, hbind, h⟩ := run_bind.mp h
      obtain ⟨hkernel, hfinished⟩ := bind_run hbind
      have hkept : Holds (some (.ip .inet)) fd k₃ ∧ Passed (some (.ip .inet)) (some (.ip endpoint.family)) k₃ := by
        rcases hkernel with rfl | ⟨fd', hfd', rfl⟩
        · exact ⟨hholds, passed_nil haddressed⟩
        · obtain rfl := Option.some.inj hfd'
          exact ⟨hholds.addressed, hholds.passed (passed_nil haddressed)⟩
      rcases hfinished with ⟨ec, rfl⟩ | ⟨fd', hfd', rfl⟩
      · obtain ⟨rfl, hheld, hsame⟩ := dropping_run hkept.1.nonneg hkept.1.opened hkept.1.closed h
        refine ⟨.inr ⟨_, rfl, hheld⟩, ?_⟩
        rw [Passed, hsame]
        exact hkept.2
      · obtain rfl := Option.some.inj hfd'
        obtain ⟨rfl, rfl⟩ := run_pure.mp h
        exact ⟨.inl ⟨fd, rfl, hkept.1⟩, hkept.2⟩
  · obtain ⟨rfl, rfl⟩ := run_pure.mp h
    exact ⟨.inr ⟨_, rfl, hheld⟩, passed_nil haddressed⟩

theorem listenerAccept_run {listener : Option Fd}
    {result : Option ErrorCode × Option Fd × SocketAddr} (hlog : k.log = {})
    (h : Run (netEnvironment abi) (listenerAccept abi listener) k result k') :
    ∃ domain, Settled domain k' (result.1, result.2.1) := by
  rw [listenerAccept] at h
  rcases requireSocket_cases listener with hrequire | ⟨fd, rfl, hrequire⟩
  · simp only [hrequire] at h
    obtain ⟨rfl, rfl⟩ := run_pure.mp h
    exact ⟨none, .inr ⟨_, rfl, nothingHeld_of_empty hlog⟩⟩
  · simp only [hrequire] at h
    obtain ⟨answer, k₁, haccept, h⟩ := run_bind.mp h
    obtain ⟨hanswer, rfl⟩ := called (.accept fd) haccept
    cases answer with
    | error errno =>
      obtain ⟨rfl, rfl⟩ := run_pure.mp h
      exact ⟨none, .inr ⟨_, rfl, nothingHeld_of_empty hlog⟩⟩
    | ok accepted =>
      obtain ⟨made, k₂, hprepare, h⟩ := run_bind.mp h
      refine ⟨(k.files fd).bind File.domain, ?_⟩
      obtain ⟨⟨rfl, hholds⟩ | ⟨ec, rfl, hheld⟩, -⟩ := prepare_run hlog hanswer.1 hprepare
      · rcases hpeer : endpointFromSockaddr abi accepted.2.1 with ⟨_ | ec, endpoint⟩
        · simp only [hpeer] at h
          obtain ⟨rfl, rfl⟩ := run_pure.mp h
          exact .inl ⟨_, rfl, hholds⟩
        · simp only [hpeer] at h
          obtain ⟨u, k₃, hclose, h⟩ := run_bind.mp h
          obtain rfl := closeSocket_run hholds.nonneg hclose
          obtain ⟨rfl, rfl⟩ := run_pure.mp h
          refine .inr ⟨_, rfl, ?_⟩
          simp [NothingHeld, Kernel.closeFile, hholds.opened, hholds.closed]
      · obtain ⟨rfl, rfl⟩ := run_pure.mp h
        exact .inr ⟨_, rfl, hheld⟩

/-! The functions as a family, and the builders that a program can have. -/

inductive Factory where
  | streamConnect (endpoint : SocketAddr)
  | listenerBind (endpoint : SocketAddr) (backlog : Int)
  | listenerAccept (listener : Option Fd)
  | udpBind (endpoint : SocketAddr)
  | newV4
  | newV6

def Factory.perform (abi : Abi) : Factory → NetProgram Made
  | .streamConnect endpoint => NetFactories.streamConnect abi endpoint
  | .listenerBind endpoint backlog => NetFactories.listenerBind abi endpoint backlog
  | .listenerAccept listener => do
    let (ec, stream, _) ← NetFactories.listenerAccept abi listener
    return (ec, stream)
  | .udpBind endpoint => NetFactories.udpBind abi endpoint
  | .newV4 => NetFactories.newV4
  | .newV6 => NetFactories.newV6

/-- The last call on a builder. -/
inductive Finish where
  | bind (endpoint : SocketAddr) (backlog : Int)
  | connect (endpoint : SocketAddr)

def Finish.perform (abi : Abi) (builder : Option Fd) : Finish → NetProgram Finished
  | .bind endpoint backlog => TcpSocket.bind abi builder endpoint backlog
  | .connect endpoint => TcpSocket.connect abi builder endpoint

/-- A builder starts with `new_v4` or `new_v6`. Everything else that happens in the
process, the other setters included, leaves its descriptor as it is. -/
inductive Builder (abi : Abi) : Kernel → Option Fd → Prop where
  | newV4 {files : Fd → Option File} {made : Made} {k' : Kernel}
      (h : Run (netEnvironment abi) newV4 ⟨files, {}⟩ made k') : Builder abi k' made.2
  | newV6 {files : Fd → Option File} {made : Made} {k' : Kernel}
      (h : Run (netEnvironment abi) newV6 ⟨files, {}⟩ made k') : Builder abi k' made.2
  | setReuseaddr {k k' : Kernel} {builder : Option Fd} {reuse : Bool} {ec : Option ErrorCode}
      (before : Builder abi k builder)
      (h : Run (netEnvironment abi) (TcpSocket.setReuseaddr builder reuse) k ec k') :
      Builder abi k' builder
  | finish {k k' : Kernel} {builder : Option Fd} {finished : Finished} (before : Builder abi k builder)
      (f : Finish) (h : Run (netEnvironment abi) (f.perform abi builder) k finished k') :
      Builder abi k' finished.2.2
  | elsewhere {k k' : Kernel} {builder : Option Fd} (before : Builder abi k builder)
      (h : ∀ fd ∈ builder, k'.files fd = k.files fd) : Builder abi k' builder

/-- The descriptor is valid and open, with both flags. -/
def Usable (k : Kernel) (fd : Fd) : Prop := 0 ≤ fd ∧ ∃ domain, k.files fd = some ⟨domain, true, true⟩

theorem Holds.usable (h : Holds domain fd k) : Usable k fd := ⟨h.nonneg, domain, h.file⟩

theorem Settled.usable {made : Made} (h : Settled domain k made) : ∀ fd ∈ made.2, Usable k fd := by
  rcases h with ⟨fd, rfl, hholds⟩ | ⟨ec, rfl, -⟩
  · intro fd' hfd'
    obtain rfl := Option.some.inj hfd'
    exact hholds.usable
  · intro fd hfd
    cases hfd

theorem finish_run {builder : Option Fd} {finish : Finish} {finished : Finished}
    (h : Run (netEnvironment abi) (finish.perform abi builder) k finished k') :
    ∃ endpoint, Finishes builder endpoint k k' finished := by
  cases finish with
  | bind endpoint backlog => exact ⟨endpoint, bind_run h⟩
  | connect endpoint => exact ⟨endpoint, connect_run h⟩

/-- A builder's calls change no descriptor. -/
theorem Finishes.files {builder : Option Fd} {endpoint : SocketAddr} {finished : Finished}
    (h : Finishes builder endpoint k k' finished) : k'.files = k.files := by
  rcases h.1 with rfl | ⟨fd, -, rfl⟩
  · rfl
  · rfl

theorem Builder.usable {builder : Option Fd} (h : Builder abi k builder) :
    ∀ fd ∈ builder, Usable k fd := by
  induction h with
  | newV4 h => exact (openSocket_run rfl h).1.usable
  | newV6 h => exact (openSocket_run rfl h).1.usable
  | setReuseaddr before h ih =>
    obtain rfl := setReuseaddr_run h
    exact ih
  | finish before f h ih =>
    obtain ⟨endpoint, hfinishes⟩ := finish_run h
    intro fd hfd
    rw [Usable, hfinishes.files]
    rcases hfinishes.2 with ⟨ec, rfl⟩ | ⟨fd', -, rfl⟩
    · exact ih fd hfd
    · cases hfd
  | elsewhere before h ih =>
    intro fd hfd
    rw [Usable, h fd hfd]
    exact ih fd hfd

/-- A function that starts with the descriptor `before` ends with an error exactly if
it returns no socket, returns a usable one, and passes on or closes once every
descriptor it had or opened; `after` is what is left in a builder. -/
structure AllOrNothing (before : Option Fd) (k' : Kernel) (ec : Option ErrorCode)
    (object after : Option Fd) : Prop where
  clear_iff : ec = none ↔ object.isSome
  usable : ∀ fd ∈ object, Usable k' fd
  owned : (before.toList ++ k'.log.opened).Perm (object.toList ++ after.toList ++ k'.log.closed)
  once : (before.toList ++ k'.log.opened).Nodup

theorem Settled.allOrNothing {made : Made} (h : Settled domain k' made) :
    AllOrNothing none k' made.1 made.2 none := by
  refine ⟨?_, h.usable, ?_, ?_⟩
  all_goals rcases h with ⟨fd, rfl, hholds⟩ | ⟨ec, rfl, hclosed, hnodup⟩
  · simp
  · simp
  · simp [hholds.opened, hholds.closed]
  · simp [hclosed]
  · simp [hholds.opened]
  · simpa using hnodup

theorem factory_run {factory : Factory} {made : Made} (hlog : k.log = {})
    (h : Run (netEnvironment abi) (factory.perform abi) k made k') :
    ∃ domain, Settled domain k' made := by
  cases factory with
  | streamConnect endpoint => exact ⟨_, (streamConnect_run hlog h).1⟩
  | listenerBind endpoint backlog => exact ⟨_, (listenerBind_run hlog h).1⟩
  | listenerAccept listener =>
    obtain ⟨result, k₁, haccept, h⟩ := run_bind.mp h
    obtain ⟨rfl, rfl⟩ := run_pure.mp h
    exact listenerAccept_run hlog haccept
  | udpBind endpoint => exact ⟨_, (udpBind_run hlog h).1⟩
  | newV4 => exact ⟨_, (openSocket_run hlog h).1⟩
  | newV6 => exact ⟨_, (openSocket_run hlog h).1⟩

theorem Finishes.allOrNothing {builder : Option Fd} {endpoint : SocketAddr} {finished : Finished}
    (husable : ∀ fd ∈ builder, Usable k fd) (hlog : k.log = {})
    (h : Finishes builder endpoint k k' finished) :
    AllOrNothing builder k' finished.1 finished.2.1 finished.2.2 := by
  have hopened : k'.log.opened = [] ∧ k'.log.closed = [] := by
    rcases h.1 with rfl | ⟨fd, -, rfl⟩
    · simp [hlog]
    · simp [Kernel.addressed, hlog]
  have hfiles := h.files
  rcases h.2 with ⟨ec, rfl⟩ | ⟨fd, rfl, rfl⟩
  · refine ⟨by simp, by simp, by simp [hopened], ?_⟩
    cases builder <;> simp [hopened]
  · refine ⟨by simp, ?_, by simp [hopened], by simp [hopened]⟩
    intro fd' hfd'
    rw [Usable, hfiles]
    exact husable fd' hfd'

/-- The calls that give a socket its address or its peer. -/
inductive Stage where
  | bind
  | listen
  | connect
  deriving DecidableEq, Repr

def Factory.stages : Factory → List Stage
  | .streamConnect _ => [.connect]
  | .listenerBind .. => [.bind, .listen]
  | .udpBind _ => [.bind]
  | _ => []

def Finish.stages : Finish → List Stage
  | .bind .. => [.bind, .listen]
  | .connect _ => [.connect]

/-- A system in which every call of the stage fails; a `connect` in progress has not failed. -/
def Failing (stage : Stage) (_ : Kernel) : (c : Call RawAddress) → c.Answer → Prop
  | .bind .., .ok _ => stage ≠ .bind
  | .listen .., .ok _ => stage ≠ .listen
  | .connect .., .ok _ => stage ≠ .connect
  | .connect .., .error errno => stage = .connect → isConnectInProgress (.ofErrno errno) = false
  | _, _ => True

/-- A system in which every `connect` is in progress. -/
def Connecting (_ : Kernel) : (c : Call RawAddress) → c.Answer → Prop
  | .connect .., .ok _ => False
  | .connect .., .error errno => isConnectInProgress (.ofErrno errno) = true
  | _, _ => True

section Failed

variable {stage : Stage} {may : Kernel → (c : Call RawAddress) → c.Answer → Prop}

/-- The answer to a call of a restricted system. -/
theorem permitted (c : Call RawAddress) {answer : c.Answer}
    (h : Run ((netEnvironment abi).restrict may) (perform c) k answer k') : may k c answer :=
  (run_perform.mp h).1.2

theorem connectTo_fails {address : ResolvedAddress} {ec : Option ErrorCode}
    (h : Run ((netEnvironment abi).restrict (Failing .connect)) (connectTo fd address) k ec k') :
    ec ≠ none := by
  obtain ⟨answer, k₁, hconnect, h⟩ := run_bind.mp h
  have hfailing := permitted (.connect fd (address.storage, address.length)) hconnect
  cases answer with
  | ok u => exact absurd rfl hfailing
  | error errno =>
    have hover : isConnectInProgress (.ofErrno errno) = false := hfailing rfl
    simp only [hover, if_true] at h
    obtain ⟨rfl, -⟩ := run_pure.mp h
    exact Option.some_ne_none _

/-- `try_address` fails if its action does. -/
theorem tryAddress_fails {endpoint : SocketAddr} {type : SocketType} {protocol : Protocol}
    {action : Fd → ResolvedAddress → NetProgram (Option ErrorCode)} {made : Made} (hlog : k.log = {})
    (haction : ∀ {fd k ec k'} (address : ResolvedAddress),
      Run ((netEnvironment abi).restrict may) (action fd address) k ec k' → ec ≠ none)
    (h : Run ((netEnvironment abi).restrict may) (tryAddress abi endpoint type protocol action) k made k') :
    made.1 ≠ none := by
  obtain ⟨opened, k₁, hopen, h⟩ := run_bind.mp h
  obtain ⟨⟨fd, rfl, hholds⟩ | ⟨ec, rfl, -⟩, -⟩ := openSocket_run hlog hopen.of_restrict
  · obtain ⟨ec, k₂, hrun, h⟩ := run_bind.mp h
    cases ec with
    | none => exact absurd rfl (haction _ hrun)
    | some ec =>
      obtain ⟨u, k₃, -, h⟩ := run_bind.mp h
      obtain ⟨rfl, -⟩ := run_pure.mp h
      exact Option.some_ne_none _
  · obtain ⟨rfl, -⟩ := run_pure.mp h
    exact Option.some_ne_none _

theorem udpBind_fails {endpoint : SocketAddr} {made : Made} (hlog : k.log = {})
    (h : Run ((netEnvironment abi).restrict (Failing .bind)) (udpBind abi endpoint) k made k') :
    made.1 ≠ none := by
  refine tryAddress_fails hlog (fun {fd k ec k'} address hrun => ?_) h
  obtain ⟨ec₁, k₁, -, hrun⟩ := run_bind.mp hrun
  cases ec₁ with
  | some ec =>
    obtain ⟨rfl, -⟩ := run_pure.mp hrun
    exact Option.some_ne_none _
  | none =>
    obtain ⟨answer, k₂, hbind, hrun⟩ := run_bind.mp hrun
    cases answer with
    | ok u => exact absurd rfl (permitted (.bind fd (address.storage, address.length)) hbind)
    | error errno =>
      obtain ⟨rfl, -⟩ := run_pure.mp hrun
      exact Option.some_ne_none _

theorem bind_fails {builder : Option Fd} {endpoint : SocketAddr} {backlog : Int} {finished : Finished}
    (hstage : stage ∈ (Finish.bind endpoint backlog).stages)
    (h : Run ((netEnvironment abi).restrict (Failing stage)) (TcpSocket.bind abi builder endpoint backlog)
      k finished k') : finished.1 ≠ none := by
  rw [TcpSocket.bind] at h
  rcases requireSocket_cases builder with hrequire | ⟨fd, rfl, hrequire⟩
  · simp only [hrequire] at h
    obtain ⟨rfl, -⟩ := run_pure.mp h
    exact Option.some_ne_none _
  · simp only [hrequire] at h
    obtain ⟨bound, k₁, hbind, h⟩ := run_bind.mp h
    cases bound with
    | error errno =>
      obtain ⟨rfl, -⟩ := run_pure.mp h
      exact Option.some_ne_none _
    | ok u =>
      have hbound : stage ≠ .bind :=
        permitted (.bind fd (encode abi endpoint, sockaddrSize endpoint.family)) hbind
      obtain ⟨listening, k₂, hlisten, h⟩ := run_bind.mp h
      cases listening with
      | error errno =>
        obtain ⟨rfl, -⟩ := run_pure.mp h
        exact Option.some_ne_none _
      | ok u =>
        have hlistening : stage ≠ .listen := permitted (.listen fd backlog) hlisten
        cases stage with
        | bind => exact absurd rfl hbound
        | listen => exact absurd rfl hlistening
        | connect => simp [Finish.stages] at hstage

theorem listenerBind_fails {endpoint : SocketAddr} {backlog : Int} {made : Made}
    (hstage : stage ∈ (Finish.bind endpoint backlog).stages) (hlog : k.log = {})
    (h : Run ((netEnvironment abi).restrict (Failing stage)) (listenerBind abi endpoint backlog) k made k') :
    made.1 ≠ none := by
  obtain ⟨opened, k₁, hopen, h⟩ := run_bind.mp h
  obtain ⟨⟨fd, rfl, -⟩ | ⟨ec, rfl, -⟩, -⟩ := openSocket_run hlog hopen.of_restrict
  · obtain ⟨ec, k₂, -, h⟩ := run_bind.mp h
    cases ec with
    | some ec =>
      obtain ⟨u, k₃, -, h⟩ := run_bind.mp h
      obtain ⟨rfl, -⟩ := run_pure.mp h
      exact Option.some_ne_none _
    | none =>
      obtain ⟨finished, k₃, hbind, h⟩ := run_bind.mp h
      have hfailed := bind_fails hstage hbind
      obtain ⟨u, k₄, -, h⟩ := run_bind.mp h
      obtain ⟨rfl, -⟩ := run_pure.mp h
      exact hfailed
  · obtain ⟨rfl, -⟩ := run_pure.mp h
    exact Option.some_ne_none _

theorem connect_fails {builder : Option Fd} {endpoint : SocketAddr} {finished : Finished}
    (h : Run ((netEnvironment abi).restrict (Failing .connect)) (TcpSocket.connect abi builder endpoint)
      k finished k') : finished.1 ≠ none := by
  rw [TcpSocket.connect] at h
  rcases requireSocket_cases builder with hrequire | ⟨fd, rfl, hrequire⟩
  · simp only [hrequire] at h
    obtain ⟨rfl, -⟩ := run_pure.mp h
    exact Option.some_ne_none _
  · simp only [hrequire] at h
    obtain ⟨ec, k₁, hconnect, h⟩ := run_bind.mp h
    cases ec with
    | none => exact absurd rfl (connectTo_fails hconnect)
    | some ec =>
      obtain ⟨rfl, -⟩ := run_pure.mp h
      exact Option.some_ne_none _

/-- A function fails if a call fails by which its socket gets an address or a peer. -/
theorem factory_fails {factory : Factory} {made : Made} (hstage : stage ∈ factory.stages)
    (hlog : k.log = {})
    (h : Run ((netEnvironment abi).restrict (Failing stage)) (factory.perform abi) k made k') :
    made.1 ≠ none := by
  cases factory with
  | streamConnect endpoint =>
    obtain rfl := List.mem_singleton.mp hstage
    exact tryAddress_fails hlog (fun _ hconnect => connectTo_fails hconnect) h
  | udpBind endpoint =>
    obtain rfl := List.mem_singleton.mp hstage
    exact udpBind_fails hlog h
  | listenerBind endpoint backlog =>
    have hbinding : stage ∈ (Finish.bind endpoint backlog).stages := hstage
    exact listenerBind_fails hbinding hlog h
  | listenerAccept listener => exact absurd hstage List.not_mem_nil
  | newV4 => exact absurd hstage List.not_mem_nil
  | newV6 => exact absurd hstage List.not_mem_nil

theorem finish_fails {finish : Finish} {builder : Option Fd} {finished : Finished}
    (hstage : stage ∈ finish.stages)
    (h : Run ((netEnvironment abi).restrict (Failing stage)) (finish.perform abi builder) k finished k') :
    finished.1 ≠ none := by
  cases finish with
  | bind endpoint backlog => exact bind_fails hstage h
  | connect endpoint =>
    obtain rfl := List.mem_singleton.mp hstage
    exact connect_fails h

/-- A connect in progress passes the socket on. -/
theorem connect_progresses {endpoint : SocketAddr} {finished : Finished} (hfd : 0 ≤ fd)
    (h : Run ((netEnvironment abi).restrict Connecting) (TcpSocket.connect abi (some fd) endpoint)
      k finished k') : finished = (none, some fd, none) := by
  have hvalid : requireSocket (some fd) = .ok fd := if_neg (by rintro rfl; exact absurd hfd (by decide))
  rw [TcpSocket.connect, hvalid] at h
  obtain ⟨ec, k₁, hconnect, h⟩ := run_bind.mp h
  obtain ⟨answer, k₂, hanswer, hend⟩ := run_bind.mp hconnect
  have hconnecting := permitted (.connect fd (encode abi endpoint, sockaddrSize endpoint.family)) hanswer
  cases answer with
  | ok u => exact absurd hconnecting id
  | error errno =>
    have hprogress : isConnectInProgress (.ofErrno errno) = true := hconnecting
    simp only [hprogress] at hend
    obtain ⟨rfl, -⟩ := run_pure.mp hend
    exact (run_pure.mp h).1

end Failed

/-- Whatever the system calls answer, a function returns a usable socket or an error,
and loses no descriptor; a builder keeps its socket exactly if the call fails. Where
`bind`, `listen` or `connect` fails, an error is returned; a `connect` in progress is
none, and leaves the builder empty. -/
theorem sockets_all_or_nothing (abi : Abi) :
    (∀ (factory : Factory) (files : Fd → Option File) (made : Made) (k' : Kernel),
      Run (netEnvironment abi) (factory.perform abi) ⟨files, {}⟩ made k' →
      AllOrNothing none k' made.1 made.2 none) ∧
    (∀ (finish : Finish) (builder : Option Fd) (files : Fd → Option File) (finished : Finished)
      (k' : Kernel), Builder abi ⟨files, {}⟩ builder →
      Run (netEnvironment abi) (finish.perform abi builder) ⟨files, {}⟩ finished k' →
      AllOrNothing builder k' finished.1 finished.2.1 finished.2.2 ∧
      finished.2.2 = if finished.1 = none then none else builder) ∧
    (∀ (factory : Factory), ∀ stage ∈ factory.stages, ∀ (files : Fd → Option File) (made : Made)
      (k' : Kernel), Run ((netEnvironment abi).restrict (Failing stage)) (factory.perform abi)
        ⟨files, {}⟩ made k' → made.1 ≠ none) ∧
    (∀ (finish : Finish), ∀ stage ∈ finish.stages, ∀ (builder : Option Fd) (files : Fd → Option File)
      (finished : Finished) (k' : Kernel), Run ((netEnvironment abi).restrict (Failing stage))
        (finish.perform abi builder) ⟨files, {}⟩ finished k' → finished.1 ≠ none) ∧
    (∀ (endpoint : SocketAddr) (fd : Fd) (files : Fd → Option File) (finished : Finished) (k' : Kernel),
      Builder abi ⟨files, {}⟩ (some fd) → Run ((netEnvironment abi).restrict Connecting)
        ((Finish.connect endpoint).perform abi (some fd)) ⟨files, {}⟩ finished k' →
      finished = (none, some fd, none)) := by
  refine ⟨?_, ?_, ?_, ?_, ?_⟩
  · intro factory files made k' h
    obtain ⟨domain, hsettled⟩ := factory_run rfl h
    exact hsettled.allOrNothing
  · intro finish builder files finished k' hbuilder h
    obtain ⟨endpoint, hfinishes⟩ := finish_run h
    refine ⟨hfinishes.allOrNothing hbuilder.usable rfl, ?_⟩
    rcases hfinishes.2 with ⟨ec, rfl⟩ | ⟨fd, rfl, rfl⟩
    · rfl
    · rfl
  · intro factory stage hstage files made k' h
    exact factory_fails hstage rfl h
  · intro finish stage hstage builder files finished k' h
    exact finish_fails hstage h
  · intro endpoint fd files finished k' hbuilder h
    exact connect_progresses (hbuilder.usable fd rfl).1 h

/-- A new builder that is then bound. -/
theorem sockets_all_or_nothing_bound : ∃ k₁ k₂,
    Run (netEnvironment linuxAbi) (Factory.newV4.perform linuxAbi) ⟨fun _ => none, {}⟩
      (none, some 3) k₁ ∧
    AllOrNothing none k₁ none (some 3) none ∧
    Run (netEnvironment linuxAbi) ((Finish.bind default 128).perform linuxAbi (some 3))
      ⟨k₁.files, {}⟩ (none, some 3, none) k₂ ∧
    AllOrNothing (some 3) k₂ none (some 3) none := by
  obtain ⟨k₁, hnew⟩ : ∃ k₁, Run (netEnvironment linuxAbi) (Factory.newV4.perform linuxAbi)
      ⟨fun _ => none, {}⟩ (none, some 3) k₁ :=
    ⟨_, .call (.ok 3) ⟨by decide, rfl⟩ (.call (.ok 0) trivial (.call (.ok ()) trivial
      (.call (.ok 2) trivial (.call (.ok ()) trivial (.done _ _)))))⟩
  obtain ⟨k₂, hbind⟩ : ∃ k₂, Run (netEnvironment linuxAbi)
      ((Finish.bind default 128).perform linuxAbi (some 3)) ⟨k₁.files, {}⟩ (none, some 3, none) k₂ :=
    ⟨_, .call (.ok ()) trivial (.call (.ok ()) trivial (.done _ _))⟩
  have hbuilder : Builder linuxAbi ⟨k₁.files, {}⟩ (some 3) := .elsewhere (.newV4 hnew) fun _ _ => rfl
  exact ⟨k₁, k₂, hnew, (sockets_all_or_nothing linuxAbi).1 _ _ _ _ hnew, hbind,
    ((sockets_all_or_nothing linuxAbi).2.1 _ _ _ _ _ hbuilder hbind).1⟩

/-! The family of the socket and of the address. -/

/-- The functions that make a socket and pass it an address in one call. -/
inductive OneCall where
  | streamConnect
  | udpBind
  | listenerBind (backlog : Int)
  deriving DecidableEq

def OneCall.perform (abi : Abi) (endpoint : SocketAddr) : OneCall → NetProgram Made
  | .streamConnect => NetFactories.streamConnect abi endpoint
  | .udpBind => NetFactories.udpBind abi endpoint
  | .listenerBind backlog => NetFactories.listenerBind abi endpoint backlog

/-- The socket and the address are of the family. -/
def OfFamily (abi : Abi) (family : Family) (k : Kernel) (fd : Fd) (address : RawAddress) : Prop :=
  (k.files fd).bind File.domain = some (.ip family) ∧ domainOf abi address = some (.ip family)

/-- A system that accepts everything for one family; nothing is said of a socket or an
address of another one. -/
def Accepting (abi : Abi) (family : Family) (k : Kernel) : (c : Call RawAddress) → c.Answer → Prop
  | .socket domain .., .error _ => domain ≠ .ip family
  | .getFlags _, .error _ => False
  | .setFlags .., .error _ => False
  | .getFdFlags _, .error _ => False
  | .setFdFlags .., .error _ => False
  | .setReuseAddr .., .error _ => False
  | .bind fd address, .error _ => ¬ OfFamily abi family k fd address
  | .connect fd address, .error errno =>
    OfFamily abi family k fd address → isConnectInProgress (.ofErrno errno) = true
  | .listen .., .error _ => False
  | _, _ => True

/-- Every address is passed for a socket of its own family, and hence the function
succeeds where the system accepts the family of the endpoint. -/
def UsesFamily (abi : Abi) (function : OneCall) (endpoint : SocketAddr) : Prop :=
  (∀ files made k', Run (netEnvironment abi) (function.perform abi endpoint) ⟨files, {}⟩ made k' →
    ∀ pair ∈ k'.log.addressed, pair.1 = pair.2) ∧
  (∀ files made k', Run ((netEnvironment abi).restrict (Accepting abi endpoint.family))
    (function.perform abi endpoint) ⟨files, {}⟩ made k' → made.1 = none)

section Accepted

variable {family : Family}

theorem setCloseOnExec_accepted {ec : Option ErrorCode}
    (h : Run ((netEnvironment abi).restrict (Accepting abi family)) (setCloseOnExec fd) k ec k') :
    ec = none := by
  rcases getSet_cases (getFdFlags fd) (setFdFlags fd) FD_CLOEXEC h with
    ⟨flags, k₁, rfl, -, -⟩ | ⟨errno, rfl, hget | ⟨flags, k₁, -, hset⟩⟩
  · rfl
  · exact absurd (permitted (.getFdFlags fd) hget) id
  · exact absurd (permitted (.setFdFlags fd (flags ||| FD_CLOEXEC)) hset) id

theorem setNonBlocking_accepted {ec : Option ErrorCode}
    (h : Run ((netEnvironment abi).restrict (Accepting abi family)) (setNonBlocking fd) k ec k') :
    ec = none := by
  rcases getSet_cases (getFlags fd) (setFlags fd) O_NONBLOCK h with
    ⟨flags, k₁, rfl, -, -⟩ | ⟨errno, rfl, hget | ⟨flags, k₁, -, hset⟩⟩
  · rfl
  · exact absurd (permitted (.getFlags fd) hget) id
  · exact absurd (permitted (.setFlags fd (flags ||| O_NONBLOCK)) hset) id

theorem openSocket_accepted {type : SocketType} {protocol : Protocol} {made : Made}
    (h : Run ((netEnvironment abi).restrict (Accepting abi family))
      (openSocket family type protocol) k made k') : made.1 = none := by
  obtain ⟨answer, k₁, hsocket, h⟩ := run_bind.mp h
  cases answer with
  | error errno => exact absurd rfl (permitted (.socket (.ip family) type (some protocol)) hsocket)
  | ok fd =>
    obtain ⟨ec, k₂, hexec, h⟩ := run_bind.mp h
    obtain rfl := setCloseOnExec_accepted hexec
    obtain ⟨ec, k₃, hblocking, h⟩ := run_bind.mp h
    obtain rfl := setNonBlocking_accepted hblocking
    obtain ⟨rfl, -⟩ := run_pure.mp h
    rfl

theorem setReuseAddr_accepted {enabled : Bool} {ec : Option ErrorCode}
    (h : Run ((netEnvironment abi).restrict (Accepting abi family)) (setReuseAddr fd enabled) k ec k') :
    ec = none := by
  obtain ⟨answer, k₁, hset, h⟩ := run_bind.mp h
  cases answer with
  | error errno => exact absurd (permitted (.setReuseAddr fd enabled) hset) id
  | ok u => exact (run_pure.mp h).1

/-- The new socket with which a function goes on. -/
theorem openSocket_holds {type : SocketType} {protocol : Protocol} {made : Made} (hlog : k.log = {})
    (h : Run ((netEnvironment abi).restrict (Accepting abi family))
      (openSocket family type protocol) k made k') :
    ∃ fd, made = (none, some fd) ∧ Holds (some (.ip family)) fd k' := by
  have hclear := openSocket_accepted h
  rcases (openSocket_run hlog h.of_restrict).1 with hmade | ⟨ec, rfl, -⟩
  · exact hmade
  · cases hclear

theorem Holds.ofFamily {endpoint : SocketAddr} {length : Nat}
    (h : Holds (some (.ip endpoint.family)) fd k) :
    OfFamily abi endpoint.family k fd (encode abi endpoint, length) :=
  ⟨by rw [h.file]; rfl, domainOf_encode endpoint length⟩

/-- `try_address` succeeds if its action does. -/
theorem tryAddress_accepted {endpoint : SocketAddr} {type : SocketType} {protocol : Protocol}
    {action : Fd → ResolvedAddress → NetProgram (Option ErrorCode)} {made : Made} (hlog : k.log = {})
    (haction : ∀ {fd k ec k'}, Holds (some (.ip endpoint.family)) fd k →
      Run ((netEnvironment abi).restrict (Accepting abi endpoint.family))
        (action fd (resolveEndpoint abi endpoint type protocol).2) k ec k' → ec = none)
    (h : Run ((netEnvironment abi).restrict (Accepting abi endpoint.family))
      (tryAddress abi endpoint type protocol action) k made k') : made.1 = none := by
  obtain ⟨opened, k₁, hopen, h⟩ := run_bind.mp h
  obtain ⟨fd, rfl, hholds⟩ := openSocket_holds hlog hopen
  obtain ⟨ec, k₂, hrun, h⟩ := run_bind.mp h
  obtain rfl := haction hholds hrun
  obtain ⟨rfl, -⟩ := run_pure.mp h
  rfl

theorem streamConnect_accepted {endpoint : SocketAddr} {made : Made} (hlog : k.log = {})
    (h : Run ((netEnvironment abi).restrict (Accepting abi endpoint.family))
      (streamConnect abi endpoint) k made k') : made.1 = none := by
  refine tryAddress_accepted hlog (fun {fd k ec k'} hholds h => ?_) h
  obtain ⟨answer, k₁, hconnect, h⟩ := run_bind.mp h
  cases answer with
  | ok u => exact (run_pure.mp h).1
  | error errno =>
    have hprogress : isConnectInProgress (.ofErrno errno) = true :=
      permitted (.connect fd (encode abi endpoint, sockaddrSize endpoint.family)) hconnect hholds.ofFamily
    simp only [hprogress] at h
    exact (run_pure.mp h).1

theorem udpBind_accepted {endpoint : SocketAddr} {made : Made} (hlog : k.log = {})
    (h : Run ((netEnvironment abi).restrict (Accepting abi endpoint.family))
      (udpBind abi endpoint) k made k') : made.1 = none := by
  refine tryAddress_accepted hlog (fun {fd k ec k'} hholds haction => ?_) h
  obtain ⟨ec, k₁, hreuse, hrest⟩ := run_bind.mp haction
  obtain rfl := setReuseAddr_accepted hreuse
  obtain rfl := setReuseAddr_run hreuse.of_restrict
  obtain ⟨answer, k₂, hbind, hend⟩ := run_bind.mp hrest
  cases answer with
  | ok u => exact (run_pure.mp hend).1
  | error errno =>
    exact absurd hholds.ofFamily
      (permitted (.bind fd (encode abi endpoint, sockaddrSize endpoint.family)) hbind)

theorem listenerBind_accepted {endpoint : SocketAddr} {backlog : Int} {made : Made}
    (hfamily : endpoint.family = .inet) (hlog : k.log = {})
    (h : Run ((netEnvironment abi).restrict (Accepting abi endpoint.family))
      (listenerBind abi endpoint backlog) k made k') : made.1 = none := by
  obtain ⟨opened, k₁, hopen, h⟩ := run_bind.mp h
  rw [newV4, ← hfamily] at hopen
  obtain ⟨fd, rfl, hholds⟩ := openSocket_holds hlog hopen
  have hvalid : requireSocket (some fd) = .ok fd :=
    if_neg (by rintro rfl; exact absurd hholds.nonneg (by decide))
  obtain ⟨ec, k₂, hreuse, hrest⟩ := run_bind.mp h
  rw [TcpSocket.setReuseaddr, hvalid] at hreuse
  obtain rfl := setReuseAddr_accepted hreuse
  obtain rfl := setReuseAddr_run hreuse.of_restrict
  obtain ⟨finished, k₃, hfinish, hend⟩ := run_bind.mp hrest
  rw [TcpSocket.bind, hvalid] at hfinish
  obtain ⟨answer, k₄, hbind, hfinish⟩ := run_bind.mp hfinish
  cases answer with
  | error errno =>
    exact absurd hholds.ofFamily
      (permitted (.bind fd (encode abi endpoint, sockaddrSize endpoint.family)) hbind)
  | ok u =>
    obtain ⟨listening, k₅, hlisten, hfinish⟩ := run_bind.mp hfinish
    cases listening with
    | error errno => exact absurd (permitted (.listen fd backlog) hlisten) id
    | ok u =>
      obtain ⟨rfl, rfl⟩ := run_pure.mp hfinish
      obtain ⟨rfl, -⟩ := run_pure.mp hend
      rfl

end Accepted

/-- A pair of domains that are the same. -/
theorem Passed.agree (h : Passed domain domain k) : ∀ pair ∈ k.log.addressed, pair.1 = pair.2 := by
  intro pair hpair
  rw [h pair hpair]

/-- `TcpListener::bind` may pass an IPv6 address for its IPv4 socket. -/
theorem listenerBind_v6 (abi : Abi) (endpoint : SocketAddr) (hfamily : endpoint.family = .inet6)
    (backlog : Int) : ∃ made k',
    Run (netEnvironment abi) (listenerBind abi endpoint backlog) ⟨fun _ => none, {}⟩ made k' ∧
    (some (.ip .inet), some (.ip .inet6)) ∈ k'.log.addressed := by
  have h : Run (netEnvironment abi) (listenerBind abi endpoint backlog) ⟨fun _ => none, {}⟩
      (some (.ofErrno EINVAL), none) _ :=
    .call (.ok 3) ⟨by decide, rfl⟩ (.call (.ok 0) trivial (.call (.ok ()) trivial
      (.call (.ok 2) trivial (.call (.ok ()) trivial (.call (.ok ()) trivial
        (.call (.error EINVAL) trivial (.call () trivial (.done _ _))))))))
  refine ⟨_, _, h, ?_⟩
  change _ ∈ [(some (Domain.ip .inet), domainOf abi (encode abi endpoint, _))]
  rw [domainOf_encode, hfamily]
  exact List.mem_singleton_self _

/-- The socket is of the endpoint's family exactly if the function is not
`TcpListener::bind`, or the endpoint is of IPv4. -/
theorem uses_family_iff (abi : Abi) (function : OneCall) (endpoint : SocketAddr) :
    UsesFamily abi function endpoint ↔
      ((∃ backlog, function = .listenerBind backlog) → endpoint.family = .inet) := by
  constructor
  · rintro ⟨hagree, -⟩ ⟨backlog, rfl⟩
    cases hfamily : endpoint.family with
    | inet => rfl
    | inet6 =>
      obtain ⟨made, k', hrun, hmem⟩ := listenerBind_v6 abi endpoint hfamily backlog
      cases hagree _ _ _ hrun _ hmem
  · intro h
    cases function with
    | streamConnect =>
      exact ⟨fun _ _ _ hrun => (streamConnect_run rfl hrun).2.agree,
        fun _ _ _ hrun => streamConnect_accepted rfl hrun⟩
    | udpBind =>
      exact ⟨fun _ _ _ hrun => (udpBind_run rfl hrun).2.agree,
        fun _ _ _ hrun => udpBind_accepted rfl hrun⟩
    | listenerBind backlog =>
      have hfamily := h ⟨backlog, rfl⟩
      refine ⟨fun _ _ _ hrun => ?_, fun _ _ _ hrun => listenerBind_accepted hfamily rfl hrun⟩
      have hpassed := (listenerBind_run rfl hrun).2
      rw [hfamily] at hpassed
      exact hpassed.agree

/-- A listener on `[::]:8080`. -/
theorem listener_v6_family_differs :
    ¬ ∀ (abi : Abi) (function : OneCall) (endpoint : SocketAddr), UsesFamily abi function endpoint := by
  intro h
  obtain ⟨made, k', hrun, hmem⟩ :=
    listenerBind_v6 linuxAbi (.v6 ⟨⟨fun _ => 0⟩, 8080, 0, 0⟩) rfl 128
  cases (h linuxAbi (.listenerBind 128) _).1 _ _ _ hrun _ hmem

end NetFactories
