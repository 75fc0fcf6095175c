import Ioxx.Addresses
import Ioxx.Programs

/-!
# System calls on descriptors

The calls that open, prepare, connect and close sockets and pipes, for any type of
raw addresses, and a kernel that keeps the open descriptors. A call may fail with
any `errno`; a call that opens a descriptor returns one that is not open. `Log`
records what the calls of one function did, for the statements about them.
-/

namespace Posix

open Core Addresses Programs

/-- A descriptor; -1 is none. -/
abbrev Fd := Int

/-- The first argument of `socket`. -/
inductive Domain where
  | unix
  | ip (family : Family)
  deriving DecidableEq, Repr

def O_NONBLOCK : BitVec 32 := 0x800
def FD_CLOEXEC : BitVec 32 := 1

/-- `R` are the raw addresses, with their length. -/
inductive Call (R : Type) where
  | socket (domain : Domain) (type : SocketType) (protocol : Option Protocol)
  | socketpair (type : SocketType)
  | pipe
  | accept (fd : Fd)
  | getFlags (fd : Fd)
  | setFlags (fd : Fd) (flags : BitVec 32)
  | getFdFlags (fd : Fd)
  | setFdFlags (fd : Fd) (flags : BitVec 32)
  | setReuseAddr (fd : Fd) (enabled : Bool)
  | bind (fd : Fd) (address : R)
  | connect (fd : Fd) (address : R)
  | listen (fd : Fd) (backlog : Int)
  | close (fd : Fd)

/-- What each call returns. -/
def Call.Answer {R : Type} : Call R → Type
  | .socket .. => Except Errno Fd
  | .socketpair _ => Except Errno (Fd × Fd)
  | .pipe => Except Errno (Fd × Fd)
  | .accept _ => Except Errno (Fd × R)
  | .getFlags _ => Except Errno (BitVec 32)
  | .setFlags .. => Except Errno Unit
  | .getFdFlags _ => Except Errno (BitVec 32)
  | .setFdFlags .. => Except Errno Unit
  | .setReuseAddr .. => Except Errno Unit
  | .bind .. => Except Errno Unit
  | .connect .. => Except Errno Unit
  | .listen .. => Except Errno Unit
  | .close _ => Unit

abbrev Program (R α : Type) := Prog (Call R) Call.Answer α

/-- An open descriptor: the domain of a socket, and its two flags. -/
structure File where
  domain : Option Domain
  nonBlocking : Bool
  closeOnExec : Bool
  deriving DecidableEq, Repr

/-- What the calls of one function did, latest first: the descriptors they opened
and closed, for each `fcntl` that failed whether its descriptor was close-on-exec
already, and for each `bind` or `connect` the domains of the socket and the address. -/
structure Log where
  opened : List Fd := []
  closed : List Fd := []
  refused : List Bool := []
  addressed : List (Option Domain × Option Domain) := []

structure Kernel where
  files : Fd → Option File
  log : Log := {}

namespace Kernel

/-- A new descriptor, without either flag. -/
def openFile (domain : Option Domain) (fd : Fd) (k : Kernel) : Kernel where
  files := Function.update k.files fd (some ⟨domain, false, false⟩)
  log := { k.log with opened := fd :: k.log.opened }

def closeFile (fd : Fd) (k : Kernel) : Kernel where
  files := Function.update k.files fd none
  log := { k.log with closed := fd :: k.log.closed }

/-- A change of a descriptor, if it is open. -/
def setFile (fd : Fd) (f : File → File) (k : Kernel) : Kernel :=
  { k with files := Function.update k.files fd ((k.files fd).map f) }

/-- An `fcntl` that failed. -/
def refuse (fd : Fd) (k : Kernel) : Kernel :=
  { k with log := { k.log with
      refused := (k.files fd).any File.closeOnExec :: k.log.refused } }

/-- An address that was passed for a socket. -/
def addressed (fd : Fd) (domain : Option Domain) (k : Kernel) : Kernel :=
  { k with log := { k.log with
      addressed := ((k.files fd).bind File.domain, domain) :: k.log.addressed } }

end Kernel

def setNonBlockingFlag (flags : BitVec 32) (file : File) : File :=
  { file with nonBlocking := flags &&& O_NONBLOCK != 0 }

def setCloseOnExecFlag (flags : BitVec 32) (file : File) : File :=
  { file with closeOnExec := flags &&& FD_CLOEXEC != 0 }

variable {R : Type}

/-- A call that opens descriptors returns some that are not open. -/
def mayAnswer (k : Kernel) : (c : Call R) → c.Answer → Prop
  | .socket .., .ok fd => 0 ≤ fd ∧ k.files fd = none
  | .socketpair _, .ok fds => (0 ≤ fds.1 ∧ k.files fds.1 = none) ∧
      (0 ≤ fds.2 ∧ k.files fds.2 = none) ∧ fds.1 ≠ fds.2
  | .pipe, .ok fds => (0 ≤ fds.1 ∧ k.files fds.1 = none) ∧
      (0 ≤ fds.2 ∧ k.files fds.2 = none) ∧ fds.1 ≠ fds.2
  | .accept _, .ok result => 0 ≤ result.1 ∧ k.files result.1 = none
  | _, _ => True

/-- The kernel after an answered call. `domainOf` is the family that it finds in a
raw address; an accepted socket has the domain of the listener. -/
def afterCall (domainOf : R → Option Domain) (k : Kernel) : (c : Call R) → c.Answer → Kernel
  | .socket domain .., .ok fd => k.openFile (some domain) fd
  | .socketpair _, .ok fds => (k.openFile (some .unix) fds.1).openFile (some .unix) fds.2
  | .pipe, .ok fds => (k.openFile none fds.1).openFile none fds.2
  | .accept fd, .ok result => k.openFile ((k.files fd).bind File.domain) result.1
  | .getFlags fd, .error _ => k.refuse fd
  | .setFlags fd flags, .ok _ => k.setFile fd (setNonBlockingFlag flags)
  | .setFlags fd _, .error _ => k.refuse fd
  | .getFdFlags fd, .error _ => k.refuse fd
  | .setFdFlags fd flags, .ok _ => k.setFile fd (setCloseOnExecFlag flags)
  | .setFdFlags fd _, .error _ => k.refuse fd
  | .bind fd address, _ => k.addressed fd (domainOf address)
  | .connect fd address, _ => k.addressed fd (domainOf address)
  | .close fd, _ => k.closeFile fd
  | _, _ => k

def environment (domainOf : R → Option Domain) : Environment (Call R) Call.Answer Kernel where
  answers := mayAnswer
  after := afterCall domainOf

/-! The calls as programs. -/

def socket (domain : Domain) (type : SocketType) (protocol : Option Protocol) :
    Program R (Except Errno Fd) := perform (Call.socket domain type protocol)
def socketpair (type : SocketType) : Program R (Except Errno (Fd × Fd)) := perform (Call.socketpair type)
def pipe : Program R (Except Errno (Fd × Fd)) := perform Call.pipe
def accept (fd : Fd) : Program R (Except Errno (Fd × R)) := perform (Call.accept fd)
def getFlags (fd : Fd) : Program R (Except Errno (BitVec 32)) := perform (Call.getFlags fd)
def setFlags (fd : Fd) (flags : BitVec 32) : Program R (Except Errno Unit) :=
  perform (Call.setFlags fd flags)
def getFdFlags (fd : Fd) : Program R (Except Errno (BitVec 32)) := perform (Call.getFdFlags fd)
def setFdFlags (fd : Fd) (flags : BitVec 32) : Program R (Except Errno Unit) :=
  perform (Call.setFdFlags fd flags)
def setsockoptReuseAddr (fd : Fd) (enabled : Bool) : Program R (Except Errno Unit) :=
  perform (Call.setReuseAddr fd enabled)
def bind (fd : Fd) (address : R) : Program R (Except Errno Unit) := perform (Call.bind fd address)
def connect (fd : Fd) (address : R) : Program R (Except Errno Unit) := perform (Call.connect fd address)
def listen (fd : Fd) (backlog : Int) : Program R (Except Errno Unit) := perform (Call.listen fd backlog)
def close (fd : Fd) : Program R Unit := perform (Call.close fd)

/-- `set_non_blocking(fd, true, ec)`, of `unix.cpp` and of `socket.cpp`. -/
def setNonBlocking (fd : Fd) : Program R (Option ErrorCode) := do
  match ← getFlags fd with
  | .error errno => return some (.ofErrno errno)
  | .ok flags =>
    match ← setFlags fd (flags ||| O_NONBLOCK) with
    | .error errno => return some (.ofErrno errno)
    | .ok _ => return none

/-- `set_close_on_exec(fd, ec)`, of `unix.cpp` and of `socket.cpp`. -/
def setCloseOnExec (fd : Fd) : Program R (Option ErrorCode) := do
  match ← getFdFlags fd with
  | .error errno => return some (.ofErrno errno)
  | .ok flags =>
    match ← setFdFlags fd (flags ||| FD_CLOEXEC) with
    | .error errno => return some (.ofErrno errno)
    | .ok _ => return none

/-! What the calls leave behind. -/

theorem or_and_ne_zero {flags bit : BitVec 32} (h : bit ≠ 0) : ((flags ||| bit) &&& bit != 0) = true := by
  have habsorb : (flags ||| bit) &&& bit = bit := by
    apply BitVec.eq_of_getLsbD_eq
    intro i _
    simp only [BitVec.getLsbD_and, BitVec.getLsbD_or]
    cases flags.getLsbD i <;> cases bit.getLsbD i <;> rfl
  rw [habsorb]
  exact bne_iff_ne.mpr h

variable {domainOf : R → Option Domain} {k k' : Kernel}

theorem called (c : Call R) {answer : c.Answer}
    (h : Run (environment domainOf) (perform c) k answer k') :
    mayAnswer k c answer ∧ k' = afterCall domainOf k c answer :=
  run_perform.mp h

/-- A flag is read and written back with one bit set, unless one of the two calls fails. -/
theorem getSet_cases {env : Environment (Call R) Call.Answer Kernel}
    (get : Program R (Except Errno (BitVec 32))) (set : BitVec 32 → Program R (Except Errno Unit))
    (bit : BitVec 32) {ec : Option ErrorCode}
    (h : Run env (do
      match ← get with
      | .error errno => return some (.ofErrno errno)
      | .ok flags =>
        match ← set (flags ||| bit) with
        | .error errno => return some (.ofErrno errno)
        | .ok _ => return none) k ec k') :
    (∃ flags k₁, ec = none ∧ Run env get k (.ok flags) k₁ ∧
      Run env (set (flags ||| bit)) k₁ (.ok ()) k') ∨
    (∃ errno, ec = some (.ofErrno errno) ∧ (Run env get k (.error errno) k' ∨
      ∃ flags k₁, Run env get k (.ok flags) k₁ ∧ Run env (set (flags ||| bit)) k₁ (.error errno) k')) := by
  obtain ⟨flags, k₁, hget, h⟩ := run_bind.mp h
  cases flags with
  | error errno =>
    obtain ⟨rfl, rfl⟩ := run_pure.mp h
    exact .inr ⟨errno, rfl, .inl hget⟩
  | ok flags =>
    obtain ⟨result, k₂, hset, h⟩ := run_bind.mp h
    cases result with
    | error errno =>
      obtain ⟨rfl, rfl⟩ := run_pure.mp h
      exact .inr ⟨errno, rfl, .inr ⟨flags, k₁, hget, hset⟩⟩
    | ok u =>
      obtain ⟨rfl, rfl⟩ := run_pure.mp h
      exact .inl ⟨flags, k₁, rfl, hget, hset⟩

/-- `set_non_blocking` sets the flag, or is refused by one of its two calls. -/
theorem setNonBlocking_run {fd : Fd} {ec : Option ErrorCode}
    (h : Run (environment domainOf) (setNonBlocking fd) k ec k') :
    (ec = none ∧ k' = k.setFile fd fun file => { file with nonBlocking := true }) ∨
    (∃ errno, ec = some (.ofErrno errno) ∧ k' = k.refuse fd) := by
  rcases getSet_cases (getFlags fd) (setFlags fd) O_NONBLOCK h with
    ⟨flags, k₁, rfl, hget, hset⟩ | ⟨errno, rfl, hget | ⟨flags, k₁, hget, hset⟩⟩
  · obtain ⟨-, rfl⟩ := called (.getFlags fd) hget
    obtain ⟨-, rfl⟩ := called (.setFlags fd (flags ||| O_NONBLOCK)) hset
    refine .inl ⟨rfl, ?_⟩
    have hflag : setNonBlockingFlag (flags ||| O_NONBLOCK) =
        fun file => { file with nonBlocking := true } := by
      funext file
      rw [setNonBlockingFlag, or_and_ne_zero (by decide)]
    rw [← hflag]
    rfl
  · exact .inr ⟨errno, rfl, (called (.getFlags fd) hget).2⟩
  · obtain ⟨-, rfl⟩ := called (.getFlags fd) hget
    exact .inr ⟨errno, rfl, (called (.setFlags fd (flags ||| O_NONBLOCK)) hset).2⟩

/-- `set_close_on_exec` sets the flag, or is refused by one of its two calls. -/
theorem setCloseOnExec_run {fd : Fd} {ec : Option ErrorCode}
    (h : Run (environment domainOf) (setCloseOnExec fd) k ec k') :
    (ec = none ∧ k' = k.setFile fd fun file => { file with closeOnExec := true }) ∨
    (∃ errno, ec = some (.ofErrno errno) ∧ k' = k.refuse fd) := by
  rcases getSet_cases (getFdFlags fd) (setFdFlags fd) FD_CLOEXEC h with
    ⟨flags, k₁, rfl, hget, hset⟩ | ⟨errno, rfl, hget | ⟨flags, k₁, hget, hset⟩⟩
  · obtain ⟨-, rfl⟩ := called (.getFdFlags fd) hget
    obtain ⟨-, rfl⟩ := called (.setFdFlags fd (flags ||| FD_CLOEXEC)) hset
    refine .inl ⟨rfl, ?_⟩
    have hflag : setCloseOnExecFlag (flags ||| FD_CLOEXEC) =
        fun file => { file with closeOnExec := true } := by
      funext file
      rw [setCloseOnExecFlag, or_and_ne_zero (by decide)]
    rw [← hflag]
    rfl
  · exact .inr ⟨errno, rfl, (called (.getFdFlags fd) hget).2⟩
  · obtain ⟨-, rfl⟩ := called (.getFdFlags fd) hget
    exact .inr ⟨errno, rfl, (called (.setFdFlags fd (flags ||| FD_CLOEXEC)) hset).2⟩

end Posix
