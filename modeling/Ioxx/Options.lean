import Ioxx.Runs
import Ioxx.Maps
import Ioxx.Core

/-!
# Socket options

The setters and getters of `TcpSocket`, `TcpStream`, `TcpListener` and `UdpSocket` pass
an `int` to `setsockopt` and read one with `getsockopt`; which options there are depends
on the build. To the user a socket has typed settings that do not depend on each other,
and an error that can be taken once: `Settings` is that view, and every run of the calls
on any number of sockets, moved as one likes, is a run of it.
-/

namespace Options

open Core Runs

/-- A level and an option of it, under the name of the option. -/
inductive SocketOption where
  | reuseaddr
  | reuseport
  | keepalive
  | broadcast
  | error
  | nodelay
  | fastopen
  | fastopenConnect
  | ttl
  | mtuDiscover
  | mtuDiscover6
  | dontFragment
  | dontFragment6
  | mtu
  | mtu6
  deriving DecidableEq, Repr

inductive System where
  | linux
  | windows
  | apple
  | other
  deriving DecidableEq, Repr

/-- The system, and which of `SO_REUSEPORT`, `TCP_FASTOPEN` and `TCP_FASTOPEN_CONNECT` its
headers define. -/
structure Build where
  system : System
  reuseport : Bool
  fastopen : Bool
  fastopenConnect : Bool
  deriving DecidableEq, Repr

/-- The five options that are on or off. -/
inductive Flag where
  | reuseaddr
  | reuseport
  | keepalive
  | broadcast
  | nodelay
  deriving DecidableEq, Repr

def Flag.option : Flag → SocketOption
  | .reuseaddr => .reuseaddr
  | .reuseport => .reuseport
  | .keepalive => .keepalive
  | .broadcast => .broadcast
  | .nodelay => .nodelay

/-- What a kernel answers for a stored value: of a flag only whether it is zero, the
error as it is, and the time to live too, but for `-1`, which stands for the default. -/
structure Reading where
  read : SocketOption → BitVec 32 → BitVec 32
  defaultTtl : BitVec 32
  flag : ∀ (flag : Flag) value, read flag.option value = 0 ↔ value = 0
  ttl : ∀ value, read .ttl value = if value = -1 then defaultTtl else value
  error : ∀ value, read .error value = value

/-- What the kernel stores for a socket; under `error` the pending error. -/
abbrev Values := SocketOption → BitVec 32

/-- The options that the kernel refuses during a call. -/
abbrev Replies := SocketOption → Option Errno

/-- `std::errc::function_not_supported`, with the number of Linux. -/
def functionNotSupported : ErrorCode := ⟨38, .generic, by decide⟩

def socketErrorFromCode (build : Build) (code : Errno) : ErrorCode :=
  match build.system with
  | .windows => .ofLastError code
  | _ => .ofErrno code

section Calls

variable (build : Build) (reading : Reading) (replies : Replies)

def setSocketIntOption (option : SocketOption) (value : BitVec 32) (values : Values) :
    Option ErrorCode × Values :=
  match replies option with
  | some errno => (some (socketErrorFromCode build errno), values)
  | none => (none, Function.update values option value)

def setSocketBoolOption (option : SocketOption) (enabled : Bool) : Values → Option ErrorCode × Values :=
  setSocketIntOption build replies option (if enabled then 1 else 0)

/-- Reading `SO_ERROR` clears it. -/
def getSocketIntOption (option : SocketOption) (values : Values) :
    (Option ErrorCode × BitVec 32) × Values :=
  match replies option with
  | some errno => ((some (socketErrorFromCode build errno), 0), values)
  | none => ((none, reading.read option (values option)),
      if option = .error then Function.update values option 0 else values)

def getSocketBoolOption (option : SocketOption) (values : Values) :
    (Option ErrorCode × Bool) × Values :=
  let ((ec, value), values) := getSocketIntOption build reading replies option values
  ((ec, value != 0), values)

def setReuseAddr : Bool → Values → Option ErrorCode × Values :=
  setSocketBoolOption build replies .reuseaddr

def setReusePort (enabled : Bool) (values : Values) : Option ErrorCode × Values :=
  if build.reuseport then setSocketBoolOption build replies .reuseport enabled values
  else (some functionNotSupported, values)

def setKeepalive : Bool → Values → Option ErrorCode × Values :=
  setSocketBoolOption build replies .keepalive

def setTcpFastopen (backlog : BitVec 32) (values : Values) : Option ErrorCode × Values :=
  if build.fastopen then setSocketIntOption build replies .fastopen backlog values
  else (some functionNotSupported, values)

/-- Windows and macOS have one option for both sides. -/
def setTcpFastopenConnect (enabled : Bool) (values : Values) : Option ErrorCode × Values :=
  if build.fastopenConnect then setSocketBoolOption build replies .fastopenConnect enabled values
  else if build.fastopen && (build.system == .windows || build.system == .apple) then
    setSocketBoolOption build replies .fastopen enabled values
  else (some functionNotSupported, values)

/-- The second option is tried where the first fails. -/
def setEither (first second : SocketOption) (value : BitVec 32) (values : Values) :
    Option ErrorCode × Values :=
  match setSocketIntOption build replies first value values with
  | (some _, values) => setSocketIntOption build replies second value values
  | (none, values) => (none, values)

/-- `IP_PMTUDISC_WANT` and `IP_PMTUDISC_DO`. -/
def pmtudisc (enabled : Bool) : BitVec 32 := if enabled then 2 else 1

def setDontFragment (enabled : Bool) (values : Values) : Option ErrorCode × Values :=
  match build.system with
  | .linux => setEither build replies .mtuDiscover .mtuDiscover6 (pmtudisc enabled) values
  | .windows => setEither build replies .dontFragment .dontFragment6 (if enabled then 1 else 0) values
  | .apple => setEither build replies .dontFragment .dontFragment6 (if enabled then 1 else 0) values
  | .other => (some functionNotSupported, values)

def getMtu (values : Values) : (Option ErrorCode × BitVec 32) × Values :=
  if build.system = .linux ∨ build.system = .windows then
    match getSocketIntOption build reading replies .mtu values with
    | ((some _, _), values) => getSocketIntOption build reading replies .mtu6 values
    | ((none, mtu), values) => ((none, mtu), values)
  else ((some functionNotSupported, 0), values)

def getSocketError (values : Values) : Except ErrorCode (Option ErrorCode) × Values :=
  match getSocketIntOption build reading replies .error values with
  | ((some ec, _), values) => (.error ec, values)
  | ((none, error), values) =>
    if h : error.toInt = 0 then (.ok none, values)
    else (.ok (some (socketErrorFromCode build ⟨error.toInt, h⟩)), values)

/-- The functions of the classes beyond the check of the socket; classes that have a
function of the same name have the same body. -/
inductive Call where
  | setFlag (flag : Flag) (enabled : Bool)
  | flag (flag : Flag)
  | setTtl (ttl : BitVec 32)
  | ttl
  | setTcpFastopen (backlog : BitVec 32)
  | setTcpFastopenConnect (enabled : Bool)
  | setDontFragment (enabled : Bool)
  | mtu
  | takeError
  deriving DecidableEq, Repr

/-- What a call returns beside its `ec`; `take_error` throws instead. -/
inductive Result where
  | done (ec : Option ErrorCode)
  | flag (ec : Option ErrorCode) (value : Bool)
  | number (ec : Option ErrorCode) (value : BitVec 32)
  | taken (outcome : Except Exception (Option ErrorCode))

/-- `require_socket` fails. -/
def Call.invalid : Call → Result
  | .setFlag .. => .done (some .badFileDescriptor)
  | .flag _ => .flag (some .badFileDescriptor) false
  | .setTtl _ => .done (some .badFileDescriptor)
  | .ttl => .number (some .badFileDescriptor) 0
  | .setTcpFastopen _ => .done (some .badFileDescriptor)
  | .setTcpFastopenConnect _ => .done (some .badFileDescriptor)
  | .setDontFragment _ => .done (some .badFileDescriptor)
  | .mtu => .number (some .badFileDescriptor) 0
  | .takeError => .taken (.error (.systemError .badFileDescriptor "invalid socket"))

def setFlag (flag : Flag) (enabled : Bool) : Values → Option ErrorCode × Values :=
  match flag with
  | .reuseaddr => setReuseAddr build replies enabled
  | .reuseport => setReusePort build replies enabled
  | .keepalive => setKeepalive build replies enabled
  | .broadcast => setSocketBoolOption build replies .broadcast enabled
  | .nodelay => setSocketBoolOption build replies .nodelay enabled

def getFlag (flag : Flag) (values : Values) : (Option ErrorCode × Bool) × Values :=
  match flag with
  | .reuseport =>
    if build.reuseport then getSocketBoolOption build reading replies .reuseport values
    else ((some functionNotSupported, false), values)
  | .reuseaddr => getSocketBoolOption build reading replies .reuseaddr values
  | .keepalive => getSocketBoolOption build reading replies .keepalive values
  | .broadcast => getSocketBoolOption build reading replies .broadcast values
  | .nodelay => getSocketBoolOption build reading replies .nodelay values

def takeError (values : Values) : Except Exception (Option ErrorCode) × Values :=
  match getSocketError build reading replies values with
  | (.error ec, values) => (.error (.systemError ec "getsockopt"), values)
  | (.ok error, values) => (.ok error, values)

/-- A call on a socket. -/
def Call.perform (call : Call) (values : Values) : Result × Values :=
  match call with
  | .setFlag f enabled =>
    let (ec, values) := Options.setFlag build replies f enabled values
    (.done ec, values)
  | .flag f =>
    let ((ec, value), values) := getFlag build reading replies f values
    (.flag ec value, values)
  | .setTtl value =>
    let (ec, values) := setSocketIntOption build replies .ttl value values
    (.done ec, values)
  | .ttl =>
    let ((ec, value), values) := getSocketIntOption build reading replies .ttl values
    (.number ec value, values)
  | .setTcpFastopen backlog =>
    let (ec, values) := Options.setTcpFastopen build replies backlog values
    (.done ec, values)
  | .setTcpFastopenConnect enabled =>
    let (ec, values) := Options.setTcpFastopenConnect build replies enabled values
    (.done ec, values)
  | .setDontFragment enabled =>
    let (ec, values) := Options.setDontFragment build replies enabled values
    (.done ec, values)
  | .mtu =>
    let ((ec, value), values) := getMtu build reading replies values
    (.number ec value, values)
  | .takeError =>
    let (outcome, values) := Options.takeError build reading replies values
    (.taken outcome, values)

end Calls

/-! The view of the user. -/

/-- A socket as the user sees it. The kernel alone changes `mtu`, `mtu6` and `error`. -/
structure Settings where
  flags : Flag → Bool
  ttl : BitVec 32
  error : BitVec 32
  mtu : BitVec 32
  mtu6 : BitVec 32

def view (reading : Reading) (values : Values) : Settings where
  flags flag := reading.read flag.option (values flag.option) != 0
  ttl := reading.read .ttl (values .ttl)
  error := values .error
  mtu := reading.read .mtu (values .mtu)
  mtu6 := reading.read .mtu6 (values .mtu6)

section View

variable (build : Build) (reading : Reading) (replies : Replies)

/-- The error of a call on one option. -/
def refusal (option : SocketOption) : Option ErrorCode :=
  (replies option).map (socketErrorFromCode build)

def supports (flag : Flag) : Bool := flag != .reuseport || build.reuseport

/-- The error of a call on a flag. -/
def flagRefusal (flag : Flag) : Option ErrorCode :=
  if supports build flag then refusal build replies flag.option else some functionNotSupported

def fastopenConnectRefusal : Option ErrorCode :=
  if build.fastopenConnect then refusal build replies .fastopenConnect
  else if build.fastopen && (build.system == .windows || build.system == .apple) then
    refusal build replies .fastopen
  else some functionNotSupported

def dontFragmentRefusal : Option ErrorCode :=
  match build.system with
  | .linux => (refusal build replies .mtuDiscover).bind fun _ => refusal build replies .mtuDiscover6
  | .windows => (refusal build replies .dontFragment).bind fun _ => refusal build replies .dontFragment6
  | .apple => (refusal build replies .dontFragment).bind fun _ => refusal build replies .dontFragment6
  | .other => some functionNotSupported

/-- The error that is pending, as `take_error` returns it. -/
def pendingError (error : BitVec 32) : Option ErrorCode :=
  if h : error.toInt = 0 then none else some (socketErrorFromCode build ⟨error.toInt, h⟩)

/-- What a call means for the settings of a socket. -/
def Call.mean (call : Call) (s : Settings) : Result × Settings :=
  match call with
  | .setFlag f enabled => match flagRefusal build replies f with
    | some ec => (.done (some ec), s)
    | none => (.done none, { s with flags := Function.update s.flags f enabled })
  | .flag f => match flagRefusal build replies f with
    | some ec => (.flag (some ec) false, s)
    | none => (.flag none (s.flags f), s)
  | .setTtl value => match refusal build replies .ttl with
    | some ec => (.done (some ec), s)
    | none => (.done none, { s with ttl := if value = -1 then reading.defaultTtl else value })
  | .ttl => match refusal build replies .ttl with
    | some ec => (.number (some ec) 0, s)
    | none => (.number none s.ttl, s)
  | .setTcpFastopen _ =>
    (.done (if build.fastopen then refusal build replies .fastopen else some functionNotSupported), s)
  | .setTcpFastopenConnect _ => (.done (fastopenConnectRefusal build replies), s)
  | .setDontFragment _ => (.done (dontFragmentRefusal build replies), s)
  | .mtu =>
    if build.system = .linux ∨ build.system = .windows then
      match refusal build replies .mtu, refusal build replies .mtu6 with
      | none, _ => (.number none s.mtu, s)
      | some _, none => (.number none s.mtu6, s)
      | some _, some ec => (.number (some ec) 0, s)
    else (.number (some functionNotSupported) 0, s)
  | .takeError => match refusal build replies .error with
    | some ec => (.taken (.error (.systemError ec "getsockopt")), s)
    | none => (.taken (.ok (pendingError build s.error)), { s with error := 0 })

end View

/-! One call on one socket. -/

section Simulation

variable {build : Build} {reading : Reading} {replies : Replies} {values : Values}

theorem flag_option_injective {f g : Flag} (h : f.option = g.option) : f = g := by
  cases f <;> cases g <;> first | rfl | cases h

theorem view_flag (f : Flag) (value : BitVec 32) :
    view reading (Function.update values f.option value) =
      { view reading values with flags := Function.update (view reading values).flags f (value != 0) } := by
  have hread : (reading.read f.option value != 0) = (value != 0) := by
    rw [Bool.eq_iff_iff, bne_iff_ne, bne_iff_ne]
    exact not_congr (reading.flag f value)
  have hflags : (view reading (Function.update values f.option value)).flags =
      Function.update (view reading values).flags f (value != 0) := by
    funext g
    by_cases hg : g = f
    · subst hg
      simp only [view, Function.update_self, hread]
    · have hoption : g.option ≠ f.option := fun he => hg (flag_option_injective he)
      simp only [view, Function.update_of_ne hg, Function.update_of_ne hoption]
  rw [← hflags]
  cases f <;> simp [view, Flag.option]

/-- The options that the user cannot read back. -/
def hidden : List SocketOption :=
  [.fastopen, .fastopenConnect, .mtuDiscover, .mtuDiscover6, .dontFragment, .dontFragment6]

theorem view_hidden {option : SocketOption} (h : option ∈ hidden) (value : BitVec 32) :
    view reading (Function.update values option value) = view reading values := by
  have hother : ∀ shown, shown ∉ hidden → Function.update values option value shown = values shown :=
    fun shown hshown => Function.update_of_ne (fun he : shown = option => hshown (he ▸ h)) _ _
  have hflag : ∀ flag : Flag, flag.option ∉ hidden := by
    intro flag
    cases flag <;> decide
  simp only [view, hother _ (hflag _), hother .ttl (by decide), hother .error (by decide),
    hother .mtu (by decide), hother .mtu6 (by decide)]

/-- What a call returns, and the settings it leaves. -/
def seen {α : Type} (reading : Reading) (outcome : α × Values) : α × Settings :=
  (outcome.1, view reading outcome.2)

/-- A call that returns its `ec` alone. -/
theorem seen_done {outcome : Option ErrorCode × Values} {expected : Option ErrorCode × Settings}
    (h : seen reading outcome = expected) :
    seen reading (Result.done outcome.1, outcome.2) = (Result.done expected.1, expected.2) := by
  subst h
  rfl

/-- Setting an option that cannot be read back. -/
theorem set_hidden {option : SocketOption} (h : option ∈ hidden) (value : BitVec 32) :
    seen reading (setSocketIntOption build replies option value values) =
      (refusal build replies option, view reading values) := by
  unfold setSocketIntOption refusal
  cases replies option with
  | some errno => rfl
  | none => exact congrArg (Prod.mk none) (view_hidden h value)

theorem setEither_hidden {first second : SocketOption} (hfirst : first ∈ hidden)
    (hsecond : second ∈ hidden) (value : BitVec 32) :
    seen reading (setEither build replies first second value values) =
      ((refusal build replies first).bind fun _ => refusal build replies second, view reading values) := by
  unfold setEither refusal
  simp only [setSocketIntOption]
  cases replies first with
  | none => exact congrArg (Prod.mk none) (view_hidden hfirst value)
  | some errno => exact set_hidden hsecond value

theorem setTcpFastopen_mean (backlog : BitVec 32) :
    seen reading (setTcpFastopen build replies backlog values) =
      (if build.fastopen then refusal build replies .fastopen else some functionNotSupported,
        view reading values) := by
  unfold setTcpFastopen
  split
  · exact set_hidden (by decide) backlog
  · rfl

theorem setTcpFastopenConnect_mean (enabled : Bool) :
    seen reading (setTcpFastopenConnect build replies enabled values) =
      (fastopenConnectRefusal build replies, view reading values) := by
  unfold setTcpFastopenConnect fastopenConnectRefusal
  split
  · exact set_hidden (by decide) _
  · split
    · exact set_hidden (by decide) _
    · rfl

theorem setDontFragment_mean (enabled : Bool) :
    seen reading (setDontFragment build replies enabled values) =
      (dontFragmentRefusal build replies, view reading values) := by
  unfold setDontFragment dontFragmentRefusal
  cases build.system with
  | linux => exact setEither_hidden (by decide) (by decide) _
  | windows => exact setEither_hidden (by decide) (by decide) _
  | apple => exact setEither_hidden (by decide) (by decide) _
  | other => rfl

theorem setFlag_mean (f : Flag) (enabled : Bool) :
    seen reading (setFlag build replies f enabled values) = match flagRefusal build replies f with
      | some ec => (some ec, view reading values)
      | none => (none, { view reading values with
          flags := Function.update (view reading values).flags f enabled }) := by
  have hset : setFlag build replies f enabled values =
      if supports build f then setSocketBoolOption build replies f.option enabled values
      else (some functionNotSupported, values) := by
    cases f <;> simp [setFlag, supports, setReuseAddr, setReusePort, setKeepalive, Flag.option]
  rw [hset, flagRefusal]
  cases supports build f with
  | false => rfl
  | true =>
    simp only [if_true, setSocketBoolOption, setSocketIntOption, refusal]
    cases replies f.option with
    | some errno => rfl
    | none =>
      have hvalue : ((if enabled then 1 else 0 : BitVec 32) != 0) = enabled := by
        cases enabled <;> rfl
      simp only [seen, view_flag, hvalue, Option.map_none]

theorem getFlag_mean (f : Flag) :
    getFlag build reading replies f values = match flagRefusal build replies f with
      | some ec => ((some ec, false), values)
      | none => ((none, (view reading values).flags f), values) := by
  have hget : getFlag build reading replies f values =
      if supports build f then getSocketBoolOption build reading replies f.option values
      else ((some functionNotSupported, false), values) := by
    cases f <;> simp [getFlag, supports, Flag.option]
  have herror : f.option ≠ .error := by
    cases f <;> decide
  rw [hget, flagRefusal]
  cases supports build f with
  | false => rfl
  | true =>
    simp only [if_true, getSocketBoolOption, getSocketIntOption, refusal, if_neg herror]
    cases replies f.option <;> rfl

/-- Reading an option other than the error changes nothing. -/
theorem get_shown {option : SocketOption} (h : option ≠ .error) :
    getSocketIntOption build reading replies option values = match refusal build replies option with
      | some ec => ((some ec, 0), values)
      | none => ((none, reading.read option (values option)), values) := by
  simp only [getSocketIntOption, refusal, if_neg h]
  cases replies option <;> rfl

/-- Every call does to the settings what it means. -/
theorem perform_mean (call : Call) :
    seen reading (call.perform build reading replies values) =
      call.mean build reading replies (view reading values) := by
  cases call with
  | setFlag f enabled =>
    simp only [Call.mean]
    refine (seen_done (setFlag_mean f enabled)).trans ?_
    cases flagRefusal build replies f <;> rfl
  | flag f =>
    simp only [Call.perform, getFlag_mean, Call.mean]
    cases flagRefusal build replies f <;> rfl
  | setTtl value =>
    simp only [Call.perform, Call.mean, setSocketIntOption, refusal]
    cases replies .ttl with
    | some errno => rfl
    | none =>
      have hview : view reading (Function.update values .ttl value) = 
          { view reading values with ttl := if value = -1 then reading.defaultTtl else value } := by
        have hother : ∀ option, option ≠ .ttl → Function.update values .ttl value option = values option :=
          fun option hne => Function.update_of_ne hne _ _
        have hflag : ∀ f : Flag, f.option ≠ .ttl := by
          intro f
          cases f <;> decide
        simp only [view, hother _ (hflag _), hother .error (by decide), hother .mtu (by decide),
          hother .mtu6 (by decide), Function.update_self, reading.ttl]
      exact congrArg (Prod.mk (Result.done none)) hview
  | ttl =>
    simp only [Call.perform, get_shown (show SocketOption.ttl ≠ .error by decide), Call.mean]
    cases refusal build replies .ttl <;> rfl
  | setTcpFastopen backlog => exact seen_done (setTcpFastopen_mean backlog)
  | setTcpFastopenConnect enabled => exact seen_done (setTcpFastopenConnect_mean enabled)
  | setDontFragment enabled => exact seen_done (setDontFragment_mean enabled)
  | mtu =>
    simp only [Call.perform, Call.mean, getMtu, get_shown (show SocketOption.mtu ≠ .error by decide),
      get_shown (show SocketOption.mtu6 ≠ .error by decide)]
    split
    · cases refusal build replies .mtu with
      | none => rfl
      | some ec => cases refusal build replies .mtu6 <;> rfl
    · rfl
  | takeError =>
    simp only [Call.perform, Call.mean, takeError, getSocketError, getSocketIntOption, refusal, if_true,
      reading.error]
    cases replies .error with
    | some errno => rfl
    | none =>
      have hview : view reading (Function.update values .error 0) = { view reading values with error := 0 } := by
        have hother : ∀ option, option ≠ .error → Function.update values .error 0 option = values option :=
          fun option hne => Function.update_of_ne hne _ _
        have hflag : ∀ f : Flag, f.option ≠ .error := by
          intro f
          cases f <;> decide
        simp only [view, hother _ (hflag _), hother .ttl (by decide), hother .mtu (by decide),
          hother .mtu6 (by decide), Function.update_self]
      have herror : (view reading values).error = values .error := rfl
      simp only [Option.map_none, ← hview, pendingError, herror]
      by_cases hzero : (values .error).toInt = 0
      · simp only [hzero, dif_pos]
        rfl
      · simp only [hzero, dif_neg, not_false_eq_true]
        rfl

end Simulation

/-! Any number of sockets. -/

/-- The objects of the classes with the handles of their sockets, and what the kernel
keeps under each handle. -/
structure World where
  sockets : Nat → Option NativeHandle
  handles : List NativeHandle
  values : NativeHandle → Values
  log : List Result

def initial (handles : List NativeHandle) (values : NativeHandle → Values) : World :=
  ⟨fun _ => none, handles, values, []⟩

/-- The options that the kernel changes by itself, or in another call on the socket. -/
inductive Status where
  | error
  | mtu
  | mtu6
  deriving DecidableEq, Repr

def Status.option : Status → SocketOption
  | .error => .error
  | .mtu => .mtu
  | .mtu6 => .mtu6

inductive Action where
  | opens (id : Nat) (handle : NativeHandle) (values : Values)
  | closes (id : Nat)
  | moves (target source : Nat)
  | changes (id : Nat) (status : Status) (value : BitVec 32)
  | calls (id : Nat) (call : Call) (replies : Replies)

/-- The destructor of the `Socket` that an object lets go. -/
def World.drop (id : Nat) (w : World) : World :=
  { w with
    sockets := Function.update w.sockets id none
    handles := match w.sockets id with
      | some handle => w.handles.erase handle
      | none => w.handles }

def World.pass (target source : Nat) (w : World) : World :=
  { w with sockets := Function.update (Function.update w.sockets source none) target (w.sockets source) }

section Steps

variable (build : Build) (reading : Reading)

/-- The kernel opens under a handle that is free. A `unique_ptr` moved onto itself stays. -/
def step (action : Action) (w : World) : Option World :=
  match action with
  | .opens id handle values =>
    if handle ∈ w.handles then none
    else
      let w := w.drop id
      some { w with
        sockets := Function.update w.sockets id (some handle)
        handles := handle :: w.handles
        values := Function.update w.values handle values }
  | .closes id => some (w.drop id)
  | .moves target source => if target = source then some w else some ((w.drop target).pass target source)
  | .changes id status value =>
    match w.sockets id with
    | none => none
    | some handle => some { w with
        values := Function.update w.values handle
          (Function.update (w.values handle) status.option value) }
  | .calls id call replies =>
    match w.sockets id with
    | none => some { w with log := w.log ++ [call.invalid] }
    | some handle =>
      let (result, values) := call.perform build reading replies (w.values handle)
      some { w with values := Function.update w.values handle values, log := w.log ++ [result] }

/-- The objects with their settings. -/
structure Abstract where
  settings : Nat → Option Settings
  log : List Result

def Settings.change (s : Settings) (status : Status) (value : BitVec 32) : Settings :=
  match status with
  | .error => { s with error := value }
  | .mtu => { s with mtu := reading.read .mtu value }
  | .mtu6 => { s with mtu6 := reading.read .mtu6 value }

/-- The same actions on the settings: no handles, and nothing is shared. -/
def abstractStep (action : Action) (a : Abstract) : Option Abstract :=
  match action with
  | .opens id _ values =>
    some { a with settings := Function.update a.settings id (some (view reading values)) }
  | .closes id => some { a with settings := Function.update a.settings id none }
  | .moves target source =>
    some { a with
      settings := Function.update (Function.update a.settings source none) target (a.settings source) }
  | .changes id status value =>
    match a.settings id with
    | none => none
    | some s => some { a with settings := Function.update a.settings id (some (s.change reading status value)) }
  | .calls id call replies =>
    match a.settings id with
    | none => some { a with log := a.log ++ [call.invalid] }
    | some s =>
      let (result, s) := call.mean build reading replies s
      some { settings := Function.update a.settings id (some s), log := a.log ++ [result] }

end Steps

def image (reading : Reading) (w : World) : Abstract where
  settings id := (w.sockets id).map fun handle => view reading (w.values handle)
  log := w.log

/-- Every object has a handle of its own, and the kernel holds it open. -/
structure Separate (w : World) : Prop where
  held : ∀ {id handle}, w.sockets id = some handle → handle ∈ w.handles
  apart : ∀ {id other handle}, w.sockets id = some handle → w.sockets other = some handle → id = other

section Run

variable {build : Build} {reading : Reading} {w v : World} {id : Nat} {handle : NativeHandle}

theorem Separate.drop (h : Separate w) (id : Nat) : Separate (w.drop id) where
  held := by
    intro other handle hother
    obtain ⟨hne, hold⟩ := Maps.update_none_eq_some hother
    simp only [World.drop]
    cases hid : w.sockets id with
    | none => exact h.held hold
    | some dropped =>
      have hdropped : handle ≠ dropped := by
        rintro rfl
        exact hne (h.apart hold hid)
      exact (List.mem_erase_of_ne hdropped).mpr (h.held hold)
  apart := by
    intro first second handle hfirst hsecond
    exact h.apart (Maps.update_none_eq_some hfirst).2 (Maps.update_none_eq_some hsecond).2

/-- What is dropped is free, or was nobody's. -/
theorem mem_handles_of_drop {id : Nat} (h : handle ∈ (w.drop id).handles) : handle ∈ w.handles := by
  simp only [World.drop] at h
  cases hid : w.sockets id with
  | none => simpa only [hid] using h
  | some dropped =>
    rw [hid] at h
    exact List.mem_of_mem_erase h

theorem image_drop (id : Nat) :
    image reading (w.drop id) =
      { image reading w with settings := Function.update (image reading w).settings id none } := by
  have hsettings : (image reading (w.drop id)).settings =
      Function.update (image reading w).settings id none := by
    funext other
    by_cases hother : other = id
    · subst hother
      simp only [image, World.drop, Function.update_self, Option.map_none]
    · simp only [image, World.drop, Function.update_of_ne hother]
  rw [← hsettings]
  rfl

/-- Writing under the handle of one object changes the settings of that object alone. -/
theorem image_update (h : Separate w) (hid : w.sockets id = some handle) (values : Values)
    (log : List Result) :
    image reading { w with values := Function.update w.values handle values, log := log } =
      { settings := Function.update (image reading w).settings id (some (view reading values)), log := log } := by
  have hsettings : (image reading { w with values := Function.update w.values handle values, log := log }).settings =
      Function.update (image reading w).settings id (some (view reading values)) := by
    funext other
    by_cases hother : other = id
    · subst hother
      simp only [image, hid, Option.map_some, Function.update_self]
    · rw [Function.update_of_ne hother]
      simp only [image]
      cases hsocket : w.sockets other with
      | none => rfl
      | some second =>
        have hsecond : second ≠ handle := by
          rintro rfl
          exact hother (h.apart hsocket hid)
        simp only [Option.map_some, Function.update_of_ne hsecond]
  rw [← hsettings]
  rfl

/-- Reads and writes under the handles keep them apart. -/
theorem Separate.write (h : Separate w) (values : NativeHandle → Values) (log : List Result) :
    Separate { w with values := values, log := log } :=
  ⟨h.held, h.apart⟩

theorem view_change (values : Values) (status : Status) (value : BitVec 32) :
    view reading (Function.update values status.option value) =
      (view reading values).change reading status value := by
  have hother : ∀ option, option ≠ status.option →
      Function.update values status.option value option = values option :=
    fun option hne => Function.update_of_ne hne _ _
  have hflag : ∀ f : Flag, f.option ≠ status.option := by
    intro f
    cases f <;> cases status <;> decide
  cases status with
  | error =>
    simp only [view, Settings.change, hother _ (hflag _), hother .ttl (by decide),
      hother .mtu (by decide), hother .mtu6 (by decide)]
    rfl
  | mtu =>
    simp only [view, Settings.change, hother _ (hflag _), hother .ttl (by decide),
      hother .error (by decide), hother .mtu6 (by decide)]
    rfl
  | mtu6 =>
    simp only [view, Settings.change, hother _ (hflag _), hother .ttl (by decide),
      hother .error (by decide), hother .mtu (by decide)]
    rfl

/-- A new socket; its handle may be one that was closed. -/
theorem opens_simulates (reading : Reading) (id : Nat) (h : Separate w) (hfree : handle ∉ w.handles)
    (values : Values) :
    let opened : World := { w with
      sockets := Function.update w.sockets id (some handle)
      handles := handle :: w.handles
      values := Function.update w.values handle values }
    Separate opened ∧ image reading opened =
      { image reading w with
        settings := Function.update (image reading w).settings id (some (view reading values)) } := by
  have hother : ∀ {other}, w.sockets other ≠ some handle :=
    fun hsocket => hfree (h.held hsocket)
  refine ⟨⟨?_, ?_⟩, ?_⟩
  · intro other second hsocket
    rcases Maps.update_some_eq_some hsocket with ⟨_, rfl⟩ | ⟨_, hold⟩
    · exact List.mem_cons_self
    · exact List.mem_cons_of_mem _ (h.held hold)
  · intro first second shared hfirst hsecond
    rcases Maps.update_some_eq_some hfirst with ⟨rfl, rfl⟩ | ⟨_, hold⟩
    · rcases Maps.update_some_eq_some hsecond with ⟨rfl, _⟩ | ⟨_, hold⟩
      · rfl
      · exact absurd hold hother
    · rcases Maps.update_some_eq_some hsecond with ⟨_, rfl⟩ | ⟨_, hold'⟩
      · exact absurd hold hother
      · exact h.apart hold hold'
  · have hsettings : (fun other => (Function.update w.sockets id (some handle) other).map fun held =>
        view reading (Function.update w.values handle values held)) =
        Function.update (image reading w).settings id (some (view reading values)) := by
      funext other
      by_cases hid : other = id
      · subst hid
        simp only [Function.update_self, Option.map_some]
      · simp only [Function.update_of_ne hid, image]
        cases hsocket : w.sockets other with
        | none => rfl
        | some second =>
          have hsecond : second ≠ handle := by
            rintro rfl
            exact hother hsocket
          simp only [Option.map_some, Function.update_of_ne hsecond]
    exact congrArg (fun settings => Abstract.mk settings w.log) hsettings

/-- An object without a socket gets the one of another. -/
theorem pass_simulates (reading : Reading) (target source : Nat) (h : Separate w) :
    Separate (w.pass target source) ∧ image reading (w.pass target source) =
      { image reading w with
        settings := Function.update (Function.update (image reading w).settings source none) target
          ((image reading w).settings source) } := by
  have hpassed : ∀ {other handle}, (w.pass target source).sockets other = some handle →
      (other = target ∧ w.sockets source = some handle) ∨
      (other ≠ target ∧ other ≠ source ∧ w.sockets other = some handle) := by
    intro other handle hsocket
    rcases Maps.update_eq_some hsocket with hnew | ⟨htarget, hold⟩
    · exact .inl hnew
    · exact .inr ⟨htarget, Maps.update_none_eq_some hold⟩
  refine ⟨⟨?_, ?_⟩, ?_⟩
  · intro other handle hsocket
    rcases hpassed hsocket with ⟨_, hold⟩ | ⟨_, _, hold⟩
    · exact h.held hold
    · exact h.held hold
  · intro first second handle hfirst hsecond
    rcases hpassed hfirst with ⟨rfl, hold⟩ | ⟨_, hne, hold⟩
    · rcases hpassed hsecond with ⟨rfl, _⟩ | ⟨_, hne, hold'⟩
      · rfl
      · exact absurd (h.apart hold' hold) hne
    · rcases hpassed hsecond with ⟨rfl, hold'⟩ | ⟨_, _, hold'⟩
      · exact absurd (h.apart hold hold') hne
      · exact h.apart hold hold'
  · have hsettings : (image reading (w.pass target source)).settings =
        Function.update (Function.update (image reading w).settings source none) target
          ((image reading w).settings source) := by
      funext other
      by_cases htarget : other = target
      · subst htarget
        simp only [image, World.pass, Function.update_self]
      · by_cases hsource : other = source
        · subst hsource
          simp only [image, World.pass, Function.update_of_ne htarget, Function.update_self, Option.map_none]
        · simp only [image, World.pass, Function.update_of_ne htarget, Function.update_of_ne hsource]
    rw [← hsettings]
    rfl

theorem settings_of_some (hid : w.sockets id = some handle) :
    (image reading w).settings id = some (view reading (w.values handle)) := by
  simp only [image, hid, Option.map_some]

theorem settings_of_none (hid : w.sockets id = none) : (image reading w).settings id = none := by
  simp only [image, hid, Option.map_none]

/-- A step of the program is the step of the settings. -/
theorem step_simulates (action : Action) (u v : World) (h : Separate u)
    (hstep : step build reading action u = some v) :
    abstractStep build reading action (image reading u) = some (image reading v) ∧ Separate v := by
  cases action with
  | opens id handle values =>
    simp only [step] at hstep
    split at hstep
    · cases hstep
    · rename_i hfree
      cases hstep
      obtain ⟨hkept, himage⟩ := opens_simulates reading id (h.drop id)
        (fun hheld => hfree (mem_handles_of_drop hheld)) values
      refine ⟨?_, hkept⟩
      rw [himage, image_drop]
      simp only [abstractStep, Function.update_idem]
  | closes id =>
    cases hstep
    exact ⟨by rw [image_drop]; rfl, h.drop id⟩
  | moves target source =>
    simp only [step] at hstep
    split at hstep
    · rename_i hsame
      subst hsame
      cases hstep
      refine ⟨?_, h⟩
      simp only [abstractStep, Function.update_idem, Function.update_eq_self]
    · rename_i hne
      cases hstep
      obtain ⟨hkept, himage⟩ := pass_simulates reading target source (h.drop target)
      refine ⟨?_, hkept⟩
      have hcomm : Function.update (Function.update (image reading u).settings target none) source none =
          Function.update (Function.update (image reading u).settings source none) target none :=
        Function.update_comm hne _ _ _
      rw [himage, image_drop]
      simp only [abstractStep, hcomm, Function.update_idem, Function.update_of_ne (Ne.symm hne)]
  | changes id status value =>
    simp only [step] at hstep
    cases hid : u.sockets id with
    | none =>
      rw [hid] at hstep
      cases hstep
    | some handle =>
      rw [hid] at hstep
      cases hstep
      refine ⟨?_, h.write _ _⟩
      rw [image_update h hid, view_change]
      simp only [abstractStep, settings_of_some hid]
      rfl
  | calls id call replies =>
    simp only [step] at hstep
    cases hid : u.sockets id with
    | none =>
      rw [hid] at hstep
      cases hstep
      refine ⟨?_, h.write _ _⟩
      simp only [abstractStep, settings_of_none hid]
      rfl
    | some handle =>
      rw [hid] at hstep
      cases hstep
      refine ⟨?_, h.write _ _⟩
      rw [image_update h hid]
      have hmean : seen reading (call.perform build reading replies (u.values handle)) =
          call.mean build reading replies (view reading (u.values handle)) := perform_mean call
      simp only [abstractStep, settings_of_some hid, ← hmean]
      rfl

/-- However the objects are opened, closed and moved, and whatever the kernel refuses, the
calls return what they return on settings that no two objects share. -/
theorem settings_refined (build : Build) (reading : Reading) (handles : List NativeHandle)
    (values : NativeHandle → Values) (actions : List Action) (w : World)
    (h : run (step build reading) actions (initial handles values) = some w) :
    run (abstractStep build reading) actions (image reading (initial handles values)) =
      some (image reading w) := by
  have hstart : Separate (initial handles values) := by
    constructor
    · intro id handle hsocket
      cases hsocket
    · intro id other handle hsocket
      cases hsocket
  exact run_simulates step_simulates actions hstart h

/-- A BSD kernel: a flag that is on reads as its bit. -/
def bsdReading : Reading where
  read
    | .reuseaddr, value => if value = 0 then 0 else 4
    | .reuseport, value => if value = 0 then 0 else 512
    | .keepalive, value => if value = 0 then 0 else 8
    | .broadcast, value => if value = 0 then 0 else 32
    | .nodelay, value => if value = 0 then 0 else 4
    | .ttl, value => if value = -1 then 64 else value
    | _, value => value
  defaultTtl := 64
  flag := by
    intro flag value
    cases flag <;> by_cases hzero : value = 0 <;> simp [Flag.option, hzero]
  ttl _ := rfl
  error _ := rfl

/-- A flag travels with its socket, a reused handle starts anew, an error is taken once. -/
theorem settings_refined_handle_reused :
    let build : Build := ⟨.other, true, true, false⟩
    let closed : List Action := [
      .opens 0 5 (fun _ => 0),
      .calls 0 (.setFlag .keepalive true) (fun _ => none),
      .moves 1 0,
      .calls 0 .ttl (fun _ => none),
      .calls 1 (.flag .keepalive) (fun _ => none),
      .closes 1]
    let reopened : List Action := [
      .opens 2 5 (fun _ => 0),
      .calls 2 (.flag .keepalive) (fun _ => none),
      .changes 2 .error 54,
      .calls 2 .takeError (fun _ => none),
      .calls 2 .takeError (fun _ => none),
      .calls 2 .mtu (fun _ => none)]
    ∃ w, run (step build bsdReading) (closed ++ reopened) (initial [] fun _ _ => 0) = some w ∧
      run (abstractStep build bsdReading) (closed ++ reopened)
        (image bsdReading (initial [] fun _ _ => 0)) = some (image bsdReading w) ∧
      w.log = [.done none, .number (some .badFileDescriptor) 0, .flag none true, .flag none false,
        .taken (.ok (some (.ofErrno ⟨54, by decide⟩))), .taken (.ok none),
        .number (some functionNotSupported) 0] :=
  ⟨_, rfl, settings_refined _ bsdReading [] (fun _ _ => 0) _ _ rfl, rfl⟩

end Run

end Options
