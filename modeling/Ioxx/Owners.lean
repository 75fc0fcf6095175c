import Ioxx.Ownership
import Ioxx.Selector
import Ioxx.NamedPipe

/-!
# The objects that own a descriptor

`OwnedDescriptor`, `Socket`, the classes of `unix.cpp`, `NamedPipe` and the classes
that keep their `Socket` behind a `unique_ptr` each answer for one descriptor. A
`World` is a process that makes, moves, resets and destroys any number of them,
while the kernel hands out the numbers that were closed again. The ledger of
`Ownership` is what the process owes: every step of the world is a few legal
entries of it.
-/

namespace Owners

open Core Detail Runs Ownership

/-- `unixObject` stands for `Sender`, `Receiver`, `UnixStream`, `UnixListener` and
`UnixDatagram`, `netObject` for `TcpSocket`, `TcpStream`, `TcpListener` and
`UdpSocket`. -/
inductive Class where
  | ownedDescriptor
  | socket
  | unixObject
  | namedPipe
  | netObject
  deriving DecidableEq, Repr

/-- The member that keeps the descriptor; for a `netObject` the `unique_ptr`. -/
inductive Object where
  | ownedDescriptor (fd : NativeHandle)
  | socket (handle : NativeHandle)
  | unixObject (fd : NativeHandle)
  | namedPipe (handle : NativeHandle)
  | netObject (socket : Option NativeHandle)
  deriving DecidableEq, Repr

/-- The classes that a build has. -/
def Class.on (platform : Platform) : Class → Bool
  | .ownedDescriptor => platform != .windows
  | .unixObject => platform != .windows
  | .namedPipe => platform == .windows
  | .socket => true
  | .netObject => true

def Object.type : Object → Class
  | .ownedDescriptor _ => .ownedDescriptor
  | .socket _ => .socket
  | .unixObject _ => .unixObject
  | .namedPipe _ => .namedPipe
  | .netObject _ => .netObject

variable (platform : Platform)

/-- The descriptors and handles that the kernel hands out. -/
def nameable (handle : NativeHandle) : Bool :=
  match platform with
  | .windows => Pipe.isValid handle
  | _ => decide (0 ≤ handle)

/-! The functions that close return what they close. -/

/-- `close_descriptor`, and `close_fd` of `unix.cpp`. -/
def closeDescriptor (fd : NativeHandle) : List NativeHandle := if 0 ≤ fd then [fd] else []

def closeSocket (handle : NativeHandle) : List NativeHandle :=
  if handle ≠ invalidNativeHandle platform then [handle] else []

/-- `NamedPipe::close`. -/
def closePipe (handle : NativeHandle) : List NativeHandle :=
  if Pipe.isValid handle then [handle] else []

/-- `reset` of `OwnedDescriptor` and of `Socket`: a descriptor is not closed in
favour of itself. -/
def reset (close : NativeHandle → List NativeHandle) (next current : NativeHandle) :
    List NativeHandle × NativeHandle :=
  if current ≠ next then (close current, next) else ([], current)

def resetDescriptor := reset closeDescriptor
def resetSocket := reset (closeSocket platform)

/-- An object made of a raw descriptor. -/
def Class.object (handle : NativeHandle) : Class → Object
  | .ownedDescriptor => .ownedDescriptor handle
  | .socket => .socket handle
  | .unixObject => .unixObject handle
  | .namedPipe => .namedPipe handle
  | .netObject => .netObject (some handle)

/-- What the default constructor makes, and what is left of an object after
`release` or a move. -/
def Class.empty : Class → Object
  | .ownedDescriptor => .ownedDescriptor (-1)
  | .socket => .socket (invalidNativeHandle platform)
  | .unixObject => .unixObject (-1)
  | .namedPipe => .namedPipe Pipe.invalidHandleValue
  | .netObject => .netObject none

/-- The constructors of `unix.cpp` and of `net.cpp` that take a raw descriptor
prepare it, and throw if that fails. An exception destroys the members that are
made already, so a `netObject` closes the descriptor and a `unixObject` does not. -/
def Class.thrown : Class → Option (NativeHandle → List NativeHandle)
  | .unixObject => some fun _ => []
  | .netObject => some fun handle => (resetSocket platform (invalidNativeHandle platform) handle).1
  | _ => none

namespace Object

/-- The destructors. -/
def destroy : Object → List NativeHandle
  | .ownedDescriptor fd => (resetDescriptor (-1) fd).1
  | .socket handle => (resetSocket platform (invalidNativeHandle platform) handle).1
  | .unixObject fd => closeDescriptor fd
  | .namedPipe handle => closePipe handle
  | .netObject none => []
  | .netObject (some handle) => (resetSocket platform (invalidNativeHandle platform) handle).1

/-- `release`, for the classes that have it. -/
def release : Object → Option (NativeHandle × Object)
  | .ownedDescriptor fd => some (fd, Class.ownedDescriptor.empty platform)
  | .socket handle => some (handle, Class.socket.empty platform)
  | .unixObject fd => some (fd, Class.unixObject.empty platform)
  | .namedPipe handle => some (handle, Class.namedPipe.empty platform)
  | .netObject _ => none

/-- `reset(handle)`, for the classes that have it. -/
def resetTo (next : NativeHandle) : Object → Option (List NativeHandle × Object)
  | .ownedDescriptor fd =>
    let (closed, fd) := resetDescriptor next fd
    some (closed, .ownedDescriptor fd)
  | .socket handle =>
    let (closed, handle) := resetSocket platform next handle
    some (closed, .socket handle)
  | _ => none

/-- Move assignment from another object of the class: what is closed, the target
and the source after it. -/
def moveAssign : Object → Object → Option (List NativeHandle × Object × Object)
  | .ownedDescriptor fd, .ownedDescriptor other =>
    let (closed, fd) := resetDescriptor other fd
    some (closed, .ownedDescriptor fd, Class.ownedDescriptor.empty platform)
  | .socket handle, .socket other =>
    let (closed, handle) := resetSocket platform other handle
    some (closed, .socket handle, Class.socket.empty platform)
  | .unixObject fd, .unixObject other =>
    some (closeDescriptor fd, .unixObject other, Class.unixObject.empty platform)
  | .namedPipe handle, .namedPipe other =>
    some (closePipe handle, .namedPipe other, Class.namedPipe.empty platform)
  | .netObject owned, .netObject other =>
    some (destroy platform (.netObject owned), .netObject other, Class.netObject.empty platform)
  | _, _ => none

/-- The descriptor that the object answers for. -/
def held : Object → Option NativeHandle
  | .ownedDescriptor fd => if 0 ≤ fd then some fd else none
  | .socket handle => if handle ≠ invalidNativeHandle platform then some handle else none
  | .unixObject fd => if 0 ≤ fd then some fd else none
  | .namedPipe handle => if Pipe.isValid handle then some handle else none
  | .netObject owned => owned.bind fun handle =>
      if handle ≠ invalidNativeHandle platform then some handle else none

end Object

/-! What each function does to what is held. -/

theorem reset_eq {close : NativeHandle → List NativeHandle} {next current : NativeHandle}
    (h : current ≠ next ∨ close current = []) :
    reset close next current = (close current, next) := by
  unfold reset
  split
  · rfl
  · rename_i hsame
    rw [h.resolve_left hsame, not_ne_iff.mp hsame]

theorem reset_self (close : NativeHandle → List NativeHandle) (current : NativeHandle) :
    reset close current current = ([], current) := if_neg (not_not.mpr rfl)

theorem resetSocket_invalid (handle : NativeHandle) :
    (resetSocket platform (invalidNativeHandle platform) handle).1 = closeSocket platform handle := by
  have h : handle ≠ invalidNativeHandle platform ∨ closeSocket platform handle = [] := by
    by_cases h : handle = invalidNativeHandle platform
    · exact .inr (if_neg (not_not.mpr h))
    · exact .inl h
  rw [resetSocket, reset_eq h]

theorem resetDescriptor_invalid (fd : NativeHandle) :
    (resetDescriptor (-1) fd).1 = closeDescriptor fd := by
  have h : fd ≠ -1 ∨ closeDescriptor fd = [] := by
    by_cases h : fd = -1
    · exact .inr (by rw [h]; rfl)
    · exact .inl h
  rw [resetDescriptor, reset_eq h]

/-- A destructor closes what the object holds and nothing else. -/
theorem destroy_eq (o : Object) : o.destroy platform = (o.held platform).toList := by
  cases o with
  | ownedDescriptor fd =>
    rw [Object.destroy, resetDescriptor_invalid, closeDescriptor, Object.held]
    split <;> rfl
  | socket handle =>
    rw [Object.destroy, resetSocket_invalid, closeSocket, Object.held]
    split <;> rfl
  | unixObject fd =>
    rw [Object.destroy, closeDescriptor, Object.held]
    split <;> rfl
  | namedPipe handle =>
    rw [Object.destroy, closePipe, Object.held]
    split <;> rfl
  | netObject owned =>
    cases owned with
    | none => rfl
    | some handle =>
      rw [Object.destroy, resetSocket_invalid, closeSocket, Object.held, Option.bind_some]
      split <;> rfl

@[simp] theorem held_empty (type : Class) : (type.empty platform).held platform = none := by
  cases type <;> simp [Class.empty, Object.held, Pipe.isValid]

theorem nameable_ne_invalid {handle : NativeHandle} (h : nameable platform handle = true) :
    handle ≠ invalidNativeHandle platform := by
  rintro rfl
  cases platform <;> simp [nameable, invalidNativeHandle, Pipe.isValid, Pipe.invalidHandleValue] at h

theorem nameable_posix (h : (platform != .windows) = true) (handle : NativeHandle) :
    nameable platform handle = decide (0 ≤ handle) := by
  cases platform with
  | windows => cases h
  | linux | kqueue | other => rfl

theorem nameable_windows (h : (platform == .windows) = true) (handle : NativeHandle) :
    nameable platform handle = Pipe.isValid handle := by
  rw [beq_iff_eq.mp h]
  rfl

theorem held_object {type : Class} {handle : NativeHandle} (hon : type.on platform = true)
    (hname : nameable platform handle = true) :
    (type.object handle).held platform = some handle := by
  cases type with
  | ownedDescriptor | unixObject =>
    rw [nameable_posix platform hon, decide_eq_true_iff] at hname
    exact if_pos hname
  | namedPipe =>
    rw [nameable_windows platform hon] at hname
    exact if_pos hname
  | socket | netObject => exact if_pos (nameable_ne_invalid platform hname)

theorem held_invalid {type : Class} (hon : type.on platform = true) :
    (type.object (invalidNativeHandle platform)).held platform = none := by
  cases platform <;> cases type <;> first | rfl | cases hon

/-- `release` hands out the value and leaves an empty object. What is handed out is
what was held, or a value that the kernel hands out to nobody. -/
theorem release_cases {o o' : Object} {handle : NativeHandle} (hon : o.type.on platform = true)
    (h : o.release platform = some (handle, o')) :
    (o.held platform = some handle ∨
      (o.held platform = none ∧ nameable platform handle = false)) ∧
      o'.type = o.type ∧ o'.held platform = none := by
  cases o with
  | netObject owned => cases h
  | ownedDescriptor fd | unixObject fd =>
    cases h
    refine ⟨?_, rfl, held_empty platform _⟩
    rw [nameable_posix platform hon, Object.held, decide_eq_false_iff_not]
    by_cases hfd : 0 ≤ handle
    · exact .inl (if_pos hfd)
    · exact .inr ⟨if_neg hfd, hfd⟩
  | socket fd =>
    cases h
    refine ⟨?_, rfl, held_empty platform _⟩
    rw [Object.held]
    by_cases hfd : handle = invalidNativeHandle platform
    · refine .inr ⟨if_neg (not_not.mpr hfd), ?_⟩
      exact Bool.eq_false_iff.mpr fun hname => nameable_ne_invalid platform hname hfd
    · exact .inl (if_pos hfd)
  | namedPipe fd =>
    cases h
    refine ⟨?_, rfl, held_empty platform _⟩
    rw [nameable_windows platform hon, Object.held]
    by_cases hfd : Pipe.isValid handle = true
    · exact .inl (if_pos hfd)
    · exact .inr ⟨if_neg hfd, Bool.eq_false_iff.mpr hfd⟩

theorem resetDescriptor_eq {fd next : NativeHandle}
    (h : fd ≠ next ∨ (Object.ownedDescriptor fd).held platform = none) :
    resetDescriptor next fd = (((Object.ownedDescriptor fd).held platform).toList, next) := by
  have hclose := destroy_eq platform (.ownedDescriptor fd)
  rw [Object.destroy, resetDescriptor_invalid] at hclose
  rw [resetDescriptor, reset_eq (h.imp_right fun hfree => by rw [hclose, hfree]; rfl), hclose]

theorem resetSocket_eq {handle next : NativeHandle}
    (h : handle ≠ next ∨ (Object.socket handle).held platform = none) :
    resetSocket platform next handle = (((Object.socket handle).held platform).toList, next) := by
  have hclose := destroy_eq platform (.socket handle)
  rw [Object.destroy, resetSocket_invalid] at hclose
  rw [resetSocket, reset_eq (h.imp_right fun hfree => by rw [hclose, hfree]; rfl), hclose]

/-- Unless both hold the same descriptor, move assignment closes what the target
holds and passes on what the source holds. -/
theorem moveAssign_cases {o other t u : Object} {closed : List NativeHandle}
    (h : o.moveAssign platform other = some (closed, t, u))
    (hne : o.held platform ≠ other.held platform ∨ o.held platform = none) :
    closed = (o.held platform).toList ∧ t.held platform = other.held platform ∧
      u.held platform = none := by
  unfold Object.moveAssign at h
  split at h
  · rename_i fd fd'
    rw [resetDescriptor_eq platform (hne.imp_left fun hne hsame => hne (by rw [hsame]))] at h
    cases h
    exact ⟨rfl, rfl, held_empty platform _⟩
  · rename_i handle handle'
    rw [resetSocket_eq platform (hne.imp_left fun hne hsame => hne (by rw [hsame]))] at h
    cases h
    exact ⟨rfl, rfl, held_empty platform _⟩
  · cases h
    exact ⟨destroy_eq platform (.unixObject _), rfl, held_empty platform _⟩
  · cases h
    exact ⟨destroy_eq platform (.namedPipe _), rfl, held_empty platform _⟩
  · cases h
    exact ⟨destroy_eq platform (.netObject _), rfl, held_empty platform _⟩
  · cases h

theorem moveAssign_type {o other t u : Object} {closed : List NativeHandle}
    (h : o.moveAssign platform other = some (closed, t, u)) :
    t.type = o.type ∧ u.type = other.type := by
  unfold Object.moveAssign at h
  split at h
  · cases h
    exact ⟨rfl, rfl⟩
  · cases h
    exact ⟨rfl, rfl⟩
  · cases h
    exact ⟨rfl, rfl⟩
  · cases h
    exact ⟨rfl, rfl⟩
  · cases h
    exact ⟨rfl, rfl⟩
  · cases h

theorem resetTo_type {o t : Object} {next : NativeHandle} {closed : List NativeHandle}
    (h : o.resetTo platform next = some (closed, t)) : t.type = o.type := by
  cases o with
  | ownedDescriptor fd | socket fd =>
    cases h
    rfl
  | unixObject fd | namedPipe fd | netObject owned => cases h

/-- `reset` to another value closes what the object holds; the object is then one
made of that value. -/
theorem resetTo_cases {o t : Object} {next : NativeHandle} {closed : List NativeHandle}
    (h : o.resetTo platform next = some (closed, t))
    (hne : o ≠ o.type.object next ∨ o.held platform = none) :
    closed = (o.held platform).toList ∧ t = o.type.object next := by
  cases o with
  | ownedDescriptor fd =>
    rw [Object.resetTo, resetDescriptor_eq platform (hne.imp_left fun hne hsame => hne (by rw [hsame]; rfl))] at h
    cases h
    exact ⟨rfl, rfl⟩
  | socket handle =>
    rw [Object.resetTo, resetSocket_eq platform (hne.imp_left fun hne hsame => hne (by rw [hsame]; rfl))] at h
    cases h
    exact ⟨rfl, rfl⟩
  | unixObject fd | namedPipe fd | netObject owned => cases h

/-- `reset` to the value that the object has does nothing. -/
theorem resetTo_self {o t : Object} {next : NativeHandle} {closed : List NativeHandle}
    (h : o.resetTo platform next = some (closed, t)) (hself : o = o.type.object next) :
    closed = [] ∧ t = o := by
  cases o with
  | ownedDescriptor fd =>
    cases hself
    rw [Object.resetTo, resetDescriptor, reset_self] at h
    cases h
    exact ⟨rfl, rfl⟩
  | socket handle =>
    cases hself
    rw [Object.resetTo, resetSocket, reset_self] at h
    cases h
    exact ⟨rfl, rfl⟩
  | unixObject fd | namedPipe fd | netObject owned => cases h

/-- A process: what each number names (the how-many-th descriptor that was opened),
the descriptors that the rest of the program answers for, the objects, and what
their closes hit, latest first. -/
structure World where
  files : NativeHandle → Option Nat
  opened : Nat
  raw : List Nat
  objects : Nat → Option Object
  closes : List (Option Nat)

def initial : World := ⟨fun _ => none, 0, [], fun _ => none, []⟩

def World.close (w : World) (handle : NativeHandle) : World :=
  { w with files := Function.update w.files handle none, closes := w.files handle :: w.closes }

def World.closeAll (w : World) (handles : List NativeHandle) : World := handles.foldl World.close w

def World.put (w : World) (id : Nat) (object : Option Object) : World :=
  { w with objects := Function.update w.objects id object }

/-- The rest of the program opens and closes descriptors of its own, makes objects
of them and gets them back from `release`. `prepared` is whether a constructor
that prepares its descriptor succeeds. -/
inductive Action where
  | opens (handle : NativeHandle)
  | closes (handle : NativeHandle)
  | defaults (id : Nat) (type : Class)
  | constructs (id : Nat) (type : Class) (handle : NativeHandle) (prepared : Bool)
  | moves (target source : Nat)
  | assigns (target source : Nat)
  | releases (id : Nat)
  | resets (id : Nat) (handle : NativeHandle)
  | destroys (id : Nat)
  deriving DecidableEq, Repr

/-- A constructor that is given a descriptor of the rest of the program. -/
def World.construct (w : World) (id : Nat) (type : Class) (handle : NativeHandle) (n : Nat)
    (prepared : Bool) : World :=
  match type.thrown platform, prepared with
  | some closed, false =>
    -- the object is not made; its members may have closed the descriptor
    match closed handle with
    | [] => w
    | handles => { w with raw := w.raw.erase n }.closeAll handles
  | _, _ => { w with raw := w.raw.erase n }.put id (some (type.object handle))

def step : Action → World → Option World
  | .opens handle, w =>
    if nameable platform handle ∧ w.files handle = none then some { w with
      files := Function.update w.files handle (some w.opened)
      opened := w.opened + 1
      raw := w.opened :: w.raw } else none
  | .closes handle, w =>
    (w.files handle).bind fun n =>
      if n ∈ w.raw then some { w with
        files := Function.update w.files handle none
        raw := w.raw.erase n } else none
  | .defaults id type, w =>
    if w.objects id = none ∧ type.on platform then some (w.put id (some (type.empty platform))) else none
  | .constructs id type handle prepared, w =>
    (w.files handle).bind fun n =>
      if w.objects id = none ∧ type.on platform ∧ n ∈ w.raw then
        some (w.construct platform id type handle n prepared) else none
  | .moves target source, w =>
    (w.objects source).bind fun o =>
      if w.objects target = none then
        some ((w.put target (some o)).put source (some (o.type.empty platform))) else none
  | .assigns target source, w =>
    (w.objects target).bind fun o => (w.objects source).bind fun other =>
      -- `if (this != &other)`; a `unique_ptr` assigned to itself keeps its pointer
      if target = source then some w
      else (o.moveAssign platform other).map fun (closed, t, u) =>
        ((w.closeAll closed).put target (some t)).put source (some u)
  | .releases id, w =>
    (w.objects id).bind fun o => (o.release platform).map fun (handle, o') =>
      { w with raw := (w.files handle).toList ++ w.raw }.put id (some o')
  | .resets id handle, w =>
    (w.objects id).bind fun o => (o.resetTo platform handle).bind fun (closed, o') =>
      if o = o.type.object handle ∨ handle = invalidNativeHandle platform then
        some ((w.closeAll closed).put id (some o'))
      else (w.files handle).bind fun n =>
        if n ∈ w.raw then some (({ w with raw := w.raw.erase n }.closeAll closed).put id (some o'))
        else none
  | .destroys id, w =>
    (w.objects id).map fun o => (w.closeAll (o.destroy platform)).put id none

variable {platform}

/-- What the process owes. -/
def World.ledger (platform : Platform) (w : World) : Ledger Nat NativeHandle where
  names := w.files
  issued := w.opened
  outside := w.raw
  held id := (w.objects id).bind (Object.held platform)
  closed := w.closes

theorem ledger_put (platform : Platform) (w : World) (id : Nat) (object : Option Object) :
    (w.put id object).ledger platform = { w.ledger platform with
      held := Function.update (w.ledger platform).held id (object.bind (Object.held platform)) } := by
  have hheld : (fun other => (Function.update w.objects id object other).bind (Object.held platform)) =
      Function.update (w.ledger platform).held id (object.bind (Object.held platform)) := by
    funext other
    by_cases hother : other = id
    · subst hother
      simp only [Function.update_self]
    · simp only [Function.update_of_ne hother]
      rfl
  simp only [World.ledger, World.put]
  rw [hheld]
  rfl

theorem ledger_held {w : World} {id : Nat} {o : Object} (h : w.objects id = some o) :
    (w.ledger platform).held id = o.held platform := by
  simp only [World.ledger, h, Option.bind_some]

theorem ledger_unmade {w : World} {id : Nat} (h : w.objects id = none) :
    (w.ledger platform).held id = none := by
  simp only [World.ledger, h, Option.bind_none]

/-- An object that closes what it holds and is left with nothing makes at most one
entry. -/
theorem emptied_entries (platform : Platform) {w : World} {id : Nat} {o : Object}
    (ho : w.objects id = some o) (object : Option Object) (hempty : object.bind (Object.held platform) = none) :
    Entries (w.ledger platform)
      (((w.closeAll (o.held platform).toList).put id object).ledger platform) := by
  have hheld : (w.ledger platform).held id = o.held platform := ledger_held ho
  rw [ledger_put, hempty]
  cases hname : o.held platform with
  | none =>
    rw [hname] at hheld
    have hsame : Function.update (w.ledger platform).held id none = (w.ledger platform).held := by
      rw [← hheld, Function.update_eq_self]
    simp only [Option.toList_none, World.closeAll, List.foldl_nil, hsame]
    exact .refl
  | some name =>
    exact .single (.drop id name (hheld.trans hname))

/-- The kernel hands out valid numbers, and only the classes of the build are used. -/
structure Sorted (platform : Platform) (w : World) : Prop where
  names : ∀ handle n, w.files handle = some n → nameable platform handle = true
  types : ∀ id o, w.objects id = some o → o.type.on platform = true

theorem Sorted.put {w : World} (h : Sorted platform w) (id : Nat) {object : Option Object}
    (ho : ∀ o, object = some o → o.type.on platform = true) : Sorted platform (w.put id object) := by
  refine ⟨h.names, fun other o hother => ?_⟩
  rcases Maps.update_eq_some hother with ⟨_, hnew⟩ | ⟨_, hold⟩
  · exact ho o hnew
  · exact h.types other o hold

theorem Sorted.closeAll {w : World} (h : Sorted platform w) (handles : List NativeHandle) :
    Sorted platform (w.closeAll handles) := by
  induction handles generalizing w with
  | nil => exact h
  | cons handle handles ih =>
    refine ih ⟨fun other n hn => ?_, h.types⟩
    exact h.names other n (Maps.update_none_eq_some hn).2

theorem Sorted.raw {w : World} (h : Sorted platform w) (raw : List Nat) :
    Sorted platform { w with raw := raw } := ⟨h.names, h.types⟩

@[simp] theorem type_object (type : Class) (handle : NativeHandle) : (type.object handle).type = type := by
  cases type <;> rfl

@[simp] theorem type_empty (type : Class) : (type.empty platform).type = type := by
  cases type <;> rfl

/-- Handing the value of one object to another that holds nothing is one entry. -/
theorem passed_entries {w v : World} {source target : Nat} (hother : source ≠ target)
    (hidle : (w.ledger platform).held target = none)
    (hv : v.ledger platform = { w.ledger platform with
      held := Function.update (Function.update (w.ledger platform).held target
        ((w.ledger platform).held source)) source none }) :
    Entries (w.ledger platform) (v.ledger platform) := by
  rw [hv]
  exact .single (.pass source target hother hidle)

theorem construct_entries {w : World} {id n : Nat} {type : Class} {handle : NativeHandle}
    (prepared : Bool) (hsorted : Sorted platform w) (hid : w.objects id = none)
    (hon : type.on platform = true) (hn : w.files handle = some n) (hmem : n ∈ w.raw) :
    Entries (w.ledger platform) ((w.construct platform id type handle n prepared).ledger platform) := by
  have hheld := held_object platform hon (hsorted.names handle n hn)
  have hidle : (w.ledger platform).held id = none := ledger_unmade hid
  have hadopt : Legal (w.ledger platform) ((w.ledger platform).adopt id handle n) :=
    .adopt id handle n hidle hn hmem
  have hmade : Entries (w.ledger platform)
      (({ w with raw := w.raw.erase n }.put id (some (type.object handle))).ledger platform) := by
    rw [ledger_put, Option.bind_some, hheld]
    exact .single hadopt
  unfold World.construct
  split
  · rename_i closed hthrown
    cases type with
    | unixObject =>
      cases hthrown
      exact .refl
    | netObject =>
      cases hthrown
      have hclosed : (resetSocket platform (invalidNativeHandle platform) handle).1 = [handle] := by
        rw [resetSocket_invalid]
        exact if_pos (nameable_ne_invalid platform (hsorted.names handle n hn))
      simp only [hclosed]
      -- the member that the exception destroys had adopted the descriptor
      have hdrop : Legal ((w.ledger platform).adopt id handle n)
          (((w.ledger platform).adopt id handle n).drop id handle) :=
        .drop id handle (Function.update_self _ _ _)
      have hsame : Function.update (Function.update (w.ledger platform).held id (some handle)) id none =
          (w.ledger platform).held := by
        rw [Function.update_idem, ← hidle, Function.update_eq_self]
      have hend : ({ w with raw := w.raw.erase n }.closeAll [handle]).ledger platform =
          ((w.ledger platform).adopt id handle n).drop id handle := by
        simp only [Ledger.drop, Ledger.adopt, hsame]
        rfl
      rw [hend]
      exact .tail (.single hadopt) hdrop
    | ownedDescriptor | socket | namedPipe => cases hthrown
  · exact hmade

/-- An object that closes what it holds and takes another descriptor makes at most
two entries. -/
theorem adopted_entries {w : World} {id n : Nat} {o : Object} {handle : NativeHandle}
    (ho : w.objects id = some o) (hon : o.type.on platform = true) (hn : w.files handle = some n)
    (hmem : n ∈ w.raw) (hbalanced : Balanced (w.ledger platform))
    (hname : nameable platform handle = true) :
    Entries (w.ledger platform) ((({ w with raw := w.raw.erase n }.closeAll
      (o.held platform).toList).put id (some (o.type.object handle))).ledger platform) := by
  have hfirst := emptied_entries platform ho
    (some (o.type.empty platform)) (held_empty platform o.type)
  refine hfirst.tail ?_
  have hidle : (((w.closeAll (o.held platform).toList).put id
      (some (o.type.empty platform))).ledger platform).held id = none := by
    rw [ledger_put]
    exact (Function.update_self _ _ _).trans (held_empty platform o.type)
  have hfree : o.held platform ≠ some handle := by
    rw [← ledger_held ho]
    exact hbalanced.not_held hn hmem id
  have hend := ledger_put platform ({ w with raw := w.raw.erase n }.closeAll
    (o.held platform).toList) id (some (o.type.object handle))
  rw [hend, Option.bind_some, held_object platform hon hname]
  rw [ledger_put] at hidle ⊢
  cases hold : o.held platform with
  | none =>
    rw [hold] at hidle
    have hlegal := Legal.adopt id handle n hidle hn hmem
    simp only [Ledger.adopt, Function.update_idem] at hlegal
    exact hlegal
  | some old =>
    rw [hold] at hidle hfree
    have hne : handle ≠ old := fun hsame => hfree (congrArg some hsame.symm)
    have hlegal := Legal.adopt id handle n hidle ((Function.update_of_ne hne _ _).trans hn) hmem
    simp only [Ledger.adopt, Function.update_idem] at hlegal
    exact hlegal

/-- Every step is a few legal entries of the ledger. -/
theorem step_entries {a : Action} {w v : World} (hsorted : Sorted platform w)
    (hbalanced : Balanced (w.ledger platform)) (h : step platform a w = some v) :
    Entries (w.ledger platform) (v.ledger platform) := by
  cases a with
  | opens handle =>
    simp only [step] at h
    split at h
    · rename_i hfree
      cases h
      exact .single (.issue handle hfree.2)
    · cases h
  | closes handle =>
    obtain ⟨n, hn, h⟩ := Option.bind_eq_some_iff.mp h
    split at h
    · rename_i hmem
      cases h
      exact .single (.dispose handle n hn hmem)
    · cases h
  | defaults id type =>
    simp only [step] at h
    split at h
    · rename_i hid
      cases h
      have hidle : (w.ledger platform).held id = none := ledger_unmade hid.1
      rw [ledger_put, Option.bind_some, held_empty, ← hidle, Function.update_eq_self]
    · cases h
  | constructs id type handle prepared =>
    obtain ⟨n, hn, h⟩ := Option.bind_eq_some_iff.mp h
    split at h
    · rename_i hmay
      cases h
      exact construct_entries prepared hsorted hmay.1 hmay.2.1 hn hmay.2.2
    · cases h
  | moves target source =>
    obtain ⟨o, ho, h⟩ := Option.bind_eq_some_iff.mp h
    split at h
    · rename_i hid
      cases h
      have hother : source ≠ target := by
        rintro rfl
        rw [hid] at ho
        cases ho
      refine passed_entries hother (ledger_unmade hid) ?_
      have hheld : (w.ledger platform).held source = o.held platform := ledger_held ho
      rw [ledger_put, ledger_put, Option.bind_some, Option.bind_some, held_empty, hheld]
    · cases h
  | assigns target source =>
    obtain ⟨o, ho, h⟩ := Option.bind_eq_some_iff.mp h
    obtain ⟨other, hsource, h⟩ := Option.bind_eq_some_iff.mp h
    split at h
    · cases h
      exact .refl
    · rename_i hother
      obtain ⟨⟨closed, t, u⟩, hassign, h⟩ := Option.map_eq_some_iff.mp h
      cases h
      have hne : o.held platform ≠ other.held platform ∨ o.held platform = none := by
        cases hname : o.held platform with
        | none => exact .inr rfl
        | some name =>
          refine .inl fun hsame => hother (hbalanced.exclusive target source name ?_ ?_)
          · rw [ledger_held ho, hname]
          · rw [ledger_held hsource, ← hsame]
      obtain ⟨rfl, ht, hu⟩ := moveAssign_cases platform hassign hne
      -- the target is emptied first, then the value is passed on
      have hfirst := emptied_entries platform ho
        (some (o.type.empty platform)) (held_empty platform o.type)
      refine hfirst.trans (passed_entries (Ne.symm hother) ?_ ?_)
      · rw [ledger_put]
        exact (Function.update_self _ _ _).trans (held_empty platform o.type)
      · have hkept : (((w.closeAll (o.held platform).toList).put target
            (some (o.type.empty platform))).ledger platform).held source = other.held platform := by
          rw [ledger_put]
          refine (Function.update_of_ne (Ne.symm hother) _ _).trans ?_
          cases o.held platform <;> exact ledger_held hsource
        rw [hkept, ledger_put, ledger_put, ledger_put, Option.bind_some, Option.bind_some, ht, hu]
        simp only [Function.update_idem]
  | releases id =>
    obtain ⟨o, ho, h⟩ := Option.bind_eq_some_iff.mp h
    obtain ⟨⟨handle, o'⟩, hrelease, h⟩ := Option.map_eq_some_iff.mp h
    cases h
    obtain ⟨hheld, -, hempty⟩ := release_cases platform (hsorted.types id o ho) hrelease
    have hledger : (w.ledger platform).held id = o.held platform := ledger_held ho
    rw [ledger_put, Option.bind_some, hempty]
    rcases hheld with hheld | ⟨hheld, hname⟩
    · obtain ⟨n, hn, -⟩ := hbalanced.stands id handle (hledger.trans hheld)
      have hfile : w.files handle = some n := hn
      simp only [hfile]
      exact .single (.surrender id handle n (hledger.trans hheld) hn)
    · have hfile : w.files handle = none := by
        cases hfile : w.files handle with
        | none => rfl
        | some n =>
          rw [hsorted.names handle n hfile] at hname
          cases hname
      have hsame : Function.update (w.ledger platform).held id none = (w.ledger platform).held := by
        rw [← hheld, ← hledger, Function.update_eq_self]
      simp only [hfile]
      change Entries _ { w.ledger platform with
        held := Function.update (w.ledger platform).held id none }
      rw [hsame]
  | resets id handle =>
    obtain ⟨o, ho, h⟩ := Option.bind_eq_some_iff.mp h
    obtain ⟨⟨closed, o'⟩, hreset, h⟩ := Option.bind_eq_some_iff.mp h
    have hledger : (w.ledger platform).held id = o.held platform := ledger_held ho
    dsimp only at h
    split at h
    · rename_i hplain
      cases h
      by_cases hself : o = o.type.object handle
      · obtain ⟨rfl, rfl⟩ := resetTo_self platform hreset hself
        rw [ledger_put, Option.bind_some, ← hledger]
        simp only [World.closeAll, List.foldl_nil, Function.update_eq_self]
        exact .refl
      · obtain rfl := hplain.resolve_left hself
        obtain ⟨rfl, rfl⟩ := resetTo_cases platform hreset (.inl hself)
        exact emptied_entries platform ho _ (held_invalid platform (hsorted.types id o ho))
    · rename_i hplain
      obtain ⟨n, hn, h⟩ := Option.bind_eq_some_iff.mp h
      split at h
      · rename_i hmem
        cases h
        obtain ⟨rfl, rfl⟩ := resetTo_cases platform hreset (.inl fun hself => hplain (.inl hself))
        exact adopted_entries ho (hsorted.types id o ho) hn hmem hbalanced
          (hsorted.names handle n hn)
      · cases h
  | destroys id =>
    obtain ⟨o, ho, h⟩ := Option.map_eq_some_iff.mp h
    cases h
    rw [destroy_eq]
    exact emptied_entries platform ho none rfl

theorem step_sorted {a : Action} {w v : World} (hsorted : Sorted platform w)
    (h : step platform a w = some v) : Sorted platform v := by
  cases a with
  | opens handle =>
    simp only [step] at h
    split at h
    · rename_i hfree
      cases h
      refine ⟨fun other n hn => ?_, hsorted.types⟩
      rcases Maps.update_some_eq_some hn with ⟨rfl, -⟩ | ⟨_, hold⟩
      · exact hfree.1
      · exact hsorted.names other n hold
    · cases h
  | closes handle =>
    obtain ⟨n, hn, h⟩ := Option.bind_eq_some_iff.mp h
    split at h
    · cases h
      exact ⟨fun other k hk => hsorted.names other k (Maps.update_none_eq_some hk).2, hsorted.types⟩
    · cases h
  | defaults id type =>
    simp only [step] at h
    split at h
    · rename_i hmay
      cases h
      refine hsorted.put id fun o ho => ?_
      cases ho
      rw [type_empty]
      exact hmay.2
    · cases h
  | constructs id type handle prepared =>
    obtain ⟨n, hn, h⟩ := Option.bind_eq_some_iff.mp h
    split at h
    · rename_i hmay
      cases h
      unfold World.construct
      split
      · split
        · exact hsorted
        · exact (hsorted.raw _).closeAll _
      · refine (hsorted.raw _).put id fun o ho => ?_
        cases ho
        rw [type_object]
        exact hmay.2.1
    · cases h
  | moves target source =>
    obtain ⟨o, ho, h⟩ := Option.bind_eq_some_iff.mp h
    have hon := hsorted.types source o ho
    split at h
    · cases h
      refine (hsorted.put target fun t ht => ?_).put source fun u hu => ?_
      · cases ht
        exact hon
      · cases hu
        rw [type_empty]
        exact hon
    · cases h
  | assigns target source =>
    obtain ⟨o, ho, h⟩ := Option.bind_eq_some_iff.mp h
    obtain ⟨other, hother, h⟩ := Option.bind_eq_some_iff.mp h
    split at h
    · cases h
      exact hsorted
    · obtain ⟨⟨closed, t, u⟩, hassign, h⟩ := Option.map_eq_some_iff.mp h
      cases h
      obtain ⟨ht, hu⟩ := moveAssign_type platform hassign
      refine ((hsorted.closeAll closed).put target fun t' ht' => ?_).put source fun u' hu' => ?_
      · cases ht'
        rw [ht]
        exact hsorted.types target o ho
      · cases hu'
        rw [hu]
        exact hsorted.types source other hother
  | releases id =>
    obtain ⟨o, ho, h⟩ := Option.bind_eq_some_iff.mp h
    obtain ⟨⟨handle, o'⟩, hrelease, h⟩ := Option.map_eq_some_iff.mp h
    cases h
    refine (hsorted.raw _).put id fun t ht => ?_
    cases ht
    rw [(release_cases platform (hsorted.types id o ho) hrelease).2.1]
    exact hsorted.types id o ho
  | resets id handle =>
    obtain ⟨o, ho, h⟩ := Option.bind_eq_some_iff.mp h
    obtain ⟨⟨closed, o'⟩, hreset, h⟩ := Option.bind_eq_some_iff.mp h
    have hon : ∀ t, some o' = some t → t.type.on platform = true := by
      intro t ht
      cases ht
      rw [resetTo_type platform hreset]
      exact hsorted.types id o ho
    dsimp only at h
    split at h
    · cases h
      exact (hsorted.closeAll closed).put id hon
    · obtain ⟨n, -, h⟩ := Option.bind_eq_some_iff.mp h
      split at h
      · cases h
        exact ((hsorted.raw _).closeAll closed).put id hon
      · cases h
  | destroys id =>
    obtain ⟨o, -, h⟩ := Option.map_eq_some_iff.mp h
    cases h
    exact (hsorted.closeAll _).put id fun t ht => nomatch ht

/-- Every descriptor that an object holds is open and its own; every open descriptor
has an owner; and the closes of the objects hit each an open descriptor, no one
twice and none of the rest of the program. -/
structure OwnedOnce (platform : Platform) (w : World) : Prop where
  alone : ∀ a b o o' handle, w.objects a = some o → w.objects b = some o' →
    o.held platform = some handle → o'.held platform = some handle → a = b
  standing : ∀ a o handle, w.objects a = some o → o.held platform = some handle →
    ∃ n, w.files handle = some n ∧ n ∉ w.raw
  answered : ∀ handle n, w.files handle = some n →
    n ∈ w.raw ∨ ∃ a o, w.objects a = some o ∧ o.held platform = some handle
  untouched : ∀ n ∈ w.raw, ∃ handle, w.files handle = some n
  hit : none ∉ w.closes
  closedOnce : w.closes.Nodup

theorem ownedOnce_of_balanced {w : World} (h : Balanced (w.ledger platform)) :
    OwnedOnce platform w where
  alone a b o o' handle ha hb hheld hheld' :=
    h.exclusive a b handle ((ledger_held ha).trans hheld) ((ledger_held hb).trans hheld')
  standing a o handle ha hheld := h.stands a handle ((ledger_held ha).trans hheld)
  answered handle n hn := by
    refine (h.answered handle n hn).imp_right ?_
    rintro ⟨a, ha⟩
    obtain ⟨o, ho, hheld⟩ := Option.bind_eq_some_iff.mp ha
    exact ⟨a, o, ho, hheld⟩
  untouched := h.outside
  hit hnone := by
    obtain ⟨n, hn, -⟩ := h.hit none hnone
    cases hn
  closedOnce := h.closedOnce

/-- In every run, each descriptor is owned once and closed at most once. -/
theorem descriptors_owned_once (platform : Platform) {w : World}
    (h : Reachable (step platform) initial w) : OwnedOnce platform w := by
  have hkept : Sorted platform w ∧ Balanced (w.ledger platform) := by
    refine h.invariant (I := fun w => Sorted platform w ∧ Balanced (w.ledger platform))
      ⟨⟨by simp [initial], by simp [initial]⟩, balanced_empty⟩ fun a u v hu _ hstep => ?_
    exact ⟨step_sorted hu.1 hstep, (step_entries hu.1 hu.2 hstep).balanced hu.2⟩
  exact ownedOnce_of_balanced hkept.2

/-- Descriptor 3 is closed by a move assignment, opened again as another one and
given to a stream whose constructor throws. -/
theorem descriptors_owned_once_reused :
    ∃ w, Reachable (step .linux) initial w ∧ w.closes = [some 2, some 0] ∧ OwnedOnce .linux w := by
  have h : Reachable (step .linux) initial _ :=
    reachable_of_run [.opens 3, .opens 4, .constructs 0 .unixObject 3 true,
      .constructs 1 .unixObject 4 true, .assigns 0 1, .opens 3, .constructs 2 .netObject 3 false] rfl
  exact ⟨_, h, rfl, descriptors_owned_once .linux h⟩

end Owners
