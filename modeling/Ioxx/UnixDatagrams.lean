import Ioxx.UnixPaths
import Ioxx.Mailboxes

/-!
# Unix datagrams

`send_to` encodes a path for `sendto`, and `recv_from` decodes what `recvfrom` tells of the
sender. The kernel's sockets are mailboxes under names, which other processes use as well.
A name is what `bind` was given; to which socket a path leads is up to the directories and
changes with them. What is received is what was sent, in the order in which it came, and a
datagram to the path that `recv_from` returned is addressed to the sender's name. A socket loses
what it has not received when it is closed, or when it sends and the other end of its pair is.
-/

namespace UnixDatagrams

open Core Bytes UnixPaths Runs

/-- The name of a socket in the file system, which may fill `sun_path`. -/
structure FilePath where
  bytes : List Byte
  nonempty : bytes ≠ []
  noZero : 0 ∉ bytes
  fits : bytes.length ≤ sunPathSize
  deriving DecidableEq, Repr

/-- The names of Linux: a file, or any bytes behind a zero byte. -/
inductive Name where
  | file (path : FilePath)
  | abstract (rest : List Byte)
  deriving DecidableEq, Repr

theorem zero_notMem_pathWithin (address : SockaddrUn) (length : Nat) : 0 ∉ pathWithin address length :=
  fun hzero => absurd (List.mem_takeWhile_imp hzero) (by decide)

theorem length_pathWithin_le (address : SockaddrUn) (length : Nat) :
    (pathWithin address length).length ≤ sunPathSize := by
  have htake : (pathWithin address length).length ≤
      ((List.ofFn address.sunPath).take (length - sunPathOffset)).length :=
    (List.takeWhile_prefix _).length_le
  have hall : ((List.ofFn address.sunPath).take (length - sunPathOffset)).length ≤
      (List.ofFn address.sunPath).length := List.length_take_le' _ _
  rw [List.length_ofFn] at hall
  exact htake.trans hall

/-- The name in an address of the given length. Without a byte of `sun_path` it has none. -/
def Name.ofAddress (address : SockaddrUn) (length : Nat) : Option Name :=
  if h : pathWithin address length = [] then
    ((List.ofFn address.sunPath).take (length - sunPathOffset)).tail?.map .abstract
  else some (.file ⟨pathWithin address length, h, zero_notMem_pathWithin _ _, length_pathWithin_le _ _⟩)

theorem Name.ofAddress_file {address : SockaddrUn} {length : Nat} {file : FilePath}
    (h : pathWithin address length = file.bytes) : Name.ofAddress address length = some (.file file) := by
  obtain ⟨bytes, hnonempty, hzero, hfits⟩ := file
  subst h
  exact dif_neg hnonempty

/-- What the kernel keeps of a name; the zero byte behind a file counts. -/
def Name.bytes : Name → List Byte
  | .file path => path.bytes ++ [0]
  | .abstract rest => 0 :: rest

/-- What `recvfrom` leaves in an address of zeros, and the length it tells. -/
def written : Option Name → SockaddrUn × Nat
  | none => (⟨fun _ => 0⟩, 0)
  | some name => (⟨ofList name.bytes⟩, sunPathOffset + name.bytes.length)

/-- The path that is returned for a sender. -/
def reportedPath (beyond : Nat → Byte) (name : Option Name) : List Byte :=
  pathFromSockaddr (written name).1 beyond (written name).2

theorem take_ofFn_ofList {bytes : List Byte} (h : bytes.length ≤ sunPathSize) :
    (List.ofFn (ofList bytes : Block sunPathSize)).take bytes.length = bytes := by
  refine List.ext_getElem ?_ fun i hi hi' => ?_
  · rw [List.length_take, List.length_ofFn, Nat.min_eq_left h]
  · rw [List.getElem_take, List.getElem_ofFn, ofList, List.getD_eq_getElem _ _ hi']

/-- A path without a zero byte is kept by the search for its end. -/
theorem takeWhile_noZero_append {bytes rest : List Byte} (h : 0 ∉ bytes) :
    (bytes ++ rest).takeWhile (· ≠ 0) = bytes ++ rest.takeWhile (· ≠ 0) := by
  refine List.takeWhile_append_of_pos fun b hb => ?_
  have hne : b ≠ 0 := fun he => h (he ▸ hb)
  simpa using hne

@[simp] theorem reportedPath_abstract (beyond : Nat → Byte) (rest : List Byte) :
    reportedPath beyond (some (.abstract rest)) = [] := by
  have hfirst : (ofList (0 :: rest) : Block sunPathSize) ⟨0, by decide⟩ = 0 := rfl
  rw [reportedPath, written, Name.bytes, pathFromSockaddr_eq, List.length_cons,
    Nat.add_sub_cancel_left]
  have hcons : List.ofFn (ofList (0 :: rest) : Block sunPathSize) =
      0 :: List.ofFn fun i : Fin 107 => (ofList (0 :: rest) : Block sunPathSize) i.succ := by
    rw [← hfirst]
    exact List.ofFn_succ
  rw [hcons, List.take_succ_cons, List.cons_append, List.takeWhile_cons_of_neg (by decide)]

/-- A path that leaves room for its zero byte comes back. -/
theorem reportedPath_file (beyond : Nat → Byte) {path : FilePath} (h : path.bytes.length < sunPathSize) :
    reportedPath beyond (some (.file path)) = path.bytes := by
  have hlength : (path.bytes ++ [0]).length ≤ sunPathSize := by
    rw [List.length_append, List.length_singleton]
    exact h
  rw [reportedPath, written, Name.bytes, pathFromSockaddr_eq, Nat.add_sub_cancel_left,
    take_ofFn_ofList hlength, Nat.sub_eq_zero_of_le hlength, List.range_zero, List.map_nil,
    List.append_nil, takeWhile_noZero_append path.noZero, List.takeWhile_cons_of_neg (by decide),
    List.append_nil]

/-- A path that fills `sun_path` comes back with what may lie behind it. -/
theorem reportedPath_full (beyond : Nat → Byte) {path : FilePath} (h : path.bytes.length = sunPathSize) :
    path.bytes <+: reportedPath beyond (some (.file path)) := by
  have hlength : (path.bytes ++ [0]).length = sunPathSize + 1 := by
    rw [List.length_append, List.length_singleton, h]
  have hblock : (List.ofFn (ofList (path.bytes ++ [0]) : Block sunPathSize)).take (sunPathSize + 1) =
      path.bytes := by
    refine List.ext_getElem ?_ fun i hi hi' => ?_
    · rw [List.length_take, List.length_ofFn, Nat.min_eq_right (Nat.le_succ _), h]
    · rw [List.getElem_take, List.getElem_ofFn, ofList, List.getD_append _ _ _ _ hi',
        List.getD_eq_getElem _ _ hi']
  rw [reportedPath, written, Name.bytes, pathFromSockaddr_eq, Nat.add_sub_cancel_left, hlength, hblock,
    takeWhile_noZero_append path.noZero]
  exact List.prefix_append _ _

/-- The address of a path, cut to its length, names the file. -/
theorem ofAddress_socketAddress {file : FilePath} (h : file.bytes.length < sunPathSize) :
    Name.ofAddress (socketAddress file.bytes).2 (socketAddressLength (socketAddress file.bytes).2) =
      some (.file file) := by
  have hnamed : named file.bytes = file.bytes := (named_eq_self_iff _).mpr file.noZero
  have hlength := socketAddressLength_eq h
  rw [hnamed] at hlength
  have hfits : socketAddressLength (socketAddress file.bytes).2 ≤ sunPathOffset + sunPathSize := by omega
  have hsame : SameName (socketAddressLength (socketAddress file.bytes).2) (socketAddress file.bytes).2
      (socketAddress file.bytes).2 := fun _ _ => rfl
  have hinside := (staysInside_of_short (socketAddress file.bytes).2 hfits fun _ => 0).2
  refine Name.ofAddress_file ?_
  rw [← hinside, path_of_cut h hsame, hnamed]

/-! The calls. -/

abbrev Office := Mailboxes.Office Name (List Byte)

abbrev Letter := Mailboxes.Letter (List Byte)

/-- The kernel refuses a datagram with any error, or puts it into an open socket's box. -/
def submit (socket : Nat) (target : Option Nat) (data : List Byte) (answer : Option Errno) (o : Office) :
    Option ((Option ErrorCode × Nat) × Office) :=
  match answer with
  | some errno => some ((some (.ofErrno errno), 0), o)
  | none => target.bind fun target =>
      (Mailboxes.step (.sends socket target data) o).map fun o => ((none, data.length), o)

def ECONNREFUSED : Errno := ⟨111, by decide⟩

/-- The kernel found the other end of a pair closed. -/
def hungUp (peer : Option Nat) (answer : Option Errno) (o : Office) : Bool :=
  answer = some ECONNREFUSED && peer.any fun k => o.life k = .closed

/-- `send`: the kernel knows the peer. When that is closed, it also drops what the socket itself
has not received. The object has no socket if its `fd_` is negative. -/
def send (peer : Nat → Option Nat) (socket : Option Nat) (data : List Byte) (answer : Option Errno)
    (o : Office) : Option ((Option ErrorCode × Nat) × Office) :=
  match socket with
  | none => some ((some .badFileDescriptor, 0), o)
  | some socket =>
    (submit socket (peer socket) data answer o).bind fun (outcome, o) =>
      if hungUp (peer socket) answer o then
        (Mailboxes.step (.clears socket) o).map fun o => (outcome, o)
      else some (outcome, o)

def sendTo (socket : Option Nat) (data path : List Byte) (answer : Option Errno) (o : Office) :
    Option ((Option ErrorCode × Nat) × Office) :=
  match socket with
  | none => some ((some .badFileDescriptor, 0), o)
  | some socket =>
    match socketAddress path with
    | (some ec, _) => some ((some ec, 0), o)
    | (none, address) =>
      submit socket ((Name.ofAddress address (socketAddressLength address)).bind o.leads) data answer o

/-- The answer to a receiving call; the `std::string` of the path may not be allocated. -/
inductive Received where
  | refused (errno : Errno)
  | datagram (allocated : Bool) (beyond : Nat → Byte)

/-- The `ec`, the size and the path that are returned, and what is in the buffers. -/
structure Report where
  ec : Option ErrorCode
  count : Nat
  buffers : List (List Byte)
  path : List Byte
  deriving DecidableEq, Repr

def failed (ec : ErrorCode) : Report := ⟨some ec, 0, [], []⟩

/-- The kernel hands out the first datagram, and the name that its sender has by now. -/
def take (socket : Nat) (o : Office) : Option (Letter × Option Name × Office) :=
  match o.box socket with
  | [] => none
  | letter :: _ => (Mailboxes.step (.takes socket) o).map fun taken => (letter, o.name letter.sender, taken)

/-- A datagram that does not fit is cut. -/
def recvFrom (socket : Option Nat) (size : Nat) (answer : Received) (o : Office) : Option (Report × Office) :=
  match socket with
  | none => some (failed .badFileDescriptor, o)
  | some socket =>
    match answer with
    | .refused errno => some (failed (.ofErrno errno), o)
    | .datagram allocated beyond =>
      (take socket o).map fun (letter, name, o) =>
        let data := letter.body.take size
        let (address, length) := written name
        if allocated then (⟨none, data.length, [data], pathFromSockaddr address beyond length⟩, o)
        else (⟨some .notEnoughMemory, 0, [data], []⟩, o)

/-- `recvmsg` fills one buffer after the other. -/
def scatter : List Nat → List Byte → List (List Byte)
  | [], _ => []
  | size :: sizes, bytes => bytes.take size :: scatter sizes (bytes.drop size)

def recvVectoredFrom (socket : Option Nat) (sizes : List Nat) (answer : Received) (o : Office) :
    Option (Report × Office) :=
  match socket with
  | none => some (failed .badFileDescriptor, o)
  | some socket =>
    match answer with
    | .refused errno => some (failed (.ofErrno errno), o)
    | .datagram allocated beyond =>
      (take socket o).map fun (letter, name, o) =>
        let buffers := scatter sizes letter.body
        let count := buffers.flatten.length
        let (address, length) := written name
        if length > 0 then
          if allocated then (⟨none, count, buffers, pathFromSockaddr address beyond length⟩, o)
          else (⟨some .notEnoughMemory, 0, buffers, []⟩, o)
        else (⟨none, count, buffers, []⟩, o)

/-! The sockets of the program among those of others. -/

/-- A datagram that was taken, by a call with buffers of the given sizes, and the name that its
sender had then. -/
structure Receipt where
  letter : Letter
  name : Option Name
  sizes : List Nat
  report : Report

/-- `own` are the sockets that the program made, with what it received from each. -/
structure World where
  office : Office
  peer : Nat → Option Nat
  own : Nat → Bool
  receipts : Nat → List Receipt

def initial : World := ⟨Mailboxes.initial, fun _ => none, fun _ => false, fun _ => []⟩

inductive Action where
  | bind (socket : Nat) (path : List Byte) (answer : Option Errno)
  | unbound (socket : Nat)
  | pair (first second : Nat)
  | closes (socket : Nat)
  | send (socket : Option Nat) (data : List Byte) (answer : Option Errno)
  | sendTo (socket : Option Nat) (data path : List Byte) (answer : Option Errno)
  | recvFrom (socket : Option Nat) (size : Nat) (answer : Received)
  | recvVectoredFrom (socket : Option Nat) (sizes : List Nat) (answer : Received)
  | others (action : Mailboxes.Action Name (List Byte))

/-- A new socket of the program. -/
def World.opens (socket : Nat) (w : World) : Option World :=
  (Mailboxes.step (.opens socket) w.office).map fun office =>
    { w with office := office, own := Function.update w.own socket true }

def World.act (action : Mailboxes.Action Name (List Byte)) (w : World) : Option World :=
  (Mailboxes.step action w.office).map fun office => { w with office := office }

/-- What others do: not with the sockets of the program, but a path may come to lead anywhere
as files are removed, renamed or linked and working directories change. -/
def World.foreign (w : World) : Mailboxes.Action Name (List Byte) → Bool
  | .opens _ => true
  | .names k _ => !w.own k
  | .turns _ => true
  | .closes k => !w.own k
  | .sends k _ _ => !w.own k
  | .takes k => !w.own k
  | .clears k => !w.own k

def World.received (w : World) (socket : Option Nat) (sizes : List Nat) (answer : Received)
    (outcome : Report × Office) : World :=
  { w with
    office := outcome.2
    receipts := match socket, answer with
      | some socket, .datagram .. => Function.update w.receipts socket
          (w.receipts socket ++ (w.office.box socket).head?.toList.map fun letter =>
            ⟨letter, w.office.name letter.sender, sizes, outcome.1⟩)
      | _, _ => w.receipts }

/-- A `bind` names the socket and lets the name lead to it. -/
def World.binds (socket : Nat) (name : Name) (w : World) : Option World :=
  (w.act (.names socket name)).bind fun w =>
    w.act (.turns (Function.update w.office.leads name (some socket)))

/-- The socket of a `bind` that fails is closed again. -/
def step (action : Action) (w : World) : Option World :=
  match action with
  | .bind socket path answer =>
    match socketAddress path, answer with
    | (none, address), none =>
      (w.opens socket).bind fun w =>
        (Name.ofAddress address (socketAddressLength address)).bind fun name => w.binds socket name
    | _, _ => some w
  | .unbound socket => w.opens socket
  | .pair first second =>
    (w.opens first).bind fun w => (w.opens second).map fun w =>
      { w with peer := Function.update (Function.update w.peer first (some second)) second (some first) }
  | .closes socket => if w.own socket then w.act (.closes socket) else none
  | .send socket data answer =>
    if socket.all w.own then
      (send w.peer socket data answer w.office).map fun outcome => { w with office := outcome.2 }
    else none
  | .sendTo socket data path answer =>
    if socket.all w.own then
      (sendTo socket data path answer w.office).map fun outcome => { w with office := outcome.2 }
    else none
  | .recvFrom socket size answer =>
    if socket.all w.own then
      (recvFrom socket size answer w.office).map (w.received socket [size] answer)
    else none
  | .recvVectoredFrom socket sizes answer =>
    if socket.all w.own then
      (recvVectoredFrom socket sizes answer w.office).map (w.received socket sizes answer)
    else none
  | .others action => if w.foreign action then w.act action else none

/-! What a receiving call tells. -/

theorem flatten_scatter (sizes : List Nat) (bytes : List Byte) :
    (scatter sizes bytes).flatten = bytes.take sizes.sum := by
  induction sizes generalizing bytes with
  | nil => simp [scatter]
  | cons size sizes ih => rw [scatter, List.flatten_cons, ih, List.sum_cons, List.take_add]

/-- How the path that is returned tells the sender. -/
def Told (path : List Byte) : Option Name → Prop
  | some (.file file) => (file.bytes.length < sunPathSize → path = file.bytes) ∧ file.bytes <+: path
  | _ => path = []

theorem told_reportedPath (beyond : Nat → Byte) (name : Option Name) : Told (reportedPath beyond name) name := by
  cases name with
  | none => rfl
  | some name =>
    cases name with
    | abstract rest => exact reportedPath_abstract beyond rest
    | file file =>
      refine ⟨reportedPath_file beyond, ?_⟩
      rcases Nat.lt_or_eq_of_le file.fits with hroom | hfull
      · rw [reportedPath_file beyond hroom]
      · exact reportedPath_full beyond hfull

/-- A path that `send_to` accepts again is the sender's. -/
theorem Told.file {path : List Byte} {name : Option Name} (h : Told path name) (hnonempty : path ≠ [])
    (hshort : path.length < sunPathSize) : ∃ file : FilePath, file.bytes = path ∧ name = some (.file file) := by
  cases name with
  | none => exact absurd h hnonempty
  | some name =>
    cases name with
    | abstract rest => exact absurd h hnonempty
    | file file =>
      obtain ⟨hsame, hbegins⟩ := h
      exact ⟨file, (hsame (hbegins.length_le.trans_lt hshort)).symm, rfl⟩

/-- What was received is what was sent, as far as the buffers go. When the path cannot be
allocated the datagram is lost to the caller. -/
structure Receipt.Shows (r : Receipt) : Prop where
  data : r.report.buffers.flatten = r.letter.body.take r.sizes.sum
  success : r.report.ec = none →
    r.report.count = (r.letter.body.take r.sizes.sum).length ∧
    Told r.report.path r.name
  failure : ∀ ec, r.report.ec = some ec →
    ec = .notEnoughMemory ∧ r.report.count = 0 ∧ r.report.path = []

variable {w w' both : World} {o o' : Office} {socket : Option Nat} {data path : List Byte} {sizes : List Nat}
  {answer : Received} {report : Report}

/-- A receiving call does nothing and reports an error, or takes one datagram and shows it. -/
def Receives (socket : Option Nat) (sizes : List Nat) (answer : Received) (o : Office)
    (report : Report) (o' : Office) : Prop :=
  (o' = o ∧ (∃ ec, report = failed ec) ∧ ∀ s allocated beyond, socket = some s → answer ≠ .datagram allocated beyond) ∨
  ∃ s allocated beyond letter rest, socket = some s ∧ answer = .datagram allocated beyond ∧
    o.box s = letter :: rest ∧ Mailboxes.step (.takes s) o = some o' ∧
      Receipt.Shows ⟨letter, o.name letter.sender, sizes, report⟩

theorem take_eq_some {s : Nat} {letter : Letter} {name : Option Name} (h : take s o = some (letter, name, o')) :
    ∃ rest, o.box s = letter :: rest ∧ name = o.name letter.sender ∧
      Mailboxes.step (.takes s) o = some o' := by
  unfold take at h
  cases hbox : o.box s with
  | nil =>
    rw [hbox] at h
    cases h
  | cons head rest =>
    rw [hbox] at h
    obtain ⟨taken, hstep, heq⟩ := Option.map_eq_some_iff.mp h
    cases heq
    exact ⟨rest, rfl, rfl, hstep⟩

theorem recvFrom_receives {size : Nat} (h : recvFrom socket size answer o = some (report, o')) :
    Receives socket [size] answer o report o' := by
  cases socket with
  | none =>
    cases h
    exact .inl ⟨rfl, ⟨_, rfl⟩, fun _ _ _ hsocket => nomatch hsocket⟩
  | some s =>
    cases answer with
    | refused errno =>
      cases h
      exact .inl ⟨rfl, ⟨_, rfl⟩, fun _ _ _ _ hanswer => nomatch hanswer⟩
    | datagram allocated beyond =>
      obtain ⟨⟨letter, name, taken⟩, htake, heq⟩ := Option.map_eq_some_iff.mp h
      obtain ⟨rest, hbox, rfl, hstep⟩ := take_eq_some htake
      refine .inr ⟨s, allocated, beyond, letter, rest, rfl, rfl, hbox, ?_⟩
      cases allocated with
      | true =>
        cases heq
        exact ⟨hstep, ⟨by simp, fun _ => ⟨by simp, told_reportedPath beyond _⟩, fun ec hec => nomatch hec⟩⟩
      | false =>
        cases heq
        refine ⟨hstep, ⟨by simp, (fun hec => nomatch hec), fun ec hec => ?_⟩⟩
        cases hec
        exact ⟨rfl, rfl, rfl⟩

theorem recvVectoredFrom_receives (h : recvVectoredFrom socket sizes answer o = some (report, o')) :
    Receives socket sizes answer o report o' := by
  cases socket with
  | none =>
    cases h
    exact .inl ⟨rfl, ⟨_, rfl⟩, fun _ _ _ hsocket => nomatch hsocket⟩
  | some s =>
    cases answer with
    | refused errno =>
      cases h
      exact .inl ⟨rfl, ⟨_, rfl⟩, fun _ _ _ _ hanswer => nomatch hanswer⟩
    | datagram allocated beyond =>
      obtain ⟨⟨letter, name, taken⟩, htake, heq⟩ := Option.map_eq_some_iff.mp h
      obtain ⟨rest, hbox, rfl, hstep⟩ := take_eq_some htake
      refine .inr ⟨s, allocated, beyond, letter, rest, rfl, rfl, hbox, ?_⟩
      have hflat := flatten_scatter sizes letter.body
      simp only at heq
      split at heq
      · cases allocated with
        | true =>
          cases heq
          exact ⟨hstep, ⟨hflat, fun _ => ⟨congrArg List.length hflat, told_reportedPath beyond _⟩,
            fun ec hec => nomatch hec⟩⟩
        | false =>
          cases heq
          refine ⟨hstep, ⟨hflat, (fun hec => nomatch hec), fun ec hec => ?_⟩⟩
          cases hec
          exact ⟨rfl, rfl, rfl⟩
      · -- a sender without a name: `path_from_sockaddr` would return the empty path as well
        rename_i hlength
        have hname : o.name letter.sender = none := by
          cases hname : o.name letter.sender with
          | none => rfl
          | some name =>
            rw [hname] at hlength
            exact absurd (Nat.add_pos_left (by decide) _) hlength
        cases heq
        refine ⟨hstep, ⟨hflat, fun _ => ⟨congrArg List.length hflat, ?_⟩, fun ec hec => nomatch hec⟩⟩
        simp only [hname, Told]

/-! What a sending call does. -/

/-- A sending call reports an error and does nothing, or puts the whole datagram into the box of the
socket that is addressed. -/
def Sends (sender : Nat) (target : Option Nat) (data : List Byte) (outcome : Option ErrorCode × Nat)
    (o o' : Office) : Prop :=
  (outcome.1 ≠ none ∧ o' = o) ∨
  ∃ k, target = some k ∧ outcome = (none, data.length) ∧
    Mailboxes.step (.sends sender k data) o = some o' ∧ o' = o.deliver sender k data

theorem submit_sends {sender : Nat} {target : Option Nat} {refusal : Option Errno}
    {outcome : Option ErrorCode × Nat} (h : submit sender target data refusal o = some (outcome, o')) :
    Sends sender target data outcome o o' := by
  cases refusal with
  | some errno =>
    cases h
    exact .inl ⟨Option.some_ne_none _, rfl⟩
  | none =>
    obtain ⟨k, htarget, hstep⟩ := Option.bind_eq_some_iff.mp h
    obtain ⟨sent, hsent, heq⟩ := Option.map_eq_some_iff.mp hstep
    cases heq
    exact .inr ⟨k, htarget, rfl, hsent, (Option.some.inj (Option.ite_none_right_eq_some.mp hsent).2).symm⟩

/-- A refusal may empty the socket's own box, if it has a peer and that is closed. -/
def HangsUp (sender : Nat) (peer : Option Nat) (outcome : Option ErrorCode × Nat) (o o' : Office) : Prop :=
  outcome.1 ≠ none ∧ (∃ k, peer = some k ∧ o.life k = .closed) ∧
    Mailboxes.step (.clears sender) o = some o'

theorem closed_of_hungUp {peer : Option Nat} {refusal : Option Errno} (h : hungUp peer refusal o = true) :
    refusal = some ECONNREFUSED ∧ ∃ k, peer = some k ∧ o.life k = .closed := by
  obtain ⟨hrefusal, hpeer⟩ := Bool.and_eq_true_iff.mp h
  obtain ⟨k, hk, hclosed⟩ := (Option.any_eq_true _ _).mp hpeer
  exact ⟨of_decide_eq_true hrefusal, k, hk, of_decide_eq_true hclosed⟩

theorem send_sends {peer : Nat → Option Nat} {refusal : Option Errno} {outcome : Option ErrorCode × Nat}
    (h : send peer socket data refusal o = some (outcome, o')) :
    o' = o ∨ ∃ sender, socket = some sender ∧
      (Sends sender (peer sender) data outcome o o' ∨ HangsUp sender (peer sender) outcome o o') := by
  cases socket with
  | none =>
    cases h
    exact .inl rfl
  | some sender =>
    refine .inr ⟨sender, rfl, ?_⟩
    obtain ⟨⟨answered, sent⟩, hsubmit, hrest⟩ := Option.bind_eq_some_iff.mp h
    simp only at hrest
    split at hrest
    · rename_i hhung
      obtain ⟨hrefusal, hclosed⟩ := closed_of_hungUp hhung
      obtain ⟨cleared, hclears, heq⟩ := Option.map_eq_some_iff.mp hrest
      cases heq
      subst hrefusal
      cases hsubmit
      exact .inr ⟨Option.some_ne_none _, hclosed, hclears⟩
    · cases hrest
      exact .inl (submit_sends hsubmit)

theorem sendTo_sends {refusal : Option Errno} {outcome : Option ErrorCode × Nat}
    (h : sendTo socket data path refusal o = some (outcome, o')) :
    o' = o ∨ ∃ sender target, socket = some sender ∧ Sends sender target data outcome o o' := by
  cases socket with
  | none =>
    cases h
    exact .inl rfl
  | some sender =>
    simp only [sendTo] at h
    split at h
    · cases h
      exact .inl rfl
    · exact .inr ⟨sender, _, rfl, submit_sends h⟩

/-- The path of a file addresses the socket to which its name leads. -/
theorem sendTo_file {sender : Nat} {file : FilePath} (hshort : file.bytes.length < sunPathSize)
    {refusal : Option Errno} {outcome : Option ErrorCode × Nat}
    (h : sendTo (some sender) data file.bytes refusal o = some (outcome, o')) :
    Sends sender (o.leads (.file file)) data outcome o o' := by
  have haccepted : socketAddress file.bytes = (none, (socketAddress file.bytes).2) :=
    Prod.ext (socketAddress_accepted hshort).1 rfl
  rw [sendTo, haccepted] at h
  simp only [ofAddress_socketAddress hshort, Option.bind_some] at h
  exact submit_sends h

/-! The whole run. -/

/-- The other end of a socket of the program is closed. -/
def World.Hung (w : World) (s : Nat) : Prop :=
  ∃ k, w.peer s = some k ∧ w.office.life k = .closed

structure Inv (w : World) : Prop where
  kept : Mailboxes.Kept w.office
  taken : ∀ s, w.own s = true → w.office.taken s = (w.receipts s).map Receipt.letter
  others : ∀ s, w.own s = false → w.receipts s = []
  shown : ∀ s, ∀ r ∈ w.receipts s, r.Shows
  named : ∀ s, ∀ r ∈ w.receipts s, ∀ name, r.name = some name → w.office.name r.letter.sender = some name
  hung : ∀ s, w.own s = true → w.office.cleared s = true → w.Hung s

theorem World.Hung.office {s : Nat} {a : Mailboxes.Action Name (List Byte)} (h : w.Hung s)
    (hstep : Mailboxes.step a w.office = some o) : World.Hung { w with office := o } s := by
  obtain ⟨k, hpeer, hclosed⟩ := h
  exact ⟨k, hpeer, (Mailboxes.step_keeps hstep k).closed hclosed⟩

/-- Whatever happens to the mailboxes, but for a socket of the program being read, or cleared
without cause. -/
theorem Inv.office (h : Inv w) {a : Mailboxes.Action Name (List Byte)}
    (hstep : Mailboxes.step a w.office = some o) (htakes : ∀ k, a = .takes k → w.own k = false)
    (hclears : ∀ k, a = .clears k → w.own k = true → w.Hung k) : Inv { w with office := o } where
  kept := Mailboxes.step_kept a h.kept hstep
  taken s hown := by
    have hsame : o.taken s = w.office.taken s := by
      refine (Mailboxes.step_keeps hstep s).taken fun ha => ?_
      rw [htakes s ha] at hown
      cases hown
    exact hsame.trans (h.taken s hown)
  others := h.others
  shown := h.shown
  named s r hr name hname := (Mailboxes.step_keeps hstep _).named name (h.named s r hr name hname)
  hung s hown hcleared := by
    by_cases ha : a = .clears s
    · exact (hclears s ha hown).office hstep
    · rw [(Mailboxes.step_keeps hstep s).cleared ha] at hcleared
      exact (h.hung s hown hcleared).office hstep

theorem Inv.act {a : Mailboxes.Action Name (List Byte)} (h : Inv w) (hstep : w.act a = some w')
    (htakes : ∀ k, a = .takes k → w.own k = false)
    (hclears : ∀ k, a = .clears k → w.own k = true → w.Hung k) : Inv w' := by
  obtain ⟨o, hoffice, rfl⟩ := Option.map_eq_some_iff.mp hstep
  exact h.office hoffice htakes hclears

theorem Inv.binds {s : Nat} {name : Name} (h : Inv w) (hstep : w.binds s name = some w') : Inv w' := by
  obtain ⟨named, hnames, hturns⟩ := Option.bind_eq_some_iff.mp hstep
  have hnamed := h.act hnames (fun _ ha => nomatch ha) fun _ ha => nomatch ha
  exact hnamed.act hturns (fun _ ha => nomatch ha) fun _ ha => nomatch ha

theorem Inv.opens {s : Nat} (h : Inv w) (hstep : w.opens s = some w') : Inv w' := by
  obtain ⟨o, hoffice, rfl⟩ := Option.map_eq_some_iff.mp hstep
  have hunused : w.office.life s = .unused := (Option.ite_none_right_eq_some.mp hoffice).1
  obtain ⟨huntaken, huncleared⟩ := h.kept.fresh s hunused
  have hempty : w.receipts s = [] := by
    cases hown : w.own s with
    | false => exact h.others s hown
    | true =>
      have htaken := h.taken s hown
      rw [huntaken] at htaken
      exact List.map_eq_nil_iff.mp htaken.symm
  have hkeeps : ∀ k, Mailboxes.Keeps (.opens s) k w.office o := Mailboxes.step_keeps hoffice
  refine ⟨Mailboxes.step_kept _ h.kept hoffice, fun k hown => ?_, fun k hown => ?_, h.shown,
    fun k r hr name hname => (hkeeps _).named name (h.named k r hr name hname),
    fun k hown hcleared => ?_⟩
  · refine ((hkeeps k).taken fun ha => nomatch ha).trans ?_
    by_cases hk : k = s
    · subst hk
      rw [huntaken, hempty, List.map_nil]
    · exact h.taken k ((Function.update_of_ne hk _ _).symm.trans hown)
  · by_cases hk : k = s
    · subst hk
      exact hempty
    · exact h.others k ((Function.update_of_ne hk _ _).symm.trans hown)
  · rw [(hkeeps k).cleared fun ha => nomatch ha] at hcleared
    have hk : k ≠ s := by
      rintro rfl
      rw [huncleared] at hcleared
      cases hcleared
    exact (h.hung k ((Function.update_of_ne hk _ _).symm.trans hown) hcleared).office hoffice

/-- A new socket has lost nothing. -/
theorem Inv.opens_cleared {s : Nat} (h : Inv w) (hstep : w.opens s = some w') :
    w'.office.cleared s = false ∧ w'.office.cleared = w.office.cleared := by
  obtain ⟨o, hoffice, rfl⟩ := Option.map_eq_some_iff.mp hstep
  have hunused : w.office.life s = .unused := (Option.ite_none_right_eq_some.mp hoffice).1
  have hsame : o.cleared = w.office.cleared :=
    funext fun k => (Mailboxes.step_keeps hoffice k).cleared fun ha => nomatch ha
  exact ⟨(congrFun hsame s).trans (h.kept.fresh s hunused).2, hsame⟩

theorem Inv.pair {first second : Nat} (h : Inv w) (hfirst : w.opens first = some w')
    (hsecond : w'.opens second = some both) :
    Inv { both with
      peer := Function.update (Function.update both.peer first (some second)) second (some first) } := by
  have hopened := h.opens hfirst
  have hboth := hopened.opens hsecond
  obtain ⟨hnone, _⟩ := h.opens_cleared hfirst
  obtain ⟨hnone', hsame⟩ := hopened.opens_cleared hsecond
  refine ⟨hboth.kept, hboth.taken, hboth.others, hboth.shown, hboth.named, fun s hown hcleared => ?_⟩
  have hs : s ≠ first := by
    rintro rfl
    exact nomatch hcleared.symm.trans ((congrFun hsame s).trans hnone)
  have hs' : s ≠ second := by
    rintro rfl
    exact nomatch hcleared.symm.trans hnone'
  obtain ⟨k, hpeer, hclosed⟩ := hboth.hung s hown hcleared
  refine ⟨k, ?_, hclosed⟩
  simp only [Function.update_of_ne hs, Function.update_of_ne hs']
  exact hpeer

theorem Inv.sends {sender : Nat} {target : Option Nat} {outcome : Option ErrorCode × Nat} (h : Inv w)
    (hsends : Sends sender target data outcome w.office o) : Inv { w with office := o } := by
  rcases hsends with ⟨_, rfl⟩ | ⟨k, _, _, hstep, _⟩
  · exact h
  · exact h.office hstep (fun _ ha => nomatch ha) fun _ ha => nomatch ha

theorem Inv.hangsUp {sender : Nat} {outcome : Option ErrorCode × Nat} (h : Inv w)
    (hhangs : HangsUp sender (w.peer sender) outcome w.office o) : Inv { w with office := o } := by
  obtain ⟨_, hclosed, hstep⟩ := hhangs
  refine h.office hstep (fun _ ha => nomatch ha) fun k ha _ => ?_
  cases ha
  exact hclosed

theorem Inv.receives (h : Inv w) (hours : socket.all w.own = true)
    (hreceives : Receives socket sizes answer w.office report o) :
    Inv (w.received socket sizes answer (report, o)) := by
  rcases hreceives with ⟨rfl, _, hnone⟩ | ⟨s, allocated, beyond, letter, rest, rfl, rfl, hbox, hstep, hshows⟩
  · have hsame : w.received socket sizes answer (report, w.office) = w := by
      unfold World.received
      cases socket with
      | none => rfl
      | some s =>
        cases answer with
        | refused errno => rfl
        | datagram allocated beyond => exact absurd rfl (hnone s allocated beyond rfl)
    rw [hsame]
    exact h
  · have hown : w.own s = true := hours
    have htaken : o.taken = Function.update w.office.taken s (w.office.taken s ++ [letter]) := by
      have heq := (Option.ite_none_right_eq_some.mp hstep).2
      rw [hbox] at heq
      cases heq
      rfl
    simp only [World.received, hbox, List.head?_cons, Option.toList_some, List.map_singleton]
    refine ⟨Mailboxes.step_kept _ h.kept hstep, fun k hk => ?_, fun k hk => ?_, fun k r hr => ?_,
      fun k r hr name hname => (Mailboxes.step_keeps hstep _).named name ?_, fun k hk hcleared => ?_⟩
    · simp only [htaken]
      by_cases hs : k = s
      · subst hs
        simp only [Function.update_self, List.map_append, List.map_singleton, h.taken k hk]
      · simp only [Function.update_of_ne hs]
        exact h.taken k hk
    · have hs : k ≠ s := by
        rintro rfl
        rw [hown] at hk
        cases hk
      simp only [Function.update_of_ne hs]
      exact h.others k hk
    · by_cases hs : k = s
      · subst hs
        simp only [Function.update_self] at hr
        rcases List.mem_append.mp hr with hold | hnew
        · exact h.shown k r hold
        · rw [List.mem_singleton] at hnew
          subst hnew
          exact hshows
      · simp only [Function.update_of_ne hs] at hr
        exact h.shown k r hr
    · by_cases hs : k = s
      · subst hs
        simp only [Function.update_self] at hr
        rcases List.mem_append.mp hr with hold | hnew
        · exact h.named k r hold name hname
        · rw [List.mem_singleton] at hnew
          subst hnew
          exact hname
      · simp only [Function.update_of_ne hs] at hr
        exact h.named k r hr name hname
    · rw [(Mailboxes.step_keeps hstep k).cleared fun ha => nomatch ha] at hcleared
      exact (h.hung k hk hcleared).office hstep

theorem initial_inv : Inv initial where
  kept := Mailboxes.initial_kept
  taken _ hown := nomatch hown
  others _ _ := rfl
  shown _ _ hr := absurd hr List.not_mem_nil
  named _ _ hr := absurd hr List.not_mem_nil
  hung _ hown := nomatch hown

theorem step_inv (a : Action) (h : Inv w) (hstep : step a w = some w') : Inv w' := by
  cases a with
  | bind s path refusal =>
    simp only [step] at hstep
    split at hstep
    · obtain ⟨opened, hopens, hrest⟩ := Option.bind_eq_some_iff.mp hstep
      obtain ⟨name, _, hbinds⟩ := Option.bind_eq_some_iff.mp hrest
      exact (h.opens hopens).binds hbinds
    · cases hstep
      exact h
  | unbound s => exact h.opens hstep
  | pair first second =>
    obtain ⟨opened, hfirst, hrest⟩ := Option.bind_eq_some_iff.mp hstep
    obtain ⟨both, hsecond, rfl⟩ := Option.map_eq_some_iff.mp hrest
    exact h.pair hfirst hsecond
  | closes s =>
    obtain ⟨_, hcloses⟩ := Option.ite_none_right_eq_some.mp hstep
    exact h.act hcloses (fun _ ha => nomatch ha) fun _ ha => nomatch ha
  | send socket data refusal =>
    obtain ⟨_, hmap⟩ := Option.ite_none_right_eq_some.mp hstep
    obtain ⟨⟨outcome, o⟩, hsend, rfl⟩ := Option.map_eq_some_iff.mp hmap
    rcases send_sends hsend with rfl | ⟨sender, _, hsends | hhangs⟩
    · exact h
    · exact h.sends hsends
    · exact h.hangsUp hhangs
  | sendTo socket data path refusal =>
    obtain ⟨_, hmap⟩ := Option.ite_none_right_eq_some.mp hstep
    obtain ⟨⟨outcome, o⟩, hsend, rfl⟩ := Option.map_eq_some_iff.mp hmap
    rcases sendTo_sends hsend with rfl | ⟨sender, target, _, hsends⟩
    · exact h
    · exact h.sends hsends
  | recvFrom socket size answer =>
    obtain ⟨hours, hmap⟩ := Option.ite_none_right_eq_some.mp hstep
    obtain ⟨⟨report, o⟩, hrecv, rfl⟩ := Option.map_eq_some_iff.mp hmap
    exact h.receives hours (recvFrom_receives hrecv)
  | recvVectoredFrom socket sizes answer =>
    obtain ⟨hours, hmap⟩ := Option.ite_none_right_eq_some.mp hstep
    obtain ⟨⟨report, o⟩, hrecv, rfl⟩ := Option.map_eq_some_iff.mp hmap
    exact h.receives hours (recvVectoredFrom_receives hrecv)
  | others action =>
    obtain ⟨hforeign, hact⟩ := Option.ite_none_right_eq_some.mp hstep
    refine h.act hact (fun k ha => ?_) fun k ha hown => ?_
    · subst ha
      simpa [World.foreign] using hforeign
    · subst ha
      simp [World.foreign, hown] at hforeign

/-- The path that was returned with a datagram is the name that its sender has, and `send_to`
addresses exactly that name: a datagram to the path fails without effect or goes to the socket
to which the name leads by then. -/
def Returns (w : World) (r : Receipt) : Prop :=
  ∃ name, r.name = some name ∧ w.office.name r.letter.sender = some name ∧
    ∀ sender data refusal outcome o,
      sendTo (some sender) data r.report.path refusal w.office = some (outcome, o) →
      (outcome.1 ≠ none ∧ o = w.office) ∨
      ∃ target, w.office.leads name = some target ∧ outcome = (none, data.length) ∧
        o = w.office.deliver sender target data

/-- Of the datagrams that a socket accepts each is received once, in their order and as it was
sent, or is still in the box. Unread ones are lost only when it is closed, or refused a `send`
to its other end that is closed. -/
structure Accounted (w : World) : Prop where
  inOrder : ∀ s, w.own s = true → w.office.life s = .opened → w.office.cleared s = false →
    w.office.accepted s = (w.receipts s).map Receipt.letter ++ w.office.box s
  started : ∀ s, w.own s = true → w.office.cleared s = false →
    (w.receipts s).map Receipt.letter <+: w.office.accepted s
  once : ∀ s, w.own s = true →
    ((w.receipts s).map Receipt.letter ++ w.office.box s).Sublist (w.office.accepted s)
  hung : ∀ s, w.own s = true → w.office.cleared s = true → w.Hung s
  shown : ∀ s, ∀ r ∈ w.receipts s, r.Shows
  returns : ∀ s, ∀ r ∈ w.receipts s, r.report.path ≠ [] → r.report.path.length < sunPathSize → Returns w r

/-- A path that is not empty was read from a name. -/
theorem Receipt.Shows.told {r : Receipt} (h : r.Shows) (hnonempty : r.report.path ≠ []) :
    Told r.report.path r.name := by
  cases hec : r.report.ec with
  | none => exact (h.success hec).2
  | some ec => exact absurd (h.failure ec hec).2.2 hnonempty

theorem Inv.returns (h : Inv w) {s : Nat} {r : Receipt} (hr : r ∈ w.receipts s)
    (hnonempty : r.report.path ≠ []) (hshort : r.report.path.length < sunPathSize) : Returns w r := by
  obtain ⟨file, hbytes, hname⟩ := ((h.shown s r hr).told hnonempty).file hnonempty hshort
  refine ⟨.file file, hname, h.named s r hr _ hname, fun sender data refusal outcome o hsend => ?_⟩
  rw [← hbytes] at hsend hshort
  rcases sendTo_file hshort hsend with hfailed | ⟨target, htarget, houtcome, _, hdelivered⟩
  · exact .inl hfailed
  · exact .inr ⟨target, htarget, houtcome, hdelivered⟩

theorem Inv.accounted (h : Inv w) : Accounted w where
  inOrder s hown hopened hcleared := by
    rw [← h.taken s hown]
    exact h.kept.counted s hcleared (by rw [hopened]; decide)
  started s hown hcleared := by
    rw [← h.taken s hown]
    exact h.kept.started s hcleared
  once s hown := by
    rw [← h.taken s hown]
    exact h.kept.once s
  hung := h.hung
  shown := h.shown
  returns _ _ hr := h.returns hr

/-- Whatever the program and other processes do with their sockets and files, no datagram is
doubled or changed on its way, none is lost while its socket and the other end of a pair are
open, and an answer is addressed to the sender's name. -/
theorem datagrams_accounted (h : Reachable step initial w) : Accounted w :=
  (h.invariant initial_inv fun a _ _ hu _ hstep => step_inv a hu hstep).accounted

/-- `"a"` is answered; the sender closes, its file is removed, and another binds it. A socket of
another process sends before it has a name, and is shown with the one it has got since. One end
of a pair is closed, and the other, which sends to it, loses what came from there. -/
theorem datagrams_accounted_file_taken_over :
    ∃ w, Reachable step initial w ∧
      (w.receipts 1).map Receipt.report =
        [⟨none, 1, [[7]], [97]⟩, ⟨none, 2, [[8], [9]], [97]⟩, ⟨none, 1, [[5]], [97]⟩] ∧
      w.office.leads (.file ⟨[97], by decide, by decide, by decide⟩) = some 3 ∧
      w.office.accepted 5 = [⟨4, [6]⟩] ∧ w.office.box 5 = [] ∧ w.Hung 5 ∧ Accounted w := by
  have h : Reachable step initial _ :=
    reachable_of_run [.bind 0 [97] none, .bind 1 [98] none,
      .sendTo (some 0) [7, 1] [98] none, .sendTo (some 0) [8, 9] [98] none,
      .recvFrom (some 1) 1 (.datagram true fun _ => 0), .sendTo (some 1) [2] [97] none,
      .closes 0, .others (.turns fun _ => none),
      .recvVectoredFrom (some 1) [1, 4] (.datagram true fun _ => 0),
      .others (.opens 3), .others (.sends 3 1 [5]),
      .others (.names 3 (.file ⟨[97], by decide, by decide, by decide⟩)),
      .others (.turns fun _ => some 3), .recvFrom (some 1) 4 (.datagram true fun _ => 0),
      .pair 4 5, .send (some 4) [6] none, .closes 4, .send (some 5) [1] (some ECONNREFUSED)] rfl
  exact ⟨_, h, rfl, rfl, rfl, rfl, ⟨4, rfl, rfl⟩, datagrams_accounted h⟩

end UnixDatagrams
