import Ioxx.AfdSelector
import Ioxx.Owners

/-!
# The life of a `WakerState`

A `WakerState` opens an eventfd (Linux) or a pipe (the other POSIX builds), has it
registered with `auto_drain` and owns it until it is destroyed; on Windows it only
takes the waker flag of the selector. `World` is a process with one selector, the
rest of the program that opens, registers and closes descriptors of its own, and
any number of `Waker` objects that are made, moved and destroyed. Every call that
may fail has its answer in the action.
-/

namespace WakerStates

open Core Detail Registry Runs Maps Owners

structure WakerState where
  token : Token
  readHandle : NativeHandle := 0
  writeHandle : NativeHandle := 0
  /-- The `OwnedDescriptor` members. -/
  ownedRead : NativeHandle := -1
  ownedWrite : NativeHandle := -1
  deriving DecidableEq, Repr

/-- Who opened a descriptor. -/
inductive Holder where
  | program
  | waker
  deriving DecidableEq, Repr

structure File where
  holder : Holder
  nonBlocking : Bool
  closeOnExec : Bool
  deriving DecidableEq, Repr

/-- `closes` records what each `close` of the library hit, latest first. -/
structure Process (β : Type) where
  files : NativeHandle → Option File
  closes : List (Option Holder)
  selector : Selector β

variable {β Ω : Type}

def Process.close (p : Process β) (fd : NativeHandle) : Process β :=
  { p with
    files := Function.update p.files fd none
    closes := (p.files fd).map File.holder :: p.closes }

/-- The destructors of `OwnedDescriptor`s, in the order they run. -/
def Process.closeAll (p : Process β) (fds : List NativeHandle) : Process β :=
  (fds.flatMap closeDescriptor).foldl Process.close p

def Process.openFile (p : Process β) (fd : NativeHandle) (file : File) : Process β :=
  { p with files := Function.update p.files fd (some file) }

/-- The two ends of the waker's pipe, and the four calls of `fcntl` on each. -/
inductive End where
  | read
  | write
  deriving DecidableEq, Repr

inductive Fcntl where
  | getFl
  | setFl
  | getFd
  | setFd
  deriving DecidableEq, Repr

/-- What the calls of a constructor answer. The eventfd is the first descriptor. -/
structure Answers (Ω : Type) where
  opened : Except Errno (NativeHandle × NativeHandle)
  fcntl : End → Fcntl → Option Errno
  backend : Ω

/-- `set_descriptor_non_blocking` and `set_descriptor_close_on_exec`: the first
`fcntl` that fails is thrown. -/
def setFlag (answer : Fcntl → Option Errno) (get set : Fcntl) (getText setText : String) :
    Except Exception Unit :=
  match answer get with
  | some errno => .error (.systemError (.ofErrno errno) getText)
  | none => match answer set with
    | some errno => .error (.systemError (.ofErrno errno) setText)
    | none => .ok ()

def setDescriptorNonBlocking (answer : Fcntl → Option Errno) : Except Exception Unit :=
  setFlag answer .getFl .setFl "fcntl(F_GETFL)" "fcntl(F_SETFL)"

def setDescriptorCloseOnExec (answer : Fcntl → Option Errno) : Except Exception Unit :=
  setFlag answer .getFd .setFd "fcntl(F_GETFD)" "fcntl(F_SETFD)"

def preparePipe (answer : End → Fcntl → Option Errno) : Except Exception Unit := do
  setDescriptorNonBlocking (answer .read)
  setDescriptorNonBlocking (answer .write)
  setDescriptorCloseOnExec (answer .read)
  setDescriptorCloseOnExec (answer .write)

variable (b : Backend β Ω)

/-- The call of `add_waker` in a constructor whose local `OwnedDescriptor`s hold
`locals`: they are closed if it throws. -/
def registerWaker (ω : Ω) (locals : List NativeHandle) (state : WakerState) (p : Process β) :
    Except Exception WakerState × Process β :=
  match addWaker b ω state.readHandle state.token p.selector with
  | (.error e, selector) => (.error e, { p with selector := selector }.closeAll locals)
  | (.ok _, selector) => (.ok state, { p with selector := selector })

def constructEventfd (answers : Answers Ω) (token : Token) (p : Process β) :
    Except Exception WakerState × Process β :=
  match answers.opened with
  | .error errno => (.error (.systemError (.ofErrno errno) "eventfd"), p)
  | .ok (event, _) =>
    registerWaker b answers.backend [event] ⟨token, event, event, event, -1⟩
      (p.openFile event ⟨.waker, true, true⟩)

def constructPipe (answers : Answers Ω) (token : Token) (p : Process β) :
    Except Exception WakerState × Process β :=
  match answers.opened with
  | .error errno => (.error (.systemError (.ofErrno errno) "pipe"), p)
  | .ok (read, write) =>
    let opened := (p.openFile read ⟨.waker, false, false⟩).openFile write ⟨.waker, false, false⟩
    match preparePipe answers.fcntl with
    -- `write` is declared after `read`, so it is destroyed first
    | .error e => (.error e, opened.closeAll [write, read])
    | .ok _ => registerWaker b answers.backend [write, read] ⟨token, read, write, read, write⟩
        ((p.openFile read ⟨.waker, true, true⟩).openFile write ⟨.waker, true, true⟩)

/-- The constructor of `WakerState`. -/
def construct (answers : Answers Ω) (token : Token) (p : Process β) :
    Except Exception WakerState × Process β :=
  match b.platform with
  | .windows => registerWaker b answers.backend [] ⟨token, 0, 0, -1, -1⟩ p
  | .linux => constructEventfd b answers token p
  | _ => constructPipe b answers token p

/-- The destructor: `remove_waker`, then the members from the last to the first. -/
def destroy (ω : Ω) (state : WakerState) (p : Process β) : Process β :=
  { p with selector := removeWaker b ω state.readHandle p.selector }.closeAll
    [state.ownedWrite, state.ownedRead]

/-- A `Waker` is a `unique_ptr` to its state. -/
structure World (β : Type) where
  process : Process β
  wakers : Nat → Option (Option WakerState)

inductive Action (β Ω : Type) where
  | opens (fd : NativeHandle) (nonBlocking closeOnExec : Bool)
  | closes (fd : NativeHandle)
  | calls (call : HandleCall) (ω : Ω)
  | kernel (backend : β)
  | constructs (id : Nat) (token : Token) (answers : Answers Ω)
  | moves (target source : Nat)
  | assigns (target source : Nat) (ω : Ω)
  | destroys (id : Nat) (ω : Ω)

/-- Descriptors that the kernel may hand out to a constructor. -/
def mayOpen (files : NativeHandle → Option File) (answers : Answers Ω) : Bool :=
  match answers.opened with
  | .error _ => true
  | .ok (read, write) => decide (0 ≤ read) && (files read).isNone && decide (0 ≤ write) &&
      (files write).isNone && read != write

/-- The rest of the program calls the registry for descriptors that are not a
waker's. -/
def mayCall (files : NativeHandle → Option File) (handle : NativeHandle) : Bool :=
  match files handle with
  | none => true
  | some file => file.holder == .program

/-- The state that is destroyed with a `Waker` object or overwritten in it, if any. -/
def dropState (ω : Ω) (waker : Option WakerState) (p : Process β) : Process β :=
  match waker with
  | none => p
  | some state => destroy b ω state p

def step : Action β Ω → World β → Option (World β)
  | .opens fd nonBlocking closeOnExec, w =>
    if 0 ≤ fd ∧ w.process.files fd = none then
      some { w with process := w.process.openFile fd ⟨.program, nonBlocking, closeOnExec⟩ } else none
  | .closes fd, w =>
    (w.process.files fd).bind fun file => if file.holder = .program then some { w with
      process := { w.process with files := Function.update w.process.files fd none } } else none
  | .calls call ω, w =>
    if mayCall w.process.files call.handle then some { w with
      process := { w.process with selector := (call.perform b ω w.process.selector).2 } } else none
  | .kernel backend, w => some { w with
      process := { w.process with selector := { w.process.selector with backend := backend } } }
  | .constructs id token answers, w =>
    if w.wakers id = none ∧ mayOpen w.process.files answers then
      match construct b answers token w.process with
      | (.error _, p) => some ⟨p, Function.update w.wakers id (some none)⟩
      | (.ok state, p) => some ⟨p, Function.update w.wakers id (some (some state))⟩
    else none
  | .moves target source, w =>
    (w.wakers source).bind fun waker => if w.wakers target = none then some { w with
      wakers := Function.update (Function.update w.wakers target (some waker)) source (some none) }
    else none
  | .assigns target source ω, w =>
    (w.wakers target).bind fun old => (w.wakers source).bind fun waker =>
      if target = source then some w
      else some ⟨dropState b ω old w.process,
        Function.update (Function.update w.wakers target (some waker)) source (some none)⟩
  | .destroys id ω, w =>
    (w.wakers id).map fun old =>
      ⟨dropState b ω old w.process, Function.update w.wakers id none⟩

/-- The descriptors that the destructor of a state closes, in that order. -/
def WakerState.owns (state : WakerState) : List NativeHandle :=
  [state.ownedWrite, state.ownedRead].flatMap closeDescriptor

/-- The entry that `add_waker` makes for a state. -/
def Watches (state : WakerState) (r : Registration) : Prop :=
  r.handle = state.readHandle ∧ r.kind = .rawDescriptor ∧ r.token = state.token ∧
    r.interests = Interest.READABLE ∧ r.autoDrain = true

variable {b}

/-- `add_waker` outside Windows: it changes no entry, or adds the waker's. -/
theorem addWaker_cases (hplatform : b.platform ≠ .windows) (ω : Ω) (handle : NativeHandle)
    (token : Token) (s : Selector β) :
    (∃ e t, addWaker b ω handle token s = (.error e, t) ∧ t.registrations = s.registrations) ∨
    (∃ afdState t, addWaker b ω handle token s = (.ok (), t) ∧ s.registrations handle = none ∧
      t.registrations = Function.update s.registrations handle
        (some ⟨handle, .rawDescriptor, token, Interest.READABLE, true, afdState⟩)) := by
  have hadd : addWaker b ω handle token s =
      match add b ω handle .rawDescriptor token Interest.READABLE true s with
      | (.error e, s) => (.error e, s)
      | (.ok _, s) => (.ok (), { s with wakerHandle := handle }) := by
    unfold addWaker
    split
    · rename_i hwindows
      exact absurd hwindows hplatform
    · rfl
  rw [hadd]
  rcases add_cases b ω handle .rawDescriptor token Interest.READABLE true s with ⟨e, _, he⟩ |
    ⟨_, hfree, ⟨e, backend, _, he⟩ | ⟨afdState, backend, _, he⟩⟩
  · rw [he]
    exact .inl ⟨e, s, rfl, rfl⟩
  · rw [he]
    exact .inl ⟨e, _, rfl, rfl⟩
  · rw [he]
    exact .inr ⟨afdState, _, rfl, hfree, rfl⟩

/-- `remove_waker` outside Windows takes the entry of the handle out, if there is one. -/
theorem removeWaker_registrations (hplatform : b.platform ≠ .windows) (ω : Ω)
    (handle : NativeHandle) (s : Selector β) :
    (removeWaker b ω handle s).registrations = Function.update s.registrations handle none := by
  have hremove : removeWaker b ω handle s = (remove b ω handle s).2 := by
    unfold removeWaker
    split
    · rename_i hwindows
      exact absurd hwindows hplatform
    · rfl
  rw [hremove]
  rcases remove_cases b ω handle s with ⟨e, hnone, he⟩ | ⟨r, _, he⟩
  · rw [he, ← hnone, Function.update_eq_self]
  · rw [he]
    rfl

/-- Closing distinct descriptors of wakers frees these and touches nothing else. -/
theorem foldl_close (fds : List NativeHandle) (hdistinct : fds.Nodup) {p : Process β}
    (hwaker : ∀ fd ∈ fds, (p.files fd).map File.holder = some .waker) :
    (fds.foldl Process.close p).selector = p.selector ∧
      (∀ fd, (fds.foldl Process.close p).files fd = if fd ∈ fds then none else p.files fd) ∧
      ∀ entry ∈ (fds.foldl Process.close p).closes, entry = some .waker ∨ entry ∈ p.closes := by
  induction fds generalizing p with
  | nil => exact ⟨rfl, fun _ => (if_neg List.not_mem_nil).symm, fun _ hentry => .inr hentry⟩
  | cons first fds ih =>
    obtain ⟨hfirst, hrest⟩ := List.nodup_cons.mp hdistinct
    have hkept : ∀ fd ∈ fds, ((p.close first).files fd).map File.holder = some .waker := by
      intro fd hfd
      have hne : fd ≠ first := fun hsame => hfirst (hsame ▸ hfd)
      have hsame : (p.close first).files fd = p.files fd := Function.update_of_ne hne _ _
      rw [hsame]
      exact hwaker fd (List.mem_cons_of_mem _ hfd)
    obtain ⟨hselector, hfiles, hcloses⟩ := ih hrest hkept
    refine ⟨hselector, fun fd => ?_, fun entry hentry => ?_⟩
    · rw [List.foldl_cons, hfiles fd]
      by_cases hfd : fd = first
      · subst hfd
        rw [if_neg hfirst, if_pos List.mem_cons_self]
        exact Function.update_self _ _ _
      · have hsame : (p.close first).files fd = p.files fd := Function.update_of_ne hfd _ _
        rw [hsame]
        simp only [List.mem_cons, hfd, false_or]
    · rcases hcloses entry hentry with hnew | hold
      · exact .inl hnew
      · rcases List.mem_cons.mp hold with rfl | hold
        · exact .inl (hwaker first List.mem_cons_self)
        · exact .inr hold

structure Shaped (state : WakerState) : Prop where
  read : state.readHandle ∈ state.owns
  write : state.writeHandle ∈ state.owns
  distinct : state.owns.Nodup

/-- A constructor that threw: the descriptors and the table are as before, and only
descriptors of wakers were closed. -/
structure Refused (p p' : Process β) : Prop where
  files : p'.files = p.files
  registrations : p'.selector.registrations = p.selector.registrations
  closes : ∀ entry ∈ p'.closes, entry = some .waker ∨ entry ∈ p.closes

/-- A constructor that returned: its descriptors were free and are now open,
non-blocking and close-on-exec, and the read end is in the table. -/
structure Made (token : Token) (state : WakerState) (p p' : Process β) : Prop where
  shaped : Shaped state
  token : state.token = token
  free : ∀ fd ∈ state.owns, p.files fd = none
  files : ∀ fd, p'.files fd = if fd ∈ state.owns then some ⟨.waker, true, true⟩ else p.files fd
  unregistered : p.selector.registrations state.readHandle = none
  registered : ∃ r, Watches state r ∧ p'.selector.registrations =
    Function.update p.selector.registrations state.readHandle (some r)
  closes : p'.closes = p.closes

/-- The end of the two POSIX constructors, once the descriptors are open in `opened`. -/
theorem registerWaker_cases (hplatform : b.platform ≠ .windows) (ω : Ω)
    (locals : List NativeHandle) (state : WakerState) (p opened : Process β)
    (hlocals : locals.flatMap closeDescriptor = state.owns) (hshaped : Shaped state)
    (hfree : ∀ fd ∈ state.owns, p.files fd = none)
    (hfiles : ∀ fd, opened.files fd =
      if fd ∈ state.owns then some ⟨.waker, true, true⟩ else p.files fd)
    (hselector : opened.selector = p.selector) (hcloses : opened.closes = p.closes) :
    (∃ e p', registerWaker b ω locals state opened = (.error e, p') ∧ Refused p p') ∨
    (∃ p', registerWaker b ω locals state opened = (.ok state, p') ∧ Made state.token state p p') := by
  unfold registerWaker
  rcases addWaker_cases hplatform ω state.readHandle state.token opened.selector with
    ⟨e, t, he, ht⟩ | ⟨afdState, t, he, hnone, ht⟩
  · rw [he]
    refine .inl ⟨e, _, rfl, ?_⟩
    have hwaker : ∀ fd ∈ state.owns, (opened.files fd).map File.holder = some .waker := by
      intro fd hfd
      rw [hfiles fd, if_pos hfd]
      rfl
    obtain ⟨hsel, hfile, hclose⟩ := foldl_close state.owns hshaped.distinct
      (p := { opened with selector := t }) hwaker
    rw [← hlocals] at hsel hfile hclose
    refine ⟨funext fun fd => ?_, ?_, fun entry hentry => ?_⟩
    · refine (hfile fd).trans ?_
      rw [hlocals]
      by_cases hfd : fd ∈ state.owns
      · rw [if_pos hfd, hfree fd hfd]
      · rw [if_neg hfd]
        exact (hfiles fd).trans (if_neg hfd)
    · rw [← hselector, ← ht]
      exact congrArg Selector.registrations hsel
    · rw [← hcloses]
      exact hclose entry hentry
  · rw [he]
    refine .inr ⟨_, rfl, hshaped, rfl, hfree, hfiles, ?_,
      ⟨⟨state.readHandle, .rawDescriptor, state.token, Interest.READABLE, true, afdState⟩,
        ⟨rfl, rfl, rfl, rfl, rfl⟩, ?_⟩, hcloses⟩
    · rw [← hselector]
      exact hnone
    · rw [← hselector]
      exact ht

theorem constructEventfd_cases (hplatform : b.platform ≠ .windows) {answers : Answers Ω}
    (token : Token) {p : Process β} (hmay : mayOpen p.files answers = true) :
    (∃ e p', constructEventfd b answers token p = (.error e, p') ∧ Refused p p') ∨
    (∃ state p', constructEventfd b answers token p = (.ok state, p') ∧ Made token state p p') := by
  unfold constructEventfd
  unfold mayOpen at hmay
  split
  · exact .inl ⟨_, p, rfl, rfl, rfl, fun _ hentry => .inr hentry⟩
  · rename_i event other hopened
    rw [hopened] at hmay
    simp only [Bool.and_eq_true, decide_eq_true_eq, Option.isNone_iff_eq_none] at hmay
    obtain ⟨⟨⟨⟨hnonneg, hnone⟩, -⟩, -⟩, -⟩ := hmay
    have howns : (WakerState.mk token event event event (-1)).owns = [event] := by
      simp [WakerState.owns, closeDescriptor, hnonneg]
    have hshaped : Shaped ⟨token, event, event, event, -1⟩ := by
      refine ⟨?_, ?_, ?_⟩ <;> rw [howns] <;> simp
    rcases registerWaker_cases hplatform answers.backend [event] ⟨token, event, event, event, -1⟩ p
      (p.openFile event ⟨.waker, true, true⟩)
      (by rw [howns]; simp [closeDescriptor, hnonneg]) hshaped
      (by rw [howns]; simpa using hnone)
      (by
        intro fd
        rw [howns]
        simp only [Process.openFile, List.mem_singleton]
        by_cases hfd : fd = event
        · rw [hfd, Function.update_self, if_pos rfl]
        · rw [Function.update_of_ne hfd, if_neg hfd]) rfl rfl with ⟨e, p', he, hp⟩ | ⟨p', he, hp⟩
    · exact .inl ⟨e, p', he, hp⟩
    · exact .inr ⟨_, p', he, hp⟩

theorem constructPipe_cases (hplatform : b.platform ≠ .windows) {answers : Answers Ω}
    (token : Token) {p : Process β} (hmay : mayOpen p.files answers = true) :
    (∃ e p', constructPipe b answers token p = (.error e, p') ∧ Refused p p') ∨
    (∃ state p', constructPipe b answers token p = (.ok state, p') ∧ Made token state p p') := by
  unfold constructPipe
  unfold mayOpen at hmay
  split
  · exact .inl ⟨_, p, rfl, rfl, rfl, fun _ hentry => .inr hentry⟩
  · rename_i read write hopened
    rw [hopened] at hmay
    simp only [Bool.and_eq_true, decide_eq_true_eq, Option.isNone_iff_eq_none, bne_iff_ne] at hmay
    obtain ⟨⟨⟨⟨hread, hreadFree⟩, hwrite⟩, hwriteFree⟩, hne⟩ := hmay
    have hlocals : [write, read].flatMap closeDescriptor = [write, read] := by
      simp [closeDescriptor, hread, hwrite]
    have howns : (WakerState.mk token read write read write).owns = [write, read] := hlocals
    have hdistinct : [write, read].Nodup := by simpa using Ne.symm hne
    have hshaped : Shaped ⟨token, read, write, read, write⟩ := by
      refine ⟨?_, ?_, ?_⟩
      · rw [howns]; simp
      · rw [howns]; simp
      · rw [howns]; exact hdistinct
    have hfree : ∀ fd ∈ [write, read], p.files fd = none := by
      intro fd hfd
      rcases List.mem_pair.mp hfd with rfl | rfl
      · exact hwriteFree
      · exact hreadFree
    have hfiles : ∀ file fd, ((p.openFile read file).openFile write file).files fd =
        if fd ∈ [write, read] then some file else p.files fd := by
      intro file fd
      simp only [Process.openFile, List.mem_pair]
      by_cases hfd : fd = write
      · rw [hfd, Function.update_self, if_pos (.inl rfl)]
      · rw [Function.update_of_ne hfd]
        by_cases hfd' : fd = read
        · rw [hfd', Function.update_self, if_pos (.inr rfl)]
        · rw [Function.update_of_ne hfd', if_neg (not_or.mpr ⟨hfd, hfd'⟩)]
    dsimp only
    split
    · rename_i e _
      obtain ⟨hsel, hfile, hclose⟩ := foldl_close [write, read] hdistinct
        (p := (p.openFile read ⟨.waker, false, false⟩).openFile write ⟨.waker, false, false⟩)
        fun fd hfd => by rw [hfiles, if_pos hfd]; rfl
      refine .inl ⟨e, _, rfl, ?_⟩
      rw [Process.closeAll, hlocals]
      refine ⟨funext fun fd => ?_, congrArg Selector.registrations hsel, hclose⟩
      rw [hfile fd]
      by_cases hfd : fd ∈ [write, read]
      · rw [if_pos hfd, hfree fd hfd]
      · rw [if_neg hfd, hfiles, if_neg hfd]
    · rcases registerWaker_cases hplatform answers.backend [write, read]
        ⟨token, read, write, read, write⟩ p
        ((p.openFile read ⟨.waker, true, true⟩).openFile write ⟨.waker, true, true⟩)
        rfl hshaped (howns ▸ hfree) (howns ▸ hfiles _) rfl rfl with ⟨e, p', he, hp⟩ | ⟨p', he, hp⟩
      · exact .inl ⟨e, p', he, hp⟩
      · exact .inr ⟨_, p', he, hp⟩

/-- Outside Windows a constructor makes a whole waker, or leaves everything as it was. -/
theorem construct_cases (hplatform : b.platform ≠ .windows) {answers : Answers Ω}
    (token : Token) {p : Process β} (hmay : mayOpen p.files answers = true) :
    (∃ e p', construct b answers token p = (.error e, p') ∧ Refused p p') ∨
    (∃ state p', construct b answers token p = (.ok state, p') ∧ Made token state p p') := by
  unfold construct
  split
  · rename_i hwindows
    exact absurd hwindows hplatform
  · exact constructEventfd_cases hplatform token hmay
  · exact constructPipe_cases hplatform token hmay

/-- A `Waker` object that has its state. -/
def Live (wakers : Nat → Option (Option WakerState)) (id : Nat) (state : WakerState) : Prop :=
  wakers id = some (some state)

/-- The invariant outside Windows. The wakers' descriptors are open, prepared and
each owned by one live waker; every live waker is in the table; the entries that
are drained are the live wakers'; and no close missed a waker's descriptor. -/
structure Tended (p : Process β) (wakers : Nat → Option (Option WakerState)) : Prop where
  shaped : ∀ id state, Live wakers id state → Shaped state
  prepared : ∀ id state, Live wakers id state → ∀ fd ∈ state.owns,
    p.files fd = some ⟨.waker, true, true⟩
  alone : ∀ id id' state state' fd, Live wakers id state → Live wakers id' state' →
    fd ∈ state.owns → fd ∈ state'.owns → id = id'
  answered : ∀ fd file, p.files fd = some file → file.holder = .waker →
    ∃ id state, Live wakers id state ∧ fd ∈ state.owns
  watched : ∀ id state, Live wakers id state →
    ∃ r, p.selector.registrations state.readHandle = some r ∧ Watches state r
  drained : ∀ handle r, p.selector.registrations handle = some r → r.autoDrain = true →
    ∃ id state, Live wakers id state ∧ handle = state.readHandle
  closes : ∀ entry ∈ p.closes, entry = some .waker

variable {p p' : Process β} {wakers wakers' : Nat → Option (Option WakerState)}

/-- The same live wakers in other objects. -/
structure Renamed (wakers wakers' : Nat → Option (Option WakerState)) (f : Nat → Nat) : Prop where
  back : ∀ id state, Live wakers' id state → Live wakers (f id) state
  inj : ∀ id id' state state', Live wakers' id state → Live wakers' id' state' →
    f id = f id' → id = id'
  forth : ∀ id state, Live wakers id state → ∃ id', Live wakers' id' state

/-- An object without a state is no live waker. -/
theorem live_update_none {id other : Nat} {state : WakerState}
    (h : Live (Function.update wakers id (some none)) other state) :
    other ≠ id ∧ Live wakers other state := by
  rcases update_some_eq_some h with ⟨_, hnone⟩ | hold
  · cases hnone
  · exact hold

/-- Handing the state of one object to another that has none. -/
theorem renamed_pass {target source : Nat} (hother : source ≠ target)
    {waker : Option WakerState} (hsource : wakers source = some waker)
    (hidle : ∀ state, ¬ Live wakers target state) :
    Renamed wakers (Function.update (Function.update wakers target (some waker)) source (some none))
      fun id => if id = target then source else id := by
  have hlive : ∀ id state, Live (Function.update (Function.update wakers target (some waker)) source
      (some none)) id state → id ≠ source ∧
        ((id = target ∧ Live wakers source state) ∨ (id ≠ target ∧ Live wakers id state)) := by
    intro id state hid
    obtain ⟨hne, hid⟩ := live_update_none hid
    refine ⟨hne, ?_⟩
    rcases update_some_eq_some hid with ⟨rfl, hwaker⟩ | hold
    · exact .inl ⟨rfl, hsource.trans (congrArg some hwaker.symm)⟩
    · exact .inr hold
  refine ⟨?_, ?_, ?_⟩
  · intro id state hid
    obtain ⟨_, ⟨rfl, hold⟩ | ⟨hne, hold⟩⟩ := hlive id state hid
    · rw [if_pos rfl]
      exact hold
    · rw [if_neg hne]
      exact hold
  · intro id id' state state' hid hid' hsame
    obtain ⟨hns, _⟩ := hlive id state hid
    obtain ⟨hns', _⟩ := hlive id' state' hid'
    split at hsame <;> split at hsame
    · rename_i h₁ h₂
      rw [h₁, h₂]
    · exact absurd hsame.symm hns'
    · exact absurd hsame hns
    · exact hsame
  · intro id state hid
    by_cases hs : id = source
    · subst hs
      refine ⟨target, ?_⟩
      have hwaker : waker = some state := Option.some.inj (hsource.symm.trans hid)
      rw [Live, Function.update_of_ne hother.symm, Function.update_self, hwaker]
    · have ht : id ≠ target := by
        rintro rfl
        exact hidle state hid
      refine ⟨id, ?_⟩
      rw [Live, Function.update_of_ne hs, Function.update_of_ne ht]
      exact hid

/-- An object without a state takes a free place, or leaves it. -/
theorem renamed_unmade (id : Nat) (object : Option (Option WakerState))
    (hid : ∀ state, ¬ Live wakers id state) (hobject : ∀ state, object ≠ some (some state)) :
    Renamed wakers (Function.update wakers id object) fun other => other := by
  have hlive : ∀ other state, Live (Function.update wakers id object) other state ↔
      Live wakers other state := by
    intro other state
    by_cases hother : other = id
    · subst hother
      rw [Live, Function.update_self]
      exact iff_of_false (hobject state) (hid state)
    · rw [Live, Function.update_of_ne hother, Live]
  refine ⟨?_, ?_, ?_⟩
  · exact fun other state hother => (hlive other state).mp hother
  · exact fun _ _ _ _ _ _ hsame => hsame
  · exact fun other state hother => ⟨other, (hlive other state).mpr hother⟩

theorem Tended.rename (h : Tended p wakers) {f : Nat → Nat} (hf : Renamed wakers wakers' f) :
    Tended p wakers' where
  shaped id state hlive := h.shaped _ state (hf.back id state hlive)
  prepared id state hlive := h.prepared _ state (hf.back id state hlive)
  alone id id' state state' fd hlive hlive' hfd hfd' :=
    hf.inj id id' state state' hlive hlive'
      (h.alone _ _ state state' fd (hf.back id state hlive) (hf.back id' state' hlive') hfd hfd')
  answered fd file hfile hholder := by
    obtain ⟨id, state, hlive, hfd⟩ := h.answered fd file hfile hholder
    obtain ⟨id', hlive'⟩ := hf.forth id state hlive
    exact ⟨id', state, hlive', hfd⟩
  watched id state hlive := h.watched _ state (hf.back id state hlive)
  drained handle r hr hdrain := by
    obtain ⟨id, state, hlive, hread⟩ := h.drained handle r hr hdrain
    obtain ⟨id', hlive'⟩ := hf.forth id state hlive
    exact ⟨id', state, hlive', hread⟩
  closes := h.closes

/-- A process that differs in the descriptors of the rest of the program and in
entries that are not drained. -/
theorem Tended.process (h : Tended p wakers)
    (hkept : ∀ fd, p.files fd = some ⟨.waker, true, true⟩ → p'.files fd = p.files fd)
    (hnew : ∀ fd file, p'.files fd = some file → file.holder = .waker → p.files fd = some file)
    (hentries : ∀ fd, p.files fd = some ⟨.waker, true, true⟩ →
      p'.selector.registrations fd = p.selector.registrations fd)
    (hdrained : ∀ handle r, p'.selector.registrations handle = some r → r.autoDrain = true →
      ∃ r', p.selector.registrations handle = some r' ∧ r'.autoDrain = true)
    (hcloses : p'.closes = p.closes) : Tended p' wakers where
  shaped := h.shaped
  prepared id state hlive fd hfd := by
    have hold := h.prepared id state hlive fd hfd
    rw [hkept fd hold, hold]
  alone := h.alone
  answered fd file hfile hholder := h.answered fd file (hnew fd file hfile hholder) hholder
  watched id state hlive := by
    rw [hentries _ (h.prepared id state hlive _ (h.shaped id state hlive).read)]
    exact h.watched id state hlive
  drained handle r hr hdrain := by
    obtain ⟨r', hr', hdrain'⟩ := hdrained handle r hr hdrain
    exact h.drained handle r' hr' hdrain'
  closes := by
    rw [hcloses]
    exact h.closes

theorem Tended.refused (h : Tended p wakers) (hp : Refused p p') : Tended p' wakers where
  shaped := h.shaped
  prepared id state hlive fd hfd := by
    rw [hp.files]
    exact h.prepared id state hlive fd hfd
  alone := h.alone
  answered fd file hfile := h.answered fd file (hp.files ▸ hfile)
  watched id state hlive := by
    rw [hp.registrations]
    exact h.watched id state hlive
  drained handle r hr := h.drained handle r (hp.registrations ▸ hr)
  closes entry hentry := (hp.closes entry hentry).elim id (h.closes entry)

theorem Tended.made (h : Tended p wakers) {id : Nat} (hid : wakers id = none) {token : Token}
    {state : WakerState} (hmade : Made token state p p') :
    Tended p' (Function.update wakers id (some (some state))) := by
  have hlive : ∀ other state', Live (Function.update wakers id (some (some state))) other state' →
      (other = id ∧ state' = state) ∨ (other ≠ id ∧ Live wakers other state') := by
    intro other state' hother
    rcases update_some_eq_some hother with ⟨hsame, hstate⟩ | hold
    · exact .inl ⟨hsame, Option.some.inj hstate⟩
    · exact .inr hold
  have hnew : Live (Function.update wakers id (some (some state))) id state := Function.update_self _ _ _
  have hstill : ∀ other state', Live wakers other state' →
      Live (Function.update wakers id (some (some state))) other state' := by
    intro other state' hother
    have hne : other ≠ id := by
      rintro rfl
      rw [Live, hid] at hother
      cases hother
    exact (Function.update_of_ne hne _ _).trans hother
  -- what another waker owns was not free
  have hapart : ∀ other state' fd, Live wakers other state' → fd ∈ state'.owns → fd ∉ state.owns := by
    intro other state' fd hother hfd hfd'
    have hopen := h.prepared other state' hother fd hfd
    rw [hmade.free fd hfd'] at hopen
    cases hopen
  obtain ⟨r, hwatches, hregistered⟩ := hmade.registered
  exact {
    shaped := fun other state' hother => by
      rcases hlive other state' hother with ⟨_, rfl⟩ | ⟨_, hold⟩
      · exact hmade.shaped
      · exact h.shaped other state' hold
    prepared := fun other state' hother fd hfd => by
      rw [hmade.files fd]
      rcases hlive other state' hother with ⟨_, rfl⟩ | ⟨_, hold⟩
      · rw [if_pos hfd]
      · rw [if_neg (hapart other state' fd hold hfd)]
        exact h.prepared other state' hold fd hfd
    alone := fun first second state₁ state₂ fd hfirst hsecond hfd hfd' => by
      rcases hlive first state₁ hfirst with ⟨rfl, rfl⟩ | ⟨_, hold⟩ <;>
        rcases hlive second state₂ hsecond with ⟨rfl, rfl⟩ | ⟨_, hold'⟩
      · rfl
      · exact absurd hfd (hapart second state₂ fd hold' hfd')
      · exact absurd hfd' (hapart first state₁ fd hold hfd)
      · exact h.alone first second state₁ state₂ fd hold hold' hfd hfd'
    answered := fun fd file hfile hholder => by
      rw [hmade.files fd] at hfile
      split at hfile
      · rename_i hfd
        exact ⟨id, state, hnew, hfd⟩
      · obtain ⟨other, state', hother, hfd⟩ := h.answered fd file hfile hholder
        exact ⟨other, state', hstill other state' hother, hfd⟩
    watched := fun other state' hother => by
      rw [hregistered]
      rcases hlive other state' hother with ⟨_, rfl⟩ | ⟨_, hold⟩
      · exact ⟨r, Function.update_self _ _ _, hwatches⟩
      · have hne : state'.readHandle ≠ state.readHandle := by
          intro hsame
          have hfd := (h.shaped other state' hold).read
          exact hapart other state' _ hold hfd (hsame ▸ hmade.shaped.read)
        rw [Function.update_of_ne hne]
        exact h.watched other state' hold
    drained := fun handle r' hr' hdrain => by
      rw [hregistered] at hr'
      rcases update_some_eq_some hr' with ⟨rfl, _⟩ | ⟨_, hold⟩
      · exact ⟨id, state, hnew, rfl⟩
      · obtain ⟨other, state', hother, hread⟩ := h.drained handle r' hold hdrain
        exact ⟨other, state', hstill other state' hother, hread⟩
    closes := by
      rw [hmade.closes]
      exact h.closes }

/-- Destroying the state of a live waker, whose object is left without one. -/
theorem Tended.destroyed (h : Tended p wakers) (hplatform : b.platform ≠ .windows) (ω : Ω) {id : Nat}
    {state : WakerState} (hid : Live wakers id state) :
    Tended (destroy b ω state p) (Function.update wakers id (some none)) := by
  have hshaped := h.shaped id state hid
  obtain ⟨hsel, hfile, hclose⟩ := foldl_close state.owns hshaped.distinct
    (p := { p with selector := removeWaker b ω state.readHandle p.selector })
    fun fd hfd => by rw [h.prepared id state hid fd hfd]; rfl
  have hregistrations : (destroy b ω state p).selector.registrations =
      Function.update p.selector.registrations state.readHandle none :=
    (congrArg Selector.registrations hsel).trans
      (removeWaker_registrations hplatform ω state.readHandle p.selector)
  have hapart : ∀ other state' fd, Live (Function.update wakers id (some none)) other state' →
      fd ∈ state'.owns → fd ∉ state.owns := by
    intro other state' fd hother hfd hfd'
    obtain ⟨hne, hold⟩ := live_update_none hother
    exact hne (h.alone other id state' state fd hold hid hfd hfd')
  have hstill : ∀ other state', Live wakers other state' → other ≠ id →
      Live (Function.update wakers id (some none)) other state' :=
    fun other state' hother hne => (Function.update_of_ne hne _ _).trans hother
  exact {
    shaped := fun other state' hother => h.shaped other state' (live_update_none hother).2
    prepared := fun other state' hother fd hfd => by
      refine (hfile fd).trans ?_
      rw [if_neg (hapart other state' fd hother hfd)]
      exact h.prepared other state' (live_update_none hother).2 fd hfd
    alone := fun first second state₁ state₂ fd hfirst hsecond =>
      h.alone first second state₁ state₂ fd (live_update_none hfirst).2 (live_update_none hsecond).2
    answered := fun fd file hopen hholder => by
      rw [show (destroy b ω state p).files fd = _ from hfile fd] at hopen
      split at hopen
      · cases hopen
      · rename_i hfd
        obtain ⟨other, state', hother, hfd'⟩ := h.answered fd file hopen hholder
        refine ⟨other, state', hstill other state' hother ?_, hfd'⟩
        rintro rfl
        rw [Option.some.inj (Option.some.inj (hother.symm.trans hid))] at hfd'
        exact hfd hfd'
    watched := fun other state' hother => by
      have hold := (live_update_none hother).2
      have hne : state'.readHandle ≠ state.readHandle := by
        intro hsame
        exact hapart other state' _ hother (h.shaped other state' hold).read (hsame ▸ hshaped.read)
      rw [hregistrations, Function.update_of_ne hne]
      exact h.watched other state' hold
    drained := fun handle r hr hdrain => by
      rw [hregistrations] at hr
      obtain ⟨hne, hold⟩ := update_none_eq_some hr
      obtain ⟨other, state', hother, hread⟩ := h.drained handle r hold hdrain
      refine ⟨other, state', hstill other state' hother ?_, hread⟩
      rintro rfl
      rw [Option.some.inj (Option.some.inj (hother.symm.trans hid))] at hread
      exact hne hread
    closes := fun entry hentry => (hclose entry hentry).elim (fun hnew => hnew) (h.closes entry) }

/-- Dropping what an object may have, and leaving the object without a state. -/
theorem Tended.dropped (h : Tended p wakers) (hplatform : b.platform ≠ .windows) (ω : Ω) {id : Nat}
    {old : Option WakerState} (hid : wakers id = some old) :
    Tended (dropState b ω old p) (Function.update wakers id (some none)) := by
  cases old with
  | none => rwa [← hid, Function.update_eq_self]
  | some state => exact h.destroyed hplatform ω hid

theorem caught_selector (outcome : Except Exception Unit × Selector β) :
    (caught outcome).2 = outcome.2 := by
  obtain ⟨result, t⟩ := outcome
  cases result <;> rfl

/-- A call of the rest of the program makes no entry that is drained. -/
theorem perform_drained (call : HandleCall) (ω : Ω) {s : Selector β} {handle : NativeHandle}
    {r : Registration} (hr : (call.perform b ω s).2.registrations handle = some r)
    (hdrain : r.autoDrain = true) :
    ∃ r', s.registrations handle = some r' ∧ r'.autoDrain = true := by
  cases call with
  | register target kind token interests =>
    rw [HandleCall.perform, registerHandle, caught_selector] at hr
    rcases add_cases b ω target kind token interests false s with ⟨e, _, he⟩ |
      ⟨_, _, ⟨e, backend, _, he⟩ | ⟨afdState, backend, _, he⟩⟩
    · rw [he] at hr
      exact ⟨r, hr, hdrain⟩
    · rw [he] at hr
      exact ⟨r, hr, hdrain⟩
    · rw [he] at hr
      rcases update_some_eq_some hr with ⟨_, rfl⟩ | ⟨_, hold⟩
      · cases hdrain
      · exact ⟨r, hold, hdrain⟩
  | reregister target kind token interests =>
    rw [HandleCall.perform, reregisterHandle, caught_selector] at hr
    rcases update_cases b ω target kind token interests s with ⟨e, _, he⟩ |
      ⟨_, r', result, backend, hold, _, he⟩
    · rw [he] at hr
      exact ⟨r, hr, hdrain⟩
    · rw [he] at hr
      rcases update_some_eq_some hr with ⟨rfl, rfl⟩ | ⟨_, hsame⟩
      · exact ⟨r', hold, hdrain⟩
      · exact ⟨r, hsame, hdrain⟩
  | deregister target =>
    rw [HandleCall.perform, deregisterHandle, caught_selector] at hr
    rcases remove_cases b ω target s with ⟨e, _, he⟩ | ⟨r', _, he⟩
    · rw [he] at hr
      exact ⟨r, hr, hdrain⟩
    · rw [he] at hr
      exact ⟨r, (update_none_eq_some hr).2, hdrain⟩

theorem step_tended (hplatform : b.platform ≠ .windows) (a : Action β Ω) {w v : World β}
    (h : Tended w.process w.wakers) (hstep : step b a w = some v) : Tended v.process v.wakers := by
  cases a with
  | opens fd nonBlocking closeOnExec =>
    simp only [step] at hstep
    split at hstep
    · rename_i hfree
      cases hstep
      refine h.process ?_ ?_ (fun _ _ => rfl) (fun _ r hr hdrain => ⟨r, hr, hdrain⟩) rfl
      · intro other hother
        refine Function.update_of_ne ?_ _ _
        rintro rfl
        rw [hfree.2] at hother
        cases hother
      · intro other file hother hholder
        rcases update_some_eq_some hother with ⟨_, rfl⟩ | ⟨_, hold⟩
        · cases hholder
        · exact hold
    · cases hstep
  | closes fd =>
    obtain ⟨file, hfile, hstep⟩ := Option.bind_eq_some_iff.mp hstep
    split at hstep
    · rename_i hholder
      cases hstep
      refine h.process ?_ ?_ (fun _ _ => rfl) (fun _ r hr hdrain => ⟨r, hr, hdrain⟩) rfl
      · intro other hother
        refine Function.update_of_ne ?_ _ _
        rintro rfl
        rw [hfile] at hother
        cases hother
        cases hholder
      · exact fun other file' hother _ => (update_none_eq_some hother).2
    · cases hstep
  | calls call ω =>
    simp only [step] at hstep
    split at hstep
    · rename_i hmay
      cases hstep
      refine h.process (fun _ _ => rfl) (fun _ _ hfile _ => hfile) ?_
        (fun _ _ hr hdrain => perform_drained call ω hr hdrain) rfl
      intro fd hfd
      refine HandleCall.perform_other b ω call w.process.selector ?_
      rintro rfl
      simp [mayCall, hfd] at hmay
    · cases hstep
  | kernel backend =>
    cases hstep
    exact h.process (fun _ _ => rfl) (fun _ _ hfile _ => hfile) (fun _ _ => rfl)
      (fun _ r hr hdrain => ⟨r, hr, hdrain⟩) rfl
  | constructs id token answers =>
    simp only [step] at hstep
    split at hstep
    · rename_i hmay
      have hid : ∀ state, ¬ Live w.wakers id state := by
        intro state hlive
        rw [Live, hmay.1] at hlive
        cases hlive
      rcases construct_cases hplatform token hmay.2 with ⟨e, p', he, hrefused⟩ |
        ⟨state, p', he, hmade⟩
      · rw [he] at hstep
        cases hstep
        exact (h.refused hrefused).rename (renamed_unmade _ _ hid fun state hstate => by cases hstate)
      · rw [he] at hstep
        cases hstep
        exact h.made hmay.1 hmade
    · cases hstep
  | moves target source =>
    obtain ⟨waker, hsource, hstep⟩ := Option.bind_eq_some_iff.mp hstep
    split at hstep
    · rename_i htarget
      cases hstep
      have hother : source ≠ target := by
        rintro rfl
        rw [htarget] at hsource
        cases hsource
      refine h.rename (renamed_pass hother hsource fun state hlive => ?_)
      rw [Live, htarget] at hlive
      cases hlive
    · cases hstep
  | assigns target source ω =>
    obtain ⟨old, htarget, hstep⟩ := Option.bind_eq_some_iff.mp hstep
    obtain ⟨waker, hsource, hstep⟩ := Option.bind_eq_some_iff.mp hstep
    split at hstep
    · cases hstep
      exact h
    · rename_i hother
      cases hstep
      have hdropped := h.dropped hplatform ω htarget
      have hpassed := hdropped.rename (renamed_pass (Ne.symm hother)
        ((Function.update_of_ne (Ne.symm hother) _ _).trans hsource)
        fun state hlive => (live_update_none hlive).1 rfl)
      rwa [Function.update_idem] at hpassed
  | destroys id ω =>
    obtain ⟨old, hid, hstep⟩ := Option.map_eq_some_iff.mp hstep
    cases hstep
    have hdropped := (h.dropped hplatform ω hid).rename (renamed_unmade id none
      (fun state hlive => (live_update_none hlive).1 rfl) fun state hstate => by cases hstate)
    rwa [Function.update_idem] at hdropped

/-- A process that has opened nothing for wakers and has nothing to drain. -/
structure Fresh (w : World β) : Prop where
  unmade : ∀ id, w.wakers id = none
  files : ∀ fd file, w.process.files fd = some file → file.holder = .program
  entries : ∀ handle r, w.process.selector.registrations handle = some r → r.autoDrain = false
  closes : w.process.closes = []

theorem Fresh.tended {w : World β} (h : Fresh w) : Tended w.process w.wakers := by
  have hnone : ∀ id state, ¬ Live w.wakers id state := by
    intro id state hlive
    rw [Live, h.unmade id] at hlive
    cases hlive
  exact {
    shaped := fun id state hlive => absurd hlive (hnone id state)
    prepared := fun id state hlive => absurd hlive (hnone id state)
    alone := fun id _ state _ _ hlive => absurd hlive (hnone id state)
    answered := fun fd file hfile hholder => by
      rw [h.files fd file hfile] at hholder
      cases hholder
    watched := fun id state hlive => absurd hlive (hnone id state)
    drained := fun handle r hr hdrain => by
      rw [h.entries handle r hr] at hdrain
      cases hdrain
    closes := by
      rw [h.closes]
      simp }

/-- In every run outside Windows the wakers' descriptors and entries are tended: a
poll only ever drains what a live waker owns. -/
theorem wakers_tended (hplatform : b.platform ≠ .windows) {w₀ w : World β} (hfresh : Fresh w₀)
    (h : Reachable (step b) w₀ w) : Tended w.process w.wakers :=
  h.invariant hfresh.tended fun a _ _ hu _ hstep => step_tended hplatform a hu hstep

/-- The program has descriptor 3 registered; two wakers are made and one is assigned
to the other. -/
theorem wakers_tended_assigned :
    ∃ w : World Epoll.EpollSet,
      Reachable (step Epoll.backend) ⟨⟨fun _ => none, [], Epoll.initialSelector⟩, fun _ => none⟩ w ∧
        w.process.closes = [some .waker] ∧ Live w.wakers 0 ⟨⟨2⟩, 5, 5, 5, -1⟩ ∧
        Tended w.process w.wakers := by
  have hfresh : Fresh (⟨⟨fun _ => none, [], Epoll.initialSelector⟩, fun _ => none⟩ :
      World Epoll.EpollSet) :=
    ⟨fun _ => rfl, by simp, by simp [Epoll.initialSelector], rfl⟩
  have h : Reachable (step Epoll.backend)
      ⟨⟨fun _ => none, [], Epoll.initialSelector⟩, fun _ => none⟩ _ :=
    reachable_of_run [.opens 3 true true, .calls (.register 3 .socket ⟨7⟩ Interest.READABLE) none,
      .constructs 0 ⟨1⟩ ⟨.ok (4, 9), fun _ _ => none, none⟩,
      .constructs 1 ⟨2⟩ ⟨.ok (5, 9), fun _ _ => none, none⟩, .assigns 0 1 none] rfl
  exact ⟨_, h, rfl, rfl, wakers_tended (by decide) hfresh h⟩

/-- The invariant on Windows: the flag of the selector is set while a waker is alive,
and at most one is. -/
structure Single (p : Process β) (wakers : Nat → Option (Option WakerState)) : Prop where
  active : p.selector.wakerActive = true ↔ ∃ id state, Live wakers id state
  alone : ∀ id id' state state', Live wakers id state → Live wakers id' state' → id = id'

theorem Single.rename (h : Single p wakers) {f : Nat → Nat} (hf : Renamed wakers wakers' f) :
    Single p wakers' where
  active := by
    rw [h.active]
    constructor
    · rintro ⟨id, state, hlive⟩
      obtain ⟨id', hlive'⟩ := hf.forth id state hlive
      exact ⟨id', state, hlive'⟩
    · rintro ⟨id, state, hlive⟩
      exact ⟨f id, state, hf.back id state hlive⟩
  alone id id' state state' hlive hlive' :=
    hf.inj id id' state state' hlive hlive'
      (h.alone _ _ state state' (hf.back id state hlive) (hf.back id' state' hlive'))

theorem Single.process (h : Single p wakers)
    (hactive : p'.selector.wakerActive = p.selector.wakerActive) : Single p' wakers :=
  ⟨by rw [hactive]; exact h.active, h.alone⟩

theorem foldl_close_selector (fds : List NativeHandle) (p : Process β) :
    (fds.foldl Process.close p).selector = p.selector := by
  induction fds generalizing p with
  | nil => rfl
  | cons fd fds ih => exact ih (p.close fd)

theorem construct_windows (hwindows : b.platform = .windows) (answers : Answers Ω) (token : Token)
    (p : Process β) :
    (p.selector.wakerActive = true ∧ ∃ e, construct b answers token p = (.error e, p)) ∨
    (p.selector.wakerActive = false ∧ ∃ state p', construct b answers token p = (.ok state, p') ∧
      p'.selector.wakerActive = true) := by
  unfold construct registerWaker addWaker
  rw [hwindows]
  cases hactive : p.selector.wakerActive with
  | true => exact .inl ⟨rfl, _, rfl⟩
  | false => exact .inr ⟨rfl, _, _, rfl, rfl⟩

/-- A call of the rest of the program leaves the flag alone. -/
theorem perform_wakerActive (call : HandleCall) (ω : Ω) (s : Selector β) :
    (call.perform b ω s).2.wakerActive = s.wakerActive := by
  cases call with
  | register handle kind token interests =>
    rw [HandleCall.perform, registerHandle, caught_selector]
    rcases add_cases b ω handle kind token interests false s with ⟨e, _, he⟩ |
      ⟨_, _, ⟨e, backend, _, he⟩ | ⟨afdState, backend, _, he⟩⟩ <;> rw [he]
  | reregister handle kind token interests =>
    rw [HandleCall.perform, reregisterHandle, caught_selector]
    rcases update_cases b ω handle kind token interests s with ⟨e, _, he⟩ |
      ⟨_, r, result, backend, _, _, he⟩ <;> rw [he]
  | deregister handle =>
    rw [HandleCall.perform, deregisterHandle, caught_selector]
    rcases remove_cases b ω handle s with ⟨e, _, he⟩ | ⟨r, _, he⟩ <;> rw [he]

theorem Single.dropped (h : Single p wakers) (hwindows : b.platform = .windows) (ω : Ω) {id : Nat}
    {old : Option WakerState} (hid : wakers id = some old) :
    Single (dropState b ω old p) (Function.update wakers id (some none)) := by
  cases old with
  | none => rwa [← hid, Function.update_eq_self]
  | some state =>
    have hnone : ∀ other state', ¬ Live (Function.update wakers id (some none)) other state' := by
      intro other state' hother
      obtain ⟨hne, hold⟩ := live_update_none hother
      exact hne (h.alone other id state' state hold hid)
    have hselector : (dropState b ω (some state) p).selector.wakerActive = false := by
      rw [dropState, destroy, Process.closeAll, foldl_close_selector, removeWaker, hwindows]
    refine ⟨?_, fun other _ state' _ hother => absurd hother (hnone other state')⟩
    rw [hselector]
    exact iff_of_false Bool.false_ne_true fun ⟨other, state', hother⟩ => hnone other state' hother

theorem step_single (hwindows : b.platform = .windows) (a : Action β Ω) {w v : World β}
    (h : Single w.process w.wakers) (hstep : step b a w = some v) : Single v.process v.wakers := by
  cases a with
  | opens fd nonBlocking closeOnExec =>
    simp only [step] at hstep
    split at hstep
    · cases hstep
      exact h.process rfl
    · cases hstep
  | closes fd =>
    obtain ⟨file, -, hstep⟩ := Option.bind_eq_some_iff.mp hstep
    split at hstep
    · cases hstep
      exact h.process rfl
    · cases hstep
  | calls call ω =>
    simp only [step] at hstep
    split at hstep
    · cases hstep
      exact h.process (perform_wakerActive call ω w.process.selector)
    · cases hstep
  | kernel backend =>
    cases hstep
    exact h.process rfl
  | constructs id token answers =>
    simp only [step] at hstep
    split at hstep
    · rename_i hmay
      have hid : ∀ state, ¬ Live w.wakers id state := by
        intro state hlive
        rw [Live, hmay.1] at hlive
        cases hlive
      rcases construct_windows hwindows answers token w.process with ⟨_, e, he⟩ |
        ⟨hidle, state, p', he, hactive⟩
      · rw [he] at hstep
        cases hstep
        exact h.rename (renamed_unmade _ _ hid fun state hstate => by cases hstate)
      · rw [he] at hstep
        cases hstep
        have hnone : ∀ other state', ¬ Live w.wakers other state' := by
          intro other state' hother
          have hset := h.active.mpr ⟨other, state', hother⟩
          rw [hidle] at hset
          cases hset
        have honly : ∀ other state', Live (Function.update w.wakers id (some (some state))) other state' →
            other = id := by
          intro other state' hother
          rcases update_some_eq_some hother with ⟨hsame, _⟩ | ⟨_, hold⟩
          · exact hsame
          · exact absurd hold (hnone other state')
        refine ⟨iff_of_true hactive ⟨id, state, Function.update_self _ _ _⟩, ?_⟩
        intro first second state₁ state₂ hfirst hsecond
        rw [honly first state₁ hfirst, honly second state₂ hsecond]
    · cases hstep
  | moves target source =>
    obtain ⟨waker, hsource, hstep⟩ := Option.bind_eq_some_iff.mp hstep
    split at hstep
    · rename_i htarget
      cases hstep
      have hother : source ≠ target := by
        rintro rfl
        rw [htarget] at hsource
        cases hsource
      refine h.rename (renamed_pass hother hsource fun state hlive => ?_)
      rw [Live, htarget] at hlive
      cases hlive
    · cases hstep
  | assigns target source ω =>
    obtain ⟨old, htarget, hstep⟩ := Option.bind_eq_some_iff.mp hstep
    obtain ⟨waker, hsource, hstep⟩ := Option.bind_eq_some_iff.mp hstep
    split at hstep
    · cases hstep
      exact h
    · rename_i hother
      cases hstep
      have hpassed := (h.dropped hwindows ω htarget).rename (renamed_pass (Ne.symm hother)
        ((Function.update_of_ne (Ne.symm hother) _ _).trans hsource)
        fun state hlive => (live_update_none hlive).1 rfl)
      rwa [Function.update_idem] at hpassed
  | destroys id ω =>
    obtain ⟨old, hid, hstep⟩ := Option.map_eq_some_iff.mp hstep
    cases hstep
    have hdropped := (h.dropped hwindows ω hid).rename (renamed_unmade id none
      (fun state hlive => (live_update_none hlive).1 rfl) fun state hstate => by cases hstate)
    rwa [Function.update_idem] at hdropped

/-- On Windows at most one waker is alive, and a new one can be made exactly when
none is. -/
theorem one_waker_alive (hwindows : b.platform = .windows) {w₀ w : World β} (hfresh : Fresh w₀)
    (hidle : w₀.process.selector.wakerActive = false) (h : Reachable (step b) w₀ w) :
    (∀ id id' state state', Live w.wakers id state → Live w.wakers id' state' → id = id') ∧
    ∀ answers token, (∃ state p', construct b answers token w.process = (.ok state, p')) ↔
      ∀ id state, ¬ Live w.wakers id state := by
  have hstart : Single w₀.process w₀.wakers := by
    have hnone : ∀ id state, ¬ Live w₀.wakers id state := by
      intro id state hlive
      rw [Live, hfresh.unmade id] at hlive
      cases hlive
    refine ⟨?_, fun id _ state _ hlive => absurd hlive (hnone id state)⟩
    rw [hidle]
    exact iff_of_false Bool.false_ne_true fun ⟨id, state, hlive⟩ => hnone id state hlive
  have hsingle : Single w.process w.wakers :=
    h.invariant (I := fun w => Single w.process w.wakers) hstart
      fun a _ _ hu _ hstep => step_single hwindows a hu hstep
  refine ⟨hsingle.alone, fun answers token => ?_⟩
  rcases construct_windows hwindows answers token w.process with ⟨hactive, e, he⟩ |
    ⟨hactive, state, p', he, _⟩
  · obtain ⟨id, state, hlive⟩ := hsingle.active.mp hactive
    refine iff_of_false ?_ fun hnone => hnone id state hlive
    rintro ⟨state', p', hmade⟩
    rw [he] at hmade
    cases hmade
  · refine iff_of_true ⟨state, p', he⟩ fun id state' hlive => ?_
    have hset := hsingle.active.mpr ⟨id, state', hlive⟩
    rw [hactive] at hset
    cases hset

/-- A second waker is refused while the first one is alive, and another is made after
its end. -/
theorem one_waker_alive_again :
    ∃ w : World AfdSelector.Heap,
      Reachable (step AfdSelector.backend)
        ⟨⟨fun _ => none, [], AfdSelector.emptySelector⟩, fun _ => none⟩ w ∧
        w.wakers 1 = some none ∧ Live w.wakers 2 ⟨⟨3⟩, 0, 0, -1, -1⟩ ∧
        ∀ id id' state state', Live w.wakers id state → Live w.wakers id' state' → id = id' := by
  have hfresh : Fresh (⟨⟨fun _ => none, [], AfdSelector.emptySelector⟩, fun _ => none⟩ :
      World AfdSelector.Heap) :=
    ⟨fun _ => rfl, by simp, by simp [AfdSelector.emptySelector], rfl⟩
  have h : Reachable (step AfdSelector.backend)
      ⟨⟨fun _ => none, [], AfdSelector.emptySelector⟩, fun _ => none⟩ _ :=
    reachable_of_run [.constructs 0 ⟨1⟩ ⟨.error EINVAL, fun _ _ => none, AfdSelector.agreeable⟩,
      .constructs 1 ⟨2⟩ ⟨.error EINVAL, fun _ _ => none, AfdSelector.agreeable⟩,
      .destroys 0 AfdSelector.agreeable,
      .constructs 2 ⟨3⟩ ⟨.error EINVAL, fun _ _ => none, AfdSelector.agreeable⟩] rfl
  exact ⟨_, h, rfl, rfl, (one_waker_alive rfl hfresh rfl h).1⟩

end WakerStates
