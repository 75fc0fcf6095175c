import Ioxx.SharedPointers
import Ioxx.Selector

/-!
# Who keeps a selector alive

A `Poll` has two shared pointers to its selector, one of them in its `Registry`; a
`Registry` that was copied or moved out of a poll has one, a `Waker` has one in its
state, and a registered `TcpStream`, `TcpListener` or `UdpSocket` has one in the copy of
the registry that it keeps. A moved-from object keeps null pointers, a source that was moved from even an
engaged `std::optional` with one. The destructor of the selector closes its kernel
object; a constructor that throws runs no destructor.
-/

namespace Lifetimes

open Core Runs SharedPointers

inductive Place where
  | pollSelector (id : Nat)
  | pollRegistry (id : Nat)
  | registry (id : Nat)
  | waker (id : Nat)
  | source (id : Nat)
  deriving DecidableEq, Repr

/-- What matters of a source: `socket_` is valid, and `registry_` has a value. -/
structure Source where
  valid : Bool
  engaged : Bool
  deriving DecidableEq, Repr

/-- The objects there are. Selectors and their kernel objects share their numbers;
`opened` are the kernel objects that were opened and `leaked` those whose selector was
never made. -/
structure World where
  pointers : Heap Place Nat
  polls : Nat → Bool
  registries : Nat → Bool
  wakers : Nat → Bool
  sources : Nat → Option Source
  next : Nat
  opened : List Nat
  leaked : List Nat

def initial : World :=
  ⟨.empty, fun _ => false, fun _ => false, fun _ => false, fun _ => none, 0, [], []⟩

/-- What the system answers to a constructor of `Selector`: the error of the call that
opens the kernel object, and the exception of what is done with it. -/
structure Answers where
  opens : Option Errno
  prepares : Option Exception

def openCall : Platform → String
  | .windows => "CreateIoCompletionPort"
  | .linux => "epoll_create1"
  | .kqueue => "kqueue"
  | .other => ""

/-- `Selector::Selector`: the exception, and whether the kernel object was opened before
it. `set_descriptor_close_on_exec` and the constructor of `AfdHelper` may throw after
that; epoll is close-on-exec at once, and the fallback opens nothing. -/
def construct (platform : Platform) (answers : Answers) : Except (Exception × Bool) Unit :=
  match platform with
  | .other => .ok ()
  | .linux => match answers.opens with
    | some errno => .error (.systemError (.ofErrno errno) (openCall .linux), false)
    | none => .ok ()
  | .kqueue => match answers.opens, answers.prepares with
    | some errno, _ => .error (.systemError (.ofErrno errno) (openCall .kqueue), false)
    | none, some e => .error (e, true)
    | none, none => .ok ()
  | .windows => match answers.opens, answers.prepares with
    | some error, _ => .error (.systemError (.ofLastError error) (openCall .windows), false)
    | none, some e => .error (e, true)
    | none, none => .ok ()

/-- A registry that another object can be given: that of a poll, or one of its own. -/
inductive RegistryRef where
  | ofPoll (id : Nat)
  | own (id : Nat)
  deriving DecidableEq, Repr

def RegistryRef.place : RegistryRef → Place
  | .ofPoll id => .pollRegistry id
  | .own id => .registry id

def RegistryRef.made (w : World) : RegistryRef → Bool
  | .ofPoll id => w.polls id
  | .own id => w.registries id

inductive Action where
  | makesPoll (id : Nat) (throwing : Bool) (answers : Answers)
  | movesPoll (id source : Nat)
  | assignsPoll (target source : Nat)
  | destroysPoll (id : Nat)
  | copiesRegistry (id : Nat) (source : RegistryRef)
  | movesRegistry (id : Nat) (source : RegistryRef)
  | assignsRegistry (target source : RegistryRef)
  | moveAssignsRegistry (target source : RegistryRef)
  | destroysRegistry (id : Nat)
  | makesWaker (id : Nat) (registry : RegistryRef) (throwing succeeds : Bool)
  | movesWaker (id source : Nat)
  | assignsWaker (target source : Nat)
  | destroysWaker (id : Nat)
  | makesSource (id : Nat) (valid : Bool)
  | registers (id : Nat) (registry : RegistryRef)
  | deregisters (id : Nat)
  | movesSource (id source : Nat)
  | assignsSource (target source : Nat)
  | destroysSource (id : Nat)

/-- A selector is made for a poll. -/
def World.makeSelector (id : Nat) (w : World) : World :=
  { w with
    pointers := (w.pointers.make (.pollSelector id) w.next).copy (.pollRegistry id) (.pollSelector id)
    polls := Function.update w.polls id true
    next := w.next + 1
    opened := w.next :: w.opened }

/-- The moves of `selector_` and `registry_`. -/
def movePoll (target source : Nat) (pointers : Heap Place Nat) : Heap Place Nat :=
  (pointers.move (.pollSelector target) (.pollSelector source)).move (.pollRegistry target)
    (.pollRegistry source)

/-- The move of `registry_` of a source, by whether the other one has a value. -/
def moveCopy (target source : Nat) (engaged : Bool) (pointers : Heap Place Nat) : Heap Place Nat :=
  if engaged then pointers.move (.source target) (.source source) else pointers.reset (.source target)

/-- `socket_` of a moved-from source is null, `registry_` keeps a value if it had one. -/
def Source.movedFrom (source : Source) : Source := ⟨false, source.engaged⟩

def step (platform : Platform) (a : Action) (w : World) : Option World :=
  match a with
  | .makesPoll id throwing answers =>
    if w.polls id then none
    else match construct platform answers with
      | .ok _ => some (w.makeSelector id)
      | .error (_, opened) => some { w with
          polls := if throwing then w.polls else Function.update w.polls id true
          next := if opened then w.next + 1 else w.next
          opened := if opened then w.next :: w.opened else w.opened
          leaked := if opened then w.next :: w.leaked else w.leaked }
  | .movesPoll id source =>
    if w.polls id || !w.polls source then none
    else some { w with
      pointers := movePoll id source w.pointers
      polls := Function.update w.polls id true }
  | .assignsPoll target source =>
    if !w.polls target || !w.polls source then none
    else if target = source then some w
    else some { w with pointers := movePoll target source w.pointers }
  | .destroysPoll id =>
    if w.polls id then some { w with
      pointers := (w.pointers.reset (.pollRegistry id)).reset (.pollSelector id)
      polls := Function.update w.polls id false }
    else none
  | .copiesRegistry id source =>
    if w.registries id || !source.made w then none
    else some { w with
      pointers := w.pointers.copy (.registry id) source.place
      registries := Function.update w.registries id true }
  | .movesRegistry id source =>
    if w.registries id || !source.made w then none
    else some { w with
      pointers := w.pointers.move (.registry id) source.place
      registries := Function.update w.registries id true }
  | .assignsRegistry target source =>
    if !target.made w || !source.made w then none
    else some { w with pointers := w.pointers.copy target.place source.place }
  | .moveAssignsRegistry target source =>
    if !target.made w || !source.made w then none
    else if target = source then some w
    else some { w with pointers := w.pointers.move target.place source.place }
  | .destroysRegistry id =>
    if w.registries id then some { w with
      pointers := w.pointers.reset (.registry id)
      registries := Function.update w.registries id false }
    else none
  | .makesWaker id registry throwing succeeds =>
    -- the constructor goes through the pointer of the registry
    if w.wakers id || !registry.made w || (w.pointers.slots registry.place).isNone then none
    else if succeeds then some { w with
      pointers := w.pointers.copy (.waker id) registry.place
      wakers := Function.update w.wakers id true }
    else some { w with
      pointers := (w.pointers.copy (.waker id) registry.place).reset (.waker id)
      wakers := if throwing then w.wakers else Function.update w.wakers id true }
  | .movesWaker id source =>
    if w.wakers id || !w.wakers source then none
    else some { w with
      pointers := w.pointers.move (.waker id) (.waker source)
      wakers := Function.update w.wakers id true }
  | .assignsWaker target source =>
    if !w.wakers target || !w.wakers source then none
    else if target = source then some w
    else some { w with pointers := w.pointers.move (.waker target) (.waker source) }
  | .destroysWaker id =>
    if w.wakers id then some { w with
      pointers := w.pointers.reset (.waker id)
      wakers := Function.update w.wakers id false }
    else none
  | .makesSource id valid => match w.sources id with
    | some _ => none
    | none => some { w with sources := Function.update w.sources id (some ⟨valid, false⟩) }
  | .registers id registry => match w.sources id with
    | none => none
    | some source =>
      -- the handle of a source without a socket is refused
      if !source.valid || !registry.made w || (w.pointers.slots registry.place).isNone then none
      else some { w with
        pointers := w.pointers.copy (.source id) registry.place
        sources := Function.update w.sources id (some { source with engaged := true }) }
  | .deregisters id => match w.sources id with
    | none => none
    | some source =>
      if source.valid then some { w with
        pointers := w.pointers.reset (.source id)
        sources := Function.update w.sources id (some { source with engaged := false }) }
      else none
  | .movesSource id source => match w.sources id, w.sources source with
    | none, some other => some { w with
        pointers := moveCopy id source other.engaged w.pointers
        sources := Function.update (Function.update w.sources id (some other)) source
          (some other.movedFrom) }
    | _, _ => none
  | .assignsSource target source => match w.sources target, w.sources source with
    | some _, some other =>
      if target = source then some w
      else some { w with
        pointers := moveCopy target source other.engaged w.pointers
        sources := Function.update (Function.update w.sources target (some other)) source
          (some other.movedFrom) }
    | _, _ => none
  | .destroysSource id => match w.sources id with
    | none => none
    | some _ => some { w with
        pointers := w.pointers.reset (.source id)
        sources := Function.update w.sources id none }

/-- What holds of the selectors and of the pointers to them. -/
structure Safe (platform : Platform) (w : World) : Prop where
  /-- Whatever is pointed to has been made and is not destroyed. -/
  live : ∀ place r, w.pointers.slots place = some r → r ∈ w.pointers.made ∧ r ∉ w.pointers.destroyed
  /-- A selector is destroyed when, and only when, nothing points to it any more. -/
  last : ∀ r ∈ w.pointers.made, r ∈ w.pointers.destroyed ↔ ∀ place, w.pointers.slots place ≠ some r
  once : w.pointers.destroyed.Nodup
  /-- A source with a socket and a copy of a registry can go through it. -/
  rearms : ∀ id source, w.sources id = some source → source.valid = true → source.engaged = true →
    ∃ r, w.pointers.slots (.source id) = some r
  /-- Every kernel object that was opened belongs to a selector or was leaked. -/
  backends : ∀ n, n ∈ w.opened ↔ n ∈ w.pointers.made ∨ n ∈ w.leaked
  leaks : platform = .linux ∨ platform = .other → w.leaked = []

structure Invariant (platform : Platform) (w : World) : Prop where
  counted : Counted w.pointers
  unmade : ∀ id, w.polls id = false →
    w.pointers.slots (.pollSelector id) = none ∧ w.pointers.slots (.pollRegistry id) = none
  rearms : ∀ id source, w.sources id = some source → source.valid = true → source.engaged = true →
    ∃ r, w.pointers.slots (.source id) = some r
  fresh : ∀ n ∈ w.opened, n < w.next
  backends : ∀ n, n ∈ w.opened ↔ n ∈ w.pointers.made ∨ n ∈ w.leaked
  leaks : platform = .linux ∨ platform = .other → w.leaked = []

variable {platform : Platform} {w : World}

theorem Invariant.safe (h : Invariant platform w) : Safe platform w where
  live place r hslot := ⟨h.counted.made place r hslot, h.counted.not_destroyed hslot⟩
  last _ hmade := h.counted.destroyed_iff hmade
  once := h.counted.once
  rearms := h.rearms
  backends := h.backends
  leaks := h.leaks

/-- A step that makes no selector. -/
theorem Invariant.rearrange (h : Invariant platform w) {w' : World} (hcounted : Counted w'.pointers)
    (hmade : w'.pointers.made = w.pointers.made)
    (hkernel : w'.next = w.next ∧ w'.opened = w.opened ∧ w'.leaked = w.leaked)
    (hunmade : ∀ id, w'.polls id = false →
      w'.pointers.slots (.pollSelector id) = none ∧ w'.pointers.slots (.pollRegistry id) = none)
    (hrearms : ∀ id source, w'.sources id = some source → source.valid = true →
      source.engaged = true → ∃ r, w'.pointers.slots (.source id) = some r) :
    Invariant platform w' := by
  obtain ⟨hnext, hopened, hleaked⟩ := hkernel
  refine ⟨hcounted, hunmade, hrearms, ?_, ?_, ?_⟩
  · rw [hopened, hnext]
    exact h.fresh
  · rw [hopened, hmade, hleaked]
    exact h.backends
  · rw [hleaked]
    exact h.leaks

theorem Invariant.makeSelector (h : Invariant platform w) {id : Nat} (hid : w.polls id = false) :
    Invariant platform (w.makeSelector id) := by
  have hnew : w.next ∉ w.pointers.made :=
    fun hmem => absurd (h.fresh w.next ((h.backends w.next).mpr (.inl hmem))) (Nat.lt_irrefl _)
  refine ⟨(h.counted.make (h.unmade id hid).1 hnew).copy _ _, fun other hother => ?_,
    fun other source hsource hvalid hengaged => ?_, fun n hn => ?_, fun n => ?_, h.leaks⟩
  · have hne : other ≠ id := by
      rintro rfl
      simp [World.makeSelector] at hother
    have hbefore := h.unmade other (by simpa [World.makeSelector, hne] using hother)
    simpa [World.makeSelector, Heap.make, hne] using hbefore
  · obtain ⟨r, hr⟩ := h.rearms other source hsource hvalid hengaged
    exact ⟨r, by simpa [World.makeSelector, Heap.make] using hr⟩
  · rcases List.mem_cons.mp hn with rfl | hold
    · exact Nat.lt_succ_self _
    · exact Nat.lt_succ_of_lt (h.fresh n hold)
  · simp only [World.makeSelector, List.mem_cons, h.backends, copy_made, Heap.make]
    exact or_assoc.symm

/-- A constructor that throws makes no pointer; what it has opened is leaked. -/
theorem Invariant.refused (h : Invariant platform w) {answers : Answers} {e : Exception} {opened : Bool}
    (hconstruct : construct platform answers = .error (e, opened)) {id : Nat} (hid : w.polls id = false)
    (throwing : Bool) :
    Invariant platform { w with
      polls := if throwing then w.polls else Function.update w.polls id true
      next := if opened then w.next + 1 else w.next
      opened := if opened then w.next :: w.opened else w.opened
      leaked := if opened then w.next :: w.leaked else w.leaked } := by
  have hunmade : ∀ other, (if throwing then w.polls else Function.update w.polls id true) other = false →
      w.polls other = false := by
    intro other hother
    cases throwing with
    | true => exact hother
    | false =>
      by_cases hne : other = id
      · exact hne ▸ hid
      · simpa [hne] using hother
  have hplatform : opened = true → platform ≠ .linux ∧ platform ≠ .other := by
    rintro rfl
    constructor
    · rintro rfl
      simp only [construct] at hconstruct
      split at hconstruct <;> cases hconstruct
    · rintro rfl
      cases hconstruct
  refine ⟨h.counted, fun other hother => h.unmade other (hunmade other hother), h.rearms, ?_, ?_, ?_⟩
  · cases opened with
    | false => exact h.fresh
    | true =>
      intro n hn
      rcases List.mem_cons.mp hn with rfl | hold
      · exact Nat.lt_succ_self _
      · exact Nat.lt_succ_of_lt (h.fresh n hold)
  · cases opened with
    | false => exact h.backends
    | true =>
      intro n
      simp only [if_true, List.mem_cons, h.backends]
      exact or_left_comm
  · intro hnone
    cases opened with
    | false => exact h.leaks hnone
    | true => exact absurd hnone (not_or.mpr (hplatform rfl))

/-- A step on registries and wakers of their own. -/
theorem Invariant.elsewhere (h : Invariant platform w) {pointers : Heap Place Nat}
    (hcounted : Counted pointers) (hmade : pointers.made = w.pointers.made)
    (hsame : ∀ id, pointers.slots (.pollSelector id) = w.pointers.slots (.pollSelector id) ∧
      pointers.slots (.pollRegistry id) = w.pointers.slots (.pollRegistry id) ∧
      pointers.slots (.source id) = w.pointers.slots (.source id)) (registries wakers : Nat → Bool) :
    Invariant platform { w with pointers := pointers, registries := registries, wakers := wakers } := by
  refine h.rearrange hcounted hmade ⟨rfl, rfl, rfl⟩ (fun id hid => ?_) fun id source hsource hvalid hengaged => ?_
  · obtain ⟨hselector, hregistry, -⟩ := hsame id
    exact ⟨hselector.trans (h.unmade id hid).1, hregistry.trans (h.unmade id hid).2⟩
  · obtain ⟨r, hr⟩ := h.rearms id source hsource hvalid hengaged
    exact ⟨r, (hsame id).2.2.trans hr⟩

@[simp] theorem pollSelector_ne_place (id : Nat) (registry : RegistryRef) :
    Place.pollSelector id ≠ registry.place := by
  cases registry <;> exact Place.noConfusion

@[simp] theorem source_ne_place (id : Nat) (registry : RegistryRef) :
    Place.source id ≠ registry.place := by
  cases registry <;> exact Place.noConfusion

theorem pollRegistry_ne_place {id : Nat} (hid : w.polls id = false) {registry : RegistryRef}
    (hmade : registry.made w = true) : Place.pollRegistry id ≠ registry.place := by
  intro hplace
  cases registry with
  | own own => cases hplace
  | ofPoll poll =>
    cases hplace
    rw [show w.polls id = true from hmade] at hid
    cases hid

/-- The pointers of a poll that is moved. -/
theorem Invariant.movePoll (h : Invariant platform w) {target source : Nat} (hsource : w.polls source = true)
    {polls : Nat → Bool} (hpolls : ∀ id, polls id = false → id ≠ target ∧ w.polls id = false) :
    Invariant platform { w with pointers := movePoll target source w.pointers, polls := polls } := by
  refine h.rearrange ((h.counted.move _ _).move _ _) (by simp [Lifetimes.movePoll]) ⟨rfl, rfl, rfl⟩
    (fun id hid => ?_) fun id other hother hvalid hengaged => ?_
  · obtain ⟨htarget, hunmade⟩ := hpolls id hid
    have hne : id ≠ source := by
      rintro rfl
      rw [hsource] at hunmade
      cases hunmade
    simpa [Lifetimes.movePoll, htarget, hne] using h.unmade id hunmade
  · obtain ⟨r, hr⟩ := h.rearms id other hother hvalid hengaged
    exact ⟨r, by simpa [Lifetimes.movePoll] using hr⟩

/-- A step on registries, those of polls among them. -/
theorem Invariant.setRegistry (h : Invariant platform w) {pointers : Heap Place Nat}
    (hcounted : Counted pointers) (hmade : pointers.made = w.pointers.made)
    (hsame : ∀ id, pointers.slots (.pollSelector id) = w.pointers.slots (.pollSelector id) ∧
      pointers.slots (.source id) = w.pointers.slots (.source id))
    (hunmade : ∀ id, w.polls id = false → pointers.slots (.pollRegistry id) = none)
    (registries : Nat → Bool) :
    Invariant platform { w with pointers := pointers, registries := registries } := by
  refine h.rearrange hcounted hmade ⟨rfl, rfl, rfl⟩ (fun id hid => ?_)
    fun id other hother hvalid hengaged => ?_
  · exact ⟨(hsame id).1.trans (h.unmade id hid).1, hunmade id hid⟩
  · obtain ⟨r, hr⟩ := h.rearms id other hother hvalid hengaged
    exact ⟨r, (hsame id).2.trans hr⟩

/-- A step on one source: the others keep their pointers. -/
theorem Invariant.setSource (h : Invariant platform w) {pointers : Heap Place Nat}
    (hcounted : Counted pointers) (hmade : pointers.made = w.pointers.made)
    (hpolls : ∀ id, pointers.slots (.pollSelector id) = w.pointers.slots (.pollSelector id) ∧
      pointers.slots (.pollRegistry id) = w.pointers.slots (.pollRegistry id))
    {sources : Nat → Option Source}
    (hrearms : ∀ id source, sources id = some source → source.valid = true → source.engaged = true →
      ∃ r, pointers.slots (.source id) = some r) :
    Invariant platform { w with pointers := pointers, sources := sources } :=
  h.rearrange hcounted hmade ⟨rfl, rfl, rfl⟩
    (fun id hid => ⟨(hpolls id).1.trans (h.unmade id hid).1, (hpolls id).2.trans (h.unmade id hid).2⟩) hrearms

/-- A source that is moved takes its copy of the registry along. -/
theorem Invariant.moveSource (h : Invariant platform w) {target source : Nat} (hother : target ≠ source)
    {other : Source} (hsource : w.sources source = some other) :
    Invariant platform { w with
      pointers := moveCopy target source other.engaged w.pointers
      sources := Function.update (Function.update w.sources target (some other)) source
        (some other.movedFrom) } := by
  have hcounted : Counted (moveCopy target source other.engaged w.pointers) := by
    unfold moveCopy
    split
    · exact h.counted.move _ _
    · exact h.counted.reset _
  refine h.setSource hcounted ?_ (fun id => ?_) fun id found hfound hvalid hengaged => ?_
  · unfold moveCopy
    split <;> simp
  · unfold moveCopy
    split <;> simp
  · rcases Maps.update_some_eq_some hfound with ⟨rfl, rfl⟩ | ⟨hne, hfound⟩
    · cases hvalid
    · rcases Maps.update_some_eq_some hfound with ⟨rfl, rfl⟩ | ⟨hne', hfound⟩
      · obtain ⟨r, hr⟩ := h.rearms source found hsource hvalid hengaged
        exact ⟨r, by simpa [moveCopy, hengaged, hne] using hr⟩
      · obtain ⟨r, hr⟩ := h.rearms id found hfound hvalid hengaged
        refine ⟨r, ?_⟩
        unfold moveCopy
        split <;> simpa [hne, hne'] using hr

theorem step_invariant (a : Action) {w' : World} (h : Invariant platform w)
    (hstep : step platform a w = some w') : Invariant platform w' := by
  cases a with
  | makesPoll id throwing answers =>
    simp only [step] at hstep
    split at hstep
    · cases hstep
    · rename_i hid
      rw [Bool.not_eq_true] at hid
      split at hstep
      · cases hstep
        exact h.makeSelector hid
      · rename_i e opened hconstruct
        cases hstep
        exact h.refused hconstruct hid throwing
  | movesPoll id source =>
    simp only [step, Bool.or_eq_true, Bool.not_eq_true'] at hstep
    split at hstep
    · cases hstep
    · rename_i hguard
      simp only [not_or, Bool.not_eq_true, Bool.not_eq_false] at hguard
      cases hstep
      refine h.movePoll hguard.2 fun other hother => ?_
      rcases eq_or_ne other id with rfl | hne
      · simp at hother
      · exact ⟨hne, by simpa [hne] using hother⟩
  | assignsPoll target source =>
    simp only [step, Bool.or_eq_true, Bool.not_eq_true'] at hstep
    split at hstep
    · cases hstep
    · rename_i hguard
      simp only [not_or, Bool.not_eq_false] at hguard
      split at hstep
      · cases hstep
        exact h
      · cases hstep
        refine h.movePoll hguard.2 fun other hother => ⟨?_, hother⟩
        rintro rfl
        rw [hguard.1] at hother
        cases hother
  | destroysPoll id =>
    simp only [step] at hstep
    split at hstep
    · cases hstep
      refine h.rearrange ((h.counted.reset _).reset _) (by simp) ⟨rfl, rfl, rfl⟩ (fun other hother => ?_)
        fun other source hsource hvalid hengaged => ?_
      · rcases eq_or_ne other id with rfl | hne
        · simp
        · simpa [hne] using h.unmade other (by simpa [hne] using hother)
      · obtain ⟨r, hr⟩ := h.rearms other source hsource hvalid hengaged
        exact ⟨r, by simpa using hr⟩
    · cases hstep
  | copiesRegistry id source =>
    simp only [step] at hstep
    split at hstep <;> cases hstep
    exact h.elsewhere (h.counted.copy _ _) (by simp) (by simp) _ _
  | movesRegistry id source =>
    simp only [step, Bool.or_eq_true, Bool.not_eq_true'] at hstep
    split at hstep
    · cases hstep
    · rename_i hguard
      simp only [not_or, Bool.not_eq_false] at hguard
      cases hstep
      refine h.setRegistry (h.counted.move _ _) (by simp) (by simp) (fun other hother => ?_) _
      simpa [pollRegistry_ne_place hother hguard.2] using (h.unmade other hother).2
  | assignsRegistry target source =>
    simp only [step, Bool.or_eq_true, Bool.not_eq_true'] at hstep
    split at hstep
    · cases hstep
    · rename_i hguard
      simp only [not_or, Bool.not_eq_false] at hguard
      cases hstep
      refine h.setRegistry (h.counted.copy _ _) (by simp) (by simp) (fun other hother => ?_) _
      simpa [pollRegistry_ne_place hother hguard.1] using (h.unmade other hother).2
  | moveAssignsRegistry target source =>
    simp only [step, Bool.or_eq_true, Bool.not_eq_true'] at hstep
    split at hstep
    · cases hstep
    · rename_i hguard
      simp only [not_or, Bool.not_eq_false] at hguard
      split at hstep <;> cases hstep
      · exact h
      · refine h.setRegistry (h.counted.move _ _) (by simp) (by simp) (fun other hother => ?_) _
        simpa [pollRegistry_ne_place hother hguard.1, pollRegistry_ne_place hother hguard.2] using
          (h.unmade other hother).2
  | destroysRegistry id =>
    simp only [step] at hstep
    split at hstep <;> cases hstep
    exact h.elsewhere (h.counted.reset _) (by simp) (by simp) _ _
  | makesWaker id registry throwing succeeds =>
    simp only [step] at hstep
    split at hstep
    · cases hstep
    · split at hstep <;> cases hstep
      · exact h.elsewhere (h.counted.copy _ _) (by simp) (by simp) _ _
      · exact h.elsewhere ((h.counted.copy _ _).reset _) (by simp) (by simp) _ _
  | movesWaker id source =>
    simp only [step] at hstep
    split at hstep <;> cases hstep
    exact h.elsewhere (h.counted.move _ _) (by simp) (by simp) _ _
  | assignsWaker target source =>
    simp only [step] at hstep
    split at hstep
    · cases hstep
    · split at hstep <;> cases hstep
      · exact h
      · exact h.elsewhere (h.counted.move _ _) (by simp) (by simp) _ _
  | destroysWaker id =>
    simp only [step] at hstep
    split at hstep <;> cases hstep
    exact h.elsewhere (h.counted.reset _) (by simp) (by simp) _ _
  | makesSource id valid =>
    simp only [step] at hstep
    split at hstep <;> cases hstep
    refine h.setSource h.counted rfl (by simp) fun other source hsource hvalid hengaged => ?_
    rcases Maps.update_some_eq_some hsource with ⟨_, rfl⟩ | ⟨_, hold⟩
    · cases hengaged
    · exact h.rearms other source hold hvalid hengaged
  | registers id registry =>
    simp only [step, Bool.or_eq_true, Option.isNone_iff_eq_none] at hstep
    split at hstep
    · cases hstep
    · split at hstep
      · cases hstep
      · rename_i hguard
        cases hstep
        refine h.setSource (h.counted.copy _ _) (by simp) (by simp) fun other source hsource hvalid hengaged => ?_
        rcases Maps.update_some_eq_some hsource with ⟨rfl, rfl⟩ | ⟨hne, hold⟩
        · simpa using Option.ne_none_iff_exists'.mp (not_or.mp hguard).2
        · obtain ⟨r, hr⟩ := h.rearms other source hold hvalid hengaged
          exact ⟨r, by simpa [hne] using hr⟩
  | deregisters id =>
    simp only [step] at hstep
    split at hstep
    · cases hstep
    · split at hstep <;> cases hstep
      refine h.setSource (h.counted.reset _) (by simp) (by simp) fun other source hsource hvalid hengaged => ?_
      rcases Maps.update_some_eq_some hsource with ⟨rfl, rfl⟩ | ⟨hne, hold⟩
      · cases hengaged
      · obtain ⟨r, hr⟩ := h.rearms other source hold hvalid hengaged
        exact ⟨r, by simpa [hne] using hr⟩
  | movesSource id source =>
    simp only [step] at hstep
    split at hstep
    · rename_i other hid hsource
      cases hstep
      refine h.moveSource ?_ hsource
      rintro rfl
      rw [hid] at hsource
      cases hsource
    · cases hstep
  | assignsSource target source =>
    simp only [step] at hstep
    split at hstep
    · rename_i old other htarget hsource
      split at hstep
      · cases hstep
        exact h
      · rename_i hne
        cases hstep
        exact h.moveSource hne hsource
    · cases hstep
  | destroysSource id =>
    simp only [step] at hstep
    split at hstep
    · cases hstep
    · cases hstep
      refine h.setSource (h.counted.reset _) (by simp) (by simp) fun other source hsource hvalid hengaged => ?_
      obtain ⟨hne, hold⟩ := Maps.update_none_eq_some hsource
      obtain ⟨r, hr⟩ := h.rearms other source hold hvalid hengaged
      exact ⟨r, by simpa [hne] using hr⟩

theorem initial_invariant (platform : Platform) : Invariant platform initial :=
  ⟨counted_empty, fun _ _ => ⟨rfl, rfl⟩, by simp [initial], by simp [initial], by simp [initial, Heap.empty],
    fun _ => rfl⟩

/-- In every run a selector lives exactly as long as something points to it, is destroyed
once, and nobody goes through a pointer to a selector that is gone. -/
theorem selectors_outlive_owners (platform : Platform) (h : Reachable (step platform) initial w) :
    Safe platform w :=
  (h.invariant (initial_invariant platform) fun a _ _ hu _ hstep => step_invariant a hu hstep).safe

/-- A registered stream is moved and outlives the poll; the second poll fails after its
kqueue was opened. -/
theorem selectors_outlive_owners_poll_gone :
    ∃ w, Reachable (step .kqueue) initial w ∧ w.pointers.slots (.source 1) = some 0 ∧
      w.pointers.slots (.source 0) = none ∧ w.leaked = [1] ∧ Safe .kqueue w := by
  have h : Reachable (step .kqueue) initial _ :=
    reachable_of_run [.makesPoll 0 false ⟨none, none⟩, .makesSource 0 true, .registers 0 (.ofPoll 0),
      .movesSource 1 0, .destroysPoll 0, .makesPoll 1 true
        ⟨none, some (.systemError (.ofErrno EINVAL) "fcntl(F_GETFD)")⟩] rfl
  exact ⟨_, h, rfl, rfl, rfl, selectors_outlive_owners .kqueue h⟩

end Lifetimes
