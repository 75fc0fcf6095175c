import Ioxx.Registry

/-!
# Descriptors that are closed and opened again

A `World` is a Linux process: its source objects, the kernel's open descriptors
and one selector. Closing a descriptor takes it out of the epoll set, but neither
destructor nor move assignment of a source knows the selector, so an entry of the
registration table can outlive its descriptor. `generation` counts how often a
number was handed out, and `registeredIn` records the generation in which it was
last registered.
-/

namespace Descriptors

open Core Detail Registry Runs Maps

structure World where
  selector : Selector Epoll.EpollSet
  sources : Nat → Option Source
  isOpen : NativeHandle → Bool
  generation : NativeHandle → Nat
  registeredIn : NativeHandle → Option Nat

def initial : World :=
  ⟨Epoll.initialSelector, fun _ => none, fun _ => false, fun _ => 0, fun _ => none⟩

/-- The Linux sources that close their descriptor. A `SourceFd` only borrows one. -/
def ownsDescriptor : SourceType → Bool
  | .sourceFd => false
  | .namedPipe => false
  | _ => true

inductive Action where
  | open (id : Nat) (type : SourceType) (fd : NativeHandle)
  | register (id : Nat) (token : Token) (interests : Interest) (refusal refusal' : Option Errno)
  | reregister (id : Nat) (token : Token) (interests : Interest) (refusal refusal' : Option Errno)
  | deregister (id : Nat) (refusal refusal' : Option Errno)
  | poll
  | destroy (id : Nat)
  | moveAssign (target id : Nat)
  deriving DecidableEq, Repr

/-- `close`; the kernel drops the descriptor from the epoll set. -/
def World.close (w : World) (fd : NativeHandle) : World :=
  { w with
    isOpen := Function.update w.isOpen fd false
    selector := { w.selector with backend := Function.update w.selector.backend fd none } }

/-- The descriptor of the destroyed object, unless it was moved away. -/
def World.release (w : World) (source : Source) : World :=
  if source.handle = -1 then w else w.close source.handle

/-- What is left of an object that was moved from. A `Signals` without its
implementation can only be destroyed. -/
def movedFrom (source : Source) : Option Source :=
  if source.type = .signals then none else some { source with handle := -1 }

/-- A source-level call that returned; a successful registration is recorded. -/
def World.called (w : World) (id : Nat) (registers : Bool)
    (outcome : Noexcept (Option ErrorCode × Source × Selector Epoll.EpollSet)) : Option World :=
  match outcome with
  | .terminated => none
  | .returned (ec, source, selector) => some { w with
      selector := selector
      sources := Function.update w.sources id (some source)
      registeredIn := if registers ∧ ec = none then
          Function.update w.registeredIn source.handle (some (w.generation source.handle))
        else w.registeredIn }

def step : Action → World → Option World
  | .open id type fd, w =>
    if w.sources id = none ∧ ownsDescriptor type ∧ 0 ≤ fd ∧ w.isOpen fd = false then some { w with
      sources := Function.update w.sources id (some { type := type, handle := fd })
      isOpen := Function.update w.isOpen fd true
      generation := Function.update w.generation fd (w.generation fd + 1) } else none
  | .register id token interests refusal refusal', w =>
    (w.sources id).bind fun source =>
      w.called id true (registerSource Epoll.backend refusal refusal' source token interests w.selector)
  | .reregister id token interests refusal refusal', w =>
    (w.sources id).bind fun source => w.called id false
      (Registry.reregister Epoll.backend refusal refusal' source token interests w.selector)
  | .deregister id refusal refusal', w =>
    (w.sources id).bind fun source => w.called id false
      (Registry.deregister Epoll.backend refusal refusal' source w.selector)
  | .poll, w => some w
  | .destroy id, w =>
    (w.sources id).bind fun source =>
      some { w.release source with sources := Function.update w.sources id none }
  | .moveAssign target id, w =>
    (w.sources target).bind fun overwritten => (w.sources id).bind fun source =>
      if target ≠ id ∧ overwritten.type = source.type then some { w.release overwritten with
        sources := Function.update (Function.update w.sources target (some source)) id
          (movedFrom source) } else none

/-- A source that is valid and was not registered since its descriptor was opened. -/
def Unregistered (w : World) (source : Source) : Prop :=
  source.handle ≠ -1 ∧ w.registeredIn source.handle ≠ some (w.generation source.handle)

/-- Such a source can be registered whenever the kernel accepts it. -/
def Registrable (w : World) : Prop :=
  ∀ id source token interests refusal refusal', w.sources id = some source → Unregistered w source →
    interests.empty = false →
    (Epoll.epollCtl refusal .add source.handle (Epoll.toEpollEvents interests)
      w.selector.backend).1 = none →
    ∃ source' selector, registerSource Epoll.backend refusal refusal' source token interests
      w.selector = .returned (none, source', selector)

/-- Every entry was made in the present life of its descriptor. -/
def EntriesCurrent (w : World) : Prop :=
  ∀ fd r, w.selector.registrations fd = some r → w.isOpen fd = true →
    w.registeredIn fd = some (w.generation fd)

/-- The table has no entry for the descriptor of a source. -/
def Deregistered (w : World) (id : Nat) : Prop :=
  ∀ source, w.sources id = some source → w.selector.registrations source.handle = none

/-- A source is destroyed or overwritten only when its descriptor is not in the
table, and none is a `Signals`, whose callback cannot be registered at all. -/
def dropsCleanly : Action → World → Prop
  | .open _ type _, _ => type ≠ .signals
  | .destroy id, w => Deregistered w id
  | .moveAssign target _, w => Deregistered w target
  | _, _ => True

/-- The invariant of such runs: entries belong to open descriptors and to their
present life, and every valid source owns an open descriptor by itself. -/
structure Tidy (w : World) : Prop where
  entries : ∀ fd r, w.selector.registrations fd = some r →
    w.isOpen fd = true ∧ w.registeredIn fd = some (w.generation fd)
  kinds : ∀ id source, w.sources id = some source → source.type ≠ .signals
  live : ∀ id source, w.sources id = some source → source.handle ≠ -1 → w.isOpen source.handle = true
  owned : ∀ id id' source source', w.sources id = some source → w.sources id' = some source' →
    source.handle = source'.handle → source.handle ≠ -1 → id = id'

theorem tidy_initial : Tidy initial :=
  ⟨by simp [initial, Epoll.initialSelector], by simp [initial], by simp [initial], by simp [initial]⟩

theorem Tidy.open {w : World} (h : Tidy w) (id : Nat) (type : SourceType) (fd : NativeHandle)
    (htype : type ≠ .signals) (hfree : w.isOpen fd = false) :
    Tidy { w with
      sources := Function.update w.sources id (some { type := type, handle := fd })
      isOpen := Function.update w.isOpen fd true
      generation := Function.update w.generation fd (w.generation fd + 1) } := by
  have hother : ∀ i source, w.sources i = some source → source.handle ≠ -1 → source.handle ≠ fd := by
    intro i source hs hv heq
    have hopen := h.live i source hs hv
    rw [heq, hfree] at hopen
    cases hopen
  refine ⟨?_, ?_, ?_, ?_⟩
  · intro fd' r hr
    obtain ⟨hopen, hreg⟩ := h.entries fd' r hr
    have hne : fd' ≠ fd := by
      intro heq
      rw [heq, hfree] at hopen
      cases hopen
    simp only [Function.update_of_ne hne]
    exact ⟨hopen, hreg⟩
  · intro i source hs
    rcases update_eq_some hs with ⟨_, hnew⟩ | ⟨_, hold⟩
    · cases hnew; exact htype
    · exact h.kinds i source hold
  · intro i source hs hv
    rcases update_eq_some hs with ⟨_, hnew⟩ | ⟨_, hold⟩
    · cases hnew; exact Function.update_self _ _ _
    · change Function.update w.isOpen fd true source.handle = true
      rw [Function.update_of_ne (hother i source hold hv)]
      exact h.live i source hold hv
  · intro i i' source source' hs hs' heq hv
    rcases update_eq_some hs with ⟨hi, hnew⟩ | ⟨_, hold⟩
    · rcases update_eq_some hs' with ⟨hi', _⟩ | ⟨_, hold'⟩
      · exact hi.trans hi'.symm
      · cases hnew; exact absurd heq.symm (hother i' source' hold' (heq ▸ hv))
    · rcases update_eq_some hs' with ⟨_, hnew'⟩ | ⟨_, hold'⟩
      · cases hnew'; exact absurd heq (hother i source hold hv)
      · exact h.owned i i' source source' hold hold' heq hv

/-- A source-level call keeps its source's type and handle and adds no entry,
except that a successful registration adds the source's own. -/
theorem Tidy.called {w v : World} (h : Tidy w) {id : Nat} {source source' : Source}
    {registers : Bool} {ec : Option ErrorCode} {selector : Selector Epoll.EpollSet}
    (hs : w.sources id = some source) (htype : source'.type = source.type)
    (hhandle : source'.handle = source.handle)
    (hentries : ∀ fd r, selector.registrations fd = some r →
      (∃ r', w.selector.registrations fd = some r') ∨
      (fd = source.handle ∧ source.handle ≠ -1 ∧ registers = true ∧ ec = none))
    (hcall : w.called id registers (.returned (ec, source', selector)) = some v) : Tidy v := by
  cases hcall
  have hsource : ∀ i s', Function.update w.sources id (some source') i = some s' →
      ∃ s, w.sources i = some s ∧ s'.type = s.type ∧ s'.handle = s.handle := by
    intro i s' hi
    rcases update_eq_some hi with ⟨he, hnew⟩ | ⟨_, hold⟩
    · cases hnew; exact ⟨source, he ▸ hs, htype, hhandle⟩
    · exact ⟨s', hold, rfl, rfl⟩
  refine ⟨?_, ?_, ?_, ?_⟩
  · intro fd r hr
    have hopen : w.isOpen fd = true := by
      rcases hentries fd r hr with ⟨r', hr'⟩ | ⟨rfl, hv, _⟩
      · exact (h.entries fd r' hr').1
      · exact h.live id source hs hv
    refine ⟨hopen, ?_⟩
    rw [hhandle]
    by_cases hfd : fd = source.handle
    · subst hfd
      split
      · exact Function.update_self _ _ _
      · rename_i hn
        rcases hentries _ r hr with ⟨r', hr'⟩ | ⟨_, _, hreg, hec⟩
        · exact (h.entries _ r' hr').2
        · exact absurd ⟨hreg, hec⟩ hn
    · have hold : ∃ r', w.selector.registrations fd = some r' := by
        rcases hentries fd r hr with hr' | ⟨heq, _⟩
        · exact hr'
        · exact absurd heq hfd
      obtain ⟨r', hr'⟩ := hold
      split
      · exact (Function.update_of_ne hfd _ _).trans (h.entries fd r' hr').2
      · exact (h.entries fd r' hr').2
  · intro i s' hi
    obtain ⟨s, hold, ht, _⟩ := hsource i s' hi
    rw [ht]
    exact h.kinds i s hold
  · intro i s' hi hv
    obtain ⟨s, hold, _, hh⟩ := hsource i s' hi
    rw [hh] at hv ⊢
    exact h.live i s hold hv
  · intro i i' s' s'' hi hi' heq hv
    obtain ⟨s, hold, _, hh⟩ := hsource i s' hi
    obtain ⟨t, hold', _, hh'⟩ := hsource i' s'' hi'
    rw [hh, hh'] at heq
    exact h.owned i i' s t hold hold' heq (hh ▸ hv)

/-- Closing a descriptor that is not in the table, with the remaining valid
sources taken from the old ones, each at most once. -/
theorem Tidy.drop {w : World} (h : Tidy w) {id : Nat} {source : Source}
    (hs : w.sources id = some source) (hgone : w.selector.registrations source.handle = none)
    (sources : Nat → Option Source) (origin : Nat → Nat)
    (hkinds : ∀ i s, sources i = some s → s.type ≠ .signals)
    (horigin : ∀ i s, sources i = some s → s.handle ≠ -1 →
      w.sources (origin i) = some s ∧ origin i ≠ id)
    (honce : ∀ i j s t, sources i = some s → sources j = some t → s.handle ≠ -1 → t.handle ≠ -1 →
      origin i = origin j → i = j) :
    Tidy { w.release source with sources := sources } := by
  have hframe : ∀ fd, fd ≠ source.handle ∨ source.handle = -1 →
      (w.release source).isOpen fd = w.isOpen fd := by
    intro fd hfd
    unfold World.release
    split
    · rfl
    · rename_i hv
      rcases hfd with hne | heq
      · exact Function.update_of_ne hne _ _
      · exact absurd heq hv
  have htable : (w.release source).selector.registrations = w.selector.registrations ∧
      (w.release source).registeredIn = w.registeredIn ∧
      (w.release source).generation = w.generation := by
    unfold World.release
    split <;> exact ⟨rfl, rfl, rfl⟩
  refine ⟨?_, hkinds, ?_, ?_⟩
  · intro fd r hr
    change (w.release source).selector.registrations fd = some r at hr
    rw [htable.1] at hr
    have hne : fd ≠ source.handle := by
      intro heq
      rw [heq, hgone] at hr
      cases hr
    change (w.release source).isOpen fd = true ∧
      (w.release source).registeredIn fd = some ((w.release source).generation fd)
    rw [hframe fd (.inl hne), htable.2.1, htable.2.2]
    exact h.entries fd r hr
  · intro i s hi hv
    obtain ⟨hold, hne⟩ := horigin i s hi hv
    change (w.release source).isOpen s.handle = true
    rw [hframe]
    · exact h.live _ s hold hv
    · by_cases heq : s.handle = source.handle
      · exact absurd (h.owned _ id s source hold hs heq hv) hne
      · exact .inl heq
  · intro i j s t hi hj heq hv
    have hv' : t.handle ≠ -1 := heq ▸ hv
    have hold := (horigin i s hi hv).1
    have hold' := (horigin j t hj hv').1
    exact honce i j s t hi hj hv hv' (h.owned _ _ s t hold hold' heq hv)

theorem register_tidy {w v : World} (h : Tidy w) {id : Nat} {source : Source}
    (hs : w.sources id = some source) (token : Token) (interests : Interest)
    (refusal refusal' : Option Errno)
    (hcall : w.called id true (registerSource Epoll.backend refusal refusal' source token interests
      w.selector) = some v) : Tidy v := by
  rcases registerSource_cases Epoll.backend refusal refusal' source token interests w.selector
    (h.kinds id source hs) with ⟨_, code, backend, he⟩ | ⟨haccepts, afdState, backend, _, he⟩
  · rw [he] at hcall
    refine h.called hs rfl rfl ?_ hcall
    intro fd r hr
    exact .inl ⟨r, hr⟩
  · rw [he] at hcall
    refine h.called hs (by simp) (by simp) ?_ hcall
    intro fd r hr
    rcases update_eq_some hr with ⟨hfd, _⟩ | ⟨_, hold⟩
    · exact .inr ⟨hfd, validate_valid haccepts.1, rfl, rfl⟩
    · exact .inl ⟨r, hold⟩

theorem reregister_tidy {w v : World} (h : Tidy w) {id : Nat} {source : Source}
    (hs : w.sources id = some source) (token : Token) (interests : Interest)
    (refusal refusal' : Option Errno)
    (hcall : w.called id false (Registry.reregister Epoll.backend refusal refusal' source token
      interests w.selector) = some v) : Tidy v := by
  have hsame : ∀ {old updated : Registration}, w.selector.registrations source.handle = some old →
      ∀ fd r, Function.update w.selector.registrations source.handle (some updated) fd = some r →
        ∃ r', w.selector.registrations fd = some r' := by
    intro old updated hold fd r hr
    rcases update_eq_some hr with ⟨hfd, _⟩ | ⟨_, hkept⟩
    · exact ⟨old, hfd ▸ hold⟩
    · exact ⟨r, hkept⟩
  rcases reregister_cases Epoll.backend refusal refusal' source token interests w.selector
    (h.kinds id source hs) with ⟨code, he⟩ |
      ⟨_, old, _, backend, hold, _, ⟨e, _, he⟩ | ⟨_, he⟩⟩
  · rw [he] at hcall
    exact h.called hs rfl rfl (fun fd r hr => .inl ⟨r, hr⟩) hcall
  · rw [he] at hcall
    exact h.called hs rfl rfl (fun fd r hr => .inl (hsame hold fd r hr)) hcall
  · rw [he] at hcall
    exact h.called hs (by simp) (by simp) (fun fd r hr => .inl (hsame hold fd r hr)) hcall

theorem deregister_tidy {w v : World} (h : Tidy w) {id : Nat} {source : Source}
    (hs : w.sources id = some source) (refusal refusal' : Option Errno)
    (hcall : w.called id false (Registry.deregister Epoll.backend refusal refusal' source
      w.selector) = some v) : Tidy v := by
  rcases deregister_cases Epoll.backend refusal refusal' source w.selector
    (h.kinds id source hs) with ⟨_, code, he⟩ | ⟨old, t, _, ht, he⟩
  · rw [he] at hcall
    exact h.called hs rfl rfl (fun fd r hr => .inl ⟨r, hr⟩) hcall
  · rw [he] at hcall
    refine h.called hs (by simp) (by simp) ?_ hcall
    intro fd r hr
    rw [ht, erase] at hr
    rcases update_eq_some hr with ⟨_, hgone⟩ | ⟨_, hold⟩
    · cases hgone
    · exact .inl ⟨r, hold⟩

theorem destroy_tidy {w : World} (h : Tidy w) {id : Nat} {source : Source}
    (hs : w.sources id = some source) (hgone : w.selector.registrations source.handle = none) :
    Tidy { w.release source with sources := Function.update w.sources id none } := by
  have hkept : ∀ i s, Function.update w.sources id none i = some s → w.sources i = some s ∧ i ≠ id := by
    intro i s hi
    rcases update_eq_some hi with ⟨_, hgone⟩ | ⟨he, hold⟩
    · cases hgone
    · exact ⟨hold, he⟩
  refine h.drop hs hgone _ (fun i => i) ?_ ?_ ?_
  · intro i s hi; exact h.kinds i s (hkept i s hi).1
  · intro i s hi _; exact hkept i s hi
  · intro i j _ _ _ _ _ _ heq; exact heq

theorem moveAssign_tidy {w : World} (h : Tidy w) {target id : Nat} {overwritten source : Source}
    (ht : w.sources target = some overwritten) (hs : w.sources id = some source) (hne : target ≠ id)
    (hgone : w.selector.registrations overwritten.handle = none) :
    Tidy { w.release overwritten with
      sources := Function.update (Function.update w.sources target (some source)) id
        (movedFrom source) } := by
  have hmoved : movedFrom source = some { source with handle := -1 } :=
    if_neg (h.kinds id source hs)
  -- a valid source of the new world: the moved one in its new place, or one left alone
  have hcases : ∀ i s, Function.update (Function.update w.sources target (some source)) id
      (movedFrom source) i = some s →
      (i = id ∧ s = { source with handle := -1 }) ∨ (i = target ∧ s = source) ∨
      (i ≠ id ∧ i ≠ target ∧ w.sources i = some s) := by
    intro i s hi
    rcases update_eq_some hi with ⟨he, hnew⟩ | ⟨he, hi'⟩
    · rw [hmoved] at hnew
      cases hnew
      exact .inl ⟨he, rfl⟩
    · rcases update_eq_some hi' with ⟨he', hnew⟩ | ⟨he', hold⟩
      · cases hnew; exact .inr (.inl ⟨he', rfl⟩)
      · exact .inr (.inr ⟨he, he', hold⟩)
  refine h.drop ht hgone _ (fun i => if i = target then id else i) ?_ ?_ ?_
  · intro i s hi
    rcases hcases i s hi with ⟨_, rfl⟩ | ⟨_, rfl⟩ | ⟨_, _, hold⟩
    · exact h.kinds id source hs
    · exact h.kinds id _ hs
    · exact h.kinds i s hold
  · intro i s hi hv
    rcases hcases i s hi with ⟨_, rfl⟩ | ⟨rfl, rfl⟩ | ⟨_, hnt, hold⟩
    · exact absurd rfl hv
    · simp only [if_true]; exact ⟨hs, fun he => hne he.symm⟩
    · simp only [if_neg hnt]; exact ⟨hold, hnt⟩
  · intro i j s t hi hj hv hv' heq
    rcases hcases i s hi with ⟨_, rfl⟩ | ⟨rfl, rfl⟩ | ⟨hni, hnt, _⟩
    · exact absurd rfl hv
    · rcases hcases j t hj with ⟨_, rfl⟩ | ⟨rfl, _⟩ | ⟨hnj, hntj, _⟩
      · exact absurd rfl hv'
      · rfl
      · simp only [if_true, if_neg hntj] at heq; exact absurd heq.symm hnj
    · rcases hcases j t hj with ⟨_, rfl⟩ | ⟨rfl, _⟩ | ⟨hnj, hntj, _⟩
      · exact absurd rfl hv'
      · simp only [if_true, if_neg hnt] at heq; exact absurd heq hni
      · simpa only [if_neg hnt, if_neg hntj] using heq

theorem step_tidy (a : Action) {w v : World} (h : Tidy w) (hok : dropsCleanly a w)
    (hstep : step a w = some v) : Tidy v := by
  cases a with
  | «open» id type fd =>
    simp only [step] at hstep
    split at hstep
    · rename_i hen
      cases hstep
      exact h.open id type fd hok hen.2.2.2
    · cases hstep
  | register id token interests refusal refusal' =>
    obtain ⟨source, hs, hcall⟩ := Option.bind_eq_some_iff.mp hstep
    exact register_tidy h hs token interests refusal refusal' hcall
  | reregister id token interests refusal refusal' =>
    obtain ⟨source, hs, hcall⟩ := Option.bind_eq_some_iff.mp hstep
    exact reregister_tidy h hs token interests refusal refusal' hcall
  | deregister id refusal refusal' =>
    obtain ⟨source, hs, hcall⟩ := Option.bind_eq_some_iff.mp hstep
    exact deregister_tidy h hs refusal refusal' hcall
  | poll => cases hstep; exact h
  | destroy id =>
    obtain ⟨source, hs, hw⟩ := Option.bind_eq_some_iff.mp hstep
    cases hw
    exact destroy_tidy h hs (hok source hs)
  | moveAssign target id =>
    obtain ⟨overwritten, ht, hrest⟩ := Option.bind_eq_some_iff.mp hstep
    obtain ⟨source, hs, hw⟩ := Option.bind_eq_some_iff.mp hrest
    split at hw
    · rename_i hen
      cases hw
      exact moveAssign_tidy h ht hs hen.1 (hok overwritten ht)
    · cases hw

theorem Tidy.registrable {w : World} (h : Tidy w) : Registrable w := by
  intro id source token interests refusal refusal' hs hfresh hnonempty hadd
  have hfree : w.selector.registrations source.handle = none := by
    cases hr : w.selector.registrations source.handle with
    | none => rfl
    | some r => exact absurd (h.entries _ r hr).2 hfresh.2
  have hvalid : validate .linux source.handle interests = .ok () := validate_ok hfresh.1 hnonempty
  rcases registerSource_cases Epoll.backend refusal refusal' source token interests w.selector
    (h.kinds id source hs) with ⟨hrefused, _⟩ | ⟨_, afdState, backend, _, he⟩
  · refine absurd ⟨hvalid, hfree, none, ?_⟩ hrefused
    cases hc : Epoll.epollCtl refusal .add source.handle (Epoll.toEpollEvents interests)
        w.selector.backend with
    | mk result set =>
      rw [hc] at hadd
      cases hadd
      simp only [Epoll.backend, Epoll.addToBackend, hc]
  · exact ⟨_, _, he⟩

/-- As long as every source is deregistered before it is destroyed or overwritten,
a descriptor number can be reused freely. -/
theorem reused_descriptor_registrable (w : World) (h : Reach step dropsCleanly initial w) :
    Registrable w ∧ EntriesCurrent w := by
  have hw : Tidy w :=
    h.invariant tidy_initial fun a _ _ hu hok hstep => step_tidy a hu hok hstep
  exact ⟨hw.registrable, fun fd r hr _ => (hw.entries fd r hr).2⟩

theorem reused_descriptor_registrable_stream :
    ∃ w, Reach step dropsCleanly initial w ∧ w.generation 3 = 2 ∧ Registrable w := by
  have h₁ : Reach step dropsCleanly initial _ :=
    .tail (.open 0 .tcpStream 3) .refl (by simp [dropsCleanly]) rfl
  have h₂ : Reach step dropsCleanly initial _ :=
    .tail (.register 0 ⟨1⟩ Interest.READABLE none none) h₁ trivial rfl
  have h₃ : Reach step dropsCleanly initial _ := .tail (.deregister 0 none none) h₂ trivial rfl
  have h₄ : Reach step dropsCleanly initial _ :=
    .tail (.destroy 0) h₃ (by intro source hs; cases hs; rfl) rfl
  have h₅ : Reach step dropsCleanly initial _ :=
    .tail (.open 1 .tcpStream 3) h₄ (by simp [dropsCleanly]) rfl
  exact ⟨_, h₅, rfl, (reused_descriptor_registrable _ h₅).1⟩

/-- A registered stream is dropped and its number reused: the stale entry blocks
the registration of the new stream. -/
theorem stale_entry_blocks :
    ¬ ∀ w, Reachable step initial w → Registrable w ∧ EntriesCurrent w := by
  intro hall
  obtain ⟨hregistrable, _⟩ := hall _ (reachable_of_run [.open 0 .tcpStream 3,
    .register 0 ⟨1⟩ Interest.READABLE none none, .destroy 0, .open 1 .tcpStream 3] rfl)
  obtain ⟨source', selector, hreturned⟩ := hregistrable 1 { type := .tcpStream, handle := 3 } ⟨2⟩
    Interest.READABLE none none rfl ⟨by decide, by decide⟩ rfl rfl
  cases hreturned

end Descriptors
