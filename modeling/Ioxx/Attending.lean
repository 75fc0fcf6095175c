import Ioxx.EdgeTriggered
import Ioxx.Reports

/-!
# Nothing ready is forgotten

A program that goes on with a source until a call would block: from an event on it tries to
read, write or accept, as often as it likes, and stops only at a would-block error. What can
be taken then belongs to a source that it still attends to, or the next poll reports it, in
every order of the calls, the registrations, the polls and what the kernel does.
-/

namespace Attending

open Core Detail Registry Runs Select EdgeTriggered
open Epoll (epollIn epollOut epollPri toEpollEvents)

/-- The flag by which the kernel shows a direction. -/
def bit : Direction → BitVec 32
  | .readable => epollIn
  | .writable => epollOut
  | .priority => epollPri

/-- The direction that an I/O function needs. -/
def direction {A : Type} : Net.IoCall A → Direction
  | .write _ => .writable
  | .writeVectored _ => .writable
  | .send _ => .writable
  | .sendTo _ => .writable
  | .sendVectoredTo _ => .writable
  | _ => .readable

/-- How many bytes, datagrams or connections can be taken in each direction, or bytes be put,
and whether the program still attends to it. Room to put bytes is what the kernel shows as
`EPOLLOUT`; below that a send can still succeed. -/
structure State where
  world : Net.World Kernel
  amount : NativeHandle → Direction → Nat
  attending : NativeHandle → Direction → Bool

def State.kernel (s : State) : Kernel := s.world.selector.backend

def State.withKernel (s : State) (k : Kernel) : State :=
  { s with world := { s.world with selector := { s.world.selector with backend := k } } }

/-- `amount`, or whatever is kept for each direction, after a change of one. -/
def put {α : Type} (values : NativeHandle → Direction → α) (handle : NativeHandle) (d : Direction)
    (value : α) : NativeHandle → Direction → α :=
  Function.update values handle (Function.update (values handle) d value)

inductive Action (A : Type) where
  | calls (call : Net.Action (Option Errno) A)
  | io (id : Nat) (call : Net.IoCall A) (refusal : Option Errno) (taken : Nat) (ready : Bool)
  | comes (handle : NativeHandle) (d : Direction) (n : Nat)
  | changes (handle : NativeHandle) (readiness : BitVec 32)
  | polls (handles : List NativeHandle)

/-- New readiness of a descriptor in the set queues it. -/
def Kernel.become (k : Kernel) (handle : NativeHandle) (readiness : BitVec 32) : Kernel :=
  { k with
    readiness := Function.update k.readiness handle readiness
    queued := Function.update k.queued handle (k.queued handle || (k.set handle).isSome) }

/-- A direction that a call has exhausted is not ready any more; nothing is queued for it. -/
def Kernel.exhaust (k : Kernel) (handle : NativeHandle) (d : Direction) : Kernel :=
  { k with readiness := Function.update k.readiness handle (k.readiness handle &&& ~~~bit d) }

/-- What the kernel may answer: a call that succeeds takes no more than there is, and one
would block only while its direction is not ready. A direction may stay ready, as at the end
of a stream. -/
def mayAnswer {A : Type} (call : Net.IoCall A) (readiness : BitVec 32) (amount taken : Nat) (ready : Bool) :
    Bool :=
  match call.error with
  | none => decide (taken ≤ amount) && (ready || decide (taken = amount))
  | some ec => decide (taken = 0) && ready &&
      (!Net.isWouldBlockError .linux ec || decide (readiness &&& bit (direction call) = 0))

/-- The call would block. -/
def blocked {A : Type} (platform : Platform) (call : Net.IoCall A) : Bool :=
  call.error.any (Net.isWouldBlockError platform)

variable {A : Type} [Inhabited A]

/-- Only a call that would block ends the attention to its direction. -/
def step : Action A → State → Option State
  | .calls (.io ..), _ => none
  | .calls call, s => (Net.step backend call s.world).map fun world => { s with world := world }
  | .io id call refusal taken ready, s =>
    let handle := (s.world.sources id).handle
    let d := direction call
    if handle = invalidNativeHandle .linux then
      (Net.step backend (.io id call refusal) s.world).map fun world => { s with world := world }
    else if mayAnswer call (s.kernel.readiness handle) (s.amount handle d) taken ready then
      (Net.step backend (.io id call refusal) s.world).map fun world =>
        let s : State := { s with
          world := world
          amount := put s.amount handle d (s.amount handle d - taken)
          attending := if blocked .linux call then put s.attending handle d false else s.attending }
        if ready then s else s.withKernel (Kernel.exhaust s.kernel handle d)
    else none
  | .comes handle d n, s => some
      { s.withKernel (Kernel.become s.kernel handle (s.kernel.readiness handle ||| bit d)) with
        amount := put s.amount handle d (s.amount handle d + n) }
  | .changes handle readiness, s =>
    if ∀ d ∈ [Direction.readable, .writable, .priority],
        s.amount handle d = 0 ∨ Masks.Sub (bit d) readiness then
      some (s.withKernel (Kernel.become s.kernel handle readiness))
    else none
  | .polls handles, s =>
    if ∀ handle ∈ handles, s.kernel.queued handle = true then
      some { s.withKernel { s.kernel with
          queued := fun handle => s.kernel.queued handle && decide (handle ∉ handles) } with
        attending := fun handle d => s.attending handle d || reportsTo s.world.selector handles handle d }
    else none

/-- The sources exist, nothing is registered, and nothing has come. -/
def initial (sources : Nat → Source) : State :=
  ⟨⟨⟨fun _ => none, -1, false, ⟨fun _ => none, fun _ => 0, fun _ => false⟩⟩, sources⟩, fun _ _ => 0,
    fun _ _ => false⟩

/-- A descriptor is registered, and the kernel watches it in the direction. -/
def Watched (s : Selector Kernel) (handle : NativeHandle) (d : Direction) : Prop :=
  (s.registrations handle).isSome = true ∧ ∃ mask, s.backend.set handle = some mask ∧ Masks.Sub (bit d) mask

structure Invariant (s : State) : Prop where
  kinds : Kinds s.world
  keyed : Keyed s.world.selector.registrations
  ready : ∀ handle d, 0 < s.amount handle d → Masks.Sub (bit d) (s.kernel.readiness handle)
  attended : ∀ handle d, Watched s.world.selector handle d → 0 < s.amount handle d →
    s.attending handle d = true ∨ s.kernel.queued handle = true

/-! Flags. -/

/-- Flags that contain a direction's flag meet every mask that contains it. -/
theorem meets_of_sub {flags mask : BitVec 32} {d : Direction} (hflags : Masks.Sub (bit d) flags)
    (hmask : Masks.Sub (bit d) mask) : flags &&& mask ≠ 0#32 := by
  intro hzero
  have hboth := hflags.and hmask
  rw [hzero] at hboth
  have hbit := hboth.eq_zero
  revert hbit
  cases d <;> decide

theorem shows_of_sub {flags : BitVec 32} {d : Direction} (h : Masks.Sub (bit d) flags) :
    shows flags d = true := by
  obtain ⟨hreadable, hwritable, hpriority, _⟩ := Reports.fromEpollEvents_bits flags
  have hmask : Masks.Sub (bit .readable) (epollIn ||| Epoll.epollRdHup ||| Epoll.epollHup) := by decide
  cases d with
  | readable => exact hreadable.trans (decide_eq_true (meets_of_sub h hmask))
  | writable => exact hwritable.trans (decide_eq_true (meets_of_sub h (Masks.Sub.refl _)))
  | priority => exact hpriority.trans (decide_eq_true (meets_of_sub h (Masks.Sub.refl _)))

/-- What is ready and watched is among the flags of a wait. -/
theorem flags_of_watched {s : Selector Kernel} {handle : NativeHandle} {d : Direction}
    (hwatched : Watched s handle d) (hready : Masks.Sub (bit d) (s.backend.readiness handle)) :
    Masks.Sub (bit d) (s.backend.flags handle) := by
  obtain ⟨_, mask, hset, hmask⟩ := hwatched
  rw [Kernel.flags, hset]
  exact hready.and hmask

/-! What the calls do to the kernel. -/

/-- After a call a descriptor is not registered, or as before, or queued if it is ready. -/
inductive Around (handle : NativeHandle) (s s' : Selector Kernel) : Prop where
  | gone (h : s'.registrations handle = none)
  | same (registered : (s'.registrations handle).isSome = true → (s.registrations handle).isSome = true)
      (set : s'.backend.set handle = s.backend.set handle)
      (queued : s'.backend.queued handle = s.backend.queued handle)
  | examined (h : s'.backend.queued handle =
      (s.backend.queued handle || s'.backend.flags handle != 0#32))

theorem Around.refl (handle : NativeHandle) (s : Selector Kernel) : Around handle s s := .same id rfl rfl

theorem Around.of_masked {handle other : NativeHandle} {s s' : Selector Kernel} {interests : Interest}
    (hbackend : s'.backend = s.backend.masked handle interests)
    (htable : other ≠ handle → s'.registrations other = s.registrations other) : Around other s s' := by
  by_cases hother : other = handle
  · subst hother
    refine .examined ?_
    rw [hbackend]
    exact masked_queued _ _ _
  · refine .same (by rw [htable hother]; exact id) ?_ ?_
    · rw [hbackend]
      exact Function.update_of_ne hother _ _
    · rw [hbackend]
      exact Function.update_of_ne hother _ _

theorem Around.of_unchanged {handle : NativeHandle} {s s' : Selector Kernel} (hbackend : s'.backend = s.backend)
    (htable : (s'.registrations handle).isSome = true → (s.registrations handle).isSome = true) :
    Around handle s s' :=
  .same htable (by rw [hbackend]) (by rw [hbackend])

/-- A handle-level call and the readiness: nothing, and around every descriptor one of three. -/
theorem perform_around (call : HandleCall) (refusal : Option Errno) (s : Selector Kernel)
    (hkeyed : Keyed s.registrations) :
    (call.perform backend refusal s).2.backend.readiness = s.backend.readiness ∧
      ∀ handle, Around handle s (call.perform backend refusal s).2 := by
  cases call with
  | register handle kind token interests =>
    simp only [HandleCall.perform, registerHandle]
    rcases add_cases backend refusal handle kind token interests false s with ⟨e, _, he⟩ |
      ⟨_, hnone, ⟨e, k, hk, he⟩ | ⟨afdState, k, hk, he⟩⟩
    · rw [he]
      exact ⟨rfl, fun other => .refl other s⟩
    · rw [he]
      rcases addToBackend_cases refusal handle interests s.backend with ⟨e', hb⟩ | hb
      · obtain rfl : k = s.backend := congrArg Prod.snd (hk.symm.trans hb)
        exact ⟨rfl, fun other => .refl other s⟩
      · cases hk.symm.trans hb
    · rw [he]
      rcases addToBackend_cases refusal handle interests s.backend with ⟨e', hb⟩ | hb
      · cases hk.symm.trans hb
      · obtain rfl : k = s.backend.masked handle interests := congrArg Prod.snd (hk.symm.trans hb)
        exact ⟨rfl, fun other => .of_masked rfl fun hother => Function.update_of_ne hother _ _⟩
  | reregister handle kind token interests =>
    simp only [HandleCall.perform, reregisterHandle]
    rcases update_cases backend refusal handle kind token interests s with ⟨e, _, he⟩ |
      ⟨_, r, result, k, hr, hk, he⟩
    · rw [he]
      exact ⟨rfl, fun other => .refl other s⟩
    · rcases updateBackend_cases refusal handle interests s.backend with ⟨e', hb⟩ | hb
      · obtain ⟨rfl, rfl⟩ := Prod.mk.inj (hk.symm.trans hb)
        rw [he]
        refine ⟨rfl, fun other => .of_unchanged rfl fun hsome => ?_⟩
        by_cases hother : other = handle
        · rw [hother, hr]
          rfl
        · exact (congrArg Option.isSome (Function.update_of_ne hother _ _)).symm.trans hsome
      · obtain ⟨rfl, rfl⟩ := Prod.mk.inj (hk.symm.trans hb)
        rw [he]
        exact ⟨rfl, fun other => .of_masked rfl fun hother => Function.update_of_ne hother _ _⟩
  | deregister handle =>
    simp only [HandleCall.perform, deregisterHandle]
    rcases remove_cases backend refusal handle s with ⟨e, _, he⟩ | ⟨r, hr, he⟩
    · rw [he]
      exact ⟨rfl, fun other => .refl other s⟩
    · rw [he]
      have hown : r.handle = handle := hkeyed handle r hr
      refine ⟨rfl, fun other => ?_⟩
      by_cases hother : other = handle
      · subst hother
        exact .gone (by simp only [caught, erase, Function.update_self])
      · have hapart : other ≠ r.handle := hown ▸ hother
        refine .same ?_ (Epoll.epollCtl_other _ _ _ _ _ hapart) (Function.update_of_ne hapart _ _)
        exact fun hsome => (congrArg Option.isSome (Function.update_of_ne hother _ _)).symm.trans hsome

/-- A source-level or handle-level call of the program. -/
theorem call_around {call : Net.Action (Option Errno) A} {w v : Net.World Kernel} (hkinds : Kinds w)
    (hkeyed : Keyed w.selector.registrations) (hstep : Net.step backend call w = some v)
    {handleCall : HandleCall} {refusal : Option Errno}
    (hcall : EdgeTriggered.handleCall w call = some (handleCall, refusal)) :
    Kinds v ∧ Keyed v.selector.registrations ∧
      v.selector.backend.readiness = w.selector.backend.readiness ∧
      ∀ handle, Around handle w.selector v.selector := by
  obtain ⟨hselector, hkinds'⟩ := step_handleCall hkinds hstep hcall
  rw [hselector]
  exact ⟨hkinds', handleCall.perform_keyed backend refusal hkeyed,
    perform_around handleCall refusal w.selector hkeyed⟩

/-- An I/O call, with the re-arming if there is one. -/
theorem io_around {id : Nat} {call : Net.IoCall A} {refusal : Option Errno} {w v : Net.World Kernel}
    (hkinds : Kinds w) (hkeyed : Keyed w.selector.registrations)
    (hstep : Net.step backend (.io id call refusal) w = some v) :
    Kinds v ∧ Keyed v.selector.registrations ∧
      v.selector.backend.readiness = w.selector.backend.readiness ∧
      ∀ handle, Around handle w.selector v.selector := by
  obtain ⟨hrearms, hquiet⟩ := step_io hstep
  by_cases hrearm : Rearms w id call
  · obtain ⟨r, hr, rfl⟩ := hrearms hrearm
    refine ⟨hkinds, hkeyed.update _ _ fun r' hr' => ?_, rfl,
      fun other => .of_masked rfl fun hother => Function.update_of_ne hother _ _⟩
    cases hr'
    exact hkeyed _ r hr
  · cases hquiet hrearm
    exact ⟨hkinds, hkeyed, rfl, fun other => .refl other _⟩

/-! The invariant. -/

/-- What is watched after a call, and ready, was attended to or is queued. -/
theorem Invariant.around {s : State} (h : Invariant s) {world : Net.World Kernel}
    (hworld : Kinds world ∧ Keyed world.selector.registrations ∧
      world.selector.backend.readiness = s.kernel.readiness ∧
      ∀ handle, Around handle s.world.selector world.selector) : Invariant { s with world := world } := by
  obtain ⟨hkinds, hkeyed, hreadiness, haround⟩ := hworld
  have hready : ∀ handle d, 0 < s.amount handle d →
      Masks.Sub (bit d) (world.selector.backend.readiness handle) := by
    intro handle d hamount
    rw [hreadiness]
    exact h.ready handle d hamount
  refine ⟨hkinds, hkeyed, hready, fun handle d hwatched hamount => ?_⟩
  cases haround handle with
  | gone hnone =>
    have hsome := hwatched.1
    rw [hnone] at hsome
    cases hsome
  | same hregistered hset hqueued =>
    obtain ⟨hsome, mask, hmask, hsub⟩ := hwatched
    have hbefore : Watched s.world.selector handle d := ⟨hregistered hsome, mask, hset.symm.trans hmask, hsub⟩
    exact (h.attended handle d hbefore hamount).imp_right hqueued.trans
  | examined hqueued =>
    have hflags := shows_of_sub (flags_of_watched hwatched (hready handle d hamount))
    refine .inr (hqueued.trans ?_)
    have hne : world.selector.backend.flags handle ≠ 0#32 := by
      intro hzero
      rw [hzero, shows_zero] at hflags
      cases hflags
    simp [hne]

theorem put_same {α : Type} (values : NativeHandle → Direction → α) (handle : NativeHandle) (d : Direction)
    (value : α) : put values handle d value handle d = value := by
  simp only [put, Function.update_self]

theorem put_other {α : Type} (values : NativeHandle → Direction → α) {handle other : NativeHandle}
    {d d' : Direction} (value : α) (h : ¬ (other = handle ∧ d' = d)) :
    put values handle d value other d' = values other d' := by
  by_cases hother : other = handle
  · subst hother
    have hd : d' ≠ d := fun he => h ⟨rfl, he⟩
    simp only [put, Function.update_self, Function.update_of_ne hd]
  · simp only [put, Function.update_of_ne hother]

/-- What was taken is attended to no longer only if nothing is left. -/
theorem Invariant.took {s : State} (h : Invariant s) (handle : NativeHandle) (d : Direction) (taken : Nat)
    (attending : NativeHandle → Direction → Bool)
    (hattending : ∀ other d', 0 < put s.amount handle d (s.amount handle d - taken) other d' →
      attending other d' = s.attending other d') :
    Invariant { s with amount := put s.amount handle d (s.amount handle d - taken), attending := attending } := by
  have hbefore : ∀ other d', 0 < put s.amount handle d (s.amount handle d - taken) other d' →
      0 < s.amount other d' := by
    intro other d' hamount
    by_cases hsame : other = handle ∧ d' = d
    · obtain ⟨rfl, rfl⟩ := hsame
      rw [put_same] at hamount
      omega
    · rw [put_other _ _ hsame] at hamount
      exact hamount
  refine ⟨h.kinds, h.keyed, fun other d' hamount => h.ready other d' (hbefore other d' hamount),
    fun other d' hwatched hamount => ?_⟩
  have hattended := h.attended other d' hwatched (hbefore other d' hamount)
  rw [← hattending other d' hamount] at hattended
  exact hattended

theorem bit_apart {d d' : Direction} (h : d' ≠ d) : Masks.Sub (bit d') (~~~bit d) := by
  cases d <;> cases d' <;> first | decide | exact absurd rfl h

/-- A direction in which nothing is left may cease to be ready. -/
theorem Invariant.exhaust {s : State} (h : Invariant s) {handle : NativeHandle} {d : Direction}
    (hnone : s.amount handle d = 0) : Invariant (s.withKernel (Kernel.exhaust s.kernel handle d)) := by
  refine ⟨h.kinds, h.keyed, fun other d' hamount => ?_, h.attended⟩
  have hready := h.ready other d' hamount
  change Masks.Sub (bit d') (Function.update s.kernel.readiness handle _ other)
  by_cases hother : other = handle
  · subst hother
    have hd : d' ≠ d := by
      rintro rfl
      exact absurd hnone (Nat.pos_iff_ne_zero.mp hamount)
    rw [Function.update_self]
    exact hready.and (bit_apart hd)
  · rw [Function.update_of_ne hother]
    exact hready

/-- A descriptor in the set that gets new readiness is queued. -/
theorem Invariant.become {s : State} (h : Invariant s) {handle : NativeHandle} {readiness : BitVec 32}
    {amount : NativeHandle → Direction → Nat} (hother : ∀ other d, other ≠ handle → amount other d = s.amount other d)
    (hready : ∀ d, 0 < amount handle d → Masks.Sub (bit d) readiness) :
    Invariant { s.withKernel (Kernel.become s.kernel handle readiness) with amount := amount } := by
  refine ⟨h.kinds, h.keyed, fun other d hamount => ?_, fun other d hwatched hamount => ?_⟩
  · change Masks.Sub (bit d) (Function.update s.kernel.readiness handle readiness other)
    by_cases hsame : other = handle
    · subst hsame
      rw [Function.update_self]
      exact hready d hamount
    · rw [Function.update_of_ne hsame]
      exact h.ready other d (hother other d hsame ▸ hamount)
  · change _ ∨ Function.update s.kernel.queued handle _ other = true
    by_cases hsame : other = handle
    · subst hsame
      obtain ⟨_, mask, hset, _⟩ := hwatched
      have hin : (s.kernel.set other).isSome = true := Option.isSome_iff_exists.mpr ⟨mask, hset⟩
      rw [Function.update_self, hin, Bool.or_true]
      exact .inr rfl
    · rw [Function.update_of_ne hsame]
      exact h.attended other d hwatched (hother other d hsame ▸ hamount)

/-- A poll takes a descriptor off the queue, and the program attends to what it reports. -/
theorem Invariant.polls {s t : State} (h : Invariant s) {handles : List NativeHandle}
    (hstep : step (A := A) (.polls handles) s = some t) : Invariant t := by
  obtain ⟨_, heq⟩ := Option.ite_none_right_eq_some.mp hstep
  cases heq
  refine ⟨h.kinds, h.keyed, h.ready, fun handle d hwatched hamount => ?_⟩
  change (s.attending handle d || reportsTo s.world.selector handles handle d) = true ∨
    (s.kernel.queued handle && decide (handle ∉ handles)) = true
  have hbefore : Watched s.world.selector handle d := hwatched
  rcases h.attended handle d hbefore hamount with hattending | hqueued
  · exact .inl (by rw [hattending, Bool.true_or])
  · by_cases hmem : handle ∈ handles
    · have hshows := shows_of_sub (flags_of_watched hbefore (h.ready handle d hamount))
      have hreports := reportsTo_iff.mpr ⟨hmem, hbefore.1, hshows⟩
      exact .inl (by rw [hreports, Bool.or_true])
    · exact .inr (by rw [hqueued, decide_eq_true hmem, Bool.true_and])

omit [Inhabited A] in
/-- A would-block answer finds nothing to take. -/
theorem amount_of_blocked {s : State} (h : Invariant s) {handle : NativeHandle} {call : Net.IoCall A}
    {taken : Nat} {ready : Bool} (hblocked : blocked .linux call = true)
    (hanswer : mayAnswer call (s.kernel.readiness handle) (s.amount handle (direction call)) taken ready = true) :
    s.amount handle (direction call) = 0 := by
  by_contra hsome
  have hready := h.ready handle (direction call) (Nat.pos_of_ne_zero hsome)
  have hmeets := meets_of_sub hready (Masks.Sub.refl (bit (direction call)))
  unfold blocked at hblocked
  unfold mayAnswer at hanswer
  cases herror : call.error with
  | none =>
    rw [herror] at hblocked
    cases hblocked
  | some ec =>
    rw [herror] at hblocked hanswer
    have hwould : Net.isWouldBlockError .linux ec = true := hblocked
    simp [hwould, hmeets] at hanswer

omit [Inhabited A] in
/-- A call that leaves its direction unready has taken everything. -/
theorem taken_of_unready {call : Net.IoCall A} {readiness : BitVec 32} {amount taken : Nat}
    (hanswer : mayAnswer call readiness amount taken false = true) : amount - taken = 0 := by
  unfold mayAnswer at hanswer
  cases herror : call.error with
  | none =>
    simp only [herror, Bool.false_or, Bool.and_eq_true, decide_eq_true_eq] at hanswer
    omega
  | some ec =>
    simp [herror] at hanswer

theorem Invariant.io {s t : State} (h : Invariant s) {id : Nat} {call : Net.IoCall A}
    {refusal : Option Errno} {taken : Nat} {ready : Bool}
    (hstep : step (.io id call refusal taken ready) s = some t) : Invariant t := by
  simp only [step] at hstep
  split at hstep
  · obtain ⟨world, hworld, rfl⟩ := Option.map_eq_some_iff.mp hstep
    exact h.around (io_around h.kinds h.keyed hworld)
  · split at hstep
    · rename_i hanswer
      obtain ⟨world, hworld, heq⟩ := Option.map_eq_some_iff.mp hstep
      have hcalled := h.around (io_around h.kinds h.keyed hworld)
      have htook := hcalled.took (s.world.sources id).handle (direction call) taken
        (if blocked .linux call then put s.attending (s.world.sources id).handle (direction call) false
          else s.attending) ?_
      · cases ready with
        | true => exact heq ▸ htook
        | false => exact heq ▸ htook.exhaust ((put_same _ _ _ _).trans (taken_of_unready hanswer))
      · intro other d' hamount
        by_cases hblocked : blocked .linux call = true
        · rw [if_pos hblocked]
          refine put_other _ _ fun hsame => ?_
          obtain ⟨rfl, rfl⟩ := hsame
          have hnone := amount_of_blocked h hblocked hanswer
          simp only [put_same, hnone, Nat.zero_sub] at hamount
          exact absurd hamount (Nat.lt_irrefl 0)
        · rw [if_neg hblocked]
    · cases hstep

theorem step_invariant (a : Action A) {s t : State} (h : Invariant s) (hstep : step a s = some t) :
    Invariant t := by
  cases a with
  | calls call =>
    cases call with
    | io id call refusal => cases hstep
    | register id token interests ω ω' =>
      obtain ⟨world, hworld, rfl⟩ := Option.map_eq_some_iff.mp hstep
      exact h.around (call_around h.kinds h.keyed hworld rfl)
    | reregister id token interests ω ω' =>
      obtain ⟨world, hworld, rfl⟩ := Option.map_eq_some_iff.mp hstep
      exact h.around (call_around h.kinds h.keyed hworld rfl)
    | deregister id ω ω' =>
      obtain ⟨world, hworld, rfl⟩ := Option.map_eq_some_iff.mp hstep
      exact h.around (call_around h.kinds h.keyed hworld rfl)
    | handle call ω =>
      have hmap : (Net.step backend (A := A) (.handle call ω) s.world).map
          (fun world => { s with world := world }) = some t := hstep
      obtain ⟨world, hworld, rfl⟩ := Option.map_eq_some_iff.mp hmap
      exact h.around (call_around h.kinds h.keyed hworld rfl)
  | io id call refusal taken ready => exact h.io hstep
  | comes handle d n =>
    cases hstep
    refine h.become (fun other d' hother => put_other _ _ fun hsame => hother hsame.1) fun d' hamount => ?_
    by_cases hd : d' = d
    · subst hd
      exact Masks.sub_or_right _ _
    · rw [put_other _ _ fun hsame => hd hsame.2] at hamount
      exact (h.ready handle d' hamount).trans (Masks.sub_or_left _ _)
  | changes handle readiness =>
    obtain ⟨hready, heq⟩ := Option.ite_none_right_eq_some.mp hstep
    cases heq
    refine h.become (fun _ _ _ => rfl) fun d hamount => ?_
    have hmem : d ∈ [Direction.readable, .writable, .priority] := by
      cases d <;> decide
    exact (hready d hmem).resolve_left (Nat.pos_iff_ne_zero.mp hamount)
  | polls handles => exact h.polls hstep

theorem initial_invariant {sources : Nat → Source} (hkinds : ∀ id, keepsCopy (sources id).type = true) :
    Invariant (initial sources) where
  kinds := hkinds
  keyed _ _ hentry := nomatch hentry
  ready _ _ hamount := absurd hamount (Nat.lt_irrefl 0)
  attended _ _ _ hamount := absurd hamount (Nat.lt_irrefl 0)

/-- What can be taken from a registered `TcpStream`, `TcpListener` or `UdpSocket`, or put into
it so that the kernel shows `EPOLLOUT`, is attended to, or the descriptor is queued: a poll
may return it, and any poll that does reports the direction. -/
theorem nothing_forgotten {sources : Nat → Source} (hkinds : ∀ id, keepsCopy (sources id).type = true)
    {s : State} (h : Reachable (step (A := A)) (initial sources) s) {handle : NativeHandle} {d : Direction}
    (hwatched : Watched s.world.selector handle d) (hamount : 0 < s.amount handle d) :
    s.attending handle d = true ∨
      (∃ t, step (A := A) (.polls [handle]) s = some t) ∧
      ∀ handles t, handle ∈ handles → step (A := A) (.polls handles) s = some t →
        reportsTo s.world.selector handles handle d = true ∧ t.attending handle d = true := by
  have hinvariant : Invariant s := h.invariant (initial_invariant hkinds)
    fun a _ _ hu _ hstep => step_invariant a hu hstep
  refine (hinvariant.attended handle d hwatched hamount).imp_right fun hqueued => ⟨?_, ?_⟩
  · refine ⟨_, if_pos fun other hother => ?_⟩
    rw [List.mem_singleton.mp hother]
    exact hqueued
  · intro handles t hmem hstep
    obtain ⟨_, heq⟩ := Option.ite_none_right_eq_some.mp hstep
    have hshows := shows_of_sub (flags_of_watched hwatched (hinvariant.ready handle d hamount))
    have hreports := reportsTo_iff.mpr ⟨hmem, hwatched.1, hshows⟩
    cases heq
    exact ⟨hreports, by simp only [hreports, Bool.or_true]⟩

/-- A stream on descriptor 5. -/
def stream : State :=
  initial fun id => { type := .tcpStream, handle := if id = 0 then 5 else -1 }

/-- Three bytes come and are read to the end; one that comes after the would-block error is
reported by the next poll, although nothing attends to the stream any more. -/
theorem nothing_forgotten_after_would_block :
    ∃ s, Reachable (step (A := Unit)) stream s ∧ s.attending 5 .readable = false ∧
      ∃ t, step (A := Unit) (.polls [5]) s = some t ∧ t.attending 5 .readable = true := by
  obtain ⟨s, hrun, hattending, hamount, hwatched⟩ : ∃ s,
      run (step (A := Unit)) [.calls (.register 0 ⟨1⟩ Interest.READABLE none none),
        .comes 5 .readable 3, .polls [5], .io 0 (.read (.ok 3)) none 3 false,
        .io 0 (.read (.error Net.again)) none 0 true, .comes 5 .readable 1] stream = some s ∧
      s.attending 5 .readable = false ∧ s.amount 5 .readable = 1 ∧
      Watched s.world.selector 5 .readable :=
    ⟨_, rfl, rfl, rfl, rfl, toEpollEvents Interest.READABLE, rfl, by decide⟩
  have h := reachable_of_run _ hrun
  refine ⟨s, h, hattending, ?_⟩
  rcases nothing_forgotten (fun _ => rfl) h hwatched (by omega) with hstill | ⟨⟨t, hstep⟩, hreports⟩
  · rw [hattending] at hstill
    cases hstill
  · exact ⟨t, hstep, (hreports [5] t (List.mem_singleton_self 5) hstep).2⟩

end Attending
