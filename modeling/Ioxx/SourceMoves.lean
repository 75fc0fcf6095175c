import Ioxx.Net
import Mathlib.Logic.Equiv.Basic

/-!
# Moved sources

A `TcpStream`, `TcpListener` or `UdpSocket` keeps its socket and the copy of its
registration when it is moved, and leaves an object without a socket behind. So a program
that moves its sources, into objects without a socket, behaves as one that never does:
every call returns the same, and the selector goes through the same states.
-/

namespace SourceMoves

open Core Detail Registry Runs

variable {β Ω A : Type} [Inhabited A]

/-- What the caller of a function gets. -/
structure Reply (A : Type) where
  ec : Option ErrorCode
  value : Option (Net.IoValue A)

structure State (β A : Type) where
  world : Net.World β
  log : List (Reply A)

inductive Action (Ω A : Type) where
  | calls (a : Net.Action Ω A)
  | moves (target source : Nat)

section Steps

variable (b : Backend β Ω)

/-- The `ec` of a source-level call; a process that has ended gets nothing. -/
def sourceReply (outcome : Noexcept (Option ErrorCode × Source × Selector β)) : Reply A :=
  match outcome with
  | .returned (ec, _, _) => ⟨ec, none⟩
  | .terminated => ⟨none, none⟩

def reply (a : Net.Action Ω A) (w : Net.World β) : Reply A :=
  match a with
  | .register id token interests ω ω' =>
    sourceReply (registerSource b ω ω' (w.sources id) token interests w.selector)
  | .reregister id token interests ω ω' =>
    sourceReply (Registry.reregister b ω ω' (w.sources id) token interests w.selector)
  | .deregister id ω ω' => sourceReply (Registry.deregister b ω ω' (w.sources id) w.selector)
  | .handle call ω => ⟨(call.perform b ω w.selector).1, none⟩
  | .io id call ω =>
    match call.perform b ω (w.sources id) w.selector with
    | .returned (ec, value, _) => ⟨ec, some value⟩
    | .terminated => ⟨none, none⟩

def callStep (a : Net.Action Ω A) (s : State β A) : Option (State β A) :=
  (Net.step b a s.world).map fun world => ⟨world, s.log ++ [reply b a s.world]⟩

/-- What the defaulted move leaves: a null `unique_ptr`, and the other members as they were. -/
def leave (source : Source) : Source := { source with handle := invalidNativeHandle b.platform }

/-- The defaulted move of one of the three classes. An assignment onto itself changes nothing. -/
def moved (target source : Nat) (w : Net.World β) : Net.World β :=
  { w with
    sources := Function.update (Function.update w.sources source (leave b (w.sources source))) target
      (w.sources source) }

def step (a : Action Ω A) (s : State β A) : Option (State β A) :=
  match a with
  | .calls a => callStep b a s
  | .moves target source =>
    if (s.world.sources target).type = (s.world.sources source).type ∧
        keepsCopy (s.world.sources source).type = true ∧
        (target = source ∨ (s.world.sources target).handle = invalidNativeHandle b.platform) then
      some { s with world := moved b target source s.world }
    else none

end Steps

/-- The same call on the object where its source was made. -/
def rename (place : Nat ≃ Nat) : Net.Action Ω A → Net.Action Ω A
  | .register id token interests ω ω' => .register (place id) token interests ω ω'
  | .reregister id token interests ω ω' => .reregister (place id) token interests ω ω'
  | .deregister id ω ω' => .deregister (place id) ω ω'
  | .handle call ω => .handle call ω
  | .io id call ω => .io (place id) call ω

/-- Where the sources were made, after a move. -/
def passed (target source : Nat) (place : Nat ≃ Nat) : Nat ≃ Nat :=
  (Equiv.swap target source).trans place

/-- The calls of a program, without its moves. -/
def follow (place : Nat ≃ Nat) : List (Action Ω A) → List (Net.Action Ω A)
  | [] => []
  | .calls a :: rest => rename place a :: follow place rest
  | .moves target source :: rest => follow (passed target source place) rest

/-- Where the sources were made, at the end. -/
def places (place : Nat ≃ Nat) : List (Action Ω A) → Nat ≃ Nat
  | [] => place
  | .calls _ :: rest => places place rest
  | .moves target source :: rest => places (passed target source place) rest

/-- Two objects that differ, if at all, in the copies of registrations that no socket has. -/
structure Alike (platform : Platform) (s s' : Source) : Prop where
  type : s.type = s'.type
  handle : s.handle = s'.handle
  same : s.handle ≠ invalidNativeHandle platform → s = s'

section Alike

variable {platform : Platform} {s s' : Source}

theorem Alike.refl (platform : Platform) (s : Source) : Alike platform s s := ⟨rfl, rfl, fun _ => rfl⟩

theorem Alike.remember (h : Alike platform s s') (token : Token) (interests : Interest) :
    Alike platform (Registry.remember token interests s) (Registry.remember token interests s') where
  type := h.type
  handle := h.handle
  same hvalid := congrArg (Registry.remember token interests) (h.same hvalid)

theorem Alike.forget (h : Alike platform s s') : Alike platform (Registry.forget s) (Registry.forget s') where
  type := h.type
  handle := h.handle
  same hvalid := congrArg Registry.forget (h.same hvalid)

/-- Two source-level calls return the same and leave the same, or both end the process. -/
def SameOutcome (platform : Platform) (x y : Noexcept (Option ErrorCode × Source × Selector β)) : Prop :=
  (x = .terminated ∧ y = .terminated) ∨
  ∃ ec source source' t, x = .returned (ec, source, t) ∧ y = .returned (ec, source', t) ∧
    Alike platform source source'

theorem Alike.withHook (h : Alike platform s s') (outcome : Option ErrorCode × Selector β)
    {refresh : Source → Source} (hrefresh : Alike platform (refresh s) (refresh s'))
    (callback : Selector β → Except Exception Unit × Selector β) :
    SameOutcome platform (Registry.withHook s outcome (hook refresh callback s))
      (Registry.withHook s' outcome (hook refresh callback s')) := by
  obtain ⟨ec, t⟩ := outcome
  cases ec with
  | some code => exact .inr ⟨some code, s, s', t, rfl, rfl, h⟩
  | none =>
    simp only [Registry.withHook, hook, ← h.type]
    cases s.type with
    | tcpStream => exact .inr ⟨none, _, _, t, rfl, rfl, hrefresh⟩
    | tcpListener => exact .inr ⟨none, _, _, t, rfl, rfl, hrefresh⟩
    | udpSocket => exact .inr ⟨none, _, _, t, rfl, rfl, hrefresh⟩
    | signals =>
      cases callback t with
      | mk result t' =>
        cases result with
        | ok u => exact .inr ⟨none, s, s', t', rfl, rfl, h⟩
        | error e => exact .inl ⟨rfl, rfl⟩
    | _ => exact .inr ⟨none, s, s', t, rfl, rfl, h⟩

variable (b : Backend β Ω)

theorem Alike.registerSource (h : Alike b.platform s s') (ω ω' : Ω) (token : Token) (interests : Interest)
    (t : Selector β) : SameOutcome b.platform (Registry.registerSource b ω ω' s token interests t)
      (Registry.registerSource b ω ω' s' token interests t) := by
  unfold Registry.registerSource onRegistered
  rw [← h.type, ← h.handle]
  exact h.withHook _ (h.remember token interests) _

theorem Alike.reregister (h : Alike b.platform s s') (ω ω' : Ω) (token : Token) (interests : Interest)
    (t : Selector β) : SameOutcome b.platform (Registry.reregister b ω ω' s token interests t)
      (Registry.reregister b ω ω' s' token interests t) := by
  unfold Registry.reregister onReregistered
  rw [← h.type, ← h.handle]
  exact h.withHook _ (h.remember token interests) _

theorem Alike.deregister (h : Alike b.platform s s') (ω ω' : Ω) (t : Selector β) :
    SameOutcome b.platform (Registry.deregister b ω ω' s t) (Registry.deregister b ω ω' s' t) := by
  unfold Registry.deregister onDeregistered
  rw [← h.handle]
  exact h.withHook _ h.forget _

/-- I/O on an object without a socket does not look at the copy. -/
theorem Alike.perform (h : Alike b.platform s s') (ω : Ω) (call : Net.IoCall A) (t : Selector β) :
    call.perform b ω s t = call.perform b ω s' t := by
  obtain ⟨ρ, fallback, finish, result, _, _, hio⟩ := Net.perform_eq_io b ω call
  rw [hio, hio]
  by_cases hvalid : s.handle = invalidNativeHandle b.platform
  · unfold Net.io
    rw [if_pos hvalid, if_pos (h.handle ▸ hvalid)]
  · rw [h.same hvalid]

end Alike

/-- A program that moves its sources, beside one that does not. -/
structure Matches (b : Backend β Ω) (place : Nat ≃ Nat) (s s' : State β A) : Prop where
  selector : s'.world.selector = s.world.selector
  sources : ∀ id, Alike b.platform (s.world.sources id) (s'.world.sources (place id))
  log : s'.log = s.log

section Simulation

variable {b : Backend β Ω} {place : Nat ≃ Nat} {s s' t : State β A}

omit [Inhabited A] in
/-- A source-level call on both sides. -/
theorem Matches.called (h : Matches b place s s') {id : Nat}
    {x y : Noexcept (Option ErrorCode × Source × Selector β)} (hsame : SameOutcome b.platform x y)
    {w : Net.World β} (hcalled : s.world.called id x = some w) :
    ∃ w', s'.world.called (place id) y = some w' ∧
      Matches b place ⟨w, s.log ++ [sourceReply x]⟩ ⟨w', s'.log ++ [sourceReply y]⟩ := by
  rcases hsame with ⟨rfl, _⟩ | ⟨ec, source, source', selector, rfl, rfl, halike⟩
  · cases hcalled
  · cases hcalled
    refine ⟨_, rfl, rfl, fun other => ?_, ?_⟩
    · by_cases hother : other = id
      · subst hother
        simp only [Function.update_self]
        exact halike
      · have hplace : place other ≠ place id := fun he => hother (place.injective he)
        simp only [Function.update_of_ne hother, Function.update_of_ne hplace]
        exact h.sources other
    · rw [h.log]
      rfl

theorem Matches.call (h : Matches b place s s') (a : Net.Action Ω A) (hstep : callStep b a s = some t) :
    ∃ t', callStep b (rename place a) s' = some t' ∧ Matches b place t t' := by
  obtain ⟨w, hw, rfl⟩ := Option.map_eq_some_iff.mp hstep
  cases a with
  | register id token interests ω ω' =>
    have hsame := (h.sources id).registerSource b ω ω' token interests s.world.selector
    obtain ⟨w', hw', hmatches⟩ := h.called hsame hw
    simp only [callStep, rename, Net.step, reply, h.selector, hw', Option.map_some]
    exact ⟨_, rfl, hmatches⟩
  | reregister id token interests ω ω' =>
    have hsame := (h.sources id).reregister b ω ω' token interests s.world.selector
    obtain ⟨w', hw', hmatches⟩ := h.called hsame hw
    simp only [callStep, rename, Net.step, reply, h.selector, hw', Option.map_some]
    exact ⟨_, rfl, hmatches⟩
  | deregister id ω ω' =>
    have hsame := (h.sources id).deregister b ω ω' s.world.selector
    obtain ⟨w', hw', hmatches⟩ := h.called hsame hw
    simp only [callStep, rename, Net.step, reply, h.selector, hw', Option.map_some]
    exact ⟨_, rfl, hmatches⟩
  | handle call ω =>
    cases hw
    simp only [callStep, rename, Net.step, reply, h.selector, Option.map_some]
    exact ⟨_, rfl, rfl, h.sources, by rw [h.log]⟩
  | io id call ω =>
    have hperform := (h.sources id).perform b ω call s.world.selector
    have htype := (h.sources id).type
    simp only [Net.step] at hw
    split at hw
    · rename_i howner
      split at hw
      · cases hw
      · rename_i ec value selector hreturned
        cases hw
        have howner' : call.owner = (s'.world.sources (place id)).type := howner.trans htype
        have hreturned' := hperform.symm.trans hreturned
        simp only [callStep, rename, Net.step, reply, h.selector, if_pos howner', hreturned, hreturned',
          Option.map_some]
        exact ⟨_, rfl, rfl, h.sources, by rw [h.log]⟩
    · cases hw

/-- A move on one side is a change of places on the other. -/
theorem Matches.moves (h : Matches b place s s') {target source : Nat}
    (hstep : step b (.moves target source) s = some t) : Matches b (passed target source place) t s' := by
  obtain ⟨⟨htype, _, hempty⟩, heq⟩ := Option.ite_none_right_eq_some.mp hstep
  cases heq
  refine ⟨h.selector, fun id => ?_, h.log⟩
  simp only [passed, Equiv.trans_apply, moved]
  by_cases htarget : id = target
  · subst htarget
    rw [Function.update_self, Equiv.swap_apply_left]
    exact h.sources source
  · rw [Function.update_of_ne htarget]
    by_cases hsource : id = source
    · -- what is left has no socket, and neither had the target
      subst hsource
      rw [Function.update_self, Equiv.swap_apply_right]
      have hinvalid := hempty.resolve_left fun he => htarget he.symm
      have halike := h.sources target
      refine ⟨htype.symm.trans halike.type, hinvalid.symm.trans halike.handle, fun hvalid => ?_⟩
      exact absurd rfl hvalid
    · rw [Function.update_of_ne hsource, Equiv.swap_apply_of_ne_of_ne htarget hsource]
      exact h.sources id

theorem run_matches (actions : List (Action Ω A)) (h : Matches b place s s')
    (hrun : run (step b) actions s = some t) :
    ∃ t', run (callStep b) (follow place actions) s' = some t' ∧ Matches b (places place actions) t t' := by
  induction actions generalizing place s s' with
  | nil =>
    cases hrun
    exact ⟨s', rfl, h⟩
  | cons a rest ih =>
    obtain ⟨u, hstep, hrest⟩ := Option.bind_eq_some_iff.mp hrun
    cases a with
    | calls a =>
      obtain ⟨u', hstep', hmatches⟩ := h.call a hstep
      obtain ⟨t', hrun', hend⟩ := ih hmatches hrest
      refine ⟨t', ?_, hend⟩
      rw [follow, run, hstep', Option.bind_some]
      exact hrun'
    | moves target source => exact ih (h.moves hstep) hrest

end Simulation

/-- A program that moves its sources gets the same from every call as one that makes its
calls where the sources were made, and so does the selector. -/
theorem moves_transparent (b : Backend β Ω) (w : Net.World β) (actions : List (Action Ω A))
    {t : State β A} (h : run (step b) actions ⟨w, []⟩ = some t) :
    ∃ t', run (callStep b) (follow (Equiv.refl Nat) actions) ⟨w, []⟩ = some t' ∧ t'.log = t.log ∧
      t'.world.selector = t.world.selector ∧ ∀ id, Alike b.platform (t.world.sources id)
        (t'.world.sources (places (Equiv.refl Nat) actions id)) := by
  have hstart : Matches b (Equiv.refl Nat) (⟨w, []⟩ : State β A) ⟨w, []⟩ :=
    ⟨rfl, fun id => .refl _ _, rfl⟩
  obtain ⟨t', hrun, hmatches⟩ := run_matches actions hstart h
  exact ⟨t', hrun, hmatches.log, hmatches.selector, hmatches.sources⟩

/-- A stream on descriptor 5. -/
def registeredStream : Net.World Epoll.EpollSet :=
  ⟨Epoll.initialSelector, fun id => { type := .tcpStream, handle := if id = 0 then 5 else -1 }⟩

/-- A registered stream is moved and re-armed from its copy; the object that it left is reused. -/
theorem moves_transparent_rearmed :
    ∃ t t', run (step (A := Unit) Epoll.backend) [
        .calls (.register 0 ⟨7⟩ Interest.READABLE none none), .moves 1 0,
        .calls (.io 1 (.read (.error Net.again)) none), .calls (.io 0 (.read (.ok 3)) none),
        .moves 0 1, .calls (.io 0 (.read (.ok 3)) none)] ⟨registeredStream, []⟩ = some t ∧
      run (callStep (A := Unit) Epoll.backend) [
        .register 0 ⟨7⟩ Interest.READABLE none none, .io 0 (.read (.error Net.again)) none,
        .io 1 (.read (.ok 3)) none, .io 0 (.read (.ok 3)) none] ⟨registeredStream, []⟩ = some t' ∧
      t'.log = t.log ∧ t.log.map Reply.ec = [none, some Net.again, some .badFileDescriptor, none] ∧
      (t.world.sources 0).registered = true := by
  have hrun : run (step (A := Unit) Epoll.backend) [
      .calls (.register 0 ⟨7⟩ Interest.READABLE none none), .moves 1 0,
      .calls (.io 1 (.read (.error Net.again)) none), .calls (.io 0 (.read (.ok 3)) none),
      .moves 0 1, .calls (.io 0 (.read (.ok 3)) none)] ⟨registeredStream, []⟩ = some _ := rfl
  obtain ⟨t', hcalls, hlog, _, _⟩ := moves_transparent Epoll.backend registeredStream _ hrun
  exact ⟨_, t', hrun, hcalls, hlog, rfl, rfl⟩

end SourceMoves
