import Ioxx.Runs
import Ioxx.Maps
import Mathlib.Data.Finset.Basic

/-!
# Signals through one global handler

`Signals::Impl` of `signals.cpp` for macOS and BSD, and for Windows. The objects
of a process share one pointer to an instance and one handler: every constructor
takes the pointer over, and `remove` and the destructor take the handler away
without looking at the other objects. `Class` is what the two builds have in
common. All system calls succeed.
-/

namespace SelfPipe

open Runs Maps

/-- `registered` are the sets of the objects alive. `handled` are the signals whose
handler is `handler_routine`, and `handlers` says how often the list of console
handlers has it; each build uses one of the two. `channel` is what lies in the
pipe, or the socket, of each object. -/
structure State where
  registered : Nat → Option (Finset Int)
  globalInstance : Option Nat
  handled : Finset Int
  handlers : Nat
  channel : Nat → List Int

def initial : State := ⟨fun _ => none, none, ∅, 0, fun _ => []⟩

/-- What becomes of a signal. -/
inductive Fate where
  | written (i : Nat)
  | swallowed
  | defaultAction
  deriving DecidableEq

/-- One build of the class. An `Occurrence` is what the operating system tells the
process of, and stands for a signal. -/
structure Class where
  Occurrence : Type
  signum : Occurrence → Int
  destroy : Nat → Finset Int → State → State
  add : Nat → Int → Finset Int → State → State
  remove : Nat → Int → Finset Int → State → State
  fate : Occurrence → State → Fate

namespace Bsd

def destroy (i : Nat) (registered : Finset Int) (s : State) : State :=
  if s.globalInstance = some i then
    { s with
      registered := Function.update s.registered i none
      handled := s.handled \ registered
      globalInstance := none }
  else { s with registered := Function.update s.registered i none }

def add (i : Nat) (signum : Int) (registered : Finset Int) (s : State) : State :=
  { s with
    registered := Function.update s.registered i (some (insert signum registered))
    handled := insert signum s.handled }

def remove (i : Nat) (signum : Int) (registered : Finset Int) (s : State) : State :=
  { s with
    registered := Function.update s.registered i (some (registered.erase signum))
    handled := s.handled.erase signum }

/-- `handler_routine` writes to the instance, whatever that has registered. -/
def fate (signum : Int) (s : State) : Fate :=
  if signum ∈ s.handled then
    match s.globalInstance with
    | some i => .written i
    | none => .swallowed
  else .defaultAction

end Bsd

inductive ConsoleEvent where
  | ctrlC
  | ctrlBreak
  | close
  | logoff
  | shutdown
  deriving DecidableEq

def ConsoleEvent.signum : ConsoleEvent → Int
  | .ctrlC => 2
  | .ctrlBreak => 21
  | .close | .logoff | .shutdown => 15

namespace Windows

def destroy (i : Nat) (_registered : Finset Int) (s : State) : State :=
  if s.globalInstance = some i then
    { s with
      registered := Function.update s.registered i none
      globalInstance := none
      handlers := s.handlers - 1 }
  else { s with registered := Function.update s.registered i none }

def add (i : Nat) (signum : Int) (registered : Finset Int) (s : State) : State :=
  { s with
    handlers := if registered = ∅ then s.handlers + 1 else s.handlers
    registered := Function.update s.registered i (some (insert signum registered)) }

def remove (i : Nat) (signum : Int) (registered : Finset Int) (s : State) : State :=
  { s with
    registered := Function.update s.registered i (some (registered.erase signum))
    handlers := if registered.erase signum = ∅ then s.handlers - 1 else s.handlers }

/-- What `handler_routine` declines goes to the default handler. -/
def fate (event : ConsoleEvent) (s : State) : Fate :=
  if 0 < s.handlers then
    match s.globalInstance with
    | some i => match s.registered i with
      | some registered => if event.signum ∈ registered then .written i else .defaultAction
      | none => .defaultAction
    | none => .defaultAction
  else .defaultAction

end Windows

def bsd : Class := ⟨Int, id, Bsd.destroy, Bsd.add, Bsd.remove, Bsd.fate⟩

def windows : Class :=
  ⟨ConsoleEvent, ConsoleEvent.signum, Windows.destroy, Windows.add, Windows.remove, Windows.fate⟩

/-- The constructor is the same for both. -/
def construct (i : Nat) (s : State) : State :=
  { s with
    registered := Function.update s.registered i (some ∅)
    globalInstance := some i
    channel := Function.update s.channel i [] }

/-- A signal occurs; `full` is whether the channel it is written to is full. -/
def occur (c : Class) (o : c.Occurrence) (full : Bool) (s : State) : State :=
  match c.fate o s with
  | .written i => if full then s
      else { s with channel := Function.update s.channel i (s.channel i ++ [c.signum o]) }
  | _ => s

inductive Action (c : Class) where
  | construct (i : Nat)
  | destroy (i : Nat)
  | add (i : Nat) (signum : Int)
  | remove (i : Nat) (signum : Int)
  | pending (i : Nat)
  | occur (o : c.Occurrence) (full : Bool)

def step (c : Class) : Action c → State → Option State
  | .construct i, s => match s.registered i with
    | none => some (construct i s)
    | some _ => none
  | .destroy i, s => (s.registered i).map fun registered => c.destroy i registered s
  | .add i signum, s => (s.registered i).map fun registered => c.add i signum registered s
  | .remove i signum, s => (s.registered i).map fun registered => c.remove i signum registered s
  | .pending i, s => some { s with channel := Function.update s.channel i [] }
  | .occur o full, s => some (occur c o full s)

/-- What the class is for: a signal that an object has registered is written to
that object. -/
def Delivers (c : Class) (s : State) : Prop :=
  ∀ i registered (o : c.Occurrence), s.registered i = some registered → c.signum o ∈ registered →
    c.fate o s = .written i

variable {s t : State}

/-- The same on the channels themselves. -/
theorem occur_channel {c : Class} {i : Nat} {o : c.Occurrence} (h : c.fate o s = .written i) :
    (occur c o false s).channel i = s.channel i ++ [c.signum o] := by
  simp [occur, h]

/-- Everything a step can do. -/
inductive Steps (c : Class) (s : State) : Action c → State → Prop where
  | construct {i : Nat} (h : s.registered i = none) : Steps c s (.construct i) (construct i s)
  | destroy {i : Nat} {registered : Finset Int} (h : s.registered i = some registered) :
      Steps c s (.destroy i) (c.destroy i registered s)
  | add {i : Nat} {signum : Int} {registered : Finset Int} (h : s.registered i = some registered) :
      Steps c s (.add i signum) (c.add i signum registered s)
  | remove {i : Nat} {signum : Int} {registered : Finset Int}
      (h : s.registered i = some registered) :
      Steps c s (.remove i signum) (c.remove i signum registered s)
  | pending {i : Nat} :
      Steps c s (.pending i) { s with channel := Function.update s.channel i [] }
  | occur {o : c.Occurrence} {full : Bool} : Steps c s (.occur o full) (occur c o full s)

theorem step_steps {c : Class} {a : Action c} (h : step c a s = some t) : Steps c s a t := by
  cases a with
  | construct i =>
    simp only [step] at h
    split at h
    · rename_i hnone
      obtain rfl := Option.some.inj h
      exact .construct hnone
    · cases h
  | destroy i =>
    obtain ⟨registered, hi, rfl⟩ := Option.map_eq_some_iff.mp h
    exact .destroy hi
  | add i signum =>
    obtain ⟨registered, hi, rfl⟩ := Option.map_eq_some_iff.mp h
    exact .add hi
  | remove i signum =>
    obtain ⟨registered, hi, rfl⟩ := Option.map_eq_some_iff.mp h
    exact .remove hi
  | pending i =>
    obtain rfl := Option.some.inj h
    exact .pending
  | occur o full =>
    obtain rfl := Option.some.inj h
    exact .occur

/-- What a signal leaves behind is seen in the channels only. -/
theorem occur_eq (c : Class) (o : c.Occurrence) (full : Bool) (s : State) :
    ∃ channel, occur c o full s = { s with channel := channel } := by
  unfold occur
  split
  · cases full with
    | true => exact ⟨s.channel, rfl⟩
    | false => exact ⟨_, rfl⟩
  · exact ⟨s.channel, rfl⟩

/-- A new object is none of the older ones, and these keep their signals. -/
theorem construct_kept {i j : Nat} {registered : Finset Int} (hi : s.registered i = none)
    (hj : s.registered j = some registered) :
    j ≠ i ∧ (construct i s).registered j = some registered := by
  have hne : j ≠ i := by
    rintro rfl
    rw [hi] at hj
    cases hj
  refine ⟨hne, ?_⟩
  rw [← hj]
  exact Function.update_of_ne hne ..

/-! ## macOS and BSD -/

namespace Bsd

theorem fate_eq_written {signum : Int} {i : Nat} :
    fate signum s = .written i ↔ signum ∈ s.handled ∧ s.globalInstance = some i := by
  unfold fate
  by_cases h : signum ∈ s.handled
  · rw [if_pos h]
    cases s.globalInstance <;> simp [h]
  · simp [h]

theorem delivers_iff : Delivers bsd s ↔ ∀ i registered signum, s.registered i = some registered →
    signum ∈ registered → signum ∈ s.handled ∧ s.globalInstance = some i := by
  constructor
  · intro h i registered signum hi hmem
    exact fate_eq_written.mp (h i registered signum hi hmem)
  · intro h i registered signum hi hmem
    exact fate_eq_written.mpr (h i registered signum hi hmem)

/-- A new object takes the pointer over, so no other may have signals; only the
object that has the pointer may get one; and what is removed must be registered by
no other. -/
def Admissible : Action bsd → State → Prop
  | .construct _, s => ∀ j registered, s.registered j = some registered → registered = ∅
  | .add i _, s => s.globalInstance = some i
  | .remove i signum, s => ∀ j registered, j ≠ i → s.registered j = some registered →
      signum ∉ registered
  | _, _ => True

theorem delivers_construct_iff {i : Nat} (hi : s.registered i = none) :
    Delivers bsd (construct i s) ↔ Admissible (.construct i) s := by
  rw [delivers_iff]
  constructor
  · intro h j registered hj
    apply Finset.eq_empty_of_forall_notMem
    intro signum hmem
    obtain ⟨hne, hkept⟩ := construct_kept hi hj
    have hinstance := (h j registered signum hkept hmem).2
    exact hne (Option.some.inj hinstance).symm
  · intro h j registered signum hj hmem
    rcases update_some_eq_some hj with ⟨-, rfl⟩ | ⟨-, hj⟩
    · cases hmem
    · rw [h j registered hj] at hmem
      cases hmem

theorem delivers_destroy (i : Nat) (registered : Finset Int) (h : Delivers bsd s) :
    Delivers bsd (destroy i registered s) := by
  rw [delivers_iff] at h ⊢
  unfold destroy
  split
  · rename_i hinstance
    intro j other signum hj hmem
    obtain ⟨hne, hj⟩ := update_none_eq_some hj
    have hj' := (h j other signum hj hmem).2
    rw [hinstance] at hj'
    exact absurd (Option.some.inj hj').symm hne
  · intro j other signum hj hmem
    exact h j other signum (update_none_eq_some hj).2 hmem

theorem delivers_add_iff {i : Nat} {signum : Int} {registered : Finset Int}
    (hi : s.registered i = some registered) (h : Delivers bsd s) :
    Delivers bsd (add i signum registered s) ↔ Admissible (.add i signum) s := by
  rw [delivers_iff] at h ⊢
  constructor
  · intro hafter
    exact (hafter i _ signum (Function.update_self ..) (Finset.mem_insert_self _ _)).2
  · intro hinstance j other signum' hj hmem
    rcases update_some_eq_some hj with ⟨rfl, rfl⟩ | ⟨-, hj⟩
    · refine ⟨?_, hinstance⟩
      rcases Finset.mem_insert.mp hmem with rfl | hmem
      · exact Finset.mem_insert_self _ _
      · exact Finset.mem_insert_of_mem (h j registered signum' hi hmem).1
    · have hold := h j other signum' hj hmem
      exact ⟨Finset.mem_insert_of_mem hold.1, hold.2⟩

theorem delivers_remove_iff {i : Nat} {signum : Int} {registered : Finset Int}
    (hi : s.registered i = some registered) (h : Delivers bsd s) :
    Delivers bsd (remove i signum registered s) ↔ Admissible (.remove i signum) s := by
  rw [delivers_iff] at h ⊢
  constructor
  · intro hafter j other hne hj hmem
    have hkept : (remove i signum registered s).registered j = some other := by
      rw [← hj]
      exact Function.update_of_ne hne ..
    exact Finset.notMem_erase _ _ (hafter j other signum hkept hmem).1
  · intro hothers j other signum' hj hmem
    rcases update_some_eq_some hj with ⟨rfl, rfl⟩ | ⟨hne, hj⟩
    · obtain ⟨hdiffer, hmem⟩ := Finset.mem_erase.mp hmem
      have hold := h j registered signum' hi hmem
      exact ⟨Finset.mem_erase.mpr ⟨hdiffer, hold.1⟩, hold.2⟩
    · have hold := h j other signum' hj hmem
      have hdiffer : signum' ≠ signum := fun heq => hothers j other hne hj (heq ▸ hmem)
      exact ⟨Finset.mem_erase.mpr ⟨hdiffer, hold.1⟩, hold.2⟩

/-- One step keeps what the class is for exactly when it is admissible. -/
theorem delivers_step_iff {a : Action bsd} (h : Delivers bsd s) (hstep : step bsd a s = some t) :
    Delivers bsd t ↔ Admissible a s := by
  cases step_steps hstep with
  | construct hi => exact delivers_construct_iff hi
  | destroy hi => exact iff_of_true (delivers_destroy _ _ h) trivial
  | add hi => exact delivers_add_iff hi h
  | remove hi => exact delivers_remove_iff hi h
  | pending => exact iff_of_true h trivial
  | occur =>
    rename_i o full
    obtain ⟨channel, hchannel⟩ := occur_eq bsd o full s
    rw [hchannel]
    exact iff_of_true h trivial

end Bsd

/-! ## Windows -/

namespace Windows

theorem fate_eq_written {event : ConsoleEvent} {i : Nat} {registered : Finset Int}
    (hi : s.registered i = some registered) (hmem : event.signum ∈ registered) :
    fate event s = .written i ↔ 0 < s.handlers ∧ s.globalInstance = some i := by
  unfold fate
  by_cases h : 0 < s.handlers
  · rw [if_pos h]
    cases hinstance : s.globalInstance with
    | none => simp
    | some j =>
      by_cases hj : j = i
      · subst hj
        simp [hi, hmem, h]
      · have hother : (match s.registered j with
            | some registered => if event.signum ∈ registered then Fate.written j else .defaultAction
            | none => .defaultAction) ≠ .written i := by
          split
          · split
            · intro heq
              exact hj (Fate.written.inj heq)
            · nofun
          · nofun
        simp only [hother, Option.some.injEq, hj, and_false]
  · rw [if_neg h]
    simp [h]

theorem delivers_iff : Delivers windows s ↔ ∀ i registered (event : ConsoleEvent),
    s.registered i = some registered → event.signum ∈ registered →
    0 < s.handlers ∧ s.globalInstance = some i := by
  constructor
  · intro h i registered event hi hmem
    exact (fate_eq_written hi hmem).mp (h i registered event hi hmem)
  · intro h i registered event hi hmem
    exact (fate_eq_written hi hmem).mpr (h i registered event hi hmem)

/-- None of the signals stands for a console event. -/
def Silent (registered : Finset Int) : Prop := ∀ event : ConsoleEvent, event.signum ∉ registered

/-- As on BSD, with these differences: only signals that a console event stands for
matter, the handler must be there when a further signal is added, and an object
whose last signal is removed takes one handler away. -/
def Admissible : Action windows → State → Prop
  | .construct _, s => ∀ j registered, s.registered j = some registered → Silent registered
  | .add i signum, s => (∃ event : ConsoleEvent, event.signum = signum) →
      s.globalInstance = some i ∧ (s.registered i = some ∅ ∨ 0 < s.handlers)
  | .remove i signum, s => ∀ registered, s.registered i = some registered →
      registered.erase signum = ∅ →
      (∀ j other, j ≠ i → s.registered j = some other → Silent other) ∨ 1 < s.handlers
  | _, _ => True

theorem delivers_construct_iff {i : Nat} (hi : s.registered i = none) :
    Delivers windows (construct i s) ↔ Admissible (.construct i) s := by
  rw [delivers_iff]
  constructor
  · intro h j registered hj event hmem
    obtain ⟨hne, hkept⟩ := construct_kept hi hj
    have hinstance := (h j registered event hkept hmem).2
    exact hne (Option.some.inj hinstance).symm
  · intro h j registered event hj hmem
    rcases update_some_eq_some hj with ⟨-, rfl⟩ | ⟨-, hj⟩
    · cases hmem
    · exact absurd hmem (h j registered hj event)

theorem delivers_destroy (i : Nat) (registered : Finset Int) (h : Delivers windows s) :
    Delivers windows (destroy i registered s) := by
  rw [delivers_iff] at h ⊢
  unfold destroy
  split
  · rename_i hinstance
    intro j other event hj hmem
    obtain ⟨hne, hj⟩ := update_none_eq_some hj
    have hj' := (h j other event hj hmem).2
    rw [hinstance] at hj'
    exact absurd (Option.some.inj hj').symm hne
  · intro j other event hj hmem
    exact h j other event (update_none_eq_some hj).2 hmem

theorem handlers_add (i : Nat) (signum : Int) (registered : Finset Int) (s : State) :
    s.handlers ≤ (add i signum registered s).handlers := by
  simp only [add]
  split
  · omega
  · exact le_refl _

theorem delivers_add_iff {i : Nat} {signum : Int} {registered : Finset Int}
    (hi : s.registered i = some registered) (h : Delivers windows s) :
    Delivers windows (add i signum registered s) ↔ Admissible (.add i signum) s := by
  have hmore := handlers_add i signum registered s
  rw [delivers_iff] at h ⊢
  constructor
  · rintro hafter ⟨event, rfl⟩
    obtain ⟨hhandlers, hinstance⟩ :=
      hafter i _ event (Function.update_self ..) (Finset.mem_insert_self _ _)
    refine ⟨hinstance, ?_⟩
    by_cases hempty : registered = ∅
    · rw [hi, hempty]
      exact .inl rfl
    · simp only [add, hempty, if_false] at hhandlers
      exact .inr hhandlers
  · intro hok j other event hj hmem
    rcases update_some_eq_some hj with ⟨rfl, rfl⟩ | ⟨-, hj⟩
    · rcases Finset.mem_insert.mp hmem with heq | hmem
      · obtain ⟨hinstance, hhandlers⟩ := hok ⟨event, heq⟩
        refine ⟨?_, hinstance⟩
        rcases hhandlers with hempty | hhandlers
        · rw [hi] at hempty
          simp only [add, Option.some.inj hempty, if_true]
          omega
        · omega
      · have hold := h j registered event hi hmem
        exact ⟨by omega, hold.2⟩
    · have hold := h j other event hj hmem
      exact ⟨by omega, hold.2⟩

theorem delivers_remove_iff {i : Nat} {signum : Int} {registered : Finset Int}
    (hi : s.registered i = some registered) (h : Delivers windows s) :
    Delivers windows (remove i signum registered s) ↔ Admissible (.remove i signum) s := by
  rw [delivers_iff] at h ⊢
  constructor
  · intro hafter registered' hi' hempty
    rw [hi] at hi'
    cases hi'
    by_cases hsilent : ∀ j other, j ≠ i → s.registered j = some other → Silent other
    · exact .inl hsilent
    · simp only [Silent, not_forall, not_not] at hsilent
      obtain ⟨j, other, hne, hj, event, hmem⟩ := hsilent
      have hkept : (remove i signum registered s).registered j = some other := by
        rw [← hj]
        exact Function.update_of_ne hne ..
      have hhandlers := (hafter j other event hkept hmem).1
      simp only [remove, hempty, if_true] at hhandlers
      exact .inr (by omega)
  · intro hok j other event hj hmem
    rcases update_some_eq_some hj with ⟨rfl, rfl⟩ | ⟨hne, hj⟩
    · have hold := h j registered event hi (Finset.mem_of_mem_erase hmem)
      refine ⟨?_, hold.2⟩
      have hfull : registered.erase signum ≠ ∅ := Finset.ne_empty_of_mem hmem
      simp only [remove, hfull, if_false]
      exact hold.1
    · have hold := h j other event hj hmem
      refine ⟨?_, hold.2⟩
      by_cases hempty : registered.erase signum = ∅
      · simp only [remove, hempty, if_true]
        rcases hok registered hi hempty with hsilent | hmany
        · exact absurd hmem (hsilent j other hne hj event)
        · omega
      · simp only [remove, hempty, if_false]
        exact hold.1

/-- One step keeps what the class is for exactly when it is admissible. -/
theorem delivers_step_iff {a : Action windows} (h : Delivers windows s)
    (hstep : step windows a s = some t) : Delivers windows t ↔ Admissible a s := by
  cases step_steps hstep with
  | construct hi => exact delivers_construct_iff hi
  | destroy hi =>
    rename_i i registered
    exact iff_of_true (delivers_destroy i registered h) trivial
  | add hi => exact delivers_add_iff hi h
  | remove hi => exact delivers_remove_iff hi h
  | pending => exact iff_of_true h trivial
  | occur =>
    rename_i o full
    obtain ⟨channel, hchannel⟩ := occur_eq windows o full s
    rw [hchannel]
    exact iff_of_true h trivial

end Windows

/-! ## Both -/

theorem delivers_initial (c : Class) : Delivers c initial := nofun

/-- In a run of admissible steps a signal that occurs is written to the channel of
every object that has registered it, if that is not full; and the next step keeps
it so exactly when it is admissible. -/
theorem signals_reach_their_object (s s' : State)
    (h : Reach (step bsd) Bsd.Admissible initial s)
    (h' : Reach (step windows) Windows.Admissible initial s') :
    ((∀ i registered signum, s.registered i = some registered → signum ∈ registered →
        (occur bsd signum false s).channel i = s.channel i ++ [signum]) ∧
      ∀ a t, step bsd a s = some t → (Delivers bsd t ↔ Bsd.Admissible a s)) ∧
    (∀ i registered event, s'.registered i = some registered → event.signum ∈ registered →
        (occur windows event false s').channel i = s'.channel i ++ [event.signum]) ∧
      ∀ a t, step windows a s' = some t → (Delivers windows t ↔ Windows.Admissible a s') := by
  have hs : Delivers bsd s := h.invariant (delivers_initial bsd)
    fun _ _ _ hu hok hstep => (Bsd.delivers_step_iff hu hstep).mpr hok
  have hs' : Delivers windows s' := h'.invariant (delivers_initial windows)
    fun _ _ _ hu hok hstep => (Windows.delivers_step_iff hu hstep).mpr hok
  refine ⟨⟨?_, ?_⟩, ?_, ?_⟩
  · intro i registered signum hi hmem
    exact occur_channel (hs i registered signum hi hmem)
  · intro a t hstep
    exact Bsd.delivers_step_iff hs hstep
  · intro i registered event hi hmem
    exact occur_channel (hs' i registered event hi hmem)
  · intro a t hstep
    exact Windows.delivers_step_iff hs' hstep

/-- An object with one signal, on either system. -/
theorem signals_reach_single_object : ∃ s s' : State,
    (occur bsd (2 : Int) false s).channel 0 = [2] ∧
    (occur windows .ctrlC false s').channel 0 = [2] := by
  have h₁ : Reach (step bsd) Bsd.Admissible initial _ := .tail (.construct 0) .refl nofun rfl
  have h₂ : Reach (step bsd) Bsd.Admissible initial _ := .tail (.add 0 2) h₁ rfl rfl
  have h₁' : Reach (step windows) Windows.Admissible initial _ :=
    .tail (.construct 0) .refl nofun rfl
  have h₂' : Reach (step windows) Windows.Admissible initial _ :=
    .tail (.add 0 2) h₁' (fun _ => ⟨rfl, .inl rfl⟩) rfl
  have h := signals_reach_their_object _ _ h₂ h₂'
  exact ⟨_, _, h.1.1 0 {2} 2 rfl (by decide), h.2.1 0 {2} .ctrlC rfl (by decide)⟩

/-- A second object is constructed after the first got a signal: the signal then
goes to the second, or to the default action. -/
theorem second_object_takes_over :
    (∃ s : State, Reachable (step bsd) initial s ∧ s.registered 0 = some {2} ∧
      Bsd.fate 2 s = .written 1) ∧
    ∃ s : State, Reachable (step windows) initial s ∧ s.registered 0 = some {2} ∧
      Windows.fate .ctrlC s = .defaultAction := by
  have h : Reachable (step bsd) initial _ :=
    reachable_of_run [.construct 0, .add 0 2, .construct 1] rfl
  have h' : Reachable (step windows) initial _ :=
    reachable_of_run [.construct 0, .add 0 2, .construct 1] rfl
  exact ⟨⟨_, h, rfl, by decide⟩, _, h', rfl, by decide⟩

end SelfPipe
