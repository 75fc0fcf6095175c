import Ioxx.Runs
import Mathlib.Logic.Function.Basic

/-!
# Mailboxes under names

Parties open boxes, give them names and send letters to a box; the owner takes the letters
in the order in which they came, or empties the box unread. A box keeps its name for good, and
several may have the same. Where a name leads is another matter, which may change at any time.
-/

namespace Mailboxes

open Runs

structure Letter (β : Type) where
  sender : Nat
  body : β
  deriving DecidableEq, Repr

inductive Life where
  | unused
  | opened
  | closed
  deriving DecidableEq, Repr

/-- `name` is what a box is called, `leads` where a name leads at the moment; `accepted`, `taken`
and `cleared` record what happened. -/
structure Office (ν β : Type) where
  life : Nat → Life
  name : Nat → Option ν
  leads : ν → Option Nat
  box : Nat → List (Letter β)
  accepted : Nat → List (Letter β)
  taken : Nat → List (Letter β)
  cleared : Nat → Bool

inductive Action (ν β : Type) where
  | opens (k : Nat)
  | names (k : Nat) (n : ν)
  | turns (leads : ν → Option Nat)
  | closes (k : Nat)
  | sends (sender target : Nat) (body : β)
  | takes (k : Nat)
  | clears (k : Nat)

def initial {ν β : Type} : Office ν β where
  life _ := .unused
  name _ := none
  leads _ := none
  box _ := []
  accepted _ := []
  taken _ := []
  cleared _ := false

variable {ν β : Type} {o o' : Office ν β} {k sender target : Nat} {body : β}

def Office.deliver (o : Office ν β) (sender target : Nat) (body : β) : Office ν β :=
  { o with
    box := Function.update o.box target (o.box target ++ [⟨sender, body⟩])
    accepted := Function.update o.accepted target (o.accepted target ++ [⟨sender, body⟩]) }

/-- Letters arrive once and in order, and none is missing while a box is open and never cleared. -/
structure Kept (o : Office ν β) : Prop where
  counted : ∀ k, o.cleared k = false → o.life k ≠ .closed → o.accepted k = o.taken k ++ o.box k
  started : ∀ k, o.cleared k = false → o.taken k <+: o.accepted k
  once : ∀ k, (o.taken k ++ o.box k).Sublist (o.accepted k)
  fresh : ∀ k, o.life k = .unused → o.taken k = [] ∧ o.cleared k = false

theorem initial_kept : Kept (initial : Office ν β) where
  counted _ _ _ := rfl
  started _ _ := List.prefix_rfl
  once _ := List.nil_sublist _
  fresh _ _ := ⟨rfl, rfl⟩

theorem Kept.opens (h : Kept o) (hunused : o.life k = .unused) :
    Kept { o with life := Function.update o.life k .opened } where
  counted other hcleared hother := by
    refine h.counted other hcleared fun hclosed => ?_
    by_cases hk : other = k
    · subst hk
      rw [hunused] at hclosed
      cases hclosed
    · exact hother ((Function.update_of_ne hk _ _).trans hclosed)
  started := h.started
  once := h.once
  fresh other hother := by
    by_cases hk : other = k
    · subst hk
      exact h.fresh other hunused
    · exact h.fresh other ((Function.update_of_ne hk _ _).symm.trans hother)

theorem Kept.closes (h : Kept o) :
    Kept { o with life := Function.update o.life k .closed, box := Function.update o.box k [] } where
  counted other hcleared hother := by
    have hk : other ≠ k := by
      rintro rfl
      exact hother (Function.update_self other Life.closed o.life)
    simp only [Function.update_of_ne hk] at hother ⊢
    exact h.counted other hcleared hother
  started := h.started
  once other := by
    by_cases hk : other = k
    · subst hk
      simp only [Function.update_self, List.append_nil]
      exact (List.sublist_append_left _ _).trans (h.once other)
    · simp only [Function.update_of_ne hk]
      exact h.once other
  fresh other hother := by
    by_cases hk : other = k
    · subst hk
      simp only [Function.update_self] at hother
      cases hother
    · exact h.fresh other ((Function.update_of_ne hk _ _).symm.trans hother)

theorem Kept.clears (h : Kept o) (hopen : o.life k = .opened) :
    Kept { o with box := Function.update o.box k [], cleared := Function.update o.cleared k true } where
  counted other hcleared hother := by
    have hk : other ≠ k := by
      rintro rfl
      simp only [Function.update_self] at hcleared
      cases hcleared
    simp only [Function.update_of_ne hk] at hcleared ⊢
    exact h.counted other hcleared hother
  started other hcleared := by
    have hk : other ≠ k := by
      rintro rfl
      simp only [Function.update_self] at hcleared
      cases hcleared
    exact h.started other ((Function.update_of_ne hk _ _).symm.trans hcleared)
  once other := by
    by_cases hk : other = k
    · subst hk
      simp only [Function.update_self, List.append_nil]
      exact (List.sublist_append_left _ _).trans (h.once other)
    · simp only [Function.update_of_ne hk]
      exact h.once other
  fresh other hother := by
    have hk : other ≠ k := by
      rintro rfl
      rw [hopen] at hother
      cases hother
    simp only [Function.update_of_ne hk]
    exact h.fresh other hother

theorem Kept.deliver (h : Kept o) : Kept (o.deliver sender target body) where
  counted k hcleared hk := by
    by_cases htarget : k = target
    · subst htarget
      simp only [Office.deliver, Function.update_self, h.counted k hcleared hk, List.append_assoc]
    · simp only [Office.deliver, Function.update_of_ne htarget]
      exact h.counted k hcleared hk
  started k hcleared := by
    by_cases htarget : k = target
    · subst htarget
      simp only [Office.deliver, Function.update_self]
      exact (h.started k hcleared).trans (List.prefix_append _ _)
    · simp only [Office.deliver, Function.update_of_ne htarget]
      exact h.started k hcleared
  once k := by
    by_cases htarget : k = target
    · subst htarget
      simp only [Office.deliver, Function.update_self, ← List.append_assoc]
      exact (h.once k).append_right _
    · simp only [Office.deliver, Function.update_of_ne htarget]
      exact h.once k
  fresh := h.fresh

theorem Kept.takes (h : Kept o) (hopen : o.life k = .opened) {letter : Letter β}
    {rest : List (Letter β)} (hbox : o.box k = letter :: rest) :
    Kept { o with
      box := Function.update o.box k rest
      taken := Function.update o.taken k (o.taken k ++ [letter]) } := by
  have hsame : ∀ other, Function.update o.taken k (o.taken k ++ [letter]) other ++
      Function.update o.box k rest other = o.taken other ++ o.box other := by
    intro other
    by_cases hk : other = k
    · subst hk
      simp only [Function.update_self, hbox, List.append_assoc, List.singleton_append]
    · simp only [Function.update_of_ne hk]
  refine ⟨fun other hcleared hother => ?_, fun other hcleared => ?_, fun other => ?_, fun other hother => ?_⟩
  · exact (h.counted other hcleared hother).trans (hsame other).symm
  · by_cases hk : other = k
    · subst hk
      have hcounted := (h.counted other hcleared (by rw [hopen]; decide)).trans (hsame other).symm
      rw [hcounted]
      exact List.prefix_append _ _
    · simp only [Function.update_of_ne hk]
      exact h.started other hcleared
  · exact (hsame other) ▸ h.once other
  · have hk : other ≠ k := by
      rintro rfl
      rw [hopen] at hother
      cases hother
    simp only [Function.update_of_ne hk]
    exact h.fresh other hother

/-- What is unread in a box that is closed or cleared is gone. -/
def step (action : Action ν β) (o : Office ν β) : Option (Office ν β) :=
  match action with
  | .opens k => if o.life k = .unused then some { o with life := Function.update o.life k .opened } else none
  | .names k n =>
    if o.life k = .opened ∧ o.name k = none then some { o with name := Function.update o.name k (some n) }
    else none
  | .turns leads => some { o with leads := leads }
  | .closes k =>
    if o.life k = .opened then
      some { o with life := Function.update o.life k .closed, box := Function.update o.box k [] }
    else none
  | .sends sender target body =>
    if o.life sender = .opened ∧ o.life target = .opened then some (o.deliver sender target body) else none
  | .takes k =>
    if o.life k = .opened then
      match o.box k with
      | [] => none
      | letter :: rest => some { o with
          box := Function.update o.box k rest
          taken := Function.update o.taken k (o.taken k ++ [letter]) }
    else none
  | .clears k =>
    if o.life k = .opened then
      some { o with box := Function.update o.box k [], cleared := Function.update o.cleared k true }
    else none

theorem step_kept (a : Action ν β) (h : Kept o) (hstep : step a o = some o') : Kept o' := by
  cases a with
  | opens k =>
    obtain ⟨hunused, heq⟩ := Option.ite_none_right_eq_some.mp hstep
    cases heq
    exact h.opens hunused
  | names k n =>
    obtain ⟨_, heq⟩ := Option.ite_none_right_eq_some.mp hstep
    cases heq
    exact ⟨h.counted, h.started, h.once, h.fresh⟩
  | turns leads =>
    cases hstep
    exact ⟨h.counted, h.started, h.once, h.fresh⟩
  | closes k =>
    obtain ⟨_, heq⟩ := Option.ite_none_right_eq_some.mp hstep
    cases heq
    exact h.closes
  | sends sender target body =>
    obtain ⟨_, heq⟩ := Option.ite_none_right_eq_some.mp hstep
    cases heq
    exact h.deliver
  | takes k =>
    obtain ⟨hopen, heq⟩ := Option.ite_none_right_eq_some.mp hstep
    cases hbox : o.box k with
    | nil =>
      rw [hbox] at heq
      cases heq
    | cons letter rest =>
      rw [hbox] at heq
      cases heq
      exact h.takes hopen hbox
  | clears k =>
    obtain ⟨hopen, heq⟩ := Option.ite_none_right_eq_some.mp hstep
    cases heq
    exact h.clears hopen

/-- What an action leaves of a box: only its owner takes letters or clears it, it keeps its name,
and it is closed for good. -/
structure Keeps (action : Action ν β) (k : Nat) (o o' : Office ν β) : Prop where
  taken : action ≠ .takes k → o'.taken k = o.taken k
  cleared : action ≠ .clears k → o'.cleared k = o.cleared k
  named : ∀ n, o.name k = some n → o'.name k = some n
  closed : o.life k = .closed → o'.life k = .closed

theorem step_keeps {a : Action ν β} (hstep : step a o = some o') (k : Nat) : Keeps a k o o' := by
  cases a with
  | opens other =>
    obtain ⟨hunused, heq⟩ := Option.ite_none_right_eq_some.mp hstep
    cases heq
    refine ⟨fun _ => rfl, fun _ => rfl, fun _ hname => hname, fun hclosed => ?_⟩
    have hk : k ≠ other := by
      rintro rfl
      rw [hunused] at hclosed
      cases hclosed
    exact (Function.update_of_ne hk _ _).trans hclosed
  | names other m =>
    obtain ⟨⟨_, hunnamed⟩, heq⟩ := Option.ite_none_right_eq_some.mp hstep
    cases heq
    refine ⟨fun _ => rfl, fun _ => rfl, fun n hname => ?_, id⟩
    have hk : k ≠ other := by
      rintro rfl
      rw [hunnamed] at hname
      cases hname
    exact (Function.update_of_ne hk _ _).trans hname
  | turns leads =>
    cases hstep
    exact ⟨fun _ => rfl, fun _ => rfl, fun _ hname => hname, id⟩
  | closes other =>
    obtain ⟨_, heq⟩ := Option.ite_none_right_eq_some.mp hstep
    cases heq
    refine ⟨fun _ => rfl, fun _ => rfl, fun _ hname => hname, fun hclosed => ?_⟩
    by_cases hk : k = other
    · subst hk
      exact Function.update_self _ _ _
    · exact (Function.update_of_ne hk _ _).trans hclosed
  | sends sender target body =>
    obtain ⟨_, heq⟩ := Option.ite_none_right_eq_some.mp hstep
    cases heq
    exact ⟨fun _ => rfl, fun _ => rfl, fun _ hname => hname, id⟩
  | takes other =>
    obtain ⟨_, heq⟩ := Option.ite_none_right_eq_some.mp hstep
    cases hbox : o.box other with
    | nil =>
      rw [hbox] at heq
      cases heq
    | cons letter rest =>
      rw [hbox] at heq
      cases heq
      refine ⟨fun htakes => ?_, fun _ => rfl, fun _ hname => hname, id⟩
      have hk : k ≠ other := by
        rintro rfl
        exact htakes rfl
      exact Function.update_of_ne hk _ _
  | clears other =>
    obtain ⟨_, heq⟩ := Option.ite_none_right_eq_some.mp hstep
    cases heq
    refine ⟨fun _ => rfl, fun hclears => ?_, fun _ hname => hname, id⟩
    have hk : k ≠ other := by
      rintro rfl
      exact hclears rfl
    exact Function.update_of_ne hk _ _

end Mailboxes
