import Mathlib.Logic.Relation
import Mathlib.Data.List.Nodup
import Ioxx.Maps

/-!
# A ledger of names that are held by one object each

A name stands for a resource: it is issued, held by an object or by nobody here,
and once its resource is closed it may be issued again for another one. Resources
are numbered in the order of issue, so the ledger can tell two of them apart that
had the same name. `Legal` are the entries a careful program makes; `Balanced` is
what they keep.
-/

namespace Ownership

open Maps

variable {ο ν : Type}

/-- `outside` are the resources that no object answers for. `closed` records what
each close hit, latest first, with `none` for a name that stood for nothing. -/
structure Ledger (ο ν : Type) where
  names : ν → Option Nat
  issued : Nat
  outside : List Nat
  held : ο → Option ν
  closed : List (Option Nat)

namespace Ledger

variable [DecidableEq ο] [DecidableEq ν]

def issue (name : ν) (l : Ledger ο ν) : Ledger ο ν :=
  { l with
    names := Function.update l.names name (some l.issued)
    issued := l.issued + 1
    outside := l.issued :: l.outside }

/-- A resource outside is closed there. -/
def dispose (name : ν) (n : Nat) (l : Ledger ο ν) : Ledger ο ν :=
  { l with names := Function.update l.names name none, outside := l.outside.erase n }

def adopt (a : ο) (name : ν) (n : Nat) (l : Ledger ο ν) : Ledger ο ν :=
  { l with held := Function.update l.held a (some name), outside := l.outside.erase n }

def surrender (a : ο) (n : Nat) (l : Ledger ο ν) : Ledger ο ν :=
  { l with held := Function.update l.held a none, outside := n :: l.outside }

/-- One object hands its name to another that has none. -/
def pass (a b : ο) (l : Ledger ο ν) : Ledger ο ν :=
  { l with held := Function.update (Function.update l.held b (l.held a)) a none }

/-- An object closes the name it holds. -/
def drop (a : ο) (name : ν) (l : Ledger ο ν) : Ledger ο ν :=
  { l with
    names := Function.update l.names name none
    held := Function.update l.held a none
    closed := l.names name :: l.closed }

end Ledger

/-- The entries of a program that closes only what it holds. -/
inductive Legal [DecidableEq ο] [DecidableEq ν] (l : Ledger ο ν) : Ledger ο ν → Prop where
  | issue (name : ν) (free : l.names name = none) : Legal l (l.issue name)
  | dispose (name : ν) (n : Nat) (stands : l.names name = some n) (mem : n ∈ l.outside) :
      Legal l (l.dispose name n)
  | adopt (a : ο) (name : ν) (n : Nat) (idle : l.held a = none) (stands : l.names name = some n)
      (mem : n ∈ l.outside) : Legal l (l.adopt a name n)
  | surrender (a : ο) (name : ν) (n : Nat) (holds : l.held a = some name)
      (stands : l.names name = some n) : Legal l (l.surrender a n)
  | pass (a b : ο) (other : a ≠ b) (idle : l.held b = none) : Legal l (l.pass a b)
  | drop (a : ο) (name : ν) (holds : l.held a = some name) : Legal l (l.drop a name)

/-- Every resource has one name, and it is outside or held by one object; what was
closed has no name any more, and no close hit nothing. -/
structure Balanced (l : Ledger ο ν) : Prop where
  numbered : ∀ name n, l.names name = some n → n < l.issued
  once : ∀ name name' n, l.names name = some n → l.names name' = some n → name = name'
  outside : ∀ n ∈ l.outside, ∃ name, l.names name = some n
  distinct : l.outside.Nodup
  exclusive : ∀ a b name, l.held a = some name → l.held b = some name → a = b
  stands : ∀ a name, l.held a = some name → ∃ n, l.names name = some n ∧ n ∉ l.outside
  answered : ∀ name n, l.names name = some n → n ∈ l.outside ∨ ∃ a, l.held a = some name
  hit : ∀ entry ∈ l.closed, ∃ n, entry = some n ∧ n < l.issued ∧ ∀ name, l.names name ≠ some n
  closedOnce : l.closed.Nodup

def Ledger.empty : Ledger ο ν := ⟨fun _ => none, 0, [], fun _ => none, []⟩

theorem balanced_empty : Balanced (Ledger.empty : Ledger ο ν) where
  numbered _ _ h := by cases h
  once _ _ _ h := by cases h
  outside _ h := by cases h
  distinct := List.nodup_nil
  exclusive _ _ _ h := by cases h
  stands _ _ h := by cases h
  answered _ _ h := by cases h
  hit _ h := by cases h
  closedOnce := List.nodup_nil

variable {l m : Ledger ο ν}

/-- A name that stands for a resource outside is held by nobody. -/
theorem Balanced.not_held (h : Balanced l) {name : ν} {n : Nat} (hn : l.names name = some n)
    (hmem : n ∈ l.outside) (a : ο) : l.held a ≠ some name := by
  intro ha
  obtain ⟨k, hk, hin⟩ := h.stands a name ha
  rw [hn] at hk
  cases hk
  exact hin hmem

section names

variable [DecidableEq ν]

theorem Balanced.issue (h : Balanced l) {name : ν} (hfree : l.names name = none) :
    Balanced (l.issue name) where
  numbered other n hother := by
    rcases update_some_eq_some hother with ⟨_, rfl⟩ | ⟨_, hold⟩
    · exact Nat.lt_succ_self l.issued
    · exact Nat.lt_succ_of_lt (h.numbered other n hold)
  once first second n hfirst hsecond := by
    rcases update_some_eq_some hfirst with ⟨rfl, rfl⟩ | ⟨_, hold⟩ <;>
      rcases update_some_eq_some hsecond with ⟨rfl, hn⟩ | ⟨_, hold'⟩
    · rfl
    · exact absurd (h.numbered second _ hold') (Nat.lt_irrefl _)
    · exact absurd (h.numbered first n hold) (by omega)
    · exact h.once first second n hold hold'
  outside n hn := by
    rcases List.mem_cons.mp hn with rfl | hn
    · exact ⟨name, Function.update_self _ _ _⟩
    · obtain ⟨other, hother⟩ := h.outside n hn
      refine ⟨other, ?_⟩
      have hne : other ≠ name := by
        rintro rfl
        rw [hfree] at hother
        cases hother
      exact (Function.update_of_ne hne _ _).trans hother
  distinct := by
    refine List.nodup_cons.mpr ⟨fun hmem => ?_, h.distinct⟩
    obtain ⟨other, hother⟩ := h.outside _ hmem
    exact Nat.lt_irrefl _ (h.numbered other _ hother)
  exclusive := h.exclusive
  stands a other hother := by
    obtain ⟨n, hn, hin⟩ := h.stands a other hother
    have hne : other ≠ name := by
      rintro rfl
      rw [hfree] at hn
      cases hn
    refine ⟨n, (Function.update_of_ne hne _ _).trans hn, fun hmem => ?_⟩
    rcases List.mem_cons.mp hmem with rfl | hmem
    · exact Nat.lt_irrefl _ (h.numbered other _ hn)
    · exact hin hmem
  answered other n hother := by
    rcases update_some_eq_some hother with ⟨_, rfl⟩ | ⟨_, hold⟩
    · exact .inl List.mem_cons_self
    · exact (h.answered other n hold).imp_left (List.mem_cons_of_mem _)
  hit entry hentry := by
    obtain ⟨n, rfl, hn, hgone⟩ := h.hit entry hentry
    refine ⟨n, rfl, Nat.lt_succ_of_lt hn, fun other hother => ?_⟩
    rcases update_some_eq_some hother with ⟨_, rfl⟩ | ⟨_, hold⟩
    · exact Nat.lt_irrefl _ hn
    · exact hgone other hold
  closedOnce := h.closedOnce

theorem Balanced.dispose (h : Balanced l) {name : ν} {n : Nat} (hn : l.names name = some n)
    (hmem : n ∈ l.outside) : Balanced (l.dispose name n) where
  numbered other k hk := h.numbered other k (update_none_eq_some hk).2
  once first second k hfirst hsecond :=
    h.once first second k (update_none_eq_some hfirst).2 (update_none_eq_some hsecond).2
  outside k hk := by
    obtain ⟨hne, hk⟩ := (h.distinct.mem_erase_iff).mp hk
    obtain ⟨other, hother⟩ := h.outside k hk
    refine ⟨other, ?_⟩
    have hname : other ≠ name := by
      rintro rfl
      rw [hn] at hother
      exact hne (Option.some.inj hother).symm
    exact (Function.update_of_ne hname _ _).trans hother
  distinct := h.distinct.erase n
  exclusive := h.exclusive
  stands a other hother := by
    obtain ⟨k, hk, hin⟩ := h.stands a other hother
    have hname : other ≠ name := by
      rintro rfl
      exact h.not_held hn hmem a hother
    exact ⟨k, (Function.update_of_ne hname _ _).trans hk, fun hk => hin (List.mem_of_mem_erase hk)⟩
  answered other k hk := by
    obtain ⟨hname, hold⟩ := update_none_eq_some hk
    rcases h.answered other k hold with hout | hheld
    · refine .inl (h.distinct.mem_erase_iff.mpr ⟨?_, hout⟩)
      rintro rfl
      exact hname (h.once other name k hold hn)
    · exact .inr hheld
  hit entry hentry := by
    obtain ⟨k, hk, hlt, hgone⟩ := h.hit entry hentry
    exact ⟨k, hk, hlt, fun other hother => hgone other (update_none_eq_some hother).2⟩
  closedOnce := h.closedOnce

end names

section holders

variable [DecidableEq ο]

theorem Balanced.adopt (h : Balanced l) {a : ο} {name : ν} {n : Nat} (hidle : l.held a = none)
    (hn : l.names name = some n) (hmem : n ∈ l.outside) : Balanced (l.adopt a name n) where
  numbered := h.numbered
  once := h.once
  outside k hk := h.outside k (List.mem_of_mem_erase hk)
  distinct := h.distinct.erase n
  exclusive first second other hfirst hsecond := by
    rcases update_some_eq_some hfirst with ⟨rfl, rfl⟩ | ⟨_, hold⟩ <;>
      rcases update_some_eq_some hsecond with ⟨rfl, hname⟩ | ⟨_, hold'⟩
    · rfl
    · exact absurd hold' (h.not_held hn hmem second)
    · subst hname
      exact absurd hold (h.not_held hn hmem first)
    · exact h.exclusive first second other hold hold'
  stands b other hother := by
    rcases update_some_eq_some hother with ⟨_, rfl⟩ | ⟨_, hold⟩
    · exact ⟨n, hn, fun hk => (h.distinct.mem_erase_iff.mp hk).1 rfl⟩
    · obtain ⟨k, hk, hin⟩ := h.stands b other hold
      exact ⟨k, hk, fun hmem => hin (List.mem_of_mem_erase hmem)⟩
  answered other k hk := by
    by_cases hname : other = name
    · subst hname
      exact .inr ⟨a, Function.update_self _ _ _⟩
    · rcases h.answered other k hk with hout | ⟨b, hb⟩
      · refine .inl (h.distinct.mem_erase_iff.mpr ⟨?_, hout⟩)
        rintro rfl
        exact hname (h.once other name k hk hn)
      · refine .inr ⟨b, ?_⟩
        have hne : b ≠ a := by
          rintro rfl
          rw [hidle] at hb
          cases hb
        exact (Function.update_of_ne hne _ _).trans hb
  hit := h.hit
  closedOnce := h.closedOnce

theorem Balanced.surrender (h : Balanced l) {a : ο} {name : ν} {n : Nat}
    (hheld : l.held a = some name) (hn : l.names name = some n) : Balanced (l.surrender a n) where
  numbered := h.numbered
  once := h.once
  outside k hk := by
    rcases List.mem_cons.mp hk with rfl | hk
    · exact ⟨name, hn⟩
    · exact h.outside k hk
  distinct := by
    refine List.nodup_cons.mpr ⟨fun hmem => ?_, h.distinct⟩
    exact h.not_held hn hmem a hheld
  exclusive first second other hfirst hsecond :=
    h.exclusive first second other (update_none_eq_some hfirst).2 (update_none_eq_some hsecond).2
  stands b other hother := by
    obtain ⟨hne, hold⟩ := update_none_eq_some hother
    obtain ⟨k, hk, hin⟩ := h.stands b other hold
    refine ⟨k, hk, fun hmem => ?_⟩
    rcases List.mem_cons.mp hmem with rfl | hmem
    · have hname := h.once other name k hk hn
      subst hname
      exact hne (h.exclusive b a other hold hheld)
    · exact hin hmem
  answered other k hk := by
    rcases h.answered other k hk with hout | ⟨b, hb⟩
    · exact .inl (List.mem_cons_of_mem _ hout)
    · by_cases hne : b = a
      · subst hne
        rw [hheld] at hb
        cases hb
        have hnk : n = k := Option.some.inj (hn.symm.trans hk)
        subst hnk
        exact .inl List.mem_cons_self
      · exact .inr ⟨b, (Function.update_of_ne hne _ _).trans hb⟩
  hit := h.hit
  closedOnce := h.closedOnce

/-- Who holds a name after it was passed on: the receiver, or an object that is
neither of the two. -/
theorem pass_held {a b c : ο} {name : ν} (h : (l.pass a b).held c = some name) :
    c ≠ a ∧ ((c = b ∧ l.held a = some name) ∨ (c ≠ b ∧ l.held c = some name)) := by
  obtain ⟨hca, h⟩ := update_none_eq_some h
  exact ⟨hca, update_eq_some h⟩

theorem Balanced.pass (h : Balanced l) {a b : ο} (hother : a ≠ b) (hidle : l.held b = none) :
    Balanced (l.pass a b) where
  numbered := h.numbered
  once := h.once
  outside := h.outside
  distinct := h.distinct
  exclusive first second name hfirst hsecond := by
    obtain ⟨hfa, ⟨rfl, ha⟩ | ⟨_, hf⟩⟩ := pass_held hfirst <;>
      obtain ⟨hsa, ⟨rfl, ha'⟩ | ⟨_, hs⟩⟩ := pass_held hsecond
    · rfl
    · exact absurd (h.exclusive second a name hs ha) hsa
    · exact absurd (h.exclusive first a name hf ha') hfa
    · exact h.exclusive first second name hf hs
  stands c name hc := by
    obtain ⟨_, ⟨_, ha⟩ | ⟨_, hold⟩⟩ := pass_held hc
    · exact h.stands a name ha
    · exact h.stands c name hold
  answered name n hn := by
    rcases h.answered name n hn with hout | ⟨c, hc⟩
    · exact .inl hout
    · right
      by_cases hca : c = a
      · subst hca
        refine ⟨b, ?_⟩
        simp only [Ledger.pass, Function.update_of_ne hother.symm, Function.update_self, hc]
      · have hcb : c ≠ b := by
          rintro rfl
          rw [hidle] at hc
          cases hc
        refine ⟨c, ?_⟩
        simp only [Ledger.pass, Function.update_of_ne hca, Function.update_of_ne hcb, hc]
  hit := h.hit
  closedOnce := h.closedOnce

end holders

variable [DecidableEq ο] [DecidableEq ν]

theorem Balanced.drop (h : Balanced l) {a : ο} {name : ν} (hheld : l.held a = some name) :
    Balanced (l.drop a name) := by
  obtain ⟨n, hn, hin⟩ := h.stands a name hheld
  have hgone : ∀ other, Function.update l.names name none other ≠ some n := by
    intro other hother
    obtain ⟨hne, hold⟩ := update_none_eq_some hother
    exact hne (h.once other name n hold hn)
  exact {
    numbered := fun other k hk => h.numbered other k (update_none_eq_some hk).2
    once := fun first second k hfirst hsecond =>
      h.once first second k (update_none_eq_some hfirst).2 (update_none_eq_some hsecond).2
    outside := fun k hk => by
      obtain ⟨other, hother⟩ := h.outside k hk
      refine ⟨other, ?_⟩
      have hname : other ≠ name := by
        rintro rfl
        rw [hn] at hother
        cases hother
        exact hin hk
      exact (Function.update_of_ne hname _ _).trans hother
    distinct := h.distinct
    exclusive := fun first second other hfirst hsecond =>
      h.exclusive first second other (update_none_eq_some hfirst).2 (update_none_eq_some hsecond).2
    stands := fun b other hother => by
      obtain ⟨hne, hold⟩ := update_none_eq_some hother
      obtain ⟨k, hk, hout⟩ := h.stands b other hold
      have hname : other ≠ name := by
        rintro rfl
        exact hne (h.exclusive b a other hold hheld)
      exact ⟨k, (Function.update_of_ne hname _ _).trans hk, hout⟩
    answered := fun other k hk => by
      obtain ⟨hname, hk⟩ := update_none_eq_some hk
      rcases h.answered other k hk with hout | ⟨b, hb⟩
      · exact .inl hout
      · refine .inr ⟨b, ?_⟩
        have hne : b ≠ a := by
          rintro rfl
          rw [hheld] at hb
          exact hname (Option.some.inj hb).symm
        exact (Function.update_of_ne hne _ _).trans hb
    hit := fun entry hentry => by
      rcases List.mem_cons.mp hentry with rfl | hentry
      · exact ⟨n, hn, h.numbered name n hn, hgone⟩
      · obtain ⟨k, hk, hlt, hgone'⟩ := h.hit entry hentry
        exact ⟨k, hk, hlt, fun other hother => hgone' other (update_none_eq_some hother).2⟩
    closedOnce := by
      refine List.nodup_cons.mpr ⟨fun hmem => ?_, h.closedOnce⟩
      obtain ⟨k, hk, _, hnever⟩ := h.hit _ hmem
      rw [hn] at hk
      cases hk
      exact hnever name hn }

theorem Legal.balanced (h : Legal l m) (hl : Balanced l) : Balanced m := by
  cases h with
  | issue name free => exact hl.issue free
  | dispose name n stands mem => exact hl.dispose stands mem
  | adopt a name n idle stands mem => exact hl.adopt idle stands mem
  | surrender a name n holds stands => exact hl.surrender holds stands
  | pass a b other idle => exact hl.pass other idle
  | drop a name holds => exact hl.drop holds

/-- Any number of legal entries, one after another. -/
abbrev Entries : Ledger ο ν → Ledger ο ν → Prop := Relation.ReflTransGen Legal

theorem Entries.balanced (h : Entries l m) (hl : Balanced l) : Balanced m := by
  induction h with
  | refl => exact hl
  | tail _ hlegal ih => exact hlegal.balanced ih

end Ownership
