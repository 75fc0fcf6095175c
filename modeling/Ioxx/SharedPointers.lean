import Ioxx.Maps
import Mathlib.Data.Finset.Card

/-!
# Shared pointers

Every place holds a pointer to an object or none. The control block of an object counts
its pointers, and the pointer that brings the count to zero destroys the object. The
count is that of the places, so an object is destroyed exactly when no place points to
it, and never twice.
-/

namespace SharedPointers

variable {κ ρ : Type}

/-- `made` and `destroyed` list the objects, latest first. -/
structure Heap (κ ρ : Type) where
  slots : κ → Option ρ
  count : ρ → Nat
  made : List ρ
  destroyed : List ρ

def Heap.empty : Heap κ ρ := ⟨fun _ => none, fun _ => 0, [], []⟩

/-- The counts are right, and what is destroyed is what nothing points to. -/
structure Counted (h : Heap κ ρ) : Prop where
  counts : ∀ r, ∃ places : Finset κ, (∀ place, place ∈ places ↔ h.slots place = some r) ∧
    h.count r = places.card
  made : ∀ place r, h.slots place = some r → r ∈ h.made
  known : ∀ r ∈ h.destroyed, r ∈ h.made
  alive : ∀ r ∈ h.made, r ∈ h.destroyed ↔ h.count r = 0
  once : h.destroyed.Nodup

theorem counted_empty : Counted (Heap.empty : Heap κ ρ) where
  counts _ := ⟨∅, by simp [Heap.empty], rfl⟩
  made := by simp [Heap.empty]
  known := by simp [Heap.empty]
  alive := by simp [Heap.empty]
  once := .nil

variable {h : Heap κ ρ} {place : κ} {pointer : Option ρ} {r : ρ}

/-- The objects that are pointed to are the ones that are counted. -/
theorem Counted.pointed (hcounted : Counted h) : 0 < h.count r ↔ ∃ place, h.slots place = some r := by
  obtain ⟨places, hplaces, hcard⟩ := hcounted.counts r
  rw [hcard, Finset.card_pos]
  exact exists_congr hplaces

theorem Counted.not_destroyed (hcounted : Counted h) (hslot : h.slots place = some r) :
    r ∉ h.destroyed := by
  rw [hcounted.alive r (hcounted.made place r hslot)]
  exact (hcounted.pointed.mpr ⟨place, hslot⟩).ne'

/-- An object that was made is destroyed exactly if nothing points to it. -/
theorem Counted.destroyed_iff (hcounted : Counted h) (hmade : r ∈ h.made) :
    r ∈ h.destroyed ↔ ∀ place, h.slots place ≠ some r := by
  rw [hcounted.alive r hmade, ← not_exists, ← hcounted.pointed, Nat.pos_iff_ne_zero, not_not]

variable [DecidableEq κ] [DecidableEq ρ]

/-- One pointer more. -/
def Heap.acquire (pointer : Option ρ) (h : Heap κ ρ) : Heap κ ρ :=
  match pointer with
  | none => h
  | some r => { h with count := Function.update h.count r (h.count r + 1) }

/-- One pointer less; the last one destroys the object. -/
def Heap.release (pointer : Option ρ) (h : Heap κ ρ) : Heap κ ρ :=
  match pointer with
  | none => h
  | some r => { h with
      count := Function.update h.count r (h.count r - 1)
      destroyed := if h.count r = 1 then r :: h.destroyed else h.destroyed }

/-- An assignment acquires the new pointer before it releases the old one. -/
def Heap.assign (place : κ) (pointer : Option ρ) (h : Heap κ ρ) : Heap κ ρ :=
  { h.acquire pointer with slots := Function.update h.slots place pointer }.release (h.slots place)

/-- A new object, for a place that points to nothing. -/
def Heap.make (place : κ) (r : ρ) (h : Heap κ ρ) : Heap κ ρ :=
  { h with
    slots := Function.update h.slots place (some r)
    count := Function.update h.count r 1
    made := r :: h.made }

def Heap.copy (place source : κ) (h : Heap κ ρ) : Heap κ ρ := h.assign place (h.slots source)

def Heap.move (place source : κ) (h : Heap κ ρ) : Heap κ ρ := (h.copy place source).assign source none

def Heap.reset (place : κ) (h : Heap κ ρ) : Heap κ ρ := h.assign place none

@[simp] theorem assign_slots (h : Heap κ ρ) (place : κ) (pointer : Option ρ) :
    (h.assign place pointer).slots = Function.update h.slots place pointer := by
  unfold Heap.assign Heap.release
  split <;> rfl

@[simp] theorem assign_made (h : Heap κ ρ) (place : κ) (pointer : Option ρ) :
    (h.assign place pointer).made = h.made := by
  unfold Heap.assign Heap.release Heap.acquire
  split <;> split <;> rfl

@[simp] theorem copy_slots (h : Heap κ ρ) (place source : κ) :
    (h.copy place source).slots = Function.update h.slots place (h.slots source) :=
  assign_slots h place _

@[simp] theorem move_slots (h : Heap κ ρ) (place source : κ) :
    (h.move place source).slots =
      Function.update (Function.update h.slots place (h.slots source)) source none := by
  rw [Heap.move, assign_slots, copy_slots]

@[simp] theorem reset_slots (h : Heap κ ρ) (place : κ) :
    (h.reset place).slots = Function.update h.slots place none :=
  assign_slots h place _

@[simp] theorem copy_made (h : Heap κ ρ) (place source : κ) : (h.copy place source).made = h.made :=
  assign_made h place _

@[simp] theorem move_made (h : Heap κ ρ) (place source : κ) : (h.move place source).made = h.made := by
  rw [Heap.move, assign_made, copy_made]

@[simp] theorem reset_made (h : Heap κ ρ) (place : κ) : (h.reset place).made = h.made :=
  assign_made h place _

omit [DecidableEq κ] in
theorem acquire_count (h : Heap κ ρ) (pointer : Option ρ) (r : ρ) :
    (h.acquire pointer).count r = h.count r + if pointer = some r then 1 else 0 := by
  cases pointer with
  | none => rfl
  | some r' =>
    by_cases hr : r = r'
    · subst hr
      simp [Heap.acquire]
    · simp [Heap.acquire, hr, Ne.symm hr]

theorem assign_count (h : Heap κ ρ) (place : κ) (pointer : Option ρ) (r : ρ) :
    (h.assign place pointer).count r =
      h.count r + (if pointer = some r then 1 else 0) - if h.slots place = some r then 1 else 0 := by
  rw [← acquire_count]
  unfold Heap.assign Heap.release
  cases hold : h.slots place with
  | none => rfl
  | some r' =>
    by_cases hr : r = r'
    · subst hr
      simp
    · simp [hr, Ne.symm hr]

theorem assign_destroyed (h : Heap κ ρ) (place : κ) (pointer : Option ρ) :
    (h.assign place pointer).destroyed = match h.slots place with
      | none => h.destroyed
      | some r => if (h.acquire pointer).count r = 1 then r :: h.destroyed else h.destroyed := by
  have hacquire : (h.acquire pointer).destroyed = h.destroyed := by
    cases pointer <;> rfl
  unfold Heap.assign Heap.release
  cases hold : h.slots place with
  | none => exact hacquire
  | some r => simp only [hacquire]

/-- Only the object that was pointed to may be destroyed. -/
theorem mem_assign_destroyed (h : Heap κ ρ) (place : κ) (pointer : Option ρ) (r : ρ) :
    r ∈ (h.assign place pointer).destroyed ↔
      r ∈ h.destroyed ∨ h.slots place = some r ∧ (h.acquire pointer).count r = 1 := by
  rw [assign_destroyed]
  cases hold : h.slots place with
  | none => simp
  | some last =>
    by_cases hr : r = last
    · subst hr
      dsimp only
      split <;> simp [*]
    · dsimp only
      split <;> simp [hr, Ne.symm hr]

/-- Assigning a pointer to an object that is alive keeps the counts right. -/
theorem Counted.assign (hcounted : Counted h) (hpointer : ∀ r, pointer = some r → 0 < h.count r) :
    Counted (h.assign place pointer) where
  counts r := by
    obtain ⟨places, hplaces, hcard⟩ := hcounted.counts r
    have hplace := hplaces place
    by_cases hnew : pointer = some r
    · refine ⟨insert place places, fun other => ?_, ?_⟩
      · by_cases hother : other = place
        · simp [hother, hnew]
        · simp [hother, hplaces]
      · by_cases hold : h.slots place = some r
        · rw [assign_count, if_pos hnew, if_pos hold, Finset.insert_eq_of_mem (hplace.mpr hold), hcard]
          omega
        · rw [assign_count, if_pos hnew, if_neg hold,
            Finset.card_insert_of_notMem (fun hmem => hold (hplace.mp hmem)), hcard]
          omega
    · refine ⟨places.erase place, fun other => ?_, ?_⟩
      · by_cases hother : other = place
        · simp [hother, hnew]
        · simp [hother, hplaces]
      · by_cases hold : h.slots place = some r
        · rw [assign_count, if_neg hnew, if_pos hold, Finset.card_erase_of_mem (hplace.mpr hold), hcard]
          omega
        · rw [assign_count, if_neg hnew, if_neg hold,
            Finset.erase_eq_of_notMem (fun hmem => hold (hplace.mp hmem)), hcard]
          omega
  made other r hslot := by
    rw [assign_slots] at hslot
    rw [assign_made]
    rcases Maps.update_eq_some hslot with ⟨_, hnew⟩ | ⟨_, hold⟩
    · obtain ⟨other, hother⟩ := hcounted.pointed.mp (hpointer r hnew)
      exact hcounted.made other r hother
    · exact hcounted.made other r hold
  known r hdestroyed := by
    rw [assign_made]
    rcases (mem_assign_destroyed h place pointer r).mp hdestroyed with hbefore | ⟨hold, _⟩
    · exact hcounted.known r hbefore
    · exact hcounted.made place r hold
  alive r hmade := by
    rw [assign_made] at hmade
    have hbefore := hcounted.alive r hmade
    rw [mem_assign_destroyed, assign_count, ← acquire_count]
    by_cases hold : h.slots place = some r
    · -- the object was pointed to, so it is destroyed now or not at all
      have hpositive := hcounted.pointed.mpr ⟨place, hold⟩
      have hacquired : 0 < (h.acquire pointer).count r := by
        rw [acquire_count]
        omega
      simp only [hcounted.not_destroyed hold, hold, true_and, false_or, if_true]
      omega
    · simp only [hold, false_and, or_false, if_false, Nat.sub_zero, hbefore, acquire_count]
      by_cases hnew : pointer = some r
      · have hpositive := hpointer r hnew
        rw [if_pos hnew]
        omega
      · rw [if_neg hnew]
        rfl
  once := by
    rw [assign_destroyed]
    split
    · exact hcounted.once
    · rename_i last hold
      split
      · exact List.nodup_cons.mpr ⟨hcounted.not_destroyed hold, hcounted.once⟩
      · exact hcounted.once

theorem Counted.make (hcounted : Counted h) (hempty : h.slots place = none) (hnew : r ∉ h.made) :
    Counted (h.make place r) := by
  have hunused : ∀ other, h.slots other ≠ some r := fun other hslot => hnew (hcounted.made other r hslot)
  refine ⟨fun r' => ?_, fun other r' hslot => ?_, fun r' hdestroyed => ?_, fun r' hmade => ?_, hcounted.once⟩
  · by_cases hr : r' = r
    · subst hr
      refine ⟨{place}, fun other => ?_, by simp [Heap.make]⟩
      by_cases hother : other = place
      · simp [Heap.make, hother]
      · simp [Heap.make, hother, hunused other]
    · obtain ⟨places, hplaces, hcard⟩ := hcounted.counts r'
      refine ⟨places, fun other => ?_, by simp [Heap.make, hr, hcard]⟩
      rw [hplaces]
      by_cases hother : other = place
      · simp [Heap.make, hother, hempty, Ne.symm hr]
      · simp [Heap.make, hother]
  · rcases Maps.update_some_eq_some hslot with ⟨_, rfl⟩ | ⟨_, hold⟩
    · exact List.mem_cons_self
    · exact List.mem_cons_of_mem _ (hcounted.made other r' hold)
  · exact List.mem_cons_of_mem _ (hcounted.known r' hdestroyed)
  · by_cases hr : r' = r
    · subst hr
      have hfresh : r' ∉ h.destroyed := fun hmem => hnew (hcounted.known r' hmem)
      simp [Heap.make, hfresh]
    · have hbefore := hcounted.alive r' ((List.mem_cons.mp hmade).resolve_left hr)
      simpa [Heap.make, hr] using hbefore

theorem Counted.copy (hcounted : Counted h) (place source : κ) : Counted (h.copy place source) :=
  hcounted.assign fun _ hslot => hcounted.pointed.mpr ⟨source, hslot⟩

theorem Counted.reset (hcounted : Counted h) (place : κ) : Counted (h.reset place) :=
  hcounted.assign fun _ hnone => by cases hnone

theorem Counted.move (hcounted : Counted h) (place source : κ) : Counted (h.move place source) :=
  (hcounted.copy place source).assign fun _ hnone => by cases hnone

end SharedPointers
