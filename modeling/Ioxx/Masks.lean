import Mathlib.Data.BitVec

/-!
# Event masks as sets of bits

A mask of any width is read as the set of its one bits. `Sub` and `Disj` are
inclusion and disjointness, stated by the bit operations that programs test.
-/

namespace Masks

variable {w : Nat}

/-- Every bit of `a` is a bit of `b`. -/
def Sub (a b : BitVec w) : Prop := a &&& ~~~b = 0#w

/-- No bit belongs to both masks. -/
def Disj (a b : BitVec w) : Prop := a &&& b = 0#w

instance (a b : BitVec w) : Decidable (Sub a b) := inferInstanceAs (Decidable (_ = _))
instance (a b : BitVec w) : Decidable (Disj a b) := inferInstanceAs (Decidable (_ = _))

theorem sub_iff (a b : BitVec w) : Sub a b ↔ ∀ i < w, a.getLsbD i = true → b.getLsbD i = true := by
  constructor
  · intro h i hi ha
    have hbit := congrArg (fun v : BitVec w => v.getLsbD i) h
    simpa [hi, ha] using hbit
  · intro h
    apply BitVec.eq_of_getLsbD_eq
    intro i hi
    cases ha : a.getLsbD i with
    | false => simp [ha]
    | true => simp [ha, hi, h i hi ha]

theorem disj_iff (a b : BitVec w) : Disj a b ↔ ∀ i < w, a.getLsbD i = true → b.getLsbD i = false := by
  constructor
  · intro h i hi ha
    have hbit := congrArg (fun v : BitVec w => v.getLsbD i) h
    simpa [ha] using hbit
  · intro h
    apply BitVec.eq_of_getLsbD_eq
    intro i hi
    cases ha : a.getLsbD i with
    | false => simp [ha]
    | true => simp [ha, h i hi ha]

theorem Sub.refl (a : BitVec w) : Sub a a := (sub_iff a a).mpr fun _ _ h => h

theorem Sub.trans {a b c : BitVec w} (hab : Sub a b) (hbc : Sub b c) : Sub a c :=
  (sub_iff a c).mpr fun i hi h => (sub_iff b c).mp hbc i hi ((sub_iff a b).mp hab i hi h)

/-- A part of a mask that misses `c` misses `c`. -/
theorem Disj.mono {a b c : BitVec w} (hab : Sub a b) (hbc : Disj b c) : Disj a c :=
  (disj_iff a c).mpr fun i hi h => (disj_iff b c).mp hbc i hi ((sub_iff a b).mp hab i hi h)

/-- Two masks that both miss `c` miss it together. -/
theorem Disj.or {a b c : BitVec w} (ha : Disj a c) (hb : Disj b c) : Disj (a ||| b) c := by
  rw [disj_iff]
  intro i hi h
  rw [BitVec.getLsbD_or, Bool.or_eq_true] at h
  rcases h with h | h
  · exact (disj_iff a c).mp ha i hi h
  · exact (disj_iff b c).mp hb i hi h

theorem Sub.eq_zero {a : BitVec w} (h : Sub a 0#w) : a = 0#w := by
  simpa only [Sub, BitVec.not_zero, BitVec.and_allOnes] using h

theorem and_sub_left (a b : BitVec w) : Sub (a &&& b) a := by
  rw [sub_iff]
  intro i _ h
  simp only [BitVec.getLsbD_and, Bool.and_eq_true] at h
  exact h.1

theorem and_sub_right (a b : BitVec w) : Sub (a &&& b) b := by
  rw [BitVec.and_comm]
  exact and_sub_left b a

theorem Sub.and {a b c : BitVec w} (hb : Sub a b) (hc : Sub a c) : Sub a (b &&& c) := by
  rw [sub_iff] at hb hc ⊢
  intro i hi ha
  rw [BitVec.getLsbD_and, hb i hi ha, hc i hi ha]
  rfl

theorem sub_or_right (a b : BitVec w) : Sub b (a ||| b) := by
  rw [sub_iff]
  intro i _ hb
  rw [BitVec.getLsbD_or, hb, Bool.or_true]

theorem sub_or_left (a b : BitVec w) : Sub a (a ||| b) := by
  rw [BitVec.or_comm]
  exact sub_or_right b a

/-- What `c` has in common with `a` is still there after it is cut to a wider mask. -/
theorem Sub.meets_cut {a b c : BitVec w} (h : Sub a b) (hmeets : c &&& a ≠ 0#w) : c &&& b &&& a ≠ 0#w := by
  intro hzero
  have hpart : Sub (c &&& a) (c &&& b &&& a) :=
    ((and_sub_left c a).and ((and_sub_right c a).trans h)).and (and_sub_right c a)
  rw [hzero] at hpart
  exact hmeets hpart.eq_zero

/-- Two masks with a bit in common still have it when one of them is widened. -/
theorem Sub.meets {a b c : BitVec w} (h : Sub a b) (hmeets : c &&& a ≠ 0#w) : c &&& b ≠ 0#w := by
  intro hzero
  refine h.meets_cut hmeets ?_
  rw [hzero, BitVec.zero_and]

/-- Clearing bits that miss `a` keeps `a` inside. -/
theorem Sub.clear {a b c : BitVec w} (h : Sub a b) (hmiss : Disj c a) : Sub a (b &&& ~~~c) := by
  refine h.and ?_
  rw [sub_iff]
  intro i hi ha
  cases hc : c.getLsbD i with
  | false => rw [BitVec.getLsbD_not, decide_eq_true hi, hc]; rfl
  | true =>
    have hnot := (disj_iff c a).mp hmiss i hi hc
    rw [ha] at hnot
    cases hnot

/-- What is left of a mask after clearing `b` has nothing of `b`. -/
theorem clear_disj (a b : BitVec w) : Disj (a &&& ~~~b) b := by
  rw [disj_iff]
  intro i hi h
  simp only [BitVec.getLsbD_and, BitVec.getLsbD_not, Bool.and_eq_true, Bool.not_eq_true'] at h
  exact h.2.2

end Masks
