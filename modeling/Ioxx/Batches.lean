import Mathlib.Data.List.Nodup
import Mathlib.Data.List.TakeWhile
import Mathlib.Logic.Function.Basic

/-!
# Batches that stop at the first failure

A list of changes is applied in order; the first change that fails ends the
batch and leaves the earlier ones applied. For changes that each write one cell
of a map, and no two the same cell, the written cells are those of the longest
prefix of admitted changes.
-/

namespace Batches

variable {ι σ ε κ α : Type}

/-- The error that ended the batch, if any, and the state it leaves. -/
def applyAll (apply : ι → σ → Except ε σ) : List ι → σ → Option ε × σ
  | [], s => (none, s)
  | c :: rest, s => match apply c s with
    | .error e => (some e, s)
    | .ok t => applyAll apply rest t

theorem applyAll_append (apply : ι → σ → Except ε σ) (first second : List ι) (s : σ) :
    applyAll apply (first ++ second) s =
      if (applyAll apply first s).1.isSome then applyAll apply first s
      else applyAll apply second (applyAll apply first s).2 := by
  induction first generalizing s with
  | nil => rfl
  | cons c rest ih =>
    cases hc : apply c s with
    | error e => simp [applyAll, hc]
    | ok t => simpa [applyAll, hc] using ih t

/-- A change that writes one cell, if the cell's present content admits it. -/
structure Writes [DecidableEq κ] (apply : ι → (κ → α) → Except ε (κ → α)) (key : ι → κ)
    (value : ι → α) (admits : ι → α → Bool) : Prop where
  written : ∀ c s, admits c (s (key c)) = true → apply c s = .ok (Function.update s (key c) (value c))
  refused : ∀ c s, admits c (s (key c)) = false → ∃ e, apply c s = .error e

variable [DecidableEq κ] {apply : ι → (κ → α) → Except ε (κ → α)} {key : ι → κ} {value : ι → α}
  {admits : ι → α → Bool}

/-- The changes before the first that is not admitted. -/
def admitted (key : ι → κ) (admits : ι → α → Bool) (changes : List ι) (s : κ → α) : List ι :=
  changes.takeWhile fun c => admits c (s (key c))

/-- Writing one cell does not change what the changes of other cells find. -/
theorem admitted_update (changes : List ι) (s : κ → α) {k : κ} (v : α) (h : k ∉ changes.map key) :
    admitted key admits changes (Function.update s k v) = admitted key admits changes s := by
  induction changes with
  | nil => rfl
  | cons c rest ih =>
    simp only [List.map_cons, List.mem_cons, not_or] at h
    have hrest := ih h.2
    unfold admitted at hrest ⊢
    rw [List.takeWhile_cons, List.takeWhile_cons, hrest, Function.update_of_ne (Ne.symm h.1)]

/-- A batch succeeds exactly when every change finds its cell in order. -/
theorem applyAll_succeeds (hw : Writes apply key value admits) (changes : List ι)
    (hnodup : (changes.map key).Nodup) (s : κ → α) :
    (applyAll apply changes s).1 = none ↔ ∀ c ∈ changes, admits c (s (key c)) = true := by
  induction changes generalizing s with
  | nil => simp [applyAll]
  | cons c rest ih =>
    rw [List.map_cons, List.nodup_cons] at hnodup
    obtain ⟨hfresh, hrest⟩ := hnodup
    cases ha : admits c (s (key c)) with
    | false =>
      obtain ⟨e, he⟩ := hw.refused c s ha
      simp [applyAll, he, ha]
    | true =>
      have hsame : ∀ d ∈ rest, Function.update s (key c) (value c) (key d) = s (key d) := by
        intro d hd
        refine Function.update_of_ne ?_ _ _
        intro heq
        exact hfresh (heq ▸ List.mem_map_of_mem hd)
      simp only [applyAll, hw.written c s ha, ih hrest, List.forall_mem_cons, ha, true_and]
      constructor
      · intro h d hd; rw [← hsame d hd]; exact h d hd
      · intro h d hd; rw [hsame d hd]; exact h d hd

/-- Whether it succeeds or not, a batch writes the cells of its admitted prefix. -/
theorem applyAll_writes (hw : Writes apply key value admits) (changes : List ι)
    (hnodup : (changes.map key).Nodup) (s : κ → α) :
    (∀ c ∈ admitted key admits changes s, (applyAll apply changes s).2 (key c) = value c) ∧
    ∀ k, k ∉ (admitted key admits changes s).map key → (applyAll apply changes s).2 k = s k := by
  induction changes generalizing s with
  | nil => simp [applyAll, admitted]
  | cons c rest ih =>
    rw [List.map_cons, List.nodup_cons] at hnodup
    obtain ⟨hfresh, hrest⟩ := hnodup
    cases ha : admits c (s (key c)) with
    | false =>
      obtain ⟨e, he⟩ := hw.refused c s ha
      simp [applyAll, he, admitted, ha]
    | true =>
      obtain ⟨hin, hout⟩ := ih hrest (Function.update s (key c) (value c))
      have hadmitted : admitted key admits (c :: rest) s = c :: admitted key admits rest s := by
        simp [admitted, ha]
      have hnot : key c ∉ (admitted key admits rest s).map key := by
        intro hmem
        exact hfresh (List.Sublist.subset ((List.takeWhile_sublist _).map key) hmem)
      rw [admitted_update rest s _ hfresh] at hin hout
      simp only [applyAll, hw.written c s ha, hadmitted]
      refine ⟨?_, ?_⟩
      · intro d hd
        rcases List.mem_cons.mp hd with rfl | hd
        · rw [hout _ hnot, Function.update_self]
        · exact hin d hd
      · intro k hk
        simp only [List.map_cons, List.mem_cons, not_or] at hk
        rw [hout k hk.2, Function.update_of_ne hk.1]

end Batches
