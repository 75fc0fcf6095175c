import Mathlib.Data.List.Basic

/-!
# Reading a channel until it has no more records

A loop that reads one record after another and stops at the first read that brings
none, with or without an error. What a read brings may depend on its number, so that
it may fail at any time. `drain_eq_iff` takes a loop apart into the reads that brought
a record and the one that ended it, and `Reads.items` turns the reads of a channel
that holds a list of items into a front part of the list.
-/

namespace Draining

/-- What one read brings. -/
inductive Turn (ρ ε : Type) where
  | record (r : ρ)
  | stop
  | failed (e : ε)

/-- Every record that is read makes a channel smaller. -/
structure Channel (σ ρ ε : Type) where
  read : Nat → σ → Turn ρ ε × σ
  size : σ → Nat
  shrinks : ∀ {n s r t}, read n s = (.record r, t) → size t < size s

variable {σ ρ ε ι : Type} {c : Channel σ ρ ε}

/-- The loop, with the records taken so far. -/
def Channel.drain (c : Channel σ ρ ε) (n : Nat) (taken : List ρ) (s : σ) : Option ε × List ρ × σ :=
  match _h : c.read n s with
  | (.record r, t) => c.drain (n + 1) (taken ++ [r]) t
  | (.stop, t) => (none, taken, t)
  | (.failed e, t) => (some e, taken, t)
termination_by c.size s
decreasing_by exact c.shrinks _h

variable {n m : Nat} {taken rs : List ρ} {s t u : σ}

/-- One turn of the loop. -/
theorem drain_eq : c.drain n taken s =
    match c.read n s with
    | (.record r, t) => c.drain (n + 1) (taken ++ [r]) t
    | (.stop, t) => (none, taken, t)
    | (.failed e, t) => (some e, taken, t) := by
  rw [Channel.drain]
  split <;> simp only [*]

theorem drain_record {r : ρ} (h : c.read n s = (.record r, t)) :
    c.drain n taken s = c.drain (n + 1) (taken ++ [r]) t := by
  rw [drain_eq, h]

theorem drain_stop (h : c.read n s = (.stop, t)) : c.drain n taken s = (none, taken, t) := by
  rw [drain_eq, h]

theorem drain_failed {e : ε} (h : c.read n s = (.failed e, t)) :
    c.drain n taken s = (some e, taken, t) := by
  rw [drain_eq, h]

/-- Reads that each bring a record. -/
inductive Reads (c : Channel σ ρ ε) : Nat → σ → List ρ → Nat → σ → Prop where
  | nil (n : Nat) (s : σ) : Reads c n s [] n s
  | cons {n m : Nat} {s t u : σ} {r : ρ} {rs : List ρ} (h : c.read n s = (.record r, t))
      (rest : Reads c (n + 1) t rs m u) : Reads c n s (r :: rs) m u

/-- The read that ends a loop. -/
def Ends (c : Channel σ ρ ε) (m : Nat) (u : σ) (error : Option ε) (t : σ) : Prop :=
  (c.read m u = (.stop, t) ∧ error = none) ∨ ∃ e, c.read m u = (.failed e, t) ∧ error = some e

theorem Reads.drain {error : Option ε} (h : Reads c n s rs m u) (hend : Ends c m u error t) :
    c.drain n taken s = (error, taken ++ rs, t) := by
  induction h generalizing taken with
  | nil n s =>
    rw [List.append_nil]
    rcases hend with ⟨hstop, rfl⟩ | ⟨e, hfailed, rfl⟩
    · exact drain_stop hstop
    · exact drain_failed hfailed
  | cons hread rest ih =>
    rw [drain_record hread, ih hend, List.append_assoc, List.singleton_append]

/-- A loop is the reads that bring records, and one that ends it. -/
theorem exists_reads (c : Channel σ ρ ε) (n : Nat) (taken : List ρ) (s : σ) :
    ∃ rs m u, Reads c n s rs m u ∧ Ends c m u (c.drain n taken s).1 (c.drain n taken s).2.2 := by
  fun_induction c.drain n taken s with
  | case1 n taken s r t h ih =>
    obtain ⟨rs, m, u, hreads, hend⟩ := ih
    exact ⟨r :: rs, m, u, .cons h hreads, hend⟩
  | case2 n taken s t h => exact ⟨[], n, s, .nil n s, .inl ⟨h, rfl⟩⟩
  | case3 n taken s e t h => exact ⟨[], n, s, .nil n s, .inr ⟨e, h, rfl⟩⟩

theorem drain_eq_iff {error : Option ε} : c.drain n taken s = (error, rs, t) ↔
    ∃ brought m u, Reads c n s brought m u ∧ Ends c m u error t ∧ rs = taken ++ brought := by
  constructor
  · intro h
    obtain ⟨brought, m, u, hreads, hend⟩ := exists_reads c n taken s
    have hdrain : c.drain n taken s = _ := hreads.drain hend
    rw [h] at hdrain hend
    exact ⟨brought, m, u, hreads, hend, (Prod.mk.inj (Prod.mk.inj hdrain).2).1⟩
  · rintro ⟨brought, m, u, hreads, hend, rfl⟩
    exact hreads.drain hend

/-- Where every read takes the first of the items that a channel holds, the reads have
taken a front part of them. -/
theorem Reads.items {holds : List ι → σ} {full : ι → Prop} {record : ι → ρ}
    (htakes : ∀ n items r t, c.read n (holds items) = (.record r, t) →
      ∃ i rest, items = i :: rest ∧ full i ∧ r = record i ∧ t = holds rest)
    {items : List ι} (h : Reads c n (holds items) rs m u) :
    ∃ front rest, items = front ++ rest ∧ (∀ i ∈ front, full i) ∧ rs = front.map record ∧
      u = holds rest := by
  generalize hs : holds items = s at h
  induction h generalizing items with
  | nil n s => exact ⟨[], items, rfl, by simp, rfl, hs.symm⟩
  | cons hread _ ih =>
    rw [← hs] at hread
    obtain ⟨i, left, rfl, hfull, rfl, rfl⟩ := htakes _ _ _ _ hread
    obtain ⟨front, rest, rfl, hfront, rfl, hu⟩ := ih rfl
    exact ⟨i :: front, rest, rfl, List.forall_mem_cons.mpr ⟨hfull, hfront⟩, rfl, hu⟩

/-- Where the first item can be read, so can every front part. -/
theorem reads_items {holds : List ι → σ} {full : ι → Prop} {record : ι → ρ}
    (htakes : ∀ n i rest, full i → c.read n (holds (i :: rest)) = (.record (record i), holds rest))
    {front : List ι} (rest : List ι) (h : ∀ i ∈ front, full i) :
    Reads c n (holds (front ++ rest)) (front.map record) (n + front.length) (holds rest) := by
  induction front generalizing n with
  | nil => exact .nil n (holds rest)
  | cons i front ih =>
    obtain ⟨hi, hfront⟩ := List.forall_mem_cons.mp h
    have hrest : Reads c (n + 1) _ _ (n + 1 + front.length) _ := ih hfront
    rw [List.length_cons, Nat.add_comm front.length, ← Nat.add_assoc]
    exact .cons (htakes n i _ hi) hrest

end Draining
