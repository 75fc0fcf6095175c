import Mathlib.Data.Fin.Rev
import Mathlib.Data.List.GetD

/-!
# Words and fields in blocks of bytes

A block is a fixed number of bytes. A word of `n` bytes is stored in a byte order,
and `swap` reverses it, so that a word converted to network order is stored with
the same bytes on every host. A `Field` is a range of a block; writing one leaves
every disjoint field alone.
-/

namespace Bytes

abbrev Byte := BitVec 8

abbrev Block (size : Nat) := Fin size → Byte

/-- The first bytes of a list as a block. -/
def ofList {size : Nat} (bytes : List Byte) : Block size := fun i => bytes.getD i.val 0

@[simp] theorem ofList_ofFn {size : Nat} (b : Block size) : ofList (List.ofFn b) = b := by
  funext i
  rw [ofList, List.getD_eq_getElem _ _ (by rw [List.length_ofFn]; exact i.isLt), List.getElem_ofFn]

inductive ByteOrder where
  | little
  | big
  deriving DecidableEq, Repr

variable {n size : Nat}

/-- The place in memory of the byte of the given significance, and back. -/
def ByteOrder.place : ByteOrder → Fin n → Fin n
  | .little, i => i
  | .big, i => i.rev

@[simp] theorem ByteOrder.place_place (order : ByteOrder) (i : Fin n) :
    order.place (order.place i) = i := by
  cases order with
  | little => rfl
  | big => exact Fin.rev_rev i

def store (order : ByteOrder) (x : BitVec (8 * n)) : Block n :=
  fun i => x.extractLsb' (8 * (order.place i).val) 8

/-- The word with the given bytes, the least significant first. -/
def assemble : {n : Nat} → Block n → BitVec (8 * n)
  | 0, _ => 0
  | n + 1, b => (assemble fun i : Fin n => b i.succ) ++ b 0

def load (order : ByteOrder) (b : Block n) : BitVec (8 * n) := assemble fun i => b (order.place i)

theorem getLsbD_assemble (b : Block n) (i : Fin n) {k : Nat} (hk : k < 8) :
    (assemble b).getLsbD (8 * i.val + k) = (b i).getLsbD k := by
  induction n with
  | zero => exact i.elim0
  | succ n ih =>
    rw [assemble, BitVec.getLsbD_append]
    cases i using Fin.cases with
    | zero => rw [if_pos (by simpa using hk)]; simp
    | succ i =>
      have hsub : 8 * i.succ.val + k - 8 = 8 * i.val + k := by
        rw [Fin.val_succ]
        omega
      rw [if_neg (by rw [Fin.val_succ]; omega), hsub]
      exact ih _ i

@[simp] theorem load_store (order : ByteOrder) (x : BitVec (8 * n)) : load order (store order x) = x := by
  apply BitVec.eq_of_getLsbD_eq
  intro k hk
  have hlow : k % 8 < 8 := Nat.mod_lt k (by decide)
  have hbit := getLsbD_assemble (fun i => store order x (order.place i)) ⟨k / 8, by omega⟩ hlow
  simp only [store, ByteOrder.place_place, BitVec.getLsbD_extractLsb', hlow, decide_true,
    Bool.true_and, Nat.div_add_mod] at hbit
  simp only [load, store, ByteOrder.place_place]
  exact hbit

@[simp] theorem store_load (order : ByteOrder) (b : Block n) : store order (load order b) = b := by
  funext i
  apply BitVec.eq_of_getLsbD_eq
  intro k hk
  rw [store, BitVec.getLsbD_extractLsb', load, getLsbD_assemble _ _ hk, ByteOrder.place_place,
    decide_eq_true hk, Bool.true_and]

/-- The bytes of a word in the opposite order. -/
def swap (x : BitVec (8 * n)) : BitVec (8 * n) := load .big (store .little x)

theorem store_little_swap (x : BitVec (8 * n)) : store .little (swap x) = store .big x := by
  have hbig : store .big (swap x) = store .little x := store_load .big _
  funext i
  have hi := congrFun hbig i.rev
  simp only [store, ByteOrder.place, Fin.rev_rev] at hi ⊢
  exact hi

@[simp] theorem swap_swap (x : BitVec (8 * n)) : swap (swap x) = x := by
  rw [swap, store_little_swap, load_store]

/-- From host order to network order, or back. -/
def network : ByteOrder → BitVec (8 * n) → BitVec (8 * n)
  | .little, x => swap x
  | .big, x => x

@[simp] theorem network_network (order : ByteOrder) (x : BitVec (8 * n)) :
    network order (network order x) = x := by
  cases order with
  | little => exact swap_swap x
  | big => rfl

/-- What reaches the network does not depend on the host. -/
theorem store_network (order : ByteOrder) (x : BitVec (8 * n)) :
    store order (network order x) = store .big x := by
  cases order with
  | little => exact store_little_swap x
  | big => rfl

/-- A range of bytes of a block. -/
structure Field (size : Nat) where
  offset : Nat
  width : Nat
  inside : offset + width ≤ size

namespace Field

def read (f : Field size) (m : Block size) : Block f.width :=
  fun i => m ⟨f.offset + i.val, by have := f.inside; omega⟩

def write (f : Field size) (b : Block f.width) (m : Block size) : Block size :=
  fun i => if h : f.offset ≤ i.val ∧ i.val < f.offset + f.width then
    b ⟨i.val - f.offset, by omega⟩ else m i

def Apart (f g : Field size) : Prop := f.offset + f.width ≤ g.offset ∨ g.offset + g.width ≤ f.offset

instance (f g : Field size) : Decidable (f.Apart g) := inferInstanceAs (Decidable (_ ∨ _))

@[simp] theorem read_write (f : Field size) (b : Block f.width) (m : Block size) :
    f.read (f.write b m) = b := by
  funext i
  have hi : f.offset ≤ f.offset + i.val ∧ f.offset + i.val < f.offset + f.width := by omega
  simp only [read, write, dif_pos hi, Nat.add_sub_cancel_left]

theorem read_write_apart {f g : Field size} (h : f.Apart g) (b : Block g.width) (m : Block size) :
    f.read (g.write b m) = f.read m := by
  funext i
  have hi : ¬ (g.offset ≤ f.offset + i.val ∧ f.offset + i.val < g.offset + g.width) := by
    unfold Apart at h
    omega
  simp only [read, write, dif_neg hi]

end Field

end Bytes
