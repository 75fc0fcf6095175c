import Ioxx.Net
import Ioxx.NamedPipe
import Ioxx.Rounds

/-!
# Buffer lengths on Windows

A `std::size_t` has 64 bits, and the socket calls of Windows take their length as
an `int`, the buffers of the vectored calls as an `unsigned long`, both of 32 bits.
The functions of `net.cpp` cast without a check, so that the upper half of a size is
lost and bit 31 becomes a sign; `NamedPipe` saturates first.
-/

namespace Lengths

open Core Detail Registry Net

/-- `static_cast<int>` of a `std::size_t`. -/
def castInt (size : BitVec 64) : Int := (size.setWidth 32).toInt

/-- `static_cast<unsigned long>` of a `std::size_t`. -/
def castUnsignedLong (size : BitVec 64) : BitVec 32 := size.setWidth 32

variable {β Ω A ρ : Type} [Inhabited A] (b : Backend β Ω) (ω : Ω)

/-- An I/O function with a buffer, on Windows: the lengths that it passes to its
socket call, and what it returns. The call answers with what it does for a length. -/
def passing (io : Except ErrorCode ρ → Source → Selector β →
      Noexcept (Option ErrorCode × IoValue A × Selector β))
    (call : Int → Except ErrorCode ρ) (size : BitVec 64) (source : Source) (s : Selector β) :
    List Int × Noexcept (Option ErrorCode × IoValue A × Selector β) :=
  (if source.handle = invalidNativeHandle b.platform then [] else [castInt size],
    io (call (castInt size)) source s)

/-! `TcpStream`. -/

def read (recv : Int → Except ErrorCode Nat) : BitVec 64 → Source → Selector β →
    List Int × Noexcept (Option ErrorCode × IoValue A × Selector β) := passing b (Net.read b ω) recv

def write (send : Int → Except ErrorCode Nat) : BitVec 64 → Source → Selector β →
    List Int × Noexcept (Option ErrorCode × IoValue A × Selector β) := passing b (Net.write b ω) send

/-! `UdpSocket`. -/

def send (send : Int → Except ErrorCode Nat) : BitVec 64 → Source → Selector β →
    List Int × Noexcept (Option ErrorCode × IoValue A × Selector β) := passing b (Net.send b ω) send

def recv (recv : Int → Except ErrorCode Nat) : BitVec 64 → Source → Selector β →
    List Int × Noexcept (Option ErrorCode × IoValue A × Selector β) := passing b (Net.recv b ω) recv

def sendTo (sendto : Int → Except ErrorCode Nat) : BitVec 64 → Source → Selector β →
    List Int × Noexcept (Option ErrorCode × IoValue A × Selector β) := passing b (Net.sendTo b ω) sendto

def recvFrom (recvfrom : Int → Except ErrorCode (Nat × Option A)) : BitVec 64 → Source → Selector β →
    List Int × Noexcept (Option ErrorCode × IoValue A × Selector β) :=
  passing b (Net.recvFrom b ω) recvfrom

def peekFrom (recvfrom : Int → Except ErrorCode (Nat × Option A)) : BitVec 64 → Source → Selector β →
    List Int × Noexcept (Option ErrorCode × IoValue A × Selector β) :=
  passing b (Net.peekFrom b ω) recvfrom

/-- `NativeIoSlice`, a `WSABUF`. -/
structure NativeIoSlice where
  len : BitVec 32
  buf : BitVec 64

/-- The constructor of `IoSliceMut`. -/
def ioSliceMut (data : BitVec 64) (size : BitVec 64) : NativeIoSlice := ⟨castUnsignedLong size, data⟩

/-- The constructor of `IoSlice`. -/
def ioSlice (data : BitVec 64) (size : BitVec 64) : NativeIoSlice := ⟨castUnsignedLong size, data⟩

/-- The places where a size is cast. -/
inductive Place where
  | read
  | write
  | send
  | recv
  | sendTo
  | recvFrom
  | peekFrom
  | ioSliceMut
  | ioSlice
  deriving DecidableEq, Repr

variable (A) in
/-- A length that is passed to a socket call, or recorded. -/
def Gives (s : Selector β) (size : BitVec 64) (length : Int) : Place → Prop
  | .read => ∃ call source, length ∈ (read (A := A) b ω call size source s).1
  | .write => ∃ call source, length ∈ (write (A := A) b ω call size source s).1
  | .send => ∃ call source, length ∈ (send (A := A) b ω call size source s).1
  | .recv => ∃ call source, length ∈ (recv (A := A) b ω call size source s).1
  | .sendTo => ∃ call source, length ∈ (sendTo (A := A) b ω call size source s).1
  | .recvFrom => ∃ call source, length ∈ (recvFrom (A := A) b ω call size source s).1
  | .peekFrom => ∃ call source, length ∈ (peekFrom (A := A) b ω call size source s).1
  | .ioSliceMut => ∃ data, length = (ioSliceMut data size).len.toNat
  | .ioSlice => ∃ data, length = (ioSlice data size).len.toNat

/-- The length is not negative and at most the size, and zero only if the size is. -/
structure Narrowed (size : BitVec 64) (length : Int) : Prop where
  nonneg : 0 ≤ length
  le : length ≤ size.toNat
  zero : length = 0 → size = 0

/-- What is documented of `recv` on a stream: no more bytes than the length, and
none only if the stream has ended or the length is zero. -/
def Documented (ended : Prop) (recv : Int → Except ErrorCode Nat) : Prop :=
  ∀ length n, 0 ≤ length → recv length = .ok n → (n : Int) ≤ length ∧ (n = 0 → ended ∨ length = 0)

variable (A) in
/-- A `read` that returns zero without an error has met the end of the stream, or had
an empty buffer. -/
def ZeroMeansEnd (s : Selector β) (size : BitVec 64) : Prop :=
  ∀ ended recv source t, Documented ended recv →
    (read (A := A) b ω recv size source s).2 = .returned (none, .size 0, t) → ended ∨ size = 0

/-- The low half of the size is positive in the type it is cast to, or the size is zero. -/
def Fits (size : BitVec 64) : Place → Prop
  | .ioSliceMut | .ioSlice => size = 0 ∨ 0 < size.toNat % 2 ^ 32
  | _ => size = 0 ∨ 0 < size.toNat % 2 ^ 32 ∧ size.toNat % 2 ^ 32 < 2 ^ 31

/-! What the casts keep. -/

theorem castUnsignedLong_toNat (size : BitVec 64) :
    (castUnsignedLong size).toNat = size.toNat % 2 ^ 32 :=
  BitVec.toNat_setWidth 32 size

theorem castInt_of_lt {size : BitVec 64} (h : size.toNat % 2 ^ 32 < 2 ^ 31) :
    castInt size = (size.toNat % 2 ^ 32 : Nat) := by
  have hlow := castUnsignedLong_toNat size
  unfold castUnsignedLong at hlow
  rw [castInt, BitVec.toInt_eq_toNat_cond, if_pos (by omega), hlow]

/-- Bit 31 becomes the sign. -/
theorem castInt_neg {size : BitVec 64} (h : ¬ size.toNat % 2 ^ 32 < 2 ^ 31) : castInt size < 0 := by
  have hlow := castUnsignedLong_toNat size
  unfold castUnsignedLong at hlow
  have hlt := (size.setWidth 32).isLt
  rw [castInt, BitVec.toInt_eq_toNat_cond, if_neg (by omega)]
  omega

/-- The low half of a size is a good length unless it alone is zero. -/
theorem narrowed_low_iff (size : BitVec 64) :
    Narrowed size (size.toNat % 2 ^ 32 : Nat) ↔ size = 0 ∨ 0 < size.toNat % 2 ^ 32 := by
  constructor
  · intro h
    rcases Nat.eq_zero_or_pos (size.toNat % 2 ^ 32) with hzero | hpos
    · exact .inl (h.zero (by omega))
    · exact .inr hpos
  · intro h
    refine ⟨by omega, by omega, fun hzero => ?_⟩
    rcases h with hsize | hpos
    · exact hsize
    · omega

theorem narrowed_castInt_iff (size : BitVec 64) : Narrowed size (castInt size) ↔
    size = 0 ∨ 0 < size.toNat % 2 ^ 32 ∧ size.toNat % 2 ^ 32 < 2 ^ 31 := by
  by_cases hlow : size.toNat % 2 ^ 32 < 2 ^ 31
  · rw [castInt_of_lt hlow, narrowed_low_iff]
    simp only [hlow, and_true]
  · refine iff_of_false (fun h => ?_) ?_
    · exact absurd h.nonneg (Int.not_le.mpr (castInt_neg hlow))
    · rintro (rfl | h)
      · exact hlow (by decide)
      · exact hlow h.2

theorem narrowed_castUnsignedLong_iff (size : BitVec 64) :
    Narrowed size ((castUnsignedLong size).toNat) ↔ size = 0 ∨ 0 < size.toNat % 2 ^ 32 := by
  rw [castUnsignedLong_toNat]
  exact narrowed_low_iff size

/-- What `NamedPipe` passes is always a good length. -/
theorem narrowed_checkedSize (size : BitVec 64) : Narrowed size (Pipe.checkedSize size.toNat) := by
  unfold Pipe.checkedSize
  refine ⟨by omega, by omega, fun hzero => ?_⟩
  apply BitVec.eq_of_toNat_eq
  change size.toNat = 0
  omega

omit [Inhabited A] in
/-- A function with a valid socket passes the size as an `int`. -/
theorem passes_iff {io : Except ErrorCode ρ → Source → Selector β →
      Noexcept (Option ErrorCode × IoValue A × Selector β)} {size : BitVec 64} {s : Selector β}
    {length : Int} : (∃ call source, length ∈ (passing b io call size source s).1) ↔
      length = castInt size := by
  constructor
  · rintro ⟨call, source, h⟩
    simp only [passing] at h
    split at h
    · cases h
    · exact List.mem_singleton.mp h
  · rintro rfl
    have hvalid : invalidNativeHandle b.platform + 1 ≠ invalidNativeHandle b.platform :=
      (Int.lt_succ _).ne'
    refine ⟨fun _ => .error .badFileDescriptor, ⟨.tcpStream, invalidNativeHandle b.platform + 1,
      false, ⟨0⟩, Interest.none⟩, ?_⟩
    simp only [passing, if_neg hvalid, List.mem_singleton]

/-- The length that a place gives, in the type that it casts to. -/
def Place.length (size : BitVec 64) : Place → Int
  | .ioSliceMut | .ioSlice => (castUnsignedLong size).toNat
  | _ => castInt size

theorem gives_iff {s : Selector β} {size : BitVec 64} {length : Int} {place : Place} :
    Gives A b ω s size length place ↔ length = place.length size := by
  cases place with
  | read => exact passes_iff b
  | write => exact passes_iff b
  | send => exact passes_iff b
  | recv => exact passes_iff b
  | sendTo => exact passes_iff b
  | recvFrom => exact passes_iff b
  | peekFrom => exact passes_iff b
  | ioSliceMut =>
    constructor
    · rintro ⟨data, h⟩
      exact h
    · exact fun h => ⟨0, h⟩
  | ioSlice =>
    constructor
    · rintro ⟨data, h⟩
      exact h
    · exact fun h => ⟨0, h⟩

theorem narrowed_length_iff (size : BitVec 64) (place : Place) :
    Narrowed size (place.length size) ↔ Fits size place := by
  cases place with
  | ioSliceMut => exact narrowed_castUnsignedLong_iff size
  | ioSlice => exact narrowed_castUnsignedLong_iff size
  | _ => exact narrowed_castInt_iff size

omit [Inhabited A] in
/-- Zero bytes without an error come from the call alone. -/
theorem read_zero {recv : Int → Except ErrorCode Nat} {size : BitVec 64} {source : Source}
    {s t : Selector β}
    (h : (read (A := A) b ω recv size source s).2 = .returned (none, .size 0, t)) :
    recv (castInt size) = .ok 0 := by
  simp only [read, passing, Net.read, transfer, io] at h
  split at h
  · cases h
  · split at h
    · rename_i n hanswer
      cases h
      exact hanswer
    · split at h
      · split at h
        · cases h
        · cases h
      · cases h

omit [Inhabited A] in
theorem zeroMeansEnd_of_narrowed {s : Selector β} {size : BitVec 64}
    (h : Narrowed size (castInt size)) : ZeroMeansEnd A b ω s size := by
  intro ended recv source t hrecv hread
  rcases (hrecv _ 0 h.nonneg (read_zero b ω hread)).2 rfl with hended | hzero
  · exact .inl hended
  · exact .inr (h.zero hzero)

/-- Each length is narrowed safely exactly if the low half of the size is positive in
the type that it is cast to, or the size is zero. -/
theorem lengths_narrowed_iff (s : Selector β) (size : BitVec 64) (place : Place) :
    ((∀ length, Gives A b ω s size length place → Narrowed size length) ∧
      (place = .read → ZeroMeansEnd A b ω s size)) ↔ Fits size place := by
  simp only [gives_iff, forall_eq]
  rw [narrowed_length_iff]
  constructor
  · exact fun h => h.1
  · intro h
    refine ⟨h, ?_⟩
    rintro rfl
    exact zeroMeansEnd_of_narrowed b ω ((narrowed_castInt_iff size).mpr h)

/-- A peer that always sends as many bytes as it is asked for. -/
def plenty (length : Int) : Except ErrorCode Nat := .ok length.toNat

/-- `TcpStream::read` into a buffer of 4 GiB asks for no bytes, and returns zero
although the stream goes on. -/
theorem large_read_wraps :
    Documented False plenty ∧
    (read (A := Unit) Rounds.backend AfdSelector.agreeable plenty 0x100000000
      ⟨.tcpStream, 4, false, ⟨0⟩, Interest.none⟩ Rounds.emptySelector) =
        ([0], .returned (none, .size 0, Rounds.emptySelector)) ∧
    ¬ ∀ (size : BitVec 64) (place : Place) (length : Int),
      Gives Unit Rounds.backend AfdSelector.agreeable Rounds.emptySelector size length place →
      Narrowed size length := by
  refine ⟨?_, rfl, fun h => ?_⟩
  · intro length n hlength hn
    cases hn
    omega
  · have hgives : Gives Unit Rounds.backend AfdSelector.agreeable Rounds.emptySelector 0x100000000 0 .read :=
      (gives_iff Rounds.backend AfdSelector.agreeable).mpr rfl
    exact absurd ((h _ _ _ hgives).zero rfl) (by decide)

end Lengths
