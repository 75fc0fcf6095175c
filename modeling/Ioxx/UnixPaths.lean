import Ioxx.Bytes
import Ioxx.Core
import Mathlib.Data.List.TakeWhile
import Mathlib.Data.List.GetD

/-!
# Paths of Unix sockets

`socket_address` copies a path into a `sockaddr_un` by its size,
`socket_address_length` measures it up to its first zero byte, and
`path_from_sockaddr` reads it back up to the first zero byte within the length. So
what comes back is always the path up to its first zero byte, and a path with one
is accepted but names another socket. The length is chosen by the kernel, and may lead
`path_from_sockaddr` out of the address.
-/

namespace UnixPaths

open Core Bytes

/-- `sizeof(sockaddr_un::sun_path)`. -/
def sunPathSize : Nat := 108

/-- `offsetof(sockaddr_un, sun_path)`. -/
def sunPathOffset : Nat := 2

/-- `sockaddr_un` with the family `AF_UNIX`. -/
structure SockaddrUn where
  sunPath : Block sunPathSize

/-- What a read through `sun_path` finds; `beyond` lies behind the structure. -/
def SockaddrUn.memory (address : SockaddrUn) (beyond : Nat → Byte) (i : Nat) : Byte :=
  if h : i < sunPathSize then address.sunPath ⟨i, h⟩ else beyond (i - sunPathSize)

/-- The number of bytes before the first zero byte, looking at `bound` bytes. -/
def strnlen (memory : Nat → Byte) (bound : Nat) : Nat :=
  (((List.range bound).map memory).takeWhile (· ≠ 0)).length

def socketAddress (path : List Byte) : Option ErrorCode × SockaddrUn :=
  if h : path.length ≥ sunPathSize then (some .filenameTooLong, ⟨fun _ => 0⟩)
  else
    let copied : Block sunPathSize := fun i => path.getD i.val 0
    (none, ⟨Function.update copied ⟨path.length, by omega⟩ 0⟩)

/-- `socket_address_length`, for an address that has a zero byte. -/
def socketAddressLength (address : SockaddrUn) : Nat :=
  sunPathOffset + strnlen (address.memory fun _ => 0) sunPathSize + 1

def pathFromSockaddr (address : SockaddrUn) (beyond : Nat → Byte) (length : Nat) : List Byte :=
  if length ≤ sunPathOffset then []
  else
    let pathLength := length - sunPathOffset
    (List.range (strnlen (address.memory beyond) pathLength)).map (address.memory beyond)

/-- A path up to its first zero byte. -/
def named (path : List Byte) : List Byte := path.takeWhile (· ≠ 0)

theorem named_ne_zero {path : List Byte} {b : Byte} (h : b ∈ named path) : decide (b ≠ 0) = true :=
  List.mem_takeWhile_imp (p := fun b : Byte => decide (b ≠ 0)) h

theorem named_eq_self_iff (path : List Byte) : named path = path ↔ 0 ∉ path := by
  rw [named, List.takeWhile_eq_self_iff]
  constructor
  · intro h hzero
    simpa using h 0 hzero
  · intro h b hb
    have : b ≠ 0 := fun he => h (he ▸ hb)
    simpa using this

/-- Behind the named part of a path, or of its zeroed rest, comes a zero. -/
theorem getD_named (path : List Byte) : path.getD (named path).length 0 = 0 := by
  induction path with
  | nil => rfl
  | cons b path ih =>
    by_cases hb : b = 0
    · simp [named, hb]
    · have hcons : named (b :: path) = b :: named path :=
        List.takeWhile_cons_of_pos (by simpa using hb)
      rw [hcons, List.length_cons, List.getD_cons_succ]
      exact ih

theorem getD_lt_named {path : List Byte} {i : Nat} (h : i < (named path).length) :
    path.getD i 0 = (named path)[i] := by
  have hlt : i < path.length := h.trans_le (List.takeWhile_prefix _).length_le
  rw [List.getD_eq_getElem _ _ hlt]
  exact ((List.takeWhile_prefix _).getElem h).symm

/-- A memory that holds the named part of a path and a zero after it. -/
def Holds (memory : Nat → Byte) (path : List Byte) : Prop :=
  ∀ i ≤ (named path).length, memory i = path.getD i 0

theorem Holds.map_range {memory : Nat → Byte} {path : List Byte} (h : Holds memory path) :
    (List.range (named path).length).map memory = named path := by
  refine List.ext_getElem (by simp) fun i hi hi' => ?_
  rw [List.getElem_map, List.getElem_range, h i hi'.le, getD_lt_named hi']

theorem Holds.strnlen {memory : Nat → Byte} {path : List Byte} (h : Holds memory path) {bound : Nat}
    (hbound : (named path).length < bound) : strnlen memory bound = (named path).length := by
  obtain ⟨rest, rfl⟩ := Nat.exists_eq_add_of_lt hbound
  have hsplit : (List.range ((named path).length + rest + 1)).map memory =
      named path ++ 0 :: (List.range rest).map fun i => memory ((named path).length + (i + 1)) := by
    rw [Nat.add_assoc, List.range_add, List.map_append, h.map_range, List.range_succ_eq_map]
    simp only [List.map_cons, List.map_map, Nat.add_zero]
    rw [h _ le_rfl, getD_named]
    rfl
  rw [UnixPaths.strnlen, hsplit, List.takeWhile_append_of_pos (fun b => named_ne_zero)]
  simp

/-- An accepted path lies in the address with zeros behind it. -/
theorem socketAddress_accepted {path : List Byte} (h : path.length < sunPathSize) :
    (socketAddress path).1 = none ∧
      ∀ i, (socketAddress path).2.memory (fun _ => 0) i = path.getD i 0 := by
  rw [socketAddress, dif_neg (Nat.not_le.mpr h)]
  refine ⟨rfl, fun i => ?_⟩
  unfold SockaddrUn.memory
  split
  · rename_i hlt
    change Function.update (fun j : Fin sunPathSize => path.getD j.val 0) ⟨path.length, h⟩ 0 ⟨i, hlt⟩ = _
    by_cases hi : i = path.length
    · subst hi
      rw [List.getD_eq_default _ _ le_rfl, Function.update_self]
    · rw [Function.update_of_ne (fun he => hi (congrArg Fin.val he))]
  · rw [List.getD_eq_default _ _ (by omega)]

theorem socketAddress_refused {path : List Byte} (h : sunPathSize ≤ path.length) :
    (socketAddress path).1 = some .filenameTooLong := by
  rw [socketAddress, dif_pos h]

theorem socketAddress_none_iff (path : List Byte) :
    (socketAddress path).1 = none ↔ path.length < sunPathSize := by
  constructor
  · intro hnone
    by_contra hlong
    rw [socketAddress_refused (Nat.le_of_not_lt hlong)] at hnone
    cases hnone
  · exact fun h => (socketAddress_accepted h).1

theorem socketAddressLength_eq {path : List Byte} (h : path.length < sunPathSize) :
    socketAddressLength (socketAddress path).2 = sunPathOffset + (named path).length + 1 := by
  have hholds : Holds ((socketAddress path).2.memory fun _ => 0) path :=
    fun i _ => (socketAddress_accepted h).2 i
  have hnamed : (named path).length ≤ path.length := (List.takeWhile_prefix _).length_le
  rw [socketAddressLength, hholds.strnlen (by omega)]

/-- Two addresses that a system call cannot tell apart when it is given the length. -/
def SameName (length : Nat) (a b : SockaddrUn) : Prop :=
  ∀ i : Fin sunPathSize, sunPathOffset + i.val < length → a.sunPath i = b.sunPath i

/-- What is read back from an address that was cut to its length is the path up to
its first zero byte. -/
theorem path_of_cut {path : List Byte} (h : path.length < sunPathSize) {seen : SockaddrUn}
    (hseen : SameName (socketAddressLength (socketAddress path).2) seen (socketAddress path).2)
    (beyond : Nat → Byte) :
    pathFromSockaddr seen beyond (socketAddressLength (socketAddress path).2) = named path := by
  have hlength := socketAddressLength_eq h
  have hnamed : (named path).length ≤ path.length := (List.takeWhile_prefix _).length_le
  have hholds : Holds (seen.memory beyond) path := by
    intro i hi
    have hlt : i < sunPathSize := by omega
    rw [← (socketAddress_accepted h).2 i, SockaddrUn.memory, SockaddrUn.memory, dif_pos hlt, dif_pos hlt]
    exact hseen ⟨i, hlt⟩ (by rw [hlength]; change sunPathOffset + i < _; omega)
  rw [pathFromSockaddr, hlength, if_neg (by omega)]
  dsimp only
  rw [hholds.strnlen (by omega), hholds.map_range]

/-- Some address holds the path as a string whose first zero byte ends it inside
`sun_path`. Linux also binds the 108 bytes that leave no room for a zero; the code
passes lengths that include one. -/
def Representable (path : List Byte) : Prop :=
  ∃ address : SockaddrUn, ∃ length : Fin sunPathSize, path.length = length.val ∧
    address.sunPath length = 0 ∧
    ∀ i : Fin sunPathSize, ∀ h : i.val < path.length,
      address.sunPath i = path[i.val] ∧ address.sunPath i ≠ 0

theorem representable_iff (path : List Byte) :
    Representable path ↔ path.length < sunPathSize ∧ 0 ∉ path := by
  constructor
  · rintro ⟨address, length, hlength, _, hbytes⟩
    have hshort : path.length < sunPathSize := hlength ▸ length.isLt
    refine ⟨hshort, fun hzero => ?_⟩
    obtain ⟨i, hi, hget⟩ := List.getElem_of_mem hzero
    obtain ⟨hsame, hne⟩ := hbytes ⟨i, hi.trans hshort⟩ hi
    exact hne (hsame.trans hget)
  · rintro ⟨hshort, hzero⟩
    have hmemory := (socketAddress_accepted hshort).2
    have hread : ∀ i : Fin sunPathSize, (socketAddress path).2.sunPath i = path.getD i.val 0 := by
      intro i
      rw [← hmemory i.val, SockaddrUn.memory, dif_pos i.isLt]
    refine ⟨(socketAddress path).2, ⟨path.length, hshort⟩, rfl, ?_, ?_⟩
    · rw [hread, List.getD_eq_default _ _ le_rfl]
    · intro i hi
      rw [hread, List.getD_eq_getElem _ _ hi]
      exact ⟨rfl, fun he => hzero (he ▸ List.getElem_mem hi)⟩

/-- A path is refused exactly when it cannot be represented, and an accepted one is
read back from the bytes that the system calls are given. -/
def Lossless (path : List Byte) : Prop :=
  ((socketAddress path).1 ≠ none ↔ ¬ Representable path) ∧
  ((socketAddress path).1 = none → ∀ seen beyond,
    SameName (socketAddressLength (socketAddress path).2) seen (socketAddress path).2 →
    pathFromSockaddr seen beyond (socketAddressLength (socketAddress path).2) = path)

/-- Exactly the paths without a zero byte, and those that are too long anyway, are
treated without loss; no two accepted ones of them name the same socket. -/
theorem path_lossless_iff (path : List Byte) :
    (Lossless path ↔ 0 ∉ path ∨ sunPathSize ≤ path.length) ∧
    ∀ path', 0 ∉ path → 0 ∉ path' → (socketAddress path).1 = none →
      (socketAddress path').1 = none →
      socketAddressLength (socketAddress path).2 = socketAddressLength (socketAddress path').2 →
      SameName (socketAddressLength (socketAddress path).2) (socketAddress path).2
        (socketAddress path').2 → path = path' := by
  constructor
  · rw [Lossless, representable_iff]
    by_cases hlong : sunPathSize ≤ path.length
    · have hsome := socketAddress_refused hlong
      refine iff_of_true ⟨iff_of_true ?_ ?_, fun hnone => ?_⟩ (.inr hlong)
      · rw [hsome]
        exact Option.some_ne_none _
      · omega
      · rw [hsome] at hnone
        cases hnone
    · have hshort : path.length < sunPathSize := by omega
      have hnone := (socketAddress_accepted hshort).1
      rw [hnone]
      constructor
      · rintro ⟨hrefused, _⟩
        by_contra hneither
        exact hrefused.mpr (fun hr => hneither (.inl hr.2)) rfl
      · rintro (hzero | hlong')
        · refine ⟨iff_of_false (fun h => h rfl) (fun h => h ⟨hshort, hzero⟩), fun _ seen beyond hseen => ?_⟩
          rw [path_of_cut hshort hseen, named_eq_self_iff]
          exact hzero
        · exact absurd hlong' hlong
  · intro path' hzero hzero' hnone hnone' hlength hsame
    rw [socketAddress_none_iff] at hnone hnone'
    have hread := path_of_cut hnone (fun _ _ => rfl : SameName _ (socketAddress path).2 _) fun _ => 0
    have hread' := path_of_cut hnone' (hlength ▸ hsame) fun _ => 0
    rw [← hlength, hread, (named_eq_self_iff path).mpr hzero,
      (named_eq_self_iff path').mpr hzero'] at hread'
    exact hread'

/-- The longest path that is accepted. -/
theorem path_lossless_longest : Lossless (List.replicate 107 1) :=
  (path_lossless_iff _).1.mpr (.inl (by simp))

/-- `"a\0b"` is accepted and comes back as `"a"`. -/
theorem zero_byte_cuts_path : (socketAddress [97, 0, 98]).1 = none ∧
    pathFromSockaddr (socketAddress [97, 0, 98]).2 (fun _ => 0)
      (socketAddressLength (socketAddress [97, 0, 98]).2) = [97] ∧
    ¬ ∀ path, Lossless path := by
  have hread : pathFromSockaddr (socketAddress [97, 0, 98]).2 (fun _ => 0)
      (socketAddressLength (socketAddress [97, 0, 98]).2) = [97] :=
    path_of_cut (by decide) (fun _ _ => rfl) fun _ => 0
  refine ⟨rfl, hread, fun h => ?_⟩
  have hpath := (h [97, 0, 98]).2 rfl _ (fun _ => 0) (fun _ _ => rfl)
  rw [hread] at hpath
  cases hpath

/-! ## The bytes that are read -/

/-- `strnlen` from an offset on: the count, and the offsets it looks at. -/
def strnlenFrom (memory : Nat → Byte) (i : Nat) : Nat → Nat × List Nat
  | 0 => (0, [])
  | bound + 1 =>
    if memory i = 0 then (0, [i])
    else
      let (count, reads) := strnlenFrom memory (i + 1) bound
      (count + 1, i :: reads)

/-- What `path_from_sockaddr` reads, as offsets in `sun_path`: `strnlen` looks for the
end, and the `std::string` copies what lies before it. -/
def pathReads (address : SockaddrUn) (beyond : Nat → Byte) (length : Nat) : List Nat :=
  if length ≤ sunPathOffset then []
  else
    let (count, reads) := strnlenFrom (address.memory beyond) 0 (length - sunPathOffset)
    reads ++ List.range count

theorem strnlenFrom_fst (memory : Nat → Byte) (i bound : Nat) :
    (strnlenFrom memory i bound).1 = strnlen (fun j => memory (i + j)) bound := by
  induction bound generalizing i with
  | zero => rfl
  | succ bound ih =>
    rw [strnlenFrom, strnlen, List.range_succ_eq_map, List.map_cons, List.map_map]
    by_cases hzero : memory i = 0
    · simp [hzero]
    · have hshift : (fun j => memory (i + j)) ∘ Nat.succ = fun j => memory (i + 1 + j) := by
        funext j
        rw [Function.comp_apply, Nat.succ_eq_add_one, Nat.add_right_comm, Nat.add_assoc i j]
      rw [if_neg hzero, List.takeWhile_cons_of_pos (by simpa using hzero), hshift]
      exact congrArg (· + 1) (ih (i + 1))

/-- An offset is looked at if it is within the bound and no zero byte lies before it. -/
theorem mem_strnlenFrom {memory : Nat → Byte} {i bound j : Nat} :
    j ∈ (strnlenFrom memory i bound).2 ↔
      i ≤ j ∧ j < i + bound ∧ ∀ l, i ≤ l → l < j → memory l ≠ 0 := by
  induction bound generalizing i with
  | zero =>
    refine iff_of_false (List.not_mem_nil) ?_
    omega
  | succ bound ih =>
    rw [strnlenFrom]
    by_cases hzero : memory i = 0
    · rw [if_pos hzero, List.mem_singleton]
      constructor
      · rintro rfl
        exact ⟨le_rfl, by omega, fun l hl hlt => absurd hlt (Nat.not_lt.mpr hl)⟩
      · rintro ⟨hle, -, hbefore⟩
        by_contra hne
        exact hbefore i le_rfl (by omega) hzero
    · rw [if_neg hzero]
      change j ∈ i :: (strnlenFrom memory (i + 1) bound).2 ↔ _
      rw [List.mem_cons, ih]
      constructor
      · rintro (rfl | ⟨hle, hlt, hbefore⟩)
        · exact ⟨le_rfl, by omega, fun l hl hlt => absurd hlt (Nat.not_lt.mpr hl)⟩
        · refine ⟨by omega, by omega, fun l hl hlj => ?_⟩
          rcases Nat.eq_or_lt_of_le hl with rfl | hl
          · exact hzero
          · exact hbefore l hl hlj
      · rintro ⟨hle, hlt, hbefore⟩
        rcases Nat.eq_or_lt_of_le hle with rfl | hle
        · exact .inl rfl
        · exact .inr ⟨hle, by omega, fun l hl => hbefore l (by omega)⟩

theorem strnlen_le (memory : Nat → Byte) (bound : Nat) : strnlen memory bound ≤ bound := by
  simpa [strnlen] using (List.takeWhile_prefix (l := (List.range bound).map memory) (· ≠ 0)).length_le

/-- The copy stays before the end that was found. -/
theorem lt_strnlen {memory : Nat → Byte} {bound i : Nat} (h : i < strnlen memory bound) :
    i < bound ∧ ∀ l ≤ i, memory l ≠ 0 := by
  have hprefix := List.takeWhile_prefix (l := (List.range bound).map memory) (· ≠ 0)
  refine ⟨h.trans_le (strnlen_le memory bound), fun l hl => ?_⟩
  have hlt : l < strnlen memory bound := hl.trans_lt h
  have hget := hprefix.getElem hlt
  rw [List.getElem_map, List.getElem_range] at hget
  have hne := List.mem_takeWhile_imp (List.getElem_mem hlt)
  rw [hget] at hne
  simpa using hne

theorem mem_pathReads {address : SockaddrUn} {beyond : Nat → Byte} {length i : Nat} :
    i ∈ pathReads address beyond length ↔
      i < length - sunPathOffset ∧ ∀ l < i, address.memory beyond l ≠ 0 := by
  rw [pathReads]
  split
  · refine iff_of_false (List.not_mem_nil) ?_
    omega
  · change i ∈ (strnlenFrom _ 0 _).2 ++ List.range (strnlenFrom _ 0 _).1 ↔ _
    rw [List.mem_append, mem_strnlenFrom, List.mem_range, strnlenFrom_fst]
    simp only [Nat.zero_add, Nat.zero_le, true_and, forall_true_left]
    constructor
    · rintro (hlooked | hcopied)
      · exact hlooked
      · obtain ⟨hlt, hne⟩ := lt_strnlen hcopied
        exact ⟨hlt, fun l hl => hne l hl.le⟩
    · exact .inl

/-- The bytes of `sun_path` before the first zero byte, as far as the length goes. -/
def pathWithin (address : SockaddrUn) (length : Nat) : List Byte :=
  ((List.ofFn address.sunPath).take (length - sunPathOffset)).takeWhile (· ≠ 0)

theorem map_range_strnlen (memory : Nat → Byte) (bound : Nat) :
    (List.range (strnlen memory bound)).map memory =
      ((List.range bound).map memory).takeWhile (· ≠ 0) := by
  have hprefix := List.takeWhile_prefix (l := (List.range bound).map memory) (· ≠ 0)
  rw [List.prefix_iff_eq_take.mp hprefix, ← strnlen, ← List.map_take, List.take_range,
    Nat.min_eq_left (strnlen_le memory bound)]

/-- The memory is `sun_path`, and then what lies behind it. -/
theorem map_range_memory (address : SockaddrUn) (beyond : Nat → Byte) (bound : Nat) :
    (List.range bound).map (address.memory beyond) =
      (List.ofFn address.sunPath).take bound ++ (List.range (bound - sunPathSize)).map beyond := by
  refine List.ext_getElem (by simp; omega) fun i hi hi' => ?_
  rw [List.getElem_map, List.getElem_range, SockaddrUn.memory]
  split
  · rename_i hlt
    rw [List.getElem_append_left (by simp at hi ⊢; omega), List.getElem_take, List.getElem_ofFn]
  · rename_i hge
    have hlength : ((List.ofFn address.sunPath).take bound).length = sunPathSize := by
      simp at hi ⊢
      omega
    rw [List.getElem_append_right (by omega), List.getElem_map, List.getElem_range, hlength]

theorem pathFromSockaddr_eq (address : SockaddrUn) (beyond : Nat → Byte) (length : Nat) :
    pathFromSockaddr address beyond length =
      ((List.ofFn address.sunPath).take (length - sunPathOffset) ++
        (List.range (length - sunPathOffset - sunPathSize)).map beyond).takeWhile (· ≠ 0) := by
  rw [pathFromSockaddr]
  split
  · rename_i hshort
    rw [Nat.sub_eq_zero_of_le hshort]
    rfl
  · exact (map_range_strnlen _ _).trans (by rw [map_range_memory])

/-- Whatever lies behind the address, only bytes of `sun_path` are read, and what
comes back are those before the first zero byte within the length. -/
def StaysInside (address : SockaddrUn) (length : Nat) : Prop :=
  ∀ beyond, (∀ i ∈ pathReads address beyond length, i < sunPathSize) ∧
    pathFromSockaddr address beyond length = pathWithin address length

theorem staysInside_of_short (address : SockaddrUn) {length : Nat}
    (h : length ≤ sunPathOffset + sunPathSize) : StaysInside address length := by
  intro beyond
  constructor
  · intro i hi
    have := (mem_pathReads.mp hi).1
    omega
  · rw [pathFromSockaddr_eq, Nat.sub_eq_zero_of_le (by omega : length - sunPathOffset ≤ sunPathSize),
      List.range_zero, List.map_nil, List.append_nil, pathWithin]

/-- A zero byte ends every read. -/
theorem staysInside_of_zero {address : SockaddrUn} {terminator : Fin sunPathSize}
    (hzero : address.sunPath terminator = 0) {length : Nat} (h : sunPathOffset + sunPathSize < length) :
    StaysInside address length := by
  intro beyond
  constructor
  · intro i hi
    by_contra hge
    refine (mem_pathReads.mp hi).2 terminator.val (by omega) ?_
    rw [SockaddrUn.memory, dif_pos terminator.isLt]
    exact hzero
  · have hall : (List.ofFn address.sunPath).take (length - sunPathOffset) = List.ofFn address.sunPath := by
      apply List.take_of_length_le
      rw [List.length_ofFn]
      omega
    have hstops : ((List.ofFn address.sunPath).takeWhile (· ≠ 0)).length ≠
        (List.ofFn address.sunPath).length := by
      intro hwhole
      have hself := (List.takeWhile_prefix _).eq_of_length hwhole
      have hmem : address.sunPath terminator ∈ List.ofFn address.sunPath := List.mem_ofFn.mpr ⟨terminator, rfl⟩
      have hne := List.takeWhile_eq_self_iff.mp hself _ hmem
      simp [hzero] at hne
    rw [pathFromSockaddr_eq, pathWithin, hall, List.takeWhile_append, if_neg hstops]

/-- `path_from_sockaddr` stays inside the address exactly if the length does, or if
`sun_path` has a zero byte. -/
theorem path_stays_inside_iff (address : SockaddrUn) (length : Nat) :
    StaysInside address length ↔
      length ≤ sunPathOffset + sunPathSize ∨ ∃ i, address.sunPath i = 0 := by
  constructor
  · intro h
    by_contra hneither
    obtain ⟨hlong, hfull⟩ := not_or.mp hneither
    have hread : sunPathSize ∈ pathReads address (fun _ => 0) length := by
      refine mem_pathReads.mpr ⟨by omega, fun l hl => ?_⟩
      rw [SockaddrUn.memory, dif_pos hl]
      exact fun hzero => hfull ⟨⟨l, hl⟩, hzero⟩
    exact absurd ((h fun _ => 0).1 _ hread) (Nat.lt_irrefl _)
  · rintro (hshort | ⟨i, hzero⟩)
    · exact staysInside_of_short address hshort
    · by_cases hshort : length ≤ sunPathOffset + sunPathSize
      · exact staysInside_of_short address hshort
      · exact staysInside_of_zero hzero (Nat.lt_of_not_le hshort)

/-- The path of a peer that fills `sun_path`; the kernel reports it with the zero byte
that it keeps itself, and the byte behind the address is read. -/
theorem full_path_read_beyond :
    sunPathSize ∈ pathReads ⟨fun _ => 97⟩ (fun _ => 0) (sunPathOffset + sunPathSize + 1) ∧
    ¬ ∀ address length, StaysInside address length := by
  have hread : sunPathSize ∈ pathReads ⟨fun _ => 97⟩ (fun _ => 0) (sunPathOffset + sunPathSize + 1) := by
    refine mem_pathReads.mpr ⟨by decide, fun l hl => ?_⟩
    rw [SockaddrUn.memory, dif_pos hl]
    exact (by decide : (97 : Byte) ≠ 0)
  exact ⟨hread, fun h => absurd ((h _ _ _).1 _ hread) (Nat.lt_irrefl _)⟩

end UnixPaths
