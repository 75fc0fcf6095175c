import Ioxx.Bytes
import Ioxx.Core
import Mathlib.Data.Fin.VecNotation

/-!
# Socket addresses and their form for the operating system

`resolve_endpoint` writes a `SocketAddr` into a `sockaddr_storage` and
`endpoint_from_sockaddr` reads one back. An `Abi` is what differs between the
systems: the host's byte order, where the family lies (the BSDs put a length byte
before it) and its two values. Port and flow information are in network order, the
scope in host order, and the octets are copied as they are.
-/

namespace Addresses

open Core Bytes

structure Ipv4Addr where
  octets : Block 4
  deriving DecidableEq

structure Ipv6Addr where
  octets : Block 16
  deriving DecidableEq

structure SocketAddrV4 where
  ip : Ipv4Addr
  port : BitVec 16
  deriving DecidableEq

structure SocketAddrV6 where
  ip : Ipv6Addr
  port : BitVec 16
  flowinfo : BitVec 32
  scopeId : BitVec 32
  deriving DecidableEq

inductive SocketAddr where
  | v4 (addr : SocketAddrV4)
  | v6 (addr : SocketAddrV6)
  deriving DecidableEq

/-- `SocketAddr{}`. -/
instance : Inhabited SocketAddr := ⟨.v4 ⟨⟨fun _ => 0⟩, 0⟩⟩

inductive Family where
  | inet
  | inet6
  deriving DecidableEq, Repr

/-- The family of the variant. -/
def SocketAddr.family : SocketAddr → Family
  | .v4 _ => .inet
  | .v6 _ => .inet6

inductive SocketType where
  | stream
  | dgram
  deriving DecidableEq, Repr

inductive Protocol where
  | tcp
  | udp
  deriving DecidableEq, Repr

/-- `sockaddr_storage`. -/
abbrev Storage := Block 128

/-- The family comes before the port in both layouts. -/
structure Abi where
  order : ByteOrder
  familyField : Field 128
  front : familyField.offset + familyField.width ≤ 2
  value : Family → BitVec (8 * familyField.width)
  differ : value .inet ≠ value .inet6

/-! `sockaddr_in`, of 16 bytes. -/

abbrev sinPort : Field 128 := ⟨2, 2, by decide⟩
abbrev sinAddr : Field 128 := ⟨4, 4, by decide⟩

/-! `sockaddr_in6`, of 28 bytes. -/

abbrev sin6Port : Field 128 := ⟨2, 2, by decide⟩
abbrev sin6Flowinfo : Field 128 := ⟨4, 4, by decide⟩
abbrev sin6Addr : Field 128 := ⟨8, 16, by decide⟩
abbrev sin6ScopeId : Field 128 := ⟨24, 4, by decide⟩

/-- The size of the structure for a family. -/
def sockaddrSize : Family → Nat
  | .inet => 16
  | .inet6 => 28

structure ResolvedAddress where
  storage : Storage
  length : Nat
  family : Family
  type : SocketType
  protocol : Protocol

variable (abi : Abi)

def htons (x : BitVec 16) : BitVec 16 := network (n := 2) abi.order x
def ntohs (x : BitVec 16) : BitVec 16 := network (n := 2) abi.order x
def htonl (x : BitVec 32) : BitVec 32 := network (n := 4) abi.order x
def ntohl (x : BitVec 32) : BitVec 32 := network (n := 4) abi.order x

/-- The assignments of `resolve_endpoint` to the zeroed storage. -/
def encode : SocketAddr → Storage
  | .v4 v4 =>
    let storage : Storage := fun _ => 0
    let storage := abi.familyField.write (store abi.order (abi.value .inet)) storage
    let storage := sinPort.write (store (n := 2) abi.order (htons abi v4.port)) storage
    sinAddr.write v4.ip.octets storage
  | .v6 v6 =>
    let storage : Storage := fun _ => 0
    let storage := abi.familyField.write (store abi.order (abi.value .inet6)) storage
    let storage := sin6Port.write (store (n := 2) abi.order (htons abi v6.port)) storage
    let storage := sin6Flowinfo.write (store (n := 4) abi.order (htonl abi v6.flowinfo)) storage
    let storage := sin6ScopeId.write (store (n := 4) abi.order v6.scopeId) storage
    sin6Addr.write v6.ip.octets storage

/-- `resolve_endpoint`; it always clears `ec`. -/
def resolveEndpoint (endpoint : SocketAddr) (type : SocketType) (protocol : Protocol) :
    Option ErrorCode × ResolvedAddress :=
  (none, ⟨encode abi endpoint, sockaddrSize endpoint.family, endpoint.family, type, protocol⟩)

/-- `sa_family`. -/
def saFamily (storage : Storage) : BitVec (8 * abi.familyField.width) :=
  load abi.order (abi.familyField.read storage)

/-- `endpoint_from_sockaddr`; it does not look at the length. -/
def endpointFromSockaddr (storage : Storage) : Option ErrorCode × SocketAddr :=
  if saFamily abi storage = abi.value .inet then
    (none, .v4 ⟨⟨sinAddr.read storage⟩, ntohs abi (load (n := 2) abi.order (sinPort.read storage))⟩)
  else if saFamily abi storage = abi.value .inet6 then
    (none, .v6 ⟨⟨sin6Addr.read storage⟩, ntohs abi (load (n := 2) abi.order (sin6Port.read storage)),
      ntohl abi (load (n := 4) abi.order (sin6Flowinfo.read storage)),
      load (n := 4) abi.order (sin6ScopeId.read storage)⟩)
  else (some .addressFamilyNotSupported, .v4 ⟨⟨fun _ => 0⟩, 0⟩)

/-- A field of the address or the port does not overlap the family. -/
theorem family_apart {f : Field 128} (h : 2 ≤ f.offset) : abi.familyField.Apart f :=
  .inl (abi.front.trans h)

/-! What lies in each field of an encoded address. -/

theorem encode_family (endpoint : SocketAddr) :
    abi.familyField.read (encode abi endpoint) = store abi.order (abi.value endpoint.family) := by
  cases endpoint with
  | v4 v4 =>
    rw [encode, Field.read_write_apart (family_apart abi (by decide)),
      Field.read_write_apart (family_apart abi (by decide)), Field.read_write]
    rfl
  | v6 v6 =>
    rw [encode, Field.read_write_apart (family_apart abi (by decide)),
      Field.read_write_apart (family_apart abi (by decide)),
      Field.read_write_apart (family_apart abi (by decide)),
      Field.read_write_apart (family_apart abi (by decide)), Field.read_write]
    rfl

def SocketAddr.port : SocketAddr → BitVec 16
  | .v4 addr => addr.port
  | .v6 addr => addr.port

/-- The port is sent with its upper byte first, whatever the host. -/
theorem encode_port (endpoint : SocketAddr) :
    sinPort.read (encode abi endpoint) = store (n := 2) .big endpoint.port := by
  cases endpoint with
  | v4 v4 =>
    rw [encode, Field.read_write_apart (by decide), Field.read_write]
    exact store_network (n := 2) _ _
  | v6 v6 =>
    rw [encode, Field.read_write_apart (by decide), Field.read_write_apart (by decide),
      Field.read_write_apart (by decide), Field.read_write]
    exact store_network (n := 2) _ _

theorem encode_addr (v4 : SocketAddrV4) : sinAddr.read (encode abi (.v4 v4)) = v4.ip.octets :=
  Field.read_write _ _ _

theorem encode_flowinfo (v6 : SocketAddrV6) :
    sin6Flowinfo.read (encode abi (.v6 v6)) = store (n := 4) .big v6.flowinfo := by
  rw [encode, Field.read_write_apart (by decide), Field.read_write_apart (by decide), Field.read_write]
  exact store_network (n := 4) _ _

/-- The scope stays in host order. -/
theorem encode_scopeId (v6 : SocketAddrV6) :
    sin6ScopeId.read (encode abi (.v6 v6)) = store (n := 4) abi.order v6.scopeId := by
  rw [encode, Field.read_write_apart (by decide), Field.read_write]

theorem encode_addr6 (v6 : SocketAddrV6) : sin6Addr.read (encode abi (.v6 v6)) = v6.ip.octets :=
  Field.read_write _ _ _

theorem saFamily_encode (endpoint : SocketAddr) :
    saFamily abi (encode abi endpoint) = abi.value endpoint.family := by
  rw [saFamily, encode_family, load_store]

/-- Reading back a word that is in network order. -/
theorem network_load_big {n : Nat} (order : ByteOrder) (x : BitVec (8 * n)) :
    network order (load order (store .big x)) = x := by
  rw [← store_network order x, load_store, network_network]

theorem store_big_network {n : Nat} (order : ByteOrder) (b : Block n) :
    store .big (network order (load order b)) = b := by
  rw [← store_network order, network_network, store_load]

theorem endpoint_inet {storage : Storage} (h : saFamily abi storage = abi.value .inet) :
    endpointFromSockaddr abi storage = (none, .v4 ⟨⟨sinAddr.read storage⟩,
      ntohs abi (load (n := 2) abi.order (sinPort.read storage))⟩) :=
  if_pos h

theorem endpoint_inet6 {storage : Storage} (h : saFamily abi storage = abi.value .inet6) :
    endpointFromSockaddr abi storage = (none, .v6 ⟨⟨sin6Addr.read storage⟩,
      ntohs abi (load (n := 2) abi.order (sin6Port.read storage)),
      ntohl abi (load (n := 4) abi.order (sin6Flowinfo.read storage)),
      load (n := 4) abi.order (sin6ScopeId.read storage)⟩) := by
  rw [endpointFromSockaddr, if_neg (by rw [h]; exact abi.differ.symm), if_pos h]

theorem endpoint_encode (endpoint : SocketAddr) :
    endpointFromSockaddr abi (encode abi endpoint) = (none, endpoint) := by
  have hfamily := saFamily_encode abi endpoint
  have hport := encode_port abi endpoint
  cases endpoint with
  | v4 v4 =>
    rw [endpoint_inet abi hfamily, encode_addr, hport, ntohs, network_load_big (n := 2)]
    rfl
  | v6 v6 =>
    rw [endpoint_inet6 abi hfamily, encode_addr6, hport, encode_flowinfo, encode_scopeId, ntohs,
      ntohl, network_load_big (n := 2), network_load_big (n := 4), load_store (n := 4)]
    rfl

/-- The bytes of a structure that carry information. -/
def Abi.fields (abi : Abi) : Family → List (Field 128)
  | .inet => [abi.familyField, sinPort, sinAddr]
  | .inet6 => [abi.familyField, sin6Port, sin6Flowinfo, sin6Addr, sin6ScopeId]

theorem family_bytes {storage : Storage} {family : Family} (h : saFamily abi storage = abi.value family) :
    store abi.order (abi.value family) = abi.familyField.read storage := by
  rw [← h, saFamily, store_load]

/-- Encoding what was decoded reproduces every byte that carries information. -/
theorem encode_endpoint {storage : Storage} {family : Family}
    (h : saFamily abi storage = abi.value family) :
    ∀ f ∈ abi.fields family,
      f.read (encode abi (endpointFromSockaddr abi storage).2) = f.read storage := by
  have hbytes := family_bytes abi h
  cases family with
  | inet =>
    rw [endpoint_inet abi h]
    intro f hf
    simp only [Abi.fields, List.mem_cons, List.not_mem_nil, or_false] at hf
    rcases hf with rfl | rfl | rfl
    · rw [encode_family]
      exact hbytes
    · rw [encode_port]
      exact store_big_network (n := 2) _ _
    · rw [encode_addr]
  | inet6 =>
    rw [endpoint_inet6 abi h]
    intro f hf
    simp only [Abi.fields, List.mem_cons, List.not_mem_nil, or_false] at hf
    rcases hf with rfl | rfl | rfl | rfl | rfl
    · rw [encode_family]
      exact hbytes
    · rw [encode_port]
      exact store_big_network (n := 2) _ _
    · rw [encode_flowinfo]
      exact store_big_network (n := 4) _ _
    · rw [encode_addr6]
    · rw [encode_scopeId, store_load (n := 4)]

/-- Every field of a structure lies within its size. -/
theorem fields_inside {family : Family} {f : Field 128} (hf : f ∈ abi.fields family) :
    f.offset + f.width ≤ sockaddrSize family := by
  have hfront := abi.front
  cases family with
  | inet =>
    simp only [Abi.fields, List.mem_cons, List.not_mem_nil, or_false] at hf
    rcases hf with rfl | rfl | rfl
    · exact hfront.trans (by decide)
    · decide
    · decide
  | inet6 =>
    simp only [Abi.fields, List.mem_cons, List.not_mem_nil, or_false] at hf
    rcases hf with rfl | rfl | rfl | rfl | rfl
    · exact hfront.trans (by decide)
    · decide
    · decide
    · decide
    · decide

theorem field_agree {storage other : Storage} {length : Nat} {f : Field 128}
    (hinside : f.offset + f.width ≤ length)
    (h : ∀ i : Fin 128, i.val < length → other i = storage i) : f.read other = f.read storage := by
  funext i
  refine h _ ?_
  exact (Nat.add_lt_add_left i.isLt f.offset).trans_le hinside

/-- What the size of the structure leaves out is not read. -/
theorem endpoint_agree {storage other : Storage} {family : Family}
    (hfamily : saFamily abi storage = abi.value family)
    (h : ∀ i : Fin 128, i.val < sockaddrSize family → other i = storage i) :
    endpointFromSockaddr abi other = endpointFromSockaddr abi storage := by
  have hread : ∀ f ∈ abi.fields family, f.read other = f.read storage :=
    fun f hf => field_agree (fields_inside abi hf) h
  have hsame : saFamily abi other = saFamily abi storage := by
    rw [saFamily, saFamily, hread abi.familyField (by cases family <;> exact List.mem_cons_self)]
  have hother := hsame.trans hfamily
  cases family with
  | inet =>
    rw [endpoint_inet abi hfamily, endpoint_inet abi hother, hread sinAddr (by simp [Abi.fields]),
      hread sinPort (by simp [Abi.fields])]
  | inet6 =>
    rw [endpoint_inet6 abi hfamily, endpoint_inet6 abi hother, hread sin6Addr (by simp [Abi.fields]),
      hread sin6Port (by simp [Abi.fields]), hread sin6Flowinfo (by simp [Abi.fields]),
      hread sin6ScopeId (by simp [Abi.fields])]

/-- Socket addresses survive the way to the operating system and back, and so does
every storage of a known family; any other family is an error. The recorded length
covers every field, and what lies behind it does not matter. -/
theorem socket_addr_round_trip :
    (∀ endpoint type protocol,
      (resolveEndpoint abi endpoint type protocol).1 = none ∧
      endpointFromSockaddr abi (resolveEndpoint abi endpoint type protocol).2.storage =
        (none, endpoint) ∧
      (resolveEndpoint abi endpoint type protocol).2.family = endpoint.family ∧
      saFamily abi (resolveEndpoint abi endpoint type protocol).2.storage =
        abi.value endpoint.family ∧
      (resolveEndpoint abi endpoint type protocol).2.length = sockaddrSize endpoint.family ∧
      (∀ f ∈ abi.fields endpoint.family,
        f.offset + f.width ≤ (resolveEndpoint abi endpoint type protocol).2.length) ∧
      ∀ other : Storage, (∀ i : Fin 128, i.val < (resolveEndpoint abi endpoint type protocol).2.length →
          other i = (resolveEndpoint abi endpoint type protocol).2.storage i) →
        endpointFromSockaddr abi other = (none, endpoint)) ∧
    (∀ storage family type protocol, saFamily abi storage = abi.value family →
      (endpointFromSockaddr abi storage).1 = none ∧
      ∀ f ∈ abi.fields family,
        f.read (resolveEndpoint abi (endpointFromSockaddr abi storage).2 type protocol).2.storage =
          f.read storage) ∧
    ∀ storage, (∀ family, saFamily abi storage ≠ abi.value family) →
      (endpointFromSockaddr abi storage).1 = some .addressFamilyNotSupported := by
  refine ⟨?_, ?_, ?_⟩
  · intro endpoint type protocol
    refine ⟨rfl, endpoint_encode abi endpoint, rfl, saFamily_encode abi endpoint, rfl,
      fun f hf => fields_inside abi hf, fun other h => ?_⟩
    exact (endpoint_agree abi (saFamily_encode abi endpoint) h).trans (endpoint_encode abi endpoint)
  · intro storage family type protocol h
    refine ⟨?_, encode_endpoint abi h⟩
    cases family with
    | inet => rw [endpoint_inet abi h]
    | inet6 => rw [endpoint_inet6 abi h]
  · intro storage h
    rw [endpointFromSockaddr, if_neg (h .inet), if_neg (h .inet6)]

/-- A little-endian Linux. -/
def linuxAbi : Abi where
  order := .little
  familyField := ⟨0, 2, by decide⟩
  front := by decide
  value
    | .inet => 2#16
    | .inet6 => 10#16
  differ := by decide

/-- 127.0.0.1, port 8080: the port lies in the storage as 0x1F, 0x90. -/
theorem socket_addr_round_trip_loopback :
    encode linuxAbi (.v4 ⟨⟨![127, 0, 0, 1]⟩, 8080⟩) 2 = 0x1F ∧
    encode linuxAbi (.v4 ⟨⟨![127, 0, 0, 1]⟩, 8080⟩) 3 = 0x90 ∧
    endpointFromSockaddr linuxAbi
      (resolveEndpoint linuxAbi (.v4 ⟨⟨![127, 0, 0, 1]⟩, 8080⟩) .stream .tcp).2.storage =
      (none, .v4 ⟨⟨![127, 0, 0, 1]⟩, 8080⟩) ∧
    (endpointFromSockaddr linuxAbi fun _ => 0).1 = some .addressFamilyNotSupported :=
  ⟨by decide, by decide, ((socket_addr_round_trip linuxAbi).1 _ .stream .tcp).2.1,
    (socket_addr_round_trip linuxAbi).2.2 _ (by intro family; cases family <;> decide)⟩

end Addresses
