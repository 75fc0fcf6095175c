import Ioxx.Bytes
import Ioxx.Draining
import Ioxx.Net
import Ioxx.SelfPipe
import Mathlib.Data.List.TakeWhile

/-!
# Consuming the pending signals

`Signals::pending` of the three builds of `signals.cpp`. All three read one record
after another from a channel, a `signalfd`, the pipe of the handler or a UDP socket
on the loopback interface, and take the first read that is not exactly one record
for the end. With the first two that is so. The socket takes datagrams of any length
from any process.
-/

namespace PendingSignals

open Core Bytes Draining

/-- An `int`, or a `uint32_t`. -/
abbrev Word := BitVec (8 * 4)

/-- What `read` or `recv` answers: the bytes that it has copied, or its error. -/
abbrev Answer := Except Errno (List Byte)

/-- The error of an empty channel. -/
def wouldBlock (platform : Platform) : Errno :=
  ⟨Net.wouldBlockCode platform, by cases platform <;> decide⟩

/-- Any other error. -/
abbrev Refusal (platform : Platform) := { errno : Errno // errno.val ≠ Net.wouldBlockCode platform }

/-- What the builds differ in: the record, and the channel it is read from. -/
structure Build (τ : Type) where
  platform : Platform
  recordSize : Nat
  decode : Block recordSize → Int
  read : List τ → Answer × List τ
  shrinks : ∀ {content bytes rest}, read content = (.ok bytes, rest) → rest.length < content.length

variable {τ : Type}

def errorCode : Platform → Errno → ErrorCode
  | .windows, errno => .ofLastError errno
  | _, errno => .ofErrno errno

/-- What the loop of `pending` makes of an answer. -/
def Build.turn (b : Build τ) : Answer → Turn Int ErrorCode
  | .ok bytes => if bytes.length = b.recordSize then .record (b.decode (ofList bytes)) else .stop
  | .error errno =>
    if errno.val ≠ Net.wouldBlockCode b.platform then .failed (errorCode b.platform errno) else .stop

/-- The answer to the `n`-th read, which may be refused and then takes nothing. -/
def Build.answer (b : Build τ) (refusal : Nat → Option (Refusal b.platform)) (n : Nat)
    (content : List τ) : Answer × List τ :=
  match refusal n with
  | some errno => (.error errno.val, content)
  | none => b.read content

theorem Build.turn_record {b : Build τ} {answer : Answer} {signum : Int} :
    b.turn answer = .record signum ↔
      ∃ bytes, answer = .ok bytes ∧ bytes.length = b.recordSize ∧ signum = b.decode (ofList bytes) := by
  cases answer with
  | ok bytes =>
    rw [Build.turn]
    split
    · rename_i hsize
      simp [hsize, eq_comm]
    · rename_i hsize
      simp [hsize]
  | error errno =>
    rw [Build.turn]
    split <;> simp

theorem Build.turn_stop {b : Build τ} {answer : Answer} : b.turn answer = .stop ↔
    (∃ bytes, answer = .ok bytes ∧ bytes.length ≠ b.recordSize) ∨
    (∃ errno, answer = .error errno ∧ errno.val = Net.wouldBlockCode b.platform) := by
  cases answer with
  | ok bytes =>
    rw [Build.turn]
    split
    · rename_i hsize
      simp [hsize]
    · rename_i hsize
      simp [hsize]
  | error errno =>
    rw [Build.turn]
    split
    · rename_i hother
      simpa using hother
    · rename_i hblock
      simpa using hblock

theorem Build.answer_ok {b : Build τ} {refusal : Nat → Option (Refusal b.platform)} {n : Nat}
    {content rest : List τ} {bytes : List Byte} (h : b.answer refusal n content = (.ok bytes, rest)) :
    b.read content = (.ok bytes, rest) := by
  rw [Build.answer] at h
  split at h
  · cases h
  · exact h

theorem Build.answer_wouldBlock {b : Build τ} {refusal : Nat → Option (Refusal b.platform)} {n : Nat}
    {content rest : List τ} {errno : Errno} (h : b.answer refusal n content = (.error errno, rest))
    (hblock : errno.val = Net.wouldBlockCode b.platform) : b.read content = (.error errno, rest) := by
  rw [Build.answer] at h
  split at h
  · rename_i refused hrefused
    cases h
    exact absurd hblock refused.property
  · exact h

def Build.channel (b : Build τ) (refusal : Nat → Option (Refusal b.platform)) :
    Channel (List τ) Int ErrorCode where
  read n content := (b.turn (b.answer refusal n content).1, (b.answer refusal n content).2)
  size := List.length
  shrinks h := by
    obtain ⟨hturn, rfl⟩ := Prod.mk.inj h
    obtain ⟨bytes, hok, -, -⟩ := Build.turn_record.mp hturn
    exact b.shrinks (Build.answer_ok (Prod.ext hok rfl))

/-- `Signals::Impl::pending`: `ec`, the signals, and what is left in the channel. -/
def Build.pending (b : Build τ) (refusal : Nat → Option (Refusal b.platform)) (content : List τ) :
    Option ErrorCode × List Int × List τ :=
  (b.channel refusal).drain 0 [] content

section

variable {b : Build τ} {refusal : Nat → Option (Refusal b.platform)} {n : Nat} {content rest : List τ}
  {bytes : List Byte} {errno : Errno} {signals : List Int} {signum : Int}

theorem Build.channel_record (h : (b.channel refusal).read n content = (.record signum, rest)) :
    ∃ bytes, b.read content = (.ok bytes, rest) ∧ bytes.length = b.recordSize ∧
      signum = b.decode (ofList bytes) := by
  obtain ⟨hturn, hrest⟩ := Prod.mk.inj h
  obtain ⟨bytes, hok, hsize, hsignum⟩ := Build.turn_record.mp hturn
  exact ⟨bytes, Build.answer_ok (Prod.ext hok hrest), hsize, hsignum⟩

/-- A `pending` without an error has read records, and then something that is not one
or nothing. -/
theorem Build.pending_clear (h : b.pending refusal content = (none, signals, rest)) :
    ∃ m left, Reads (b.channel refusal) 0 content signals m left ∧
      ((∃ bytes, b.read left = (.ok bytes, rest) ∧ bytes.length ≠ b.recordSize) ∨
        ∃ errno, b.read left = (.error errno, rest) ∧ errno.val = Net.wouldBlockCode b.platform) := by
  obtain ⟨brought, m, left, hreads, hend, rfl⟩ := drain_eq_iff.mp h
  refine ⟨m, left, hreads, ?_⟩
  rcases hend with ⟨hstop, -⟩ | ⟨e, -, he⟩
  · obtain ⟨hturn, hrest⟩ := Prod.mk.inj hstop
    rcases Build.turn_stop.mp hturn with ⟨bytes, hok, hsize⟩ | ⟨errno, herror, hblock⟩
    · exact .inl ⟨bytes, Build.answer_ok (Prod.ext hok hrest), hsize⟩
    · exact .inr ⟨errno, Build.answer_wouldBlock (Prod.ext herror hrest) hblock, hblock⟩
  · cases he

/-! What is read when no read is refused. -/

theorem Build.channel_read {answer : Answer} (h : b.read content = (answer, rest)) :
    (b.channel fun _ => none).read n content = (b.turn answer, rest) := by
  change (b.turn (b.read content).1, (b.read content).2) = _
  rw [h]

theorem Build.read_record (h : b.read content = (.ok bytes, rest)) (hsize : bytes.length = b.recordSize) :
    (b.channel fun _ => none).read n content = (.record (b.decode (ofList bytes)), rest) := by
  rw [Build.channel_read h, Build.turn_record.mpr ⟨bytes, rfl, hsize, rfl⟩]

theorem Build.read_short (h : b.read content = (.ok bytes, rest)) (hsize : bytes.length ≠ b.recordSize) :
    (b.channel fun _ => none).read n content = (.stop, rest) := by
  rw [Build.channel_read h, Build.turn_stop.mpr (.inl ⟨bytes, rfl, hsize⟩)]

theorem Build.read_empty (h : b.read content = (.error (wouldBlock b.platform), rest)) :
    (b.channel fun _ => none).read n content = (.stop, rest) := by
  rw [Build.channel_read h, Build.turn_stop.mpr (.inr ⟨_, rfl, rfl⟩)]

end

/-- Whenever `pending` returns without an error, the channel is empty, and the signals
are those that were put there. -/
def Drains (b : Build τ) (content : List τ) (put : List Int) : Prop :=
  ∀ refusal signals rest, b.pending refusal content = (none, signals, rest) →
    rest = [] ∧ signals = put

/-- A channel that holds nothing but whole records. -/
structure Build.Records (b : Build τ) {ι : Type} (holds : List ι → List τ) (signum : ι → Int) : Prop where
  empty : b.read (holds []) = (.error (wouldBlock b.platform), [])
  first : ∀ i items, ∃ bytes, b.read (holds (i :: items)) = (.ok bytes, holds items) ∧
    bytes.length = b.recordSize ∧ b.decode (ofList bytes) = signum i

section

variable {b : Build τ} {ι : Type} {holds : List ι → List τ} {signum : ι → Int}

theorem Build.Records.drains (h : b.Records holds signum) (items : List ι) :
    Drains b (holds items) (items.map signum) := by
  intro refusal signals rest hpending
  obtain ⟨m, left, hreads, hend⟩ := Build.pending_clear hpending
  have htakes : ∀ (n : Nat) (items : List ι) (r : Int) (rest : List τ),
      (b.channel refusal).read n (holds items) = (.record r, rest) →
      ∃ i items', items = i :: items' ∧ True ∧ r = signum i ∧ rest = holds items' := by
    intro n items r rest hread
    obtain ⟨bytes, hok, -, rfl⟩ := Build.channel_record hread
    cases items with
    | nil => cases h.empty.symm.trans hok
    | cons i items =>
      obtain ⟨bytes, hfirst, -, hsignum⟩ := h.first i items
      cases hfirst.symm.trans hok
      exact ⟨i, items, rfl, trivial, hsignum, rfl⟩
  obtain ⟨front, items, rfl, -, rfl, rfl⟩ := Reads.items htakes hreads
  cases items with
  | nil =>
    rcases hend with ⟨bytes, hok, -⟩ | ⟨errno, herror, -⟩
    · cases h.empty.symm.trans hok
    · cases h.empty.symm.trans herror
      exact ⟨rfl, by rw [List.append_nil]⟩
  | cons i items =>
    obtain ⟨bytes, hfirst, hsize, -⟩ := h.first i items
    rcases hend with ⟨bytes, hok, hother⟩ | ⟨errno, herror, -⟩
    · cases hfirst.symm.trans hok
      exact absurd hsize hother
    · cases hfirst.symm.trans herror

/-- If no read is refused, `pending` does return without an error. -/
theorem Build.Records.pending (h : b.Records holds signum) (items : List ι) :
    b.pending (fun _ => none) (holds items) = (none, items.map signum, []) := by
  have htakes : ∀ (n : Nat) (i : ι) (items : List ι), True →
      (b.channel fun _ => none).read n (holds (i :: items)) = (.record (signum i), holds items) := by
    intro n i items _
    obtain ⟨bytes, hfirst, hsize, hsignum⟩ := h.first i items
    rw [Build.read_record hfirst hsize, hsignum]
  have hreads : Reads (b.channel fun _ => none) 0 (holds (items ++ [])) _ _ _ :=
    reads_items htakes [] fun _ _ => trivial
  rw [List.append_nil] at hreads
  exact hreads.drain (.inl ⟨Build.read_empty h.empty, rfl⟩)

end

variable (order : ByteOrder)

/-! ## Linux -/

/-- `signalfd_siginfo`, with the field that is read. -/
structure Siginfo where
  ssiSigno : Word
  others : Block 128

def ssiSignoField : Field 128 := ⟨0, 4, by decide⟩

def Siginfo.bytes (info : Siginfo) : Block 128 :=
  ssiSignoField.write (store order info.ssiSigno) info.others

/-- `read` from a `signalfd`, into room for one record. -/
def readSignalfd : List Siginfo → Answer × List Siginfo
  | [] => (.error (wouldBlock .linux), [])
  | info :: rest => (.ok (List.ofFn (info.bytes order)), rest)

def linux : Build Siginfo where
  platform := .linux
  recordSize := 128
  decode record := (load order (ssiSignoField.read record)).toInt
  read := readSignalfd order
  shrinks {content bytes rest} h := by
    cases content with
    | nil => cases h
    | cons info content =>
      cases h
      exact Nat.lt_succ_self _

theorem decode_siginfo (info : Siginfo) :
    (linux order).decode (ofList (List.ofFn (info.bytes order))) = info.ssiSigno.toInt := by
  change (load order (ssiSignoField.read (ofList (List.ofFn (info.bytes order))))).toInt = _
  rw [ofList_ofFn, Siginfo.bytes, Field.read_write]
  exact congrArg BitVec.toInt (load_store order info.ssiSigno)

theorem linux_records : (linux order).Records id fun info => info.ssiSigno.toInt where
  empty := rfl
  first info _ := ⟨_, rfl, List.length_ofFn, decode_siginfo order info⟩

/-! ## macOS and BSD -/

/-- What the pipe holds after `handler_routine` wrote the signals. -/
def written (signals : List Word) : List Byte := signals.flatMap fun signum => List.ofFn (store order signum)

/-- `read` from the pipe, into an `int`. -/
def readPipe (content : List Byte) : Answer × List Byte :=
  if content = [] then (.error (wouldBlock .kqueue), [])
  else (.ok (content.take 4), content.drop 4)

def bsd : Build Byte where
  platform := .kqueue
  recordSize := 4
  decode record := (load order record).toInt
  read := readPipe
  shrinks {content bytes rest} h := by
    rw [readPipe] at h
    split at h
    · cases h
    · rename_i hne
      cases h
      have := List.length_pos_iff.mpr hne
      rw [List.length_drop]
      omega

theorem decode_written (signum : Word) :
    (bsd order).decode (ofList (List.ofFn (store order signum))) = signum.toInt := by
  change (load order (ofList (List.ofFn (store order signum)) : Block 4)).toInt = _
  rw [ofList_ofFn, load_store]

theorem readPipe_written (signum : Word) (signals : List Word) :
    readPipe (written order (signum :: signals)) =
      (.ok (List.ofFn (store order signum)), written order signals) := by
  have hlength : (List.ofFn (store order signum)).length = 4 := List.length_ofFn
  have hcons : written order (signum :: signals) =
      List.ofFn (store order signum) ++ written order signals := List.flatMap_cons
  have hne : List.ofFn (store order signum) ++ written order signals ≠ [] := by
    intro hnil
    rw [(List.append_eq_nil_iff.mp hnil).1] at hlength
    cases hlength
  rw [hcons, readPipe, if_neg hne, List.take_left' hlength, List.drop_left' hlength]

theorem bsd_records : (bsd order).Records (written order) BitVec.toInt where
  empty := rfl
  first signum signals :=
    ⟨_, readPipe_written order signum signals, List.length_ofFn, decode_written order signum⟩

/-! ## Windows -/

/-- A datagram on the loopback socket, from `handler_routine` or from elsewhere. -/
inductive Datagram where
  | handler (signum : Word)
  | foreign (payload : List Byte)

def Datagram.payload : Datagram → List Byte
  | .handler signum => List.ofFn (store order signum)
  | .foreign payload => payload

def Datagram.size : Datagram → Nat
  | .handler _ => 4
  | .foreign payload => payload.length

def Datagram.signum : Datagram → Option Int
  | .handler signum => some signum.toInt
  | .foreign _ => none

/-- `WSAEMSGSIZE`. -/
def messageSize : Errno := ⟨10040, by decide⟩

/-- `recv` from the socket, into an `int`. What does not fit of a datagram is lost. -/
def recvDatagram : List Datagram → Answer × List Datagram
  | [] => (.error (wouldBlock .windows), [])
  | d :: rest => (if d.size ≤ 4 then .ok (d.payload order) else .error messageSize, rest)

def windows : Build Datagram where
  platform := .windows
  recordSize := 4
  decode record := (load order record).toInt
  read := recvDatagram order
  shrinks {content bytes rest} h := by
    cases content with
    | nil => cases h
    | cons d content =>
      cases (Prod.mk.inj h).2
      exact Nat.lt_succ_self _

@[simp] theorem Datagram.length_payload (d : Datagram) : (d.payload order).length = d.size := by
  cases d with
  | handler signum => exact List.length_ofFn
  | foreign payload => rfl

/-- A datagram of four bytes is taken for a signal, whoever sent it. -/
def Datagram.taken (d : Datagram) : Int := (windows order).decode (ofList (d.payload order))

theorem taken_handler (signum : Word) : (Datagram.handler signum).taken order = signum.toInt := by
  change (load order (ofList (List.ofFn (store order signum)) : Block 4)).toInt = _
  rw [ofList_ofFn, load_store]

/-- A loop without an error ends at the end or at a short datagram, which is lost, and
takes what came before. -/
theorem windows_clear {refusal : Nat → Option (Refusal .windows)} {datagrams rest : List Datagram}
    {signals : List Int} (h : (windows order).pending refusal datagrams = (none, signals, rest)) :
    ∃ front, (∀ d ∈ front, d.size = 4) ∧ signals = front.map (Datagram.taken order) ∧
      ((datagrams = front ∧ rest = []) ∨ ∃ d, d.size < 4 ∧ datagrams = front ++ d :: rest) := by
  obtain ⟨m, left, hreads, hend⟩ := Build.pending_clear h
  have htakes : ∀ (n : Nat) (items : List Datagram) (r : Int) (rest : List Datagram),
      ((windows order).channel refusal).read n (id items) = (.record r, rest) →
      ∃ d items', items = d :: items' ∧ d.size = 4 ∧ r = d.taken order ∧ rest = id items' := by
    intro n items r rest hread
    obtain ⟨bytes, hok, hsize, rfl⟩ := Build.channel_record hread
    cases items with
    | nil => cases hok
    | cons d items =>
      obtain ⟨hanswer, rfl⟩ := Prod.mk.inj hok
      split at hanswer
      · cases hanswer
        exact ⟨d, items, rfl, (d.length_payload order).symm.trans hsize, rfl, rfl⟩
      · cases hanswer
  obtain ⟨front, left, rfl, hfull, rfl, rfl⟩ := Reads.items htakes hreads
  refine ⟨front, hfull, rfl, ?_⟩
  cases left with
  | nil =>
    rcases hend with ⟨bytes, hok, -⟩ | ⟨errno, herror, -⟩
    · cases hok
    · cases herror
      exact .inl ⟨List.append_nil front, rfl⟩
  | cons d left =>
    rcases hend with ⟨bytes, hok, hsize⟩ | ⟨errno, herror, hblock⟩
    · obtain ⟨hanswer, rfl⟩ := Prod.mk.inj hok
      split at hanswer
      · rename_i hle
        cases hanswer
        rw [d.length_payload order] at hsize
        exact .inr ⟨d, Nat.lt_of_le_of_ne hle hsize, rfl⟩
      · cases hanswer
    · obtain ⟨hanswer, rfl⟩ := Prod.mk.inj herror
      split at hanswer
      · cases hanswer
      · cases hanswer
        exact absurd hblock (by decide : ¬ messageSize.val = Net.wouldBlockCode .windows)

theorem recvDatagram_cons {d : Datagram} (rest : List Datagram) (h : d.size ≤ 4) :
    (windows order).read (d :: rest) = (.ok (d.payload order), rest) :=
  Prod.ext (if_pos h) rfl

/-- Datagrams of four bytes are all taken when no read is refused. -/
theorem windows_reads {front : List Datagram} (left : List Datagram) (h : ∀ d ∈ front, d.size = 4) :
    Reads ((windows order).channel fun _ => none) 0 (id (front ++ left))
      (front.map (Datagram.taken order)) (0 + front.length) (id left) := by
  refine reads_items (fun n d rest hsize => ?_) left h
  exact Build.read_record (recvDatagram_cons order rest hsize.le)
    ((d.length_payload order).trans hsize)

theorem windows_pending {front : List Datagram} (h : ∀ d ∈ front, d.size = 4) :
    (windows order).pending (fun _ => none) front = (none, front.map (Datagram.taken order), []) := by
  have hreads := windows_reads order [] h
  rw [List.append_nil] at hreads
  exact hreads.drain (.inl ⟨Build.read_empty rfl, rfl⟩)

/-- A short datagram ends the loop, and what lies behind it stays. -/
theorem windows_pending_short {front : List Datagram} (h : ∀ d ∈ front, d.size = 4) {d : Datagram}
    (hshort : d.size < 4) (rest : List Datagram) :
    (windows order).pending (fun _ => none) (front ++ d :: rest) =
      (none, front.map (Datagram.taken order), rest) := by
  have hother : (d.payload order).length ≠ (windows order).recordSize := by
    rw [d.length_payload order]
    exact hshort.ne
  exact (windows_reads order (d :: rest) h).drain
    (.inl ⟨Build.read_short (recvDatagram_cons order rest hshort.le) hother, rfl⟩)

/-- The step `pending` of `SelfPipe`, which empties a channel, is what both its builds
do to what the handler wrote there. -/
theorem pending_step {c : SelfPipe.Class} {s t : SelfPipe.State} {i : Nat} {signals : List Word}
    (hchannel : s.channel i = signals.map BitVec.toInt)
    (hstep : SelfPipe.step c (.pending i) s = some t) :
    (bsd order).pending (fun _ => none) (written order signals) = (none, s.channel i, []) ∧
    (windows order).pending (fun _ => none) (signals.map .handler) = (none, s.channel i, []) ∧
    t.channel i = [] := by
  obtain rfl := Option.some.inj hstep
  rw [hchannel]
  refine ⟨(bsd_records order).pending signals, ?_, Function.update_self ..⟩
  have hfull : ∀ d ∈ signals.map Datagram.handler, d.size = 4 := by
    intro d hd
    obtain ⟨signum, -, rfl⟩ := List.mem_map.mp hd
    rfl
  rw [windows_pending order hfull, List.map_map]
  congr 2
  exact List.map_congr_left fun signum _ => taken_handler order signum

/-- The signals that the handler has sent. -/
def put (datagrams : List Datagram) : List Int := datagrams.filterMap Datagram.signum

/-- What was taken is what the handler sent if it sent everything. -/
theorem map_taken_eq_put_iff (datagrams : List Datagram) :
    datagrams.map (Datagram.taken order) = put datagrams ↔ ∀ d ∈ datagrams, d.signum.isSome := by
  constructor
  · intro h
    have hlength : (datagrams.filterMap Datagram.signum).length = datagrams.length := by
      rw [← put, ← h, List.length_map]
    exact List.filterMap_length_eq_length.mp hlength
  · intro h
    induction datagrams with
    | nil => rfl
    | cons d datagrams ih =>
      obtain ⟨hd, hrest⟩ := List.forall_mem_cons.mp h
      cases d with
      | handler signum =>
        rw [List.map_cons, taken_handler, ih hrest]
        rfl
      | foreign payload => cases hd

theorem signum_of_size {d : Datagram} (h : d.size ≠ 4) : d.signum = none := by
  cases d with
  | handler signum => exact absurd rfl h
  | foreign payload => rfl

theorem put_append_other (front : List Datagram) {d : Datagram} (h : d.size ≠ 4) :
    put (front ++ [d]) = put front := by
  rw [put, List.filterMap_append, List.filterMap_cons_none (signum_of_size h), List.filterMap_nil,
    List.append_nil, put]

/-- The first datagram that does not have four bytes has more, or all that have four
are the handler's and only the last one may have fewer. -/
def Undisturbed (datagrams : List Datagram) : Prop :=
  (∃ d rest, datagrams.dropWhile (·.size = 4) = d :: rest ∧ 4 < d.size) ∨
  ((∀ d ∈ datagrams, d.size = 4 → d.signum.isSome) ∧
    (datagrams.dropWhile (·.size = 4)).length ≤ 1)

theorem dropWhile_front {front : List Datagram} (h : ∀ d ∈ front, d.size = 4) (left : List Datagram) :
    (front ++ left).dropWhile (·.size = 4) = left.dropWhile (·.size = 4) :=
  List.dropWhile_append_of_pos fun d hd => decide_eq_true (h d hd)

theorem undisturbed_of_drains {datagrams : List Datagram}
    (h : Drains (windows order) datagrams (put datagrams)) : Undisturbed datagrams := by
  obtain ⟨front, left, rfl, hfull, hleft⟩ : ∃ front left, datagrams = front ++ left ∧
      (∀ d ∈ front, d.size = 4) ∧ datagrams.dropWhile (·.size = 4) = left :=
    ⟨datagrams.takeWhile (·.size = 4), _, List.takeWhile_append_dropWhile.symm,
      fun d hd => by simpa using List.mem_takeWhile_imp hd, rfl⟩
  rw [Undisturbed, hleft]
  cases left with
  | nil =>
    rw [List.append_nil] at h ⊢
    obtain ⟨-, htaken⟩ := h _ _ _ (windows_pending order hfull)
    have hall := (map_taken_eq_put_iff order front).mp htaken
    exact .inr ⟨fun d hd _ => hall d hd, Nat.zero_le 1⟩
  | cons d rest =>
    have hother : d.size ≠ 4 := by
      have hhead := List.head?_dropWhile_not (·.size = 4) (front ++ d :: rest)
      rw [hleft] at hhead
      exact of_decide_eq_false hhead
    by_cases hlong : 4 < d.size
    · exact .inl ⟨d, rest, rfl, hlong⟩
    · obtain ⟨rfl, htaken⟩ := h _ _ _ (windows_pending_short order hfull (by omega) rest)
      rw [put_append_other front hother] at htaken
      have hall := (map_taken_eq_put_iff order front).mp htaken
      refine .inr ⟨fun e he hsize => ?_, le_rfl⟩
      rcases List.mem_append.mp he with hfront | hd
      · exact hall e hfront
      · obtain rfl := List.mem_singleton.mp hd
        exact absurd hsize hother

theorem drains_of_undisturbed {datagrams : List Datagram} (h : Undisturbed datagrams) :
    Drains (windows order) datagrams (put datagrams) := by
  intro refusal signals rest hpending
  obtain ⟨front, hfull, rfl, ⟨rfl, rfl⟩ | ⟨d, hshort, rfl⟩⟩ := windows_clear order hpending
  · refine ⟨rfl, (map_taken_eq_put_iff order _).mpr fun d hd => ?_⟩
    have hnil := dropWhile_front hfull []
    rw [List.append_nil, List.dropWhile_nil] at hnil
    rcases h with ⟨e, rest, hdrop, -⟩ | ⟨hall, -⟩
    · rw [hnil] at hdrop
      cases hdrop
    · exact hall d hd (hfull d hd)
  · have hdrop : (front ++ d :: rest).dropWhile (·.size = 4) = d :: rest := by
      rw [dropWhile_front hfull, List.dropWhile_cons_of_neg (by simpa using hshort.ne)]
    rcases h with ⟨e, rest', hlong, hsize⟩ | ⟨hall, hlength⟩
    · rw [hdrop] at hlong
      obtain ⟨rfl, -⟩ := List.cons.inj hlong
      omega
    · rw [hdrop, List.length_cons] at hlength
      obtain rfl := List.length_eq_zero_iff.mp (by omega : rest.length = 0)
      refine ⟨rfl, ?_⟩
      rw [put_append_other front hshort.ne, map_taken_eq_put_iff]
      exact fun e he => hall e (List.mem_append_left _ he) (hfull e he)

/-- `pending` drains a `signalfd` and the pipe of the handler, and the loopback socket
exactly if nobody disturbs it. -/
theorem pending_drains_iff (records : List Siginfo) (signals : List Word)
    (datagrams : List Datagram) :
    Drains (linux order) records (records.map fun info => info.ssiSigno.toInt) ∧
    Drains (bsd order) (written order signals) (signals.map BitVec.toInt) ∧
    (Drains (windows order) datagrams (put datagrams) ↔ Undisturbed datagrams) :=
  ⟨(linux_records order).drains records, (bsd_records order).drains signals,
    undisturbed_of_drains order, drains_of_undisturbed order⟩

/-- An empty datagram before `SIGINT`: `pending` reports no error and no signal, and
leaves the signal in the socket. A foreign datagram of four bytes is a signal. -/
theorem empty_datagram_hides_signal :
    (windows .little).pending (fun _ => none) [.foreign [], .handler 2] = (none, [], [.handler 2]) ∧
    (windows .little).pending (fun _ => none) [.foreign [2, 0, 0, 0]] = (none, [2], []) ∧
    ¬ ∀ datagrams, Drains (windows .little) datagrams (put datagrams) := by
  have hhidden : (windows .little).pending (fun _ => none) ([] ++ .foreign [] :: [.handler 2]) = _ :=
    windows_pending_short .little (by simp) (by decide) [.handler 2]
  refine ⟨hhidden, windows_pending .little (by simp [Datagram.size]), fun h => ?_⟩
  cases (h _ _ _ _ hhidden).1

end PendingSignals
