import Ioxx.Iocp
import Mathlib.Data.Real.Basic
import Mathlib.Algebra.Order.BigOperators.Group.List
import Mathlib.Algebra.BigOperators.Ring.Finset

/-!
# Timeouts of a poll

Each selector turns the optional count of milliseconds into the argument of its
own wait, where one value stands for no limit. `meaning` reads such an argument as
the operating system does. Two of the four conversions go wrong: the one for
`kevent` does not raise a negative count to zero, and the one for `poll(2)` does
not lower a large one. `selectIocpTimed` is the loop of `select_iocp` with the
timeouts of its waits, each of which is the whole timeout until an event is found.
-/

namespace Timeouts

open Core Select Iocp

/-- `std::optional<std::chrono::milliseconds>`, by its 64-bit count. -/
abbrev Timeout := Option (BitVec 64)

/-- `clamp_timeout`; -1 stands for no timeout. -/
def clampTimeout : Timeout → BitVec 64
  | none => -1
  | some count => if count.toInt < 0 then 0#64 else count

/-- `std::min<std::int64_t>`. -/
def minCount (a b : BitVec 64) : BitVec 64 := if b.toInt < a.toInt then b else a

/-- `std::numeric_limits<int>::max()`. -/
def intMax : Nat := 2 ^ 31 - 1

def INFINITE : BitVec 32 := 0xFFFFFFFF

/-- `timeout_ms` of `select_epoll`. -/
def epollTimeout (timeout : Timeout) : BitVec 32 :=
  (minCount (clampTimeout timeout) (BitVec.ofNat 64 intMax)).setWidth 32

/-- `timeout_ms` of `select_iocp`. -/
def iocpTimeout (timeout : Timeout) : BitVec 32 :=
  if (clampTimeout timeout).toInt < 0 then INFINITE
  else (minCount (clampTimeout timeout) ((INFINITE - 1).setWidth 64)).setWidth 32

/-- `timespec`; either field holds every value that `to_timespec` computes. -/
structure Timespec where
  tvSec : Int
  tvNsec : Int
  deriving DecidableEq, Repr

/-- `to_timespec`: `duration_cast` rounds towards zero. -/
def toTimespec (timeout : BitVec 64) : Timespec :=
  let seconds := timeout.toInt.tdiv 1000
  ⟨seconds, (timeout.toInt - seconds * 1000) * 10 ^ 6⟩

/-- `timeout_ptr` of `select_kqueue`. -/
def kqueueTimeout (timeout : Timeout) : Option Timespec := timeout.map toTimespec

/-- The timeout that `select_poll` passes. -/
def pollTimeout (timeout : Timeout) : BitVec 32 := (clampTimeout timeout).setWidth 32

abbrev Argument : Platform → Type
  | .windows => BitVec 32
  | .linux => BitVec 32
  | .kqueue => Option Timespec
  | .other => BitVec 32

/-- What the selector of a build passes to its wait. -/
def argument : (platform : Platform) → Timeout → Argument platform
  | .windows, timeout => iocpTimeout timeout
  | .linux, timeout => epollTimeout timeout
  | .kqueue, timeout => kqueueTimeout timeout
  | .other, timeout => pollTimeout timeout

inductive Wait where
  | forever
  | finite (nanoseconds : Nat)
  | invalid
  deriving DecidableEq, Repr

/-- An `int` of milliseconds, of which only -1 may be negative. -/
def Wait.ofInt (ms : BitVec 32) : Wait :=
  if ms.toInt = -1 then .forever
  else if ms.toInt < 0 then .invalid
  else .finite (ms.toInt.toNat * 10 ^ 6)

/-- The wait that an argument asks of the operating system. -/
def meaning : (platform : Platform) → Argument platform → Wait
  | .windows, ms => if ms = INFINITE then .forever else .finite (ms.toNat * 10 ^ 6)
  | .linux, ms => .ofInt ms
  | .kqueue, none => .forever
  | .kqueue, some ts => if 0 ≤ ts.tvSec ∧ 0 ≤ ts.tvNsec ∧ ts.tvNsec < 10 ^ 9 then
      .finite (ts.tvSec * 10 ^ 9 + ts.tvNsec).toNat else .invalid
  | .other, ms => .ofInt ms

/-- A number of milliseconds cut to what the wait can express, in nanoseconds.
A `timespec` expresses every count of milliseconds. -/
def saturated : Platform → Nat → Nat
  | .windows, ms => min ms (2 ^ 32 - 2) * 10 ^ 6
  | .linux, ms => min ms intMax * 10 ^ 6
  | .kqueue, ms => ms * 10 ^ 6
  | .other, ms => min ms intMax * 10 ^ 6

/-- No timeout asks for no limit, and a count for that many milliseconds, or none
when it is negative. -/
def Faithful (platform : Platform) (timeout : Timeout) : Prop :=
  meaning platform (argument platform timeout) = match timeout with
    | none => .forever
    | some count => .finite (saturated platform count.toInt.toNat)

instance (platform : Platform) (timeout : Timeout) : Decidable (Faithful platform timeout) :=
  inferInstanceAs (Decidable (_ = _))

/-- The counts that a conversion gets right. -/
def Converts : Platform → Timeout → Prop
  | .kqueue, some count => 0 ≤ count.toInt
  | .other, some count => count.toInt ≤ intMax ∨ count.toInt % 2 ^ 32 = intMax
  | _, _ => True

theorem clampTimeout_some (count : BitVec 64) :
    (clampTimeout (some count)).toInt = max 0 count.toInt := by
  unfold clampTimeout
  dsimp only
  split
  · rw [BitVec.toInt_zero]
    omega
  · omega

theorem minCount_toInt (a b : BitVec 64) : (minCount a b).toInt = min a.toInt b.toInt := by
  unfold minCount
  split <;> omega

/-- Dropping the upper half of a count that is not negative. -/
theorem toNat_narrow {count : BitVec 64} (h : 0 ≤ count.toInt) :
    (count.setWidth 32).toNat = count.toInt.toNat % 2 ^ 32 := by
  rw [BitVec.toNat_setWidth]
  have hcount : count.toNat = count.toInt.toNat := by
    rw [BitVec.toInt_eq_toNat_cond] at h ⊢
    split at h
    · rename_i hsmall
      rw [if_pos hsmall]
      omega
    · have := count.isLt
      omega
  rw [hcount]

theorem ofInt_small {ms : BitVec 32} (h : ms.toNat < 2 ^ 31) :
    Wait.ofInt ms = .finite (ms.toNat * 10 ^ 6) := by
  have hint : ms.toInt = ms.toNat := by
    rw [BitVec.toInt_eq_toNat_cond, if_pos (by omega)]
  rw [Wait.ofInt, hint, if_neg (by omega), if_neg (by omega), Int.toNat_natCast]

theorem ofInt_large {ms : BitVec 32} (h : ¬ ms.toNat < 2 ^ 31) (nanoseconds : Nat) :
    Wait.ofInt ms ≠ .finite nanoseconds := by
  have hint : ms.toInt < 0 := by
    have := ms.isLt
    rw [BitVec.toInt_eq_toNat_cond, if_neg (by omega)]
    omega
  rw [Wait.ofInt, if_pos hint]
  split <;> exact Wait.noConfusion

/-- An `int` that came from a count which is not negative. -/
theorem ofInt_narrow {count : BitVec 64} (h : 0 ≤ count.toInt) (ms : Nat) (hms : ms ≤ intMax) :
    Wait.ofInt (count.setWidth 32) = .finite (ms * 10 ^ 6) ↔ count.toInt.toNat % 2 ^ 32 = ms := by
  unfold intMax at hms
  rw [← toNat_narrow h]
  by_cases hsmall : (count.setWidth 32).toNat < 2 ^ 31
  · rw [ofInt_small hsmall, Wait.finite.injEq]
    omega
  · refine iff_of_false (ofInt_large hsmall _) ?_
    omega

theorem faithful_linux (timeout : Timeout) : Faithful .linux timeout := by
  cases timeout with
  | none => decide
  | some count =>
    have hmin : (minCount (clampTimeout (some count)) (BitVec.ofNat 64 intMax)).toInt =
        min (max 0 count.toInt) intMax := by
      rw [minCount_toInt, clampTimeout_some]
      rfl
    have hnonneg : 0 ≤ (minCount (clampTimeout (some count)) (BitVec.ofNat 64 intMax)).toInt := by
      rw [hmin]
      omega
    refine (ofInt_narrow hnonneg (min count.toInt.toNat intMax) (min_le_right _ _)).mpr ?_
    rw [hmin, intMax]
    omega

theorem iocpTimeout_toNat (count : BitVec 64) :
    (iocpTimeout (some count)).toNat = min count.toInt.toNat (2 ^ 32 - 2) := by
  have hclamp := clampTimeout_some count
  have hmin : (minCount (clampTimeout (some count)) ((INFINITE - 1).setWidth 64)).toInt =
      min (max 0 count.toInt) (2 ^ 32 - 2) := by
    rw [minCount_toInt, hclamp]
    rfl
  rw [iocpTimeout, if_neg (by omega), toNat_narrow (by omega), hmin]
  omega

theorem faithful_windows (timeout : Timeout) : Faithful .windows timeout := by
  cases timeout with
  | none => decide
  | some count =>
    have hms := iocpTimeout_toNat count
    have hfinite : iocpTimeout (some count) ≠ INFINITE := by
      intro h
      have := congrArg BitVec.toNat h
      rw [hms, show INFINITE.toNat = 2 ^ 32 - 1 from rfl] at this
      omega
    change (if iocpTimeout (some count) = INFINITE then Wait.forever else
      .finite ((iocpTimeout (some count)).toNat * 10 ^ 6)) = _
    rw [if_neg hfinite, hms]
    rfl

/-- `to_timespec` is right for the counts that are not negative, and invalid for
all others: either field may be the negative one. -/
theorem faithful_kqueue_iff (count : BitVec 64) :
    Faithful .kqueue (some count) ↔ 0 ≤ count.toInt := by
  change meaning .kqueue (some (toTimespec count)) = _ ↔ _
  rw [meaning, toTimespec]
  dsimp only
  have hdiv := Int.mul_tdiv_add_tmod count.toInt 1000
  have hmod := Int.tmod_lt_of_pos count.toInt (show (0 : Int) < 1000 by decide)
  constructor
  · intro h
    by_contra hneg
    split at h
    · rename_i hvalid
      omega
    · cases h
  · intro hpos
    have hmod' := Int.tmod_nonneg 1000 hpos
    have hdiv' := Int.tdiv_nonneg hpos (show (0 : Int) ≤ 1000 by decide)
    rw [if_pos (by omega)]
    congr 1
    rw [saturated]
    omega

theorem faithful_other_iff (count : BitVec 64) :
    Faithful .other (some count) ↔ Converts .other (some count) := by
  have hclamp := clampTimeout_some count
  change Wait.ofInt ((clampTimeout (some count)).setWidth 32) = .finite (min _ intMax * 10 ^ 6) ↔ _
  rw [ofInt_narrow (by omega) _ (min_le_right _ _), hclamp, Converts, intMax]
  omega

/-- The wait is the one asked for on Linux and Windows; with `kevent` exactly when
the count is not negative, and with `poll(2)` exactly when it fits an `int`, or is
cut to the largest one by chance. -/
theorem timeout_converted_iff (platform : Platform) (timeout : Timeout) :
    Faithful platform timeout ↔ Converts platform timeout := by
  cases platform with
  | windows => exact iff_of_true (faithful_windows timeout) trivial
  | linux => exact iff_of_true (faithful_linux timeout) trivial
  | kqueue =>
    cases timeout with
    | none => exact iff_of_true rfl trivial
    | some count => exact faithful_kqueue_iff count
  | other =>
    cases timeout with
    | none => exact iff_of_true (by decide) trivial
    | some count => exact faithful_other_iff count

/-- A `poll` of 4294967295 milliseconds waits for ever, and one of -1 millisecond
asks `kevent` for an invalid time. -/
theorem long_timeout_waits_forever :
    meaning .other (argument .other (some 0xFFFFFFFF)) = .forever ∧
    meaning .kqueue (argument .kqueue (some (-1))) = .invalid ∧
    ¬ ∀ platform timeout, Faithful platform timeout := by
  refine ⟨by decide, by decide, fun h => ?_⟩
  have := h .other (some 0xFFFFFFFF)
  revert this
  decide

/-! ## The waits of `select_iocp` -/

/-- A turn that is a return of `GetQueuedCompletionStatus` with a completion. -/
def dequeues (m : Machine) : Turn → Bool
  | .posted => !m.port.isEmpty
  | .polled ref op _ => (m.finished ref op).isSome
  | .finishes .. => false

/-- `wait_ms`. -/
def waitMs (timeoutMs : BitVec 32) (events : Events) : BitVec 32 :=
  if events.items.isEmpty then timeoutMs else 0

/-- `select_iocp` with the timeouts it passes to `GetQueuedCompletionStatus`. -/
def selectIocpTimed (growth : Growth) (ending : Option Errno) (timeoutMs : BitVec 32) :
    List Turn → Events → Machine → List (BitVec 32) × Except Exception Unit × Events × Machine
  | [], events, m =>
    if events.size < events.capacity then
      ([waitMs timeoutMs events], match ending with
        | none => (.ok (), events, m)
        | some error =>
          (.error (.systemError (.ofLastError error) "GetQueuedCompletionStatus"), events, m))
    else ([], .ok (), events, m)
  | turn :: turns, events, m =>
    if events.size < events.capacity then
      let wait := if dequeues m turn then [waitMs timeoutMs events] else []
      let events := events.pushAll growth (turn.event m).toList
      match turn.thrown m with
      | some e => (wait, .error e, events, turn.after m)
      | none =>
        let (waits, result) := selectIocpTimed growth ending timeoutMs turns events (turn.after m)
        (wait ++ waits, result)
    else ([], .ok (), events, m)

variable (growth : Growth) (ending : Option Errno) (timeoutMs : BitVec 32)

/-- The timeouts do not change what the call does. -/
theorem selectIocpTimed_result (turns : List Turn) (events : Events) (m : Machine) :
    (selectIocpTimed growth ending timeoutMs turns events m).2 =
      selectIocp growth ending turns events m := by
  induction turns generalizing events m with
  | nil =>
    unfold selectIocpTimed selectIocp
    split <;> rfl
  | cons turn turns ih =>
    unfold selectIocpTimed selectIocp
    split
    · dsimp only
      cases turn.thrown m with
      | some e => rfl
      | none => exact ih _ _
    · rfl

/-- The completions that are dequeued before one that carries an event or throws. -/
def quietCompletions : List Turn → Machine → Nat
  | [], _ => 0
  | turn :: turns, m =>
    if (turn.event m).isSome ∨ (turn.thrown m).isSome then 0
    else (if dequeues m turn then 1 else 0) + quietCompletions turns (turn.after m)

/-- A turn that does something to the loop is the return of a wait. -/
theorem dequeues_of_loud {m : Machine} {turn : Turn}
    (h : (turn.event m).isSome ∨ (turn.thrown m).isSome) : dequeues m turn = true := by
  cases turn with
  | posted =>
    cases hport : m.port with
    | nil => simp [Turn.event, Turn.thrown, hport] at h
    | cons entry port => simp [dequeues, hport]
  | polled ref op r =>
    cases hfinished : m.finished ref op with
    | none => simp [Turn.event, Turn.thrown, hfinished] at h
    | some system => simp [dequeues, hfinished]
  | finishes ref op status handles events => simp [Turn.event, Turn.thrown] at h

/-- Once there is an event, no wait has a timeout. -/
theorem waits_zero (turns : List Turn) {events : Events} (hsome : events.items ≠ []) (m : Machine) :
    ∀ wait ∈ (selectIocpTimed growth ending timeoutMs turns events m).1, wait = 0 := by
  have hwait : waitMs timeoutMs events = 0 := if_neg (by simpa using hsome)
  induction turns generalizing events m with
  | nil =>
    unfold selectIocpTimed
    split
    · simp [hwait]
    · simp
  | cons turn turns ih =>
    have hmore : (events.pushAll growth (turn.event m).toList).items ≠ [] := by
      rw [Events.pushAll_items]
      exact fun h => hsome (List.append_eq_nil_iff.mp h).1
    have hfirst : ∀ wait ∈ (if dequeues m turn then [waitMs timeoutMs events] else []), wait = 0 := by
      split <;> simp [hwait]
    unfold selectIocpTimed
    split
    · dsimp only
      split
      · exact hfirst
      · intro wait hmem
        rcases List.mem_append.mp hmem with hnow | hlater
        · exact hfirst wait hnow
        · exact ih hmore (turn.after m) (if_neg (by simpa using hmore)) wait hlater
    · simp

/-- The waits of a call that starts without events: one for each quiet completion,
one more with the same timeout, and none that takes time after that. -/
theorem waits_eq (turns : List Turn) {events : Events} (hempty : events.items = [])
    (hcapacity : 0 < events.capacity) (m : Machine) :
    ∃ rest, (∀ wait ∈ rest, wait = 0) ∧
      (selectIocpTimed growth ending timeoutMs turns events m).1 =
        List.replicate (quietCompletions turns m + 1) timeoutMs ++ rest := by
  have hroom : events.size < events.capacity := by rw [Events.size, hempty]; exact hcapacity
  have hwait : waitMs timeoutMs events = timeoutMs := if_pos (by simp [hempty])
  induction turns generalizing m with
  | nil =>
    refine ⟨[], by simp, ?_⟩
    unfold selectIocpTimed
    rw [if_pos hroom, hwait]
    rfl
  | cons turn turns ih =>
    unfold selectIocpTimed quietCompletions
    rw [if_pos hroom, hwait]
    by_cases hloud : (turn.event m).isSome ∨ (turn.thrown m).isSome
    · rw [if_pos hloud, if_pos (dequeues_of_loud hloud)]
      dsimp only
      cases hthrown : turn.thrown m with
      | some e => exact ⟨[], by simp, rfl⟩
      | none =>
        refine ⟨_, ?_, rfl⟩
        apply waits_zero
        rw [hthrown] at hloud
        obtain ⟨event, hevent⟩ := Option.isSome_iff_exists.mp (hloud.resolve_right (by simp))
        simp [hevent]
    · rw [if_neg hloud]
      rw [not_or, Bool.not_eq_true, Bool.not_eq_true, Option.isSome_eq_false_iff,
        Option.isSome_eq_false_iff, Option.isNone_iff_eq_none, Option.isNone_iff_eq_none] at hloud
      obtain ⟨rest, hrest, heq⟩ := ih (turn.after m)
      refine ⟨rest, hrest, ?_⟩
      simp only [hloud.1, hloud.2, Option.toList_none, Events.pushAll, List.foldl_nil, heq]
      split
      · rw [Nat.add_comm 1, List.replicate_succ (n := _ + 1)]
        rfl
      · rw [Nat.zero_add, List.nil_append]

/-- Waits that each end within their timeout take no longer together than asked. -/
def NoLonger (timeout : BitVec 64) (waits : List (BitVec 32)) : Prop :=
  ∀ elapsed : List ℝ, List.Forall₂ (fun e wait => 0 ≤ e ∧ e ≤ wait.toNat) elapsed waits →
    elapsed.sum ≤ max 0 timeout.toInt

/-- The longest possible waits decide it. -/
theorem noLonger_iff (timeout : BitVec 64) (waits : List (BitVec 32)) :
    NoLonger timeout waits ↔ (waits.map BitVec.toNat).sum ≤ timeout.toInt.toNat := by
  have hbound : ((max 0 timeout.toInt : ℤ) : ℝ) = (timeout.toInt.toNat : ℕ) := by
    rw [← Int.cast_natCast, Int.toNat_eq_max, max_comm]
  have hsum : (waits.map fun wait => (wait.toNat : ℝ)).sum = ((waits.map BitVec.toNat).sum : ℕ) := by
    rw [Nat.cast_list_sum, List.map_map]
    rfl
  rw [NoLonger, hbound]
  constructor
  · intro h
    have hall := h (waits.map fun wait => (wait.toNat : ℝ)) (by
      rw [List.forall₂_map_left_iff, List.forall₂_same]
      exact fun wait _ => ⟨Nat.cast_nonneg _, le_rfl⟩)
    rw [hsum] at hall
    exact Nat.cast_le.mp hall
  · intro h elapsed hall
    have hle : elapsed.sum ≤ (waits.map fun wait => (wait.toNat : ℝ)).sum :=
      List.Forall₂.sum_le_sum (List.forall₂_map_right_iff.mpr (hall.imp fun _ _ he => he.2))
    rw [hsum] at hle
    exact hle.trans (Nat.cast_le.mpr h)

/-- The waits of a call take no longer than asked exactly when nothing is asked
for, when the first completion to be dequeued carries an event or throws, or when
the timeout is beyond what the waits before the first event can take together. -/
theorem select_waits_no_longer_iff (turns : List Turn) (events : Events)
    (hcapacity : 1 ≤ events.capacity) (m : Machine) (timeout : BitVec 64) :
    NoLonger timeout
      (selectIocpTimed growth ending (iocpTimeout (some timeout)) turns events.clear m).1 ↔
    timeout.toInt ≤ 0 ∨ quietCompletions turns m = 0 ∨
      (quietCompletions turns m + 1) * (2 ^ 32 - 2) ≤ timeout.toInt := by
  obtain ⟨rest, hrest, hwaits⟩ := waits_eq growth ending (iocpTimeout (some timeout)) turns
    (show events.clear.items = [] from rfl) hcapacity m
  have hzero : (rest.map BitVec.toNat).sum = 0 := by
    refine List.sum_eq_zero fun n hn => ?_
    obtain ⟨wait, hwait, rfl⟩ := List.mem_map.mp hn
    rw [hrest wait hwait]
    rfl
  have hsum : ((selectIocpTimed growth ending (iocpTimeout (some timeout)) turns
      events.clear m).1.map BitVec.toNat).sum =
      (quietCompletions turns m + 1) * min timeout.toInt.toNat (2 ^ 32 - 2) := by
    rw [hwaits, List.map_append, List.sum_append, hzero, List.map_replicate, List.sum_replicate,
      iocpTimeout_toNat, smul_eq_mul, Nat.add_zero]
  rw [noLonger_iff, hsum]
  generalize quietCompletions turns m = quiet
  by_cases hpos : timeout.toInt ≤ 0
  · refine iff_of_true ?_ (.inl hpos)
    rw [Int.toNat_of_nonpos hpos, Nat.zero_min, Nat.mul_zero]
  by_cases hquiet : quiet = 0
  · refine iff_of_true ?_ (.inr (.inl hquiet))
    rw [hquiet, Nat.zero_add, Nat.one_mul]
    exact min_le_left _ _
  by_cases hlong : timeout.toInt ≤ 2 ^ 32 - 2
  · refine iff_of_false ?_ (by omega)
    rw [min_eq_left (by omega)]
    have htwice : 2 * timeout.toInt.toNat ≤ (quiet + 1) * timeout.toInt.toNat :=
      Nat.mul_le_mul_right _ (by omega)
    omega
  · rw [min_eq_right (by omega)]
    omega

/-- A completion with an event is dequeued at once. -/
theorem select_waits_no_longer_packet : NoLonger 10
    (selectIocpTimed ⟨(· + 1), fun _ => Nat.lt_succ_self _⟩ none (iocpTimeout (some 10)) [.posted]
      (Events.clear ⟨8, [], Nat.zero_le _⟩)
      ⟨fun _ => none, ⟨fun _ => none, 0⟩, [.packet ⟨⟨1⟩, Interest.READABLE, false, false, false⟩]⟩).1 :=
  (select_waits_no_longer_iff _ none [.posted] ⟨8, [], Nat.zero_le _⟩ (by decide) _ 10).mpr
    (.inr (.inl rfl))

/-- A completion of a source that was removed starts the whole timeout again: a
poll of 10 milliseconds takes 20. -/
theorem select_waits_twice :
    ¬ ∀ (growth : Growth) (ending : Option Errno) (turns : List Turn) (events : Events) (m : Machine)
      (timeout : BitVec 64), 1 ≤ events.capacity → NoLonger timeout
        (selectIocpTimed growth ending (iocpTimeout (some timeout)) turns events.clear m).1 := by
  intro hall
  have h := hall ⟨(· + 1), fun _ => Nat.lt_succ_self _⟩ none [.posted] ⟨8, [], Nat.zero_le _⟩
    ⟨fun _ => none, ⟨fun _ => none, 0⟩, [.io 5 true]⟩ 10 (by decide)
  have hwaits := (noLonger_iff _ _).mp h
  revert hwaits
  decide

end Timeouts
