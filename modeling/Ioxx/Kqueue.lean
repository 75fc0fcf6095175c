import Ioxx.Batches
import Ioxx.Selector

/-!
# The kqueue backend

`kevent` applies its change list in order and stops at the first failing entry,
so it is a batch. `update_backend` sends the deletions of every filter before
the additions and ignores the result: where some filter was absent, the
additions are never reached. `keepsFilters` says for each call exactly when the
kernel's filters still follow the registration table.
-/

namespace Kqueue

open Core Detail Runs Batches

inductive Filter where
  | read
  | write
  | aio
  | lio
  deriving DecidableEq, Repr

/-- The flags of a change: `EV_ADD | EV_CLEAR` or `EV_DELETE`. -/
inductive Flags where
  | addClear
  | delete
  deriving DecidableEq, Repr

/-- `struct kevent` as `add_kevent` fills it. -/
structure Change where
  ident : NativeHandle
  filter : Filter
  flags : Flags
  udata : Token
  deriving DecidableEq, Repr

/-- Which of `EVFILT_AIO` and `EVFILT_LIO` the platform defines. -/
structure Build where
  aio : Bool
  lio : Bool
  deriving DecidableEq, Repr

def addKevent (changes : List Change) (ident : NativeHandle) (filter : Filter) (flags : Flags)
    (token : Token) : List Change :=
  changes ++ [⟨ident, filter, flags, token⟩]

def appendKqueueChanges (build : Build) (changes : List Change) (handle : NativeHandle)
    (interests : Interest) (token : Token) (flags : Flags) : List Change :=
  let changes := if interests.isReadable then addKevent changes handle .read flags token else changes
  let changes := if interests.isWritable then addKevent changes handle .write flags token else changes
  let changes :=
    if build.aio ∧ interests.isAio then addKevent changes handle .aio flags token else changes
  if build.lio ∧ interests.isLio then addKevent changes handle .lio flags token else changes

/-- The kernel's filters, with their `udata`. -/
abbrev Knotes := NativeHandle × Filter → Option Token

/-- The additions that the kernel refuses during one call. -/
abbrev Refusals := Filter → Option Errno

def applyChange (refusals : Refusals) (change : Change) (knotes : Knotes) : Except Errno Knotes :=
  match change.flags with
  | .addClear => match refusals change.filter with
    | some errno => .error errno
    | none => .ok (Function.update knotes (change.ident, change.filter) (some change.udata))
  | .delete => if (knotes (change.ident, change.filter)).isSome then
      .ok (Function.update knotes (change.ident, change.filter) none) else .error ENOENT

/-- `kevent` without an event list. -/
def kevent (refusals : Refusals) (changes : List Change) (knotes : Knotes) : Option Errno × Knotes :=
  applyAll (applyChange refusals) changes knotes

/-- The interests that `update_backend` deletes the filters of. -/
def everyInterest : Interest :=
  Interest.READABLE ||| Interest.WRITABLE ||| Interest.AIO ||| Interest.LIO ||| Interest.PRIORITY

def addToBackend (build : Build) (refusals : Refusals) (handle : NativeHandle) (token : Token)
    (interests : Interest) (knotes : Knotes) : Except Exception (Option AfdRef) × Knotes :=
  let changes := appendKqueueChanges build [] handle interests token .addClear
  if changes.isEmpty then (.ok none, knotes)
  else match kevent refusals changes knotes with
    | (some errno, knotes) => (.error (.systemError (.ofErrno errno) "kevent(ADD)"), knotes)
    | (none, knotes) => (.ok none, knotes)

/-- The change list of `update_backend`. -/
def updateChanges (build : Build) (handle : NativeHandle) (token : Token) (interests : Interest) :
    List Change :=
  appendKqueueChanges build (appendKqueueChanges build [] handle everyInterest token .delete) handle
    interests token .addClear

def updateBackend (build : Build) (refusals : Refusals) (handle : NativeHandle) (token : Token)
    (interests : Interest) (knotes : Knotes) : Except Exception Unit × Knotes :=
  let changes := updateChanges build handle token interests
  if changes.isEmpty then (.ok (), knotes) else (.ok (), (kevent refusals changes knotes).2)

def removeFromBackend (build : Build) (refusals : Refusals) (registration : Registration)
    (knotes : Knotes) : Knotes :=
  let changes := appendKqueueChanges build [] registration.handle registration.interests
    registration.token .delete
  if changes.isEmpty then knotes else (kevent refusals changes knotes).2

def backend (build : Build) : Backend Knotes Refusals where
  platform := .kqueue
  addToBackend refusals handle _ := addToBackend build refusals handle
  updateBackend refusals _ handle _ := updateBackend build refusals handle
  removeFromBackend := removeFromBackend build

def initial : Selector Knotes := ⟨fun _ => none, -1, false, fun _ => none⟩

/-- A run is any sequence of calls, each with the additions the kernel refuses. -/
def step (build : Build) (a : Call × Refusals) (s : Selector Knotes) : Option (Selector Knotes) :=
  some (a.1.perform (backend build) a.2 s).2

/-- The filters of a set of interests, in the order of their changes. -/
def filters (build : Build) (interests : Interest) : List Filter :=
  (appendKqueueChanges build [] 0 interests ⟨0⟩ .addClear).map Change.filter

/-- The kernel has exactly the filters that `append_kqueue_changes` produces for
the stored interests, and none for a handle that is not in the table. -/
def Follows (build : Build) (s : Selector Knotes) : Prop :=
  ∀ handle filter, (s.backend (handle, filter)).isSome ↔
    ∃ r, s.registrations handle = some r ∧ filter ∈ filters build r.interests

/-- The change for one filter of a handle. -/
def change (handle : NativeHandle) (flags : Flags) (token : Token) (filter : Filter) : Change :=
  ⟨handle, filter, flags, token⟩

theorem addKevent_if (p : Prop) [Decidable p] (changes : List Change) (handle : NativeHandle)
    (filter : Filter) (flags : Flags) (token : Token) :
    (if p then addKevent changes handle filter flags token else changes) =
      changes ++ if p then [change handle flags token filter] else [] := by
  split
  · rfl
  · rw [List.append_nil]

/-- The change list depends on its other arguments only through the filters. -/
theorem appendKqueueChanges_eq (build : Build) (changes : List Change) (handle : NativeHandle)
    (interests : Interest) (token : Token) (flags : Flags) :
    appendKqueueChanges build changes handle interests token flags =
      changes ++ (filters build interests).map (change handle flags token) := by
  simp only [filters, appendKqueueChanges, addKevent_if, List.nil_append, List.append_assoc,
    List.map_append, apply_ite (List.map _), List.map_cons, List.map_nil, change]

def wants (build : Build) (interests : Interest) : Filter → Bool
  | .read => interests.isReadable
  | .write => interests.isWritable
  | .aio => build.aio && interests.isAio
  | .lio => build.lio && interests.isLio

theorem if_append (p : Prop) [Decidable p] (x : Filter) (rest : List Filter) :
    (if p then [x] else []) ++ rest = if p then x :: rest else rest := by
  split <;> rfl

theorem filters_eq (build : Build) (interests : Interest) :
    filters build interests = [.read, .write, .aio, .lio].filter (wants build interests) := by
  simp only [filters, appendKqueueChanges, addKevent_if, List.nil_append, List.append_assoc,
    List.map_append, apply_ite (List.map _), List.map_cons, List.map_nil, change, List.filter_cons,
    List.filter_nil, wants, Bool.and_eq_true, if_append]

theorem filters_nodup (build : Build) (interests : Interest) : (filters build interests).Nodup := by
  rw [filters_eq]
  exact List.Nodup.filter _ (by decide)

/-- Every set of interests has its filters among those that an update deletes. -/
theorem filters_every (build : Build) (interests : Interest) :
    ∀ filter ∈ filters build interests, filter ∈ filters build everyInterest := by
  intro filter hf
  rw [filters_eq, List.mem_filter] at hf ⊢
  refine ⟨hf.1, ?_⟩
  cases filter with
  | read => rfl
  | write => rfl
  | aio => exact Bool.and_eq_true_iff.mpr ⟨(Bool.and_eq_true_iff.mp hf.2).1, rfl⟩
  | lio => exact Bool.and_eq_true_iff.mpr ⟨(Bool.and_eq_true_iff.mp hf.2).1, rfl⟩

/-- What a change writes. -/
def Change.value (c : Change) : Option Token :=
  match c.flags with
  | .addClear => some c.udata
  | .delete => none

/-- When a change is applied. -/
def Change.admits (refusals : Refusals) (c : Change) (knote : Option Token) : Bool :=
  match c.flags with
  | .addClear => (refusals c.filter).isNone
  | .delete => knote.isSome

theorem applyChange_writes (refusals : Refusals) :
    Writes (applyChange refusals) (fun c => (c.ident, c.filter)) Change.value
      (Change.admits refusals) := by
  constructor
  · intro c knotes h
    unfold applyChange Change.value
    cases hf : c.flags with
    | addClear =>
      simp only [Change.admits, hf, Option.isNone_iff_eq_none] at h
      simp only [h]
    | delete =>
      simp only [Change.admits, hf] at h
      simp only [h, if_true]
  · intro c knotes h
    unfold applyChange
    cases hf : c.flags with
    | addClear =>
      cases hr : refusals c.filter with
      | none => simp [Change.admits, hf, hr] at h
      | some errno => exact ⟨errno, rfl⟩
    | delete =>
      simp only [Change.admits, hf] at h
      exact ⟨ENOENT, by simp [h]⟩

theorem change_keys_nodup (handle : NativeHandle) (flags : Flags) (token : Token)
    {fs : List Filter} (h : fs.Nodup) :
    ((fs.map (change handle flags token)).map fun c => (c.ident, c.filter)).Nodup := by
  rw [List.map_map]
  exact h.map fun _ _ he => congrArg Prod.snd he

/-- The changes of one kind for one handle: the call succeeds when every filter
admits its change, and writes the filters before the first that does not. -/
theorem kevent_changes (refusals : Refusals) (handle : NativeHandle) (flags : Flags) (token : Token)
    {fs : List Filter} (hnodup : fs.Nodup) (knotes : Knotes) :
    ((kevent refusals (fs.map (change handle flags token)) knotes).1 = none ↔
      ∀ f ∈ fs, (change handle flags token f).admits refusals (knotes (handle, f)) = true) ∧
    ∀ other f, (kevent refusals (fs.map (change handle flags token)) knotes).2 (other, f) =
      if other = handle ∧ f ∈ fs.takeWhile (fun f =>
        (change handle flags token f).admits refusals (knotes (handle, f))) then
          (change handle flags token f).value
      else knotes (other, f) := by
  have hkeys := change_keys_nodup handle flags token hnodup
  have hadmitted : admitted (fun c : Change => (c.ident, c.filter)) (Change.admits refusals)
      (fs.map (change handle flags token)) knotes =
      (fs.takeWhile fun f => (change handle flags token f).admits refusals (knotes (handle, f))).map
        (change handle flags token) :=
    List.takeWhile_map ..
  obtain ⟨hin, hout⟩ := applyAll_writes (applyChange_writes refusals) _ hkeys knotes
  rw [hadmitted] at hin hout
  refine ⟨?_, ?_⟩
  · rw [kevent, applyAll_succeeds (applyChange_writes refusals) _ hkeys, List.forall_mem_map]
    rfl
  · intro other f
    split
    · rename_i hf
      obtain ⟨rfl, hmem⟩ := hf
      exact hin _ (List.mem_map_of_mem hmem)
    · rename_i hf
      refine hout (other, f) ?_
      simp only [List.map_map, List.mem_map, Function.comp, change, Prod.mk.injEq, not_exists, not_and]
      intro g hg hh hgf
      exact hf ⟨hh.symm, hgf ▸ hg⟩

/-- Additions succeed when none is refused, and add the filters before the first
refused one. -/
theorem kevent_adds (refusals : Refusals) (handle : NativeHandle) (token : Token) {fs : List Filter}
    (hnodup : fs.Nodup) (knotes : Knotes) :
    ((kevent refusals (fs.map (change handle .addClear token)) knotes).1 = none ↔
      ∀ f ∈ fs, refusals f = none) ∧
    ∀ other f, ((kevent refusals (fs.map (change handle .addClear token)) knotes).2 (other, f)).isSome ↔
      (other = handle ∧ f ∈ fs.takeWhile fun f => (refusals f).isNone) ∨
        (knotes (other, f)).isSome := by
  obtain ⟨hok, hwritten⟩ := kevent_changes refusals handle .addClear token hnodup knotes
  refine ⟨by simpa [Change.admits, change] using hok, ?_⟩
  intro other f
  rw [hwritten other f]
  split
  · rename_i hf; exact iff_of_true rfl (.inl hf)
  · rename_i hf; exact (or_iff_right hf).symm

/-- Deletions succeed when all filters are present, and delete those before the
first absent one. -/
theorem kevent_deletes (refusals : Refusals) (handle : NativeHandle) (token : Token)
    {fs : List Filter} (hnodup : fs.Nodup) (knotes : Knotes) :
    ((kevent refusals (fs.map (change handle .delete token)) knotes).1 = none ↔
      ∀ f ∈ fs, (knotes (handle, f)).isSome) ∧
    ∀ other f, ((kevent refusals (fs.map (change handle .delete token)) knotes).2 (other, f)).isSome ↔
      (knotes (other, f)).isSome ∧
        ¬ (other = handle ∧ f ∈ fs.takeWhile fun f => (knotes (handle, f)).isSome) := by
  obtain ⟨hok, hwritten⟩ := kevent_changes refusals handle .delete token hnodup knotes
  refine ⟨by simpa [Change.admits, change] using hok, ?_⟩
  intro other f
  rw [hwritten other f]
  split
  · rename_i hf; exact iff_of_false (by simp [Change.value, change]) (fun h => h.2 hf)
  · rename_i hf; exact (and_iff_left hf).symm

/-- The additions of a set of interests for a handle. -/
def additions (build : Build) (handle : NativeHandle) (token : Token) (interests : Interest) :
    List Change :=
  (filters build interests).map (change handle .addClear token)

/-- The deletions of a set of interests for a handle. -/
def deletions (build : Build) (handle : NativeHandle) (token : Token) (interests : Interest) :
    List Change :=
  (filters build interests).map (change handle .delete token)

theorem addToBackend_eq (build : Build) (refusals : Refusals) (handle : NativeHandle) (token : Token)
    (interests : Interest) (knotes : Knotes) :
    (addToBackend build refusals handle token interests knotes).2 =
      (kevent refusals (additions build handle token interests) knotes).2 ∧
    ((∃ afdState, (addToBackend build refusals handle token interests knotes).1 = .ok afdState) ↔
      ∀ f ∈ filters build interests, refusals f = none) := by
  have hok := (kevent_adds refusals handle token (filters_nodup build interests) knotes).1
  unfold addToBackend additions
  rw [appendKqueueChanges_eq, List.nil_append]
  cases hc : (filters build interests).map (change handle .addClear token) with
  | nil => exact ⟨rfl, iff_of_true ⟨none, rfl⟩ (by simp [List.map_eq_nil_iff.mp hc])⟩
  | cons c rest =>
    rw [hc] at hok
    cases hk : kevent refusals (c :: rest) knotes with
    | mk result knotes' =>
      rw [hk] at hok
      cases result with
      | none => exact ⟨by simp [hk], iff_of_true ⟨none, by simp [hk]⟩ (hok.mp rfl)⟩
      | some errno =>
        refine ⟨by simp [hk], iff_of_false (by simp [hk]) ?_⟩
        intro hall
        cases hok.mpr hall

theorem updateBackend_eq (build : Build) (refusals : Refusals) (handle : NativeHandle)
    (token : Token) (interests : Interest) (knotes : Knotes) :
    updateBackend build refusals handle token interests knotes =
      (.ok (), (kevent refusals (deletions build handle token everyInterest ++
        additions build handle token interests) knotes).2) := by
  unfold updateBackend updateChanges deletions additions
  rw [appendKqueueChanges_eq, appendKqueueChanges_eq, List.nil_append]
  dsimp only
  split
  · rename_i hempty
    rw [List.isEmpty_iff.mp hempty]
    rfl
  · rfl

theorem removeFromBackend_eq (build : Build) (refusals : Refusals) (r : Registration)
    (knotes : Knotes) :
    removeFromBackend build refusals r knotes =
      (kevent refusals (deletions build r.handle r.token r.interests) knotes).2 := by
  unfold removeFromBackend deletions
  rw [appendKqueueChanges_eq, List.nil_append]
  dsimp only
  split
  · rename_i hempty
    rw [List.isEmpty_iff.mp hempty]
    rfl
  · rfl

/-- An update deletes the filters before the first absent one; only when none is
absent are the additions reached. -/
theorem kevent_update (build : Build) (refusals : Refusals) (handle : NativeHandle) (token : Token)
    (interests : Interest) (knotes : Knotes) (other : NativeHandle) (f : Filter) :
    ((kevent refusals (deletions build handle token everyInterest ++
      additions build handle token interests) knotes).2 (other, f)).isSome ↔
    if ∀ g ∈ filters build everyInterest, (knotes (handle, g)).isSome then
      (other = handle ∧ f ∈ (filters build interests).takeWhile fun g => (refusals g).isNone) ∨
        ((knotes (other, f)).isSome ∧ ¬ (other = handle ∧ f ∈ filters build everyInterest))
    else (knotes (other, f)).isSome ∧ ¬ (other = handle ∧
      f ∈ (filters build everyInterest).takeWhile fun g => (knotes (handle, g)).isSome) := by
  obtain ⟨hok, hdeleted⟩ :=
    kevent_deletes refusals handle token (filters_nodup build everyInterest) knotes
  have hadded := (kevent_adds refusals handle token (filters_nodup build interests)
    (kevent refusals (deletions build handle token everyInterest) knotes).2).2 other f
  rw [kevent, applyAll_append]
  split
  · rename_i hfailed
    have hn : ¬ ∀ g ∈ filters build everyInterest, (knotes (handle, g)).isSome := by
      intro hall
      have hnone := hok.mpr hall
      rw [show (applyAll (applyChange refusals) (deletions build handle token everyInterest)
        knotes).1 = none from hnone] at hfailed
      cases hfailed
    rw [if_neg hn]
    exact hdeleted other f
  · rename_i hdone
    have hall : ∀ g ∈ filters build everyInterest, (knotes (handle, g)).isSome :=
      hok.mp (Option.not_isSome_iff_eq_none.mp hdone)
    have hadmitted : ((filters build everyInterest).takeWhile fun g => (knotes (handle, g)).isSome) =
        filters build everyInterest := List.takeWhile_eq_self_iff.mpr hall
    rw [if_pos hall, ← hadmitted, ← hdeleted other f]
    exact hadded

/-- A call on one handle leaves the others as they follow the table. -/
theorem follows_iff_at {build : Build} {s t : Selector Knotes} (h : Follows build s)
    (handle : NativeHandle)
    (hother : ∀ other, other ≠ handle → t.registrations other = s.registrations other ∧
      ∀ f, (t.backend (other, f)).isSome ↔ (s.backend (other, f)).isSome) :
    Follows build t ↔ ∀ f, (t.backend (handle, f)).isSome ↔
      ∃ r, t.registrations handle = some r ∧ f ∈ filters build r.interests := by
  constructor
  · intro ht f; exact ht handle f
  · intro hat other f
    by_cases ho : other = handle
    · subst ho; exact hat f
    · rw [(hother other ho).1, (hother other ho).2 f]
      exact h other f

/-- An addition of several filters is applied wholly or not at all. -/
def AddsAllOrNone (build : Build) (refusals : Refusals) (interests : Interest) : Prop :=
  (∀ f ∈ filters build interests, refusals f = none) ∨
    ∀ f ∈ (filters build interests).head?, refusals f ≠ none

/-- An update ends with the new filters: either every filter of the platform was
present, so that the additions are reached, and none is refused; or the filters
left by the deletions before the first absent one happen to be the new ones. -/
def Replaces (build : Build) (refusals : Refusals) (old new : Interest) : Prop :=
  if ∀ f ∈ filters build everyInterest, f ∈ filters build old then
    ∀ f ∈ filters build new, refusals f = none
  else ∀ f, f ∈ filters build new ↔ f ∈ filters build old ∧
    f ∉ (filters build everyInterest).takeWhile fun g => decide (g ∈ filters build old)

/-- When a call keeps the filters in step with the table. -/
def keepsFilters (build : Build) : Call × Refusals → Selector Knotes → Prop
  | (.add handle _ _ interests _, refusals), s => validate .kqueue handle interests = .ok () →
      s.registrations handle = none → AddsAllOrNone build refusals interests
  | (.update handle _ _ interests, refusals), s => validate .kqueue handle interests = .ok () →
      ∀ r, s.registrations handle = some r → Replaces build refusals r.interests interests
  | (.remove _, _), _ => True

theorem takeWhile_accepted (refusals : Refusals) (fs : List Filter) :
    (∀ f ∈ fs, f ∈ fs.takeWhile fun g => (refusals g).isNone) ↔ ∀ f ∈ fs, refusals f = none := by
  constructor
  · intro h f hf
    have hnone : (refusals f).isNone = true :=
      List.mem_takeWhile_imp (p := fun g => (refusals g).isNone) (h f hf)
    exact Option.isNone_iff_eq_none.mp hnone
  · intro h f hf
    rw [List.takeWhile_eq_self_iff.mpr fun g hg => Option.isNone_iff_eq_none.mpr (h g hg)]
    exact hf

theorem takeWhile_refused (refusals : Refusals) (fs : List Filter) :
    (∀ f, f ∉ fs.takeWhile fun g => (refusals g).isNone) ↔ ∀ f ∈ fs.head?, refusals f ≠ none := by
  cases fs with
  | nil => simp
  | cons f rest =>
    cases hr : refusals f with
    | none =>
      refine iff_of_false ?_ (by simp [hr])
      intro h
      exact h f (by simp [hr])
    | some errno => simp [hr]

/-- What `add_to_backend` leaves for a handle that is not in the table. -/
theorem addToBackend_present (build : Build) (refusals : Refusals) (handle : NativeHandle)
    (token : Token) (interests : Interest) {s : Selector Knotes} (h : Follows build s)
    (hr : s.registrations handle = none) :
    (∀ f, ((addToBackend build refusals handle token interests s.backend).2 (handle, f)).isSome ↔
      f ∈ (filters build interests).takeWhile fun g => (refusals g).isNone) ∧
    ∀ other, other ≠ handle → ∀ f,
      ((addToBackend build refusals handle token interests s.backend).2 (other, f)).isSome ↔
        (s.backend (other, f)).isSome := by
  have hadded := (kevent_adds refusals handle token (filters_nodup build interests) s.backend).2
  have habsent : ∀ f, ¬ (s.backend (handle, f)).isSome := by
    intro f hf
    obtain ⟨r, hr', _⟩ := (h handle f).mp hf
    rw [hr] at hr'
    cases hr'
  rw [(addToBackend_eq build refusals handle token interests s.backend).1]
  refine ⟨?_, ?_⟩
  · intro f
    rw [additions, hadded handle f, or_iff_left (habsent f), and_iff_right rfl]
  · intro other ho f
    rw [additions, hadded other f]
    exact or_iff_right fun hh => ho hh.1

/-- A refused addition is rolled back in the table only, so the kernel still
follows it exactly when not even the first filter was added. -/
theorem refused_follows_iff {build : Build} {refusals : Refusals} {handle : NativeHandle}
    {token : Token} {interests : Interest} {s : Selector Knotes} (h : Follows build s)
    (hr : s.registrations handle = none) {e : Exception} {knotes : Knotes}
    (hb : addToBackend build refusals handle token interests s.backend = (.error e, knotes)) :
    Follows build { s with backend := knotes } ↔
      ∀ f ∈ (filters build interests).head?, refusals f ≠ none := by
  obtain ⟨hpresent, hother⟩ := addToBackend_present build refusals handle token interests h hr
  rw [hb] at hpresent hother
  have habsent : ∀ f, ¬ ∃ r, s.registrations handle = some r ∧ f ∈ filters build r.interests := by
    rintro f ⟨r, hr', _⟩
    rw [hr] at hr'
    cases hr'
  rw [follows_iff_at (t := { s with backend := knotes }) h handle
    fun other ho => ⟨rfl, hother other ho⟩, ← takeWhile_refused]
  constructor
  · intro hf f hmem; exact habsent f ((hf f).mp ((hpresent f).mpr hmem))
  · intro hnone f; exact iff_of_false (fun hf => hnone f ((hpresent f).mp hf)) (habsent f)

theorem accepted_follows {build : Build} {refusals : Refusals} {handle : NativeHandle}
    {token : Token} {interests : Interest} {s : Selector Knotes} (h : Follows build s)
    (hr : s.registrations handle = none) {afdState : Option AfdRef} {knotes : Knotes}
    (hb : addToBackend build refusals handle token interests s.backend = (.ok afdState, knotes))
    (hall : ∀ f ∈ filters build interests, refusals f = none) (kind : SourceKind) (autoDrain : Bool) :
    Follows build { s with
      registrations := Function.update s.registrations handle
        (some ⟨handle, kind, token, interests, autoDrain, afdState⟩)
      backend := knotes } := by
  obtain ⟨hpresent, hother⟩ := addToBackend_present build refusals handle token interests h hr
  rw [hb] at hpresent hother
  rw [follows_iff_at h handle fun other ho => ⟨Function.update_of_ne ho _ _, hother other ho⟩]
  intro f
  simp only [Function.update_self, Option.some.injEq, exists_eq_left']
  rw [hpresent f, List.takeWhile_eq_self_iff.mpr fun g hg =>
    Option.isNone_iff_eq_none.mpr (hall g hg)]

theorem add_follows_iff (build : Build) (refusals : Refusals) (handle : NativeHandle)
    (kind : SourceKind) (token : Token) (interests : Interest) (autoDrain : Bool)
    {s : Selector Knotes} (h : Follows build s) :
    Follows build (add (backend build) refusals handle kind token interests autoDrain s).2 ↔
      keepsFilters build (.add handle kind token interests autoDrain, refusals) s := by
  have haccepted := (addToBackend_eq build refusals handle token interests s.backend).2
  rcases add_cases (backend build) refusals handle kind token interests autoDrain s with
    ⟨e, hrefused, he⟩ | ⟨hv, hr, ⟨e, knotes, hb, he⟩ | ⟨afdState, knotes, hb, he⟩⟩
  · rw [he]
    refine iff_of_true h ?_
    intro hv hr
    rcases hrefused with hn | hn
    · rw [show validate .kqueue handle interests = .error e from hn] at hv; cases hv
    · rw [hr] at hn; cases hn
  · have hb' : addToBackend build refusals handle token interests s.backend = (.error e, knotes) := hb
    rw [hb'] at haccepted
    have hrefusal : ¬ ∀ f ∈ filters build interests, refusals f = none := by
      rw [← haccepted]
      rintro ⟨afdState, hok⟩
      cases hok
    rw [he, refused_follows_iff h hr hb']
    constructor
    · intro hhead _ _; exact .inr hhead
    · intro hkeeps; exact (hkeeps hv hr).resolve_left hrefusal
  · have hb' : addToBackend build refusals handle token interests s.backend =
        (.ok afdState, knotes) := hb
    rw [hb'] at haccepted
    have hall := haccepted.mp ⟨afdState, rfl⟩
    rw [he]
    exact iff_of_true (accepted_follows h hr hb' hall kind autoDrain) fun _ _ => .inl hall

/-- In a state that follows the table the filters of a registered handle are known. -/
theorem Follows.present {build : Build} {s : Selector Knotes} (h : Follows build s)
    {handle : NativeHandle} {r : Registration} (hr : s.registrations handle = some r) (f : Filter) :
    (s.backend (handle, f)).isSome = decide (f ∈ filters build r.interests) := by
  rw [Bool.eq_iff_iff, h handle f, decide_eq_true_eq, hr]
  simp

theorem update_follows_iff (build : Build) (refusals : Refusals) (handle : NativeHandle)
    (kind : SourceKind) (token : Token) (interests : Interest) {s : Selector Knotes}
    (h : Follows build s) :
    Follows build (update (backend build) refusals handle kind token interests s).2 ↔
      keepsFilters build (.update handle kind token interests, refusals) s := by
  rcases update_cases (backend build) refusals handle kind token interests s with
    ⟨e, hrefused, he⟩ | ⟨hv, r, result, knotes, hr, hb, he⟩
  · rw [he]
    refine iff_of_true h ?_
    intro hv r hr
    rcases hrefused with hn | hn
    · rw [show validate .kqueue handle interests = .error e from hn] at hv; cases hv
    · rw [hr] at hn; cases hn
  · have hknotes : knotes = (kevent refusals (deletions build handle token everyInterest ++
        additions build handle token interests) s.backend).2 := by
      have hpair := (updateBackend_eq build refusals handle token interests s.backend).symm.trans hb
      exact (congrArg Prod.snd hpair).symm
    have hafter := kevent_update build refusals handle token interests s.backend
    rw [← hknotes] at hafter
    have hkeeps : keepsFilters build (.update handle kind token interests, refusals) s ↔
        Replaces build refusals r.interests interests := by
      constructor
      · intro hk; exact hk hv r hr
      · intro hrep _ r' hr'
        rw [hr] at hr'
        cases hr'
        exact hrep
    rw [he, hkeeps, follows_iff_at h handle]
    · simp only [Function.update_self, Option.some.injEq, exists_eq_left', reassigned]
      simp only [hafter, h.present hr, decide_eq_true_eq, true_and, Replaces]
      split
      · rename_i hevery
        have hnone : ∀ f, ¬ (f ∈ filters build r.interests ∧ f ∉ filters build everyInterest) :=
          fun f hf => hf.2 (filters_every build r.interests f hf.1)
        rw [← takeWhile_accepted]
        constructor
        · intro hf f hmem
          exact (hf f).mpr hmem |>.resolve_right (hnone f)
        · intro hall f
          constructor
          · intro hf
            exact List.Sublist.subset (List.takeWhile_sublist _) (hf.resolve_right (hnone f))
          · intro hmem; exact .inl (hall f hmem)
      · constructor
        · intro hf f; exact (hf f).symm
        · intro hf f; exact (hf f).symm
    · intro other ho
      refine ⟨Function.update_of_ne ho _ _, ?_⟩
      intro f
      change (knotes (other, f)).isSome ↔ _
      rw [hafter other f]
      split <;> simp [ho]

theorem remove_follows (build : Build) (refusals : Refusals) (handle : NativeHandle)
    {s : Selector Knotes} (hkeyed : Keyed s.registrations) (h : Follows build s) :
    Follows build (remove (backend build) refusals handle s).2 := by
  rcases remove_cases (backend build) refusals handle s with ⟨e, _, he⟩ | ⟨r, hr, he⟩
  · rw [he]; exact h
  · have hhandle : r.handle = handle := hkeyed handle r hr
    have hafter := (kevent_deletes refusals handle r.token (filters_nodup build r.interests)
      s.backend).2
    have hknotes : (backend build).removeFromBackend refusals r s.backend =
        (kevent refusals (deletions build handle r.token r.interests) s.backend).2 := by
      rw [← hhandle]
      exact removeFromBackend_eq build refusals r s.backend
    have hwhole : ((filters build r.interests).takeWhile fun f => (s.backend (handle, f)).isSome) =
        filters build r.interests := by
      rw [List.takeWhile_eq_self_iff]
      intro f hf
      rw [h.present hr f]
      exact decide_eq_true hf
    rw [he, hknotes, follows_iff_at h handle]
    · intro f
      refine iff_of_false ?_ (by simp [erase])
      change ¬ ((kevent refusals (deletions build handle r.token r.interests) s.backend).2
        (handle, f)).isSome
      rw [deletions, hafter handle f, hwhole, h.present hr f, decide_eq_true_eq]
      intro hf
      exact hf.2 ⟨rfl, hf.1⟩
    · intro other ho
      refine ⟨Function.update_of_ne ho _ _, ?_⟩
      intro f
      change ((kevent refusals (deletions build handle r.token r.interests) s.backend).2
        (other, f)).isSome ↔ _
      rw [deletions, hafter other f]
      exact and_iff_left fun hh => ho hh.1

/-- From a state in step with the table, `keepsFilters` is exactly the condition
under which a call keeps it so. -/
theorem step_follows_iff (build : Build) (a : Call × Refusals) {s t : Selector Knotes}
    (hkeyed : Keyed s.registrations) (h : Follows build s) (hstep : step build a s = some t) :
    Follows build t ↔ keepsFilters build a s := by
  cases hstep
  obtain ⟨call, refusals⟩ := a
  cases call with
  | add handle kind token interests autoDrain =>
    exact add_follows_iff build refusals handle kind token interests autoDrain h
  | update handle kind token interests =>
    exact update_follows_iff build refusals handle kind token interests h
  | remove handle => exact iff_of_true (remove_follows build refusals handle hkeyed h) trivial

/-- In every run of calls that each keep the filters in step, the kernel's filters
are those of the stored interests after each call. -/
theorem filters_follow_table (build : Build) (s : Selector Knotes)
    (h : Reach (step build) (keepsFilters build) initial s) : Follows build s := by
  have hinv : Keyed s.registrations ∧ Follows build s := by
    refine h.invariant (I := fun u => Keyed u.registrations ∧ Follows build u)
      ⟨by simp [Keyed, initial], by simp [Follows, initial]⟩ ?_
    intro a u v hu hok hstep
    refine ⟨?_, (step_follows_iff build a hu.1 hu.2 hstep).mpr hok⟩
    cases hstep
    exact perform_keyed (backend build) a.2 a.1 hu.1
  exact hinv.2

theorem filters_follow_table_replaced :
    ∃ s, Reach (step ⟨false, false⟩) (keepsFilters ⟨false, false⟩) initial s ∧
      (s.backend (3, .read)).isSome = false ∧ (s.backend (3, .write)).isSome = true ∧
      Follows ⟨false, false⟩ s := by
  have h₁ : Reach (step ⟨false, false⟩) (keepsFilters ⟨false, false⟩) initial _ :=
    .tail (.add 3 .rawDescriptor ⟨1⟩ (Interest.READABLE ||| Interest.WRITABLE) false, fun _ => none)
      .refl (fun _ _ => .inl fun _ _ => rfl) rfl
  have h₂ : Reach (step ⟨false, false⟩) (keepsFilters ⟨false, false⟩) initial _ :=
    .tail (.update 3 .rawDescriptor ⟨1⟩ Interest.WRITABLE, fun _ => none) h₁
      (by intro _ r hr; cases hr; rw [Replaces, if_pos (by decide)]; exact fun _ _ => rfl) rfl
  exact ⟨_, h₂, rfl, rfl, filters_follow_table ⟨false, false⟩ _ h₂⟩

/-- A readable handle that is reregistered for writing loses its filter and gets
none: the deletion of the absent write filter ends the batch. -/
theorem reregistered_filter_lost :
    ¬ ∀ build s, Reachable (step build) initial s → Follows build s := by
  intro hall
  have h := hall ⟨false, false⟩ _ (reachable_of_run
    [(.add 3 .rawDescriptor ⟨1⟩ Interest.READABLE false, fun _ => none),
      (.update 3 .rawDescriptor ⟨1⟩ Interest.WRITABLE, fun _ => none)] rfl) 3 .write
  have hpresent := h.mpr ⟨_, rfl, by decide⟩
  revert hpresent
  decide

end Kqueue
