import Ioxx.Runs
import Ioxx.Maps
import Ioxx.Core

/-!
# The selector and its registration table

`Selector` is the class behind `Poll` and `Registry`, over any backend. Its calls
consist of guarded sections on the table (`emplace`, `assign`, `erase`) and of
backend calls, whose outcome is an argument. The sections are functions of their
own, since another thread may run between them.
-/

namespace Detail

open Core Maps

/-- `registrations_`. -/
abbrev Table := NativeHandle → Option Registration

structure Selector (β : Type) where
  registrations : Table
  wakerHandle : NativeHandle
  wakerActive : Bool
  backend : β

/-- The functions a platform supplies. `Ω` is what the operating system answers
during one call. `addToBackend` returns the `AfdSocketState` it stored in the
table, if it made one; `updateBackend` is given what `find` returns. -/
structure Backend (β Ω : Type) where
  platform : Platform
  addToBackend : Ω → NativeHandle → SourceKind → Token → Interest → β →
    Except Exception (Option AfdRef) × β
  updateBackend : Ω → Option Registration → NativeHandle → SourceKind → Token → Interest → β →
    Except Exception Unit × β
  removeFromBackend : Ω → Registration → β → β

def invalidNativeHandle : Platform → NativeHandle
  | .windows => 2 ^ 64 - 1
  | _ => -1

def invalidHandle (platform : Platform) (handle : NativeHandle) : Bool :=
  match platform with
  | .windows => handle == invalidNativeHandle platform && handle != 0
  | _ => handle == invalidNativeHandle platform

def validate (platform : Platform) (handle : NativeHandle) (interests : Interest) :
    Except Exception Unit :=
  if invalidHandle platform handle then
    .error (.systemError .badFileDescriptor "invalid native handle")
  else if interests.empty then
    .error (.systemError .invalidArgument "interest set must not be empty")
  else .ok ()

theorem validate_ok {platform : Platform} {handle : NativeHandle} {interests : Interest}
    (h : handle ≠ invalidNativeHandle platform) (hn : interests.empty = false) :
    validate platform handle interests = .ok () := by
  have hvalid : invalidHandle platform handle = false := by
    cases platform <;> simp [invalidHandle, h]
  simp [validate, hvalid, hn]

theorem validate_valid {platform : Platform} {handle : NativeHandle} {interests : Interest}
    (h : validate platform handle interests = .ok ()) : handle ≠ invalidNativeHandle platform := by
  rintro rfl
  cases platform <;> simp [validate, invalidHandle, invalidNativeHandle] at h

/-- The guarded section of `add`. -/
def emplace (registration : Registration) (table : Table) : Except Exception Table :=
  match table registration.handle with
  | some _ => .error (.systemError .fileExists "source is already registered")
  | none => .ok (Function.update table registration.handle (some registration))

/-- An entry after the three assignments of `update`. -/
def reassigned (kind : SourceKind) (token : Token) (interests : Interest) (r : Registration) :
    Registration :=
  { r with kind := kind, token := token, interests := interests }

/-- Assigning an entry the values it has changes nothing, and only that does. -/
theorem update_reassigned_iff {table : Table} {handle : NativeHandle} {r : Registration}
    (hr : table handle = some r) (kind : SourceKind) (token : Token) (interests : Interest) :
    Function.update table handle (some (reassigned kind token interests r)) = table ↔
      reassigned kind token interests r = r := by
  rw [Function.update_eq_self_iff, hr, Option.some.injEq]

/-- The guarded section of `update`. -/
def assign (handle : NativeHandle) (kind : SourceKind) (token : Token) (interests : Interest)
    (table : Table) : Except Exception Table :=
  match table handle with
  | none => .error (.systemError .noSuchFileOrDirectory "source is not registered")
  | some registration =>
    .ok (Function.update table handle (some (reassigned kind token interests registration)))

/-- `registrations_.erase`, also the rollback of a failed `add`. -/
def erase (handle : NativeHandle) (table : Table) : Table := Function.update table handle none

/-- `registrations_.at(handle).afd_state = state`, for a backend that made one. -/
def attach (handle : NativeHandle) (afdState : Option AfdRef) (table : Table) : Table :=
  match afdState, table handle with
  | some ref, some registration =>
    Function.update table handle (some { registration with afdState := some ref })
  | _, _ => table

/-- The guarded section of `remove`. -/
def take (platform : Platform) {β : Type} (handle : NativeHandle) (s : Selector β) :
    Except Exception (Registration × Selector β) :=
  match s.registrations handle with
  | none => .error (.systemError .noSuchFileOrDirectory "source is not registered")
  | some registration => .ok (registration, { s with
      registrations := erase handle s.registrations
      wakerHandle := if s.wakerHandle = handle then invalidNativeHandle platform else s.wakerHandle })

variable {β Ω : Type} (b : Backend β Ω) (ω : Ω)

def add (handle : NativeHandle) (kind : SourceKind) (token : Token) (interests : Interest)
    (autoDrain : Bool) (s : Selector β) : Except Exception Unit × Selector β :=
  match validate b.platform handle interests with
  | .error e => (.error e, s)
  | .ok _ =>
    match emplace ⟨handle, kind, token, interests, autoDrain, none⟩ s.registrations with
    | .error e => (.error e, s)
    | .ok table =>
      match b.addToBackend ω handle kind token interests s.backend with
      | (.error e, backend) =>
        (.error e, { s with registrations := erase handle table, backend := backend })
      | (.ok afdState, backend) =>
        (.ok (), { s with registrations := attach handle afdState table, backend := backend })

def update (handle : NativeHandle) (kind : SourceKind) (token : Token) (interests : Interest)
    (s : Selector β) : Except Exception Unit × Selector β :=
  match validate b.platform handle interests with
  | .error e => (.error e, s)
  | .ok _ =>
    match assign handle kind token interests s.registrations with
    | .error e => (.error e, s)
    | .ok table =>
      let (result, backend) :=
        b.updateBackend ω (table handle) handle kind token interests s.backend
      (result, { s with registrations := table, backend := backend })

def remove (handle : NativeHandle) (s : Selector β) : Except Exception Unit × Selector β :=
  match take b.platform handle s with
  | .error e => (.error e, s)
  | .ok (registration, s) =>
    (.ok (), { s with backend := b.removeFromBackend ω registration s.backend })

inductive Call where
  | add (handle : NativeHandle) (kind : SourceKind) (token : Token) (interests : Interest)
      (autoDrain : Bool)
  | update (handle : NativeHandle) (kind : SourceKind) (token : Token) (interests : Interest)
  | remove (handle : NativeHandle)
  deriving DecidableEq, Repr

def Call.handle : Call → NativeHandle
  | .add handle _ _ _ _ => handle
  | .update handle _ _ _ => handle
  | .remove handle => handle

/-- A whole call, made while no other thread uses the selector. -/
def Call.perform (call : Call) (s : Selector β) : Except Exception Unit × Selector β :=
  match call with
  | .add handle kind token interests autoDrain =>
    Detail.add b ω handle kind token interests autoDrain s
  | .update handle kind token interests => Detail.update b ω handle kind token interests s
  | .remove handle => Detail.remove b ω handle s

def addWaker (handle : NativeHandle) (token : Token) (s : Selector β) :
    Except Exception Unit × Selector β :=
  match b.platform with
  | .windows =>
    if s.wakerActive then
      (.error (.systemError .deviceOrResourceBusy "only one Waker can be active per Poll"), s)
    else (.ok (), { s with wakerActive := true })
  | _ =>
    match add b ω handle .rawDescriptor token Interest.READABLE true s with
    | (.error e, s) => (.error e, s)
    | (.ok _, s) => (.ok (), { s with wakerHandle := handle })

def removeWaker (handle : NativeHandle) (s : Selector β) : Selector β :=
  match b.platform with
  | .windows => { s with wakerActive := false }
  | _ => (remove b ω handle s).2

/-- Everything `add` can do: refuse, be refused by the backend and roll back, or
register the handle. -/
theorem add_cases (handle : NativeHandle) (kind : SourceKind) (token : Token) (interests : Interest)
    (autoDrain : Bool) (s : Selector β) :
    (∃ e, (validate b.platform handle interests = .error e ∨ (s.registrations handle).isSome) ∧
      add b ω handle kind token interests autoDrain s = (.error e, s)) ∨
    (validate b.platform handle interests = .ok () ∧ s.registrations handle = none ∧
      ((∃ e backend, b.addToBackend ω handle kind token interests s.backend = (.error e, backend) ∧
        add b ω handle kind token interests autoDrain s =
          (.error e, { s with backend := backend })) ∨
      (∃ afdState backend,
        b.addToBackend ω handle kind token interests s.backend = (.ok afdState, backend) ∧
        add b ω handle kind token interests autoDrain s = (.ok (), { s with
          registrations := Function.update s.registrations handle
            (some ⟨handle, kind, token, interests, autoDrain, afdState⟩)
          backend := backend })))) := by
  unfold add
  cases hv : validate b.platform handle interests with
  | error e => exact .inl ⟨e, .inl rfl, rfl⟩
  | ok u =>
    cases hr : s.registrations handle with
    | some registration =>
      exact .inl ⟨.systemError .fileExists "source is already registered", .inr rfl,
        by simp only [emplace, hr]⟩
    | none =>
      refine .inr ⟨rfl, rfl, ?_⟩
      cases hb : b.addToBackend ω handle kind token interests s.backend with
      | mk result backend =>
        cases result with
        | error e =>
          have hback : erase handle (Function.update s.registrations handle
              (some ⟨handle, kind, token, interests, autoDrain, none⟩)) = s.registrations := by
            rw [erase, Function.update_idem, ← hr, Function.update_eq_self]
          exact .inl ⟨e, backend, rfl, by simp only [emplace, hr, hback]⟩
        | ok afdState =>
          refine .inr ⟨afdState, backend, rfl, ?_⟩
          cases afdState with
          | none => simp only [emplace, hr, attach]
          | some ref =>
            simp only [emplace, hr, attach, Function.update_self, Function.update_idem]

variable {b} in
/-- Outside Windows a waker is registered like any other descriptor. -/
theorem addWaker_ok (hplatform : b.platform ≠ .windows) {ω : Ω} {handle : NativeHandle}
    {token : Token} {s after : Selector β} (h : addWaker b ω handle token s = (.ok (), after)) :
    ∃ added, add b ω handle .rawDescriptor token Interest.READABLE true s = (.ok (), added) ∧
      after = { added with wakerHandle := handle } := by
  unfold addWaker at h
  split at h
  · rename_i hwindows
    exact absurd hwindows hplatform
  · split at h
    · cases h
    · rename_i added hadd
      exact ⟨added, hadd, (Prod.mk.inj h).2.symm⟩

/-- Everything `update` can do: refuse, or assign the entry and call the backend. -/
theorem update_cases (handle : NativeHandle) (kind : SourceKind) (token : Token)
    (interests : Interest) (s : Selector β) :
    (∃ e, (validate b.platform handle interests = .error e ∨ s.registrations handle = none) ∧
      update b ω handle kind token interests s = (.error e, s)) ∨
    (validate b.platform handle interests = .ok () ∧ ∃ r result backend,
      s.registrations handle = some r ∧
      b.updateBackend ω (some (reassigned kind token interests r)) handle kind token interests
        s.backend = (result, backend) ∧
      update b ω handle kind token interests s = (result, { s with
        registrations := Function.update s.registrations handle
          (some (reassigned kind token interests r))
        backend := backend })) := by
  unfold update
  cases hv : validate b.platform handle interests with
  | error e => exact .inl ⟨e, .inl rfl, rfl⟩
  | ok u =>
    cases hr : s.registrations handle with
    | none =>
      exact .inl ⟨.systemError .noSuchFileOrDirectory "source is not registered", .inr rfl,
        by simp only [assign, hr]⟩
    | some r =>
      exact .inr ⟨rfl, r, _, _, rfl, rfl, by simp only [assign, hr, Function.update_self]⟩

/-- Everything `remove` can do: refuse, or take the entry out and tell the backend. -/
theorem remove_cases (handle : NativeHandle) (s : Selector β) :
    (∃ e, s.registrations handle = none ∧ remove b ω handle s = (.error e, s)) ∨
    (∃ registration, s.registrations handle = some registration ∧ remove b ω handle s = (.ok (), { s with
      registrations := erase handle s.registrations
      wakerHandle :=
        if s.wakerHandle = handle then invalidNativeHandle b.platform else s.wakerHandle
      backend := b.removeFromBackend ω registration s.backend })) := by
  unfold remove take
  cases hr : s.registrations handle with
  | none => exact .inl ⟨_, rfl, rfl⟩
  | some registration => exact .inr ⟨registration, rfl, rfl⟩

/-- The selector with its backend seen through a function. -/
def Selector.map {γ : Type} (f : β → γ) (s : Selector β) : Selector γ :=
  ⟨s.registrations, s.wakerHandle, s.wakerActive, f s.backend⟩

variable {b} in
/-- A function between backends that respects their operations respects whole calls. -/
theorem Call.perform_map {γ : Type} {b' : Backend γ Ω} (f : β → γ) (hplatform : b'.platform = b.platform)
    (hadd : ∀ ω handle kind token interests k, b'.addToBackend ω handle kind token interests (f k) =
      ((b.addToBackend ω handle kind token interests k).1,
        f (b.addToBackend ω handle kind token interests k).2))
    (hupdate : ∀ ω registration handle kind token interests k,
      b'.updateBackend ω registration handle kind token interests (f k) =
        ((b.updateBackend ω registration handle kind token interests k).1,
          f (b.updateBackend ω registration handle kind token interests k).2))
    (hremove : ∀ ω registration k,
      b'.removeFromBackend ω registration (f k) = f (b.removeFromBackend ω registration k))
    (call : Call) (ω : Ω) (s : Selector β) :
    call.perform b' ω (s.map f) = ((call.perform b ω s).1, (call.perform b ω s).2.map f) := by
  cases call with
  | add handle kind token interests autoDrain =>
    simp only [Call.perform, Detail.add, hplatform, Selector.map, hadd]
    cases validate b.platform handle interests with
    | error e => rfl
    | ok u =>
      cases emplace ⟨handle, kind, token, interests, autoDrain, none⟩ s.registrations with
      | error e => rfl
      | ok table =>
        obtain ⟨result, k⟩ := b.addToBackend ω handle kind token interests s.backend
        cases result <;> rfl
  | update handle kind token interests =>
    simp only [Call.perform, Detail.update, hplatform, Selector.map, hupdate]
    cases validate b.platform handle interests with
    | error e => rfl
    | ok u => cases assign handle kind token interests s.registrations <;> rfl
  | remove handle =>
    simp only [Call.perform, Detail.remove, take, hplatform, Selector.map]
    cases s.registrations handle with
    | none => rfl
    | some registration => simp only [hremove]

/-- Every entry is stored under its own handle. -/
def Keyed (table : Table) : Prop := ∀ handle r, table handle = some r → r.handle = handle

theorem Keyed.update {table : Table} (h : Keyed table) (handle : NativeHandle)
    (entry : Option Registration) (hentry : ∀ r, entry = some r → r.handle = handle) :
    Keyed (Function.update table handle entry) := by
  intro other r hr
  rcases update_eq_some hr with ⟨rfl, hnew⟩ | ⟨_, hold⟩
  · exact hentry r hnew
  · exact h other r hold

theorem perform_keyed (call : Call) {s : Selector β} (h : Keyed s.registrations) :
    Keyed (call.perform b ω s).2.registrations := by
  cases call with
  | add handle kind token interests autoDrain =>
    simp only [Call.perform]
    rcases add_cases b ω handle kind token interests autoDrain s with ⟨e, _, he⟩ |
      ⟨_, _, ⟨e, backend, _, he⟩ | ⟨afdState, backend, _, he⟩⟩
    · rw [he]; exact h
    · rw [he]; exact h
    · rw [he]
      exact h.update handle _ fun r hr => by cases hr; rfl
  | update handle kind token interests =>
    simp only [Call.perform]
    rcases update_cases b ω handle kind token interests s with ⟨e, _, he⟩ |
      ⟨_, r, result, backend, hr, _, he⟩
    · rw [he]; exact h
    · rw [he]
      exact h.update handle _ fun r' hr' => by cases hr'; exact h handle r hr
  | remove handle =>
    simp only [Call.perform]
    rcases remove_cases b ω handle s with ⟨e, _, he⟩ | ⟨r, _, he⟩
    · rw [he]; exact h
    · rw [he]
      exact h.update handle none fun r hr => by cases hr

end Detail
