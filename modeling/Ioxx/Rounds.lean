import Ioxx.AfdSelector
import Ioxx.Epoll

/-!
# Registering and deregistering in turn

Whether `remove` undoes `add`, on Linux and on Windows. The table is always as it
was, an epoll set too, and a new socket state does not depend on the old one. The
association of a handle with a completion port lasts as long as the handle, so a
second `CreateIoCompletionPort` fails, which `AfdSelector` leaves to the reply.
-/

namespace Rounds

open Core Detail AfdSelector

/-- The socket states, and the handles that are associated with a port. -/
structure Port where
  heap : Heap
  associated : NativeHandle → Bool

/-- `ERROR_INVALID_PARAMETER`. -/
def errorInvalidParameter : Errno := ⟨87, by decide⟩

/-- `CreateIoCompletionPort`; a `refusal` stands for a failure of another kind. -/
def createIoCompletionPort (refusal : Option ErrorCode) (handle : NativeHandle) (port : Port) :
    Option ErrorCode × Port :=
  match refusal with
  | some code => (some code, port)
  | none =>
    if port.associated handle then (some (.ofLastError errorInvalidParameter), port)
    else (none, { port with associated := Function.update port.associated handle true })

def addToBackend (reply : Reply) (handle : NativeHandle) (kind : SourceKind) (token : Token)
    (interests : Interest) (port : Port) : Except Exception (Option AfdRef) × Port :=
  match kind with
  | .handle => match createIoCompletionPort reply.port handle port with
    | (some code, port) => (.error (.systemError code "CreateIoCompletionPort(handle)"), port)
    | (none, port) => (.ok none, port)
  | _ => match AfdSelector.addToBackend reply handle kind token interests port.heap with
    | (result, heap) => (result, { port with heap := heap })

def updateBackend (reply : Reply) (registration : Option Registration) (kind : SourceKind)
    (token : Token) (interests : Interest) (port : Port) : Except Exception Unit × Port :=
  match AfdSelector.updateBackend reply registration kind token interests port.heap with
  | (result, heap) => (result, { port with heap := heap })

def removeFromBackend (reply : Reply) (registration : Registration) (port : Port) : Port :=
  { port with heap := AfdSelector.removeFromBackend reply registration port.heap }

/-- The Windows backend. -/
def backend : Backend Port Reply where
  platform := .windows
  addToBackend := addToBackend
  updateBackend reply registration _ := updateBackend reply registration
  removeFromBackend := removeFromBackend

/-- Apart from the associations it is the backend of `AfdSelector`, with the answer
of `CreateIoCompletionPort` in its reply. -/
theorem addToBackend_heap (reply : Reply) (handle : NativeHandle) (kind : SourceKind) (token : Token)
    (interests : Interest) (port : Port) :
    AfdSelector.addToBackend
        { reply with port := (createIoCompletionPort reply.port handle port).1 }
        handle kind token interests port.heap =
      ((addToBackend reply handle kind token interests port).1,
        (addToBackend reply handle kind token interests port).2.heap) := by
  cases kind with
  | handle =>
    simp only [addToBackend, AfdSelector.addToBackend, createIoCompletionPort]
    cases reply.port with
    | some code => rfl
    | none => cases port.associated handle <;> rfl
  | socket => rfl
  | rawDescriptor => rfl
  | waker => rfl

/-! The law, for any backend. -/

/-- An entry without the identity of its socket state. -/
def anonymous (r : Registration) : Registration × Bool := ({ r with afdState := none }, r.afdState.isSome)

variable {β Ω : Type} (b : Backend β Ω)

/-- Two calls report the same, and leave the same table. -/
def SameOutcome (x y : Except Exception Unit × Selector β) : Prop :=
  x.1 = y.1 ∧ ∀ handle, (x.2.registrations handle).map anonymous = (y.2.registrations handle).map anonymous

/-- The handle can be taken out again after a call that led from `s` to `t`, and then
the table is that of `s` and every `add` of the handle ends as it would in `s`. -/
def Undone (ω : Ω) (handle : NativeHandle) (kind : SourceKind) (s t : Selector β) : Prop :=
  ∃ u, remove b ω handle t = (.ok (), u) ∧ u.registrations = s.registrations ∧
    ∀ ω' token interests autoDrain, SameOutcome (add b ω' handle kind token interests autoDrain u)
      (add b ω' handle kind token interests autoDrain s)

/-- One `add` and one `remove` of a handle. -/
structure Round (Ω : Type) where
  adding : Ω
  removing : Ω
  token : Token
  interests : Interest
  autoDrain : Bool

def Round.add (r : Round Ω) (handle : NativeHandle) (kind : SourceKind) (s : Selector β) :
    Except Exception Unit × Selector β :=
  Detail.add b r.adding handle kind r.token r.interests r.autoDrain s

/-- All calls of the rounds succeed, one after the other. -/
def Succeeds (handle : NativeHandle) (kind : SourceKind) : List (Round Ω) → Selector β → Prop
  | [], _ => True
  | r :: rest, s => ∃ t u, r.add b handle kind s = (.ok (), t) ∧
      remove b r.removing handle t = (.ok (), u) ∧ Succeeds handle kind rest u

variable {b} {ω : Ω} {handle : NativeHandle} {kind : SourceKind} {token : Token}
  {interests : Interest} {autoDrain : Bool} {s t u : Selector β}

/-- What a successful `add` has done. -/
theorem add_ok (h : Detail.add b ω handle kind token interests autoDrain s = (.ok (), t)) :
    s.registrations handle = none ∧ ∃ afdState k,
      b.addToBackend ω handle kind token interests s.backend = (.ok afdState, k) ∧
      t = { s with
        registrations := Function.update s.registrations handle
          (some ⟨handle, kind, token, interests, autoDrain, afdState⟩)
        backend := k } := by
  rcases add_cases b ω handle kind token interests autoDrain s with
    ⟨e, -, he⟩ | ⟨-, hfree, ⟨e, k, -, he⟩ | ⟨afdState, k, hk, he⟩⟩
  · rw [he] at h
    cases h
  · rw [he] at h
    cases h
  · rw [he] at h
    cases h
    exact ⟨hfree, afdState, k, hk, rfl⟩

/-- A `remove` after a successful `add` restores the table. -/
theorem remove_add (ω' : Ω) (h : Detail.add b ω handle kind token interests autoDrain s = (.ok (), t)) :
    ∃ afdState k u, b.addToBackend ω handle kind token interests s.backend = (.ok afdState, k) ∧
      remove b ω' handle t = (.ok (), u) ∧ u.registrations = s.registrations ∧
      u.backend = b.removeFromBackend ω' ⟨handle, kind, token, interests, autoDrain, afdState⟩ k := by
  obtain ⟨hfree, afdState, k, hk, rfl⟩ := add_ok h
  rcases remove_cases b ω' handle { s with
      registrations := Function.update s.registrations handle
        (some ⟨handle, kind, token, interests, autoDrain, afdState⟩)
      backend := k } with ⟨e, hgone, -⟩ | ⟨registration, hfound, he⟩
  · simp at hgone
  · simp only [Function.update_self, Option.some.injEq] at hfound
    subst hfound
    refine ⟨afdState, k, _, hk, he, ?_, rfl⟩
    change erase handle (Function.update s.registrations handle _) = s.registrations
    rw [erase, Function.update_idem, ← hfree, Function.update_eq_self]

/-- The entry looks the same whichever socket state is attached to it. -/
theorem attach_anonymous {ref ref' : Option AfdRef} (h : ref.isSome = ref'.isSome) (table : Table)
    (handle other : NativeHandle) :
    (attach handle ref table other).map anonymous = (attach handle ref' table other).map anonymous := by
  cases ref with
  | none =>
    cases ref' with
    | none => rfl
    | some ref' => cases h
  | some ref =>
    cases ref' with
    | none => cases h
    | some ref' =>
      cases hentry : table handle with
      | none => simp only [attach, hentry]
      | some r =>
        simp only [attach, hentry]
        by_cases hother : other = handle
        · subst hother
          simp [anonymous]
        · simp [hother]

/-- `add` ends the same in two selectors with the same table if the backend does. -/
theorem add_sameOutcome (htable : u.registrations = s.registrations)
    (hbackend : (b.addToBackend ω handle kind token interests u.backend).1.map Option.isSome =
      (b.addToBackend ω handle kind token interests s.backend).1.map Option.isSome) :
    SameOutcome (Detail.add b ω handle kind token interests autoDrain u)
      (Detail.add b ω handle kind token interests autoDrain s) := by
  unfold Detail.add
  cases validate b.platform handle interests with
  | error e => exact ⟨rfl, fun other => by rw [htable]⟩
  | ok _ =>
    rw [htable]
    cases hemplace : emplace ⟨handle, kind, token, interests, autoDrain, none⟩ s.registrations with
    | error e => exact ⟨rfl, fun other => by rw [htable]⟩
    | ok table =>
      rcases hu : b.addToBackend ω handle kind token interests u.backend with ⟨e | ref, ku⟩
      all_goals rcases hs : b.addToBackend ω handle kind token interests s.backend with ⟨e' | ref', ks⟩
      all_goals
        rw [hu, hs] at hbackend
        simp only [Except.map, Except.error.injEq, Except.ok.injEq, reduceCtorEq] at hbackend
      · subst hbackend
        exact ⟨rfl, fun other => rfl⟩
      · exact ⟨rfl, fun other => attach_anonymous hbackend table handle other⟩

/-- A round after which all calls end as before leads to the next. -/
theorem succeeds_of_undone (rounds : List (Round Ω)) (s : Selector β)
    (hundone : ∀ r ∈ rounds, ∀ s t, r.add b handle kind s = (.ok (), t) →
      Undone b r.removing handle kind s t)
    (hgranted : ∀ r ∈ rounds, (r.add b handle kind s).1 = .ok ()) : Succeeds b handle kind rounds s := by
  induction rounds generalizing s with
  | nil => trivial
  | cons r rest ih =>
    rcases hadd : r.add b handle kind s with ⟨result, t⟩
    have hok := hgranted r List.mem_cons_self
    rw [hadd] at hok
    obtain rfl := hok
    obtain ⟨u, hremove, -, hsame⟩ := hundone r List.mem_cons_self s t hadd
    refine ⟨t, u, hadd, hremove, ih u (fun r' hr' => hundone r' (List.mem_cons_of_mem r hr')) ?_⟩
    intro r' hr'
    exact (hsame r'.adding r'.token r'.interests r'.autoDrain).1.trans
      (hgranted r' (List.mem_cons_of_mem r hr'))

/-! Linux. -/

/-- `epoll_ctl(ADD)` succeeds for a descriptor that is not in the set. -/
theorem epoll_added {refusal : Option Errno} {set set' : Epoll.EpollSet} {afdState : Option AfdRef}
    (h : Epoll.addToBackend refusal handle interests set = (.ok afdState, set')) :
    set handle = none ∧ set' = Function.update set handle (some (Epoll.toEpollEvents interests)) := by
  unfold Epoll.addToBackend Epoll.epollCtl at h
  cases refusal with
  | some errno => cases h
  | none =>
    cases hentry : set handle with
    | some events =>
      simp only [hentry] at h
      cases h
    | none =>
      simp only [hentry] at h
      cases h
      exact ⟨rfl, rfl⟩

/-- The epoll set is as before, since an open descriptor can be taken out of it. -/
theorem epoll_undone {refusal : Option Errno} {s t : Selector Epoll.EpollSet}
    (h : Detail.add Epoll.backend refusal handle kind token interests autoDrain s = (.ok (), t)) :
    Undone Epoll.backend none handle kind s t := by
  obtain ⟨afdState, k, u, hadded, hremove, htable, hbackend⟩ := remove_add none h
  refine ⟨u, hremove, htable, fun ω' token' interests' autoDrain' => ?_⟩
  obtain ⟨hfree, rfl⟩ := epoll_added hadded
  have hset : u.backend = s.backend := by
    rw [hbackend]
    change (Epoll.epollCtl none .del handle 0 _).2 = s.backend
    simp only [Epoll.epollCtl, Function.update_self, Function.update_idem]
    rw [← hfree, Function.update_eq_self]
  exact add_sameOutcome htable (by rw [hset])

/-! Windows. -/

/-- A new socket state does not depend on those that are there. -/
theorem afd_added_same (reply : Reply) (handle : NativeHandle) (kind : SourceKind) (token : Token)
    (interests : Interest) (heap heap' : Heap) :
    (AfdSelector.addToBackend reply handle kind token interests heap).1.map Option.isSome =
      (AfdSelector.addToBackend reply handle kind token interests heap').1.map Option.isSome := by
  cases kind with
  | socket =>
    simp only [AfdSelector.addToBackend]
    cases reply.baseSocket with
    | error code => rfl
    | ok baseSocket =>
      simp only [Heap.setInterest]
      cases thrown reply.nt token interests (Afd.initial handle baseSocket) <;> rfl
  | handle =>
    simp only [AfdSelector.addToBackend]
    cases reply.port <;> rfl
  | rawDescriptor => rfl
  | waker => rfl

/-- The associations of the two ports do not matter for another kind. -/
theorem added_same (hkind : kind ≠ .handle) (reply : Reply) (port port' : Port) :
    (addToBackend reply handle kind token interests port).1.map Option.isSome =
      (addToBackend reply handle kind token interests port').1.map Option.isSome := by
  have h := afd_added_same reply handle kind token interests port.heap port'.heap
  cases kind with
  | handle => exact absurd rfl hkind
  | socket => exact h
  | rawDescriptor => exact h
  | waker => exact h

/-- A handle is associated by a successful `add`, and was not before. -/
theorem handle_added {reply : Reply} {port port' : Port} {afdState : Option AfdRef}
    (h : addToBackend reply handle .handle token interests port = (.ok afdState, port')) :
    port'.associated handle = true := by
  simp only [addToBackend, createIoCompletionPort] at h
  cases hport : reply.port with
  | some code =>
    simp only [hport] at h
    cases h
  | none =>
    cases hassociated : port.associated handle with
    | true =>
      simp only [hport, hassociated, if_true] at h
      cases h
    | false =>
      simp only [hport, hassociated, Bool.false_eq_true, if_false] at h
      cases h
      exact Function.update_self _ _ _

/-- The association outlasts a round. -/
theorem associated_after {reply : Reply} (reply' : Reply) {s t : Selector Port}
    (h : Detail.add backend reply handle .handle token interests autoDrain s = (.ok (), t)) :
    ∃ u, remove backend reply' handle t = (.ok (), u) ∧ u.backend.associated handle = true := by
  obtain ⟨afdState, k, u, hadded, hremove, -, hbackend⟩ := remove_add reply' h
  change addToBackend reply handle .handle token interests s.backend = _ at hadded
  have hassociated := handle_added hadded
  refine ⟨u, hremove, ?_⟩
  rw [hbackend]
  exact hassociated

/-- A handle that is associated cannot be registered. -/
theorem associated_refused {reply : Reply} {s : Selector Port}
    (h : s.backend.associated handle = true) :
    (Detail.add backend reply handle .handle token interests autoDrain s).1 ≠ .ok () := by
  intro hok
  rcases hadd : Detail.add backend reply handle .handle token interests autoDrain s with ⟨result, t⟩
  rw [hadd] at hok
  obtain rfl := hok
  obtain ⟨-, afdState, port, hadded, -⟩ := add_ok hadd
  change addToBackend reply handle .handle token interests s.backend = _ at hadded
  simp only [addToBackend, createIoCompletionPort, h, if_true] at hadded
  cases hport : reply.port <;> simp [hport] at hadded

theorem windows_undone_iff {reply reply' : Reply} {s t : Selector Port}
    (h : Detail.add backend reply handle kind token interests autoDrain s = (.ok (), t)) :
    Undone backend reply' handle kind s t ↔ kind ≠ .handle := by
  constructor
  · rintro ⟨u, hremove, -, hsame⟩ rfl
    obtain ⟨u', hremove', hassociated⟩ := associated_after reply' h
    rw [hremove] at hremove'
    obtain rfl := (Prod.mk.inj hremove').2
    apply associated_refused hassociated
    rw [(hsame reply token interests autoDrain).1, h]
  · intro hkind
    obtain ⟨afdState, k, u, -, hremove, htable, -⟩ := remove_add reply' h
    refine ⟨u, hremove, htable, fun reply'' token' interests' autoDrain' => ?_⟩
    exact add_sameOutcome htable (added_same hkind reply'' u.backend s.backend)

/-- Of the rounds of a handle only the first succeeds. -/
theorem windows_succeeds_iff (rounds : List (Round Reply)) (s : Selector Port)
    (hgranted : ∀ r ∈ rounds, (r.add backend handle kind s).1 = .ok ()) :
    Succeeds backend handle kind rounds s ↔ kind ≠ .handle ∨ rounds.length ≤ 1 := by
  by_cases hkind : kind = .handle
  · subst hkind
    simp only [ne_eq, not_true_eq_false, false_or]
    cases rounds with
    | nil => exact iff_of_true trivial (Nat.zero_le 1)
    | cons r rest =>
      rcases hadd : r.add backend handle .handle s with ⟨result, t⟩
      have hok := hgranted r List.mem_cons_self
      rw [hadd] at hok
      obtain rfl := hok
      obtain ⟨u, hremove, hassociated⟩ := associated_after r.removing hadd
      cases rest with
      | nil => exact iff_of_true ⟨t, u, hadd, hremove, trivial⟩ (le_refl 1)
      | cons r' rest =>
        refine iff_of_false ?_ (by simp)
        rintro ⟨t', u', hadd', hremove', t'', u'', hagain, -⟩
        rw [hadd] at hadd'
        obtain rfl := (Prod.mk.inj hadd').2
        rw [hremove] at hremove'
        obtain rfl := (Prod.mk.inj hremove').2
        exact associated_refused hassociated (congrArg Prod.fst hagain)
  · refine iff_of_true (succeeds_of_undone rounds s ?_ hgranted) (.inl hkind)
    intro r _ s t hadd
    exact (windows_undone_iff hadd).mpr hkind

/-- On Linux `remove` undoes `add` and any number of rounds succeeds; on Windows this
is so exactly for the kinds other than `handle`, of which one round succeeds. -/
theorem deregister_undoes_register_iff (handle : NativeHandle) (kind : SourceKind) :
    (∀ (s t : Selector Epoll.EpollSet) refusal token interests autoDrain,
      Detail.add Epoll.backend refusal handle kind token interests autoDrain s = (.ok (), t) →
      Undone Epoll.backend none handle kind s t) ∧
    (∀ (s : Selector Epoll.EpollSet) (rounds : List (Round (Option Errno))),
      (∀ r ∈ rounds, r.removing = none ∧ (r.add Epoll.backend handle kind s).1 = .ok ()) →
      Succeeds Epoll.backend handle kind rounds s) ∧
    (∀ (s t : Selector Port) reply reply' token interests autoDrain,
      Detail.add backend reply handle kind token interests autoDrain s = (.ok (), t) →
      (Undone backend reply' handle kind s t ↔ kind ≠ .handle)) ∧
    (∀ (s : Selector Port) (rounds : List (Round Reply)),
      (∀ r ∈ rounds, (r.add backend handle kind s).1 = .ok ()) →
      (Succeeds backend handle kind rounds s ↔ kind ≠ .handle ∨ rounds.length ≤ 1)) := by
  refine ⟨fun s t refusal token interests autoDrain h => epoll_undone h, ?_,
    fun s t reply reply' token interests autoDrain h => windows_undone_iff h,
    fun s rounds h => windows_succeeds_iff rounds s h⟩
  intro s rounds h
  refine succeeds_of_undone rounds s (fun r hr s t hadd => ?_) fun r hr => (h r hr).2
  rw [(h r hr).1]
  exact epoll_undone hadd

/-- A selector without registrations, and no handle associated. -/
def emptySelector : Selector Port := ⟨fun _ => none, 2 ^ 64 - 1, false, ⟨⟨fun _ => none, 0⟩, fun _ => false⟩⟩

/-- A socket on Windows. -/
theorem deregister_undoes_register_socket : ∃ t,
    Detail.add backend agreeable 4 .socket ⟨1⟩ Interest.READABLE false emptySelector = (.ok (), t) ∧
    Undone backend agreeable 4 .socket emptySelector t :=
  ⟨_, rfl, ((deregister_undoes_register_iff 4 .socket).2.2.1 emptySelector _ agreeable agreeable ⟨1⟩
    Interest.READABLE false rfl).mpr (by decide)⟩

/-- A named pipe that was registered once cannot be registered again. -/
theorem pipe_not_registered_again :
    ¬ ∀ (s t : Selector Port) reply reply' handle kind token interests autoDrain,
      Detail.add backend reply handle kind token interests autoDrain s = (.ok (), t) →
      Undone backend reply' handle kind s t := by
  intro h
  obtain ⟨u, hremove, -, hsame⟩ :=
    h emptySelector _ agreeable agreeable 4 .handle ⟨1⟩ Interest.READABLE false rfl
  cases hremove
  cases (hsame agreeable ⟨1⟩ Interest.READABLE false).1

end Rounds
