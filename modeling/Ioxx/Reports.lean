import Ioxx.Select

/-!
# What a poll reports while other threads use the registry

`select_epoll` looks each raw event up in the table after the wait, so a call on the
same handle may come in between. `State` runs the sections of `Epoll` from any number
of threads beside one polling thread, whose wait and passes of the loop are steps of
their own. What the wait saw and which calls began after it are recorded, to say what
a reported event means. The drain of a waker's descriptor touches neither the table
nor the epoll set and is left out.
-/

namespace Reports

open Core Detail Runs Maps Select
open Epoll (toEpollEvents EpollSet Consistent)

/-- A raw event that was pushed, with the entry that `find` returned for it. -/
structure Report where
  raw : EpollEvent
  entry : Registration

def Report.event (report : Report) : Event := epollEvent report.entry report.raw

/-- A poll after its wait: the other threads at the wait, what it returned and what of
it is left, the handles of the calls that began since, and what was pushed. -/
structure Progress where
  waited : Epoll.State
  given : List EpollEvent
  rest : List EpollEvent
  since : List NativeHandle
  reports : List Report
  events : Events

inductive Phase where
  | idle
  | waiting (events : Events)
  | reporting (progress : Progress)

structure State where
  threads : Epoll.State
  phase : Phase

def initial : State := ⟨Epoll.initial, .idle⟩

inductive Action where
  | calls (a : Epoll.Action)
  | pollBegins (events : Events)
  | waitFails (errno : Errno)
  | waits (raws : List EpollEvent)
  | pushes
  | pollReturns

/-- The handle on which a step begins a call. -/
def begins : Epoll.Action → List NativeHandle
  | .enter _ call => [call.handle]
  | _ => []

/-- A step of another thread during a poll. -/
def Phase.beside (a : Epoll.Action) : Phase → Phase
  | .reporting p => .reporting { p with since := begins a ++ p.since }
  | phase => phase

/-- What `epoll_wait` may return: each descriptor of the set at most once, with flags
of its mask, as many as there is room for. -/
def mayReturn (events : Events) (raws : List EpollEvent) (set : EpollSet) : Bool :=
  decide (0 < maxEvents events.capacity) &&
  decide (raws.length ≤ (maxEvents events.capacity).toNat) &&
  decide (raws.map EpollEvent.fd).Nodup &&
  raws.all fun raw => match set raw.fd with
    | none => false
    | some mask => decide (Masks.Sub raw.events mask)

/-- One pass of the loop of `select_epoll`. -/
def Progress.pass (growth : Growth) (table : Table) (raw : EpollEvent) (rest : List EpollEvent)
    (p : Progress) : Progress :=
  match table raw.fd with
  | none => { p with rest := rest }
  | some entry => { p with
      rest := rest
      reports := p.reports ++ [⟨raw, entry⟩]
      events := p.events.push growth (epollEvent entry raw) }

def step (growth : Growth) : Action → State → Option State
  | .calls a, s => (Epoll.step a s.threads).map fun threads => ⟨threads, s.phase.beside a⟩
  | .pollBegins events, s => match s.phase with
    | .idle => some { s with
        phase := if events.clear.capacity = 0 then .idle else .waiting events.clear }
    | _ => none
  | .waitFails _, s => match s.phase with
    | .waiting _ => some { s with phase := .idle }
    | _ => none
  | .waits raws, s => match s.phase with
    | .waiting events =>
      if mayReturn events raws s.threads.selector.backend then
        some { s with phase := .reporting ⟨s.threads, raws, raws, [], [], events⟩ }
      else none
    | _ => none
  | .pushes, s => match s.phase with
    | .reporting p => match p.rest with
      | [] => none
      | raw :: rest => some { s with
          phase := .reporting (p.pass growth s.threads.selector.registrations raw rest) }
    | _ => none
  | .pollReturns, s => match s.phase with
    | .reporting p => if p.rest.isEmpty then some { s with phase := .idle } else none
    | _ => none

/-- The calls on one handle do not overlap. -/
def alone : Action → State → Prop
  | .calls a, s => Epoll.alone a s.threads
  | _, _ => True

/-- No call on the handle is in progress. -/
def Free (s : Epoll.State) (handle : NativeHandle) : Prop :=
  ∀ thread phase, s.calls thread = some phase → phase.handle ≠ handle

/-- No call on the handle ran since the wait. -/
def Progress.Still (p : Progress) (handle : NativeHandle) : Prop :=
  Free p.waited handle ∧ handle ∉ p.since

/-- An event shows no readiness that was not asked for, except that a closed read
side is readable. -/
structure Faithful (interests : Interest) (event : Event) : Prop where
  readable : event.readiness.isReadable = true → interests.isReadable = true ∨ event.readClosed = true
  writable : event.readiness.isWritable = true → interests.isWritable = true
  priority : event.readiness.isPriority = true → interests.isPriority = true
  others : event.readiness.isAio = false ∧ event.readiness.isLio = false

/-- What the events of a poll mean. -/
structure Accounted (p : Progress) : Prop where
  /-- The events are those of the reports. -/
  events : p.events.items = p.reports.map Report.event
  /-- They are in the order of the wait, and none is left out but of a handle whose
  registration was being changed. -/
  order : ∃ passed, p.given = passed ++ p.rest ∧ (p.reports.map Report.raw).Sublist passed ∧
    ∀ raw ∈ passed, p.Still raw.fd → raw ∈ p.reports.map Report.raw
  /-- The token is that of an entry of the handle. -/
  keyed : ∀ report ∈ p.reports, report.entry.handle = report.raw.fd
  /-- The readiness was asked for, of the kernel as it was at the wait. -/
  asked : ∀ report ∈ p.reports, ∃ interests,
    p.waited.selector.backend report.raw.fd = some (toEpollEvents interests) ∧
    Faithful interests report.event
  /-- Without a call on the handle the entry is the one of the wait, and the readiness
  is within its interests. -/
  still : ∀ report ∈ p.reports, p.Still report.raw.fd →
    p.waited.selector.registrations report.raw.fd = some report.entry ∧
    Faithful report.entry.interests report.event

/-! Readiness is within the interests of the mask. -/

theorem and_within {flags mask : BitVec 32} (h : Masks.Sub flags mask) (c : BitVec 32) :
    flags &&& c = flags &&& (mask &&& c) := by
  apply BitVec.eq_of_getLsbD_eq
  intro i hi
  have hbit := (Masks.sub_iff flags mask).mp h i hi
  simp only [BitVec.getLsbD_and]
  cases hflag : flags.getLsbD i with
  | false => rfl
  | true => simp [hbit hflag]

/-- The bits of the readiness that flags amount to. -/
theorem fromEpollEvents_bits (flags : BitVec 32) :
    (fromEpollEvents flags).isReadable =
      decide (flags &&& (Epoll.epollIn ||| Epoll.epollRdHup ||| Epoll.epollHup) ≠ 0#32) ∧
    (fromEpollEvents flags).isWritable = decide (flags &&& Epoll.epollOut ≠ 0#32) ∧
    (fromEpollEvents flags).isPriority = decide (flags &&& Epoll.epollPri ≠ 0#32) ∧
    (fromEpollEvents flags).isAio = false ∧ (fromEpollEvents flags).isLio = false := by
  have hbits : ∀ r w p : Bool, ∀ i : Interest, i = ((if r then Interest.READABLE else Interest.none) |||
      (if w then Interest.WRITABLE else Interest.none) |||
      (if p then Interest.PRIORITY else Interest.none)) →
      i.isReadable = r ∧ i.isWritable = w ∧ i.isPriority = p ∧ i.isAio = false ∧ i.isLio = false := by
    rintro r w p i rfl
    revert r w p
    decide
  apply hbits
  simp only [decide_eq_true_eq]
  rfl

/-- The mask of a set of interests, by the three it distinguishes. -/
theorem toEpollEvents_bits {interests : Interest} {r w p : Bool} (hr : interests.isReadable = r)
    (hw : interests.isWritable = w) (hp : interests.isPriority = p) :
    toEpollEvents interests = Epoll.epollErr ||| Epoll.epollHup ||| Epoll.epollEt |||
      (if r then Epoll.epollIn ||| Epoll.epollRdHup else 0) |||
      (if w then Epoll.epollOut else 0) ||| (if p then Epoll.epollPri else 0) := by
  subst hr hw hp
  rfl

theorem faithful_of_sub {interests : Interest} {raw : EpollEvent} (entry : Registration)
    (h : Masks.Sub raw.events (toEpollEvents interests)) :
    Faithful interests (epollEvent entry raw) := by
  obtain ⟨hreadable, hwritable, hpriority, hothers⟩ := fromEpollEvents_bits raw.events
  refine ⟨fun hread => ?_, fun hwrite => ?_, fun hurgent => ?_, hothers⟩
  · have hflags := of_decide_eq_true (hreadable.symm.trans hread)
    refine or_iff_not_imp_left.mpr fun hnot => ?_
    have hmask := toEpollEvents_bits (Bool.not_eq_true _ ▸ hnot) rfl rfl
    -- what is left of the read flags without the interest is the hang-up
    have hsame : toEpollEvents interests &&& (Epoll.epollIn ||| Epoll.epollRdHup ||| Epoll.epollHup) =
        toEpollEvents interests &&& (Epoll.epollRdHup ||| Epoll.epollHup) := by
      rw [hmask]
      cases interests.isWritable <;> cases interests.isPriority <;> rfl
    rw [and_within h, hsame, ← and_within h] at hflags
    exact decide_eq_true hflags
  · have hflags := of_decide_eq_true (hwritable.symm.trans hwrite)
    by_contra hnot
    have hmask := toEpollEvents_bits rfl (Bool.not_eq_true _ ▸ hnot) rfl
    have hzero : toEpollEvents interests &&& Epoll.epollOut = 0#32 := by
      rw [hmask]
      cases interests.isReadable <;> cases interests.isPriority <;> rfl
    rw [and_within h, hzero, BitVec.and_zero] at hflags
    exact hflags rfl
  · have hflags := of_decide_eq_true (hpriority.symm.trans hurgent)
    by_contra hnot
    have hmask := toEpollEvents_bits rfl rfl (Bool.not_eq_true _ ▸ hnot)
    have hzero : toEpollEvents interests &&& Epoll.epollPri = 0#32 := by
      rw [hmask]
      cases interests.isReadable <;> cases interests.isWritable <;> rfl
    rw [and_within h, hzero, BitVec.and_zero] at hflags
    exact hflags rfl

/-! What the steps of the other threads leave alone. -/

/-- Every mask of the set was made by `to_epoll_events`. -/
def Made (set : EpollSet) : Prop := ∀ handle mask, set handle = some mask → ∃ interests, mask = toEpollEvents interests

theorem epollCtl_made {set : EpollSet} (h : Made set) (refusal : Option Errno) (op : Epoll.CtlOp)
    (handle : NativeHandle) {events : BitVec 32}
    (hevents : op ≠ .del → ∃ interests, events = toEpollEvents interests) :
    Made (Epoll.epollCtl refusal op handle events set).2 := by
  have hstored : op ≠ .del → Made (Function.update set handle (some events)) := by
    intro hop other mask hmask
    rcases update_some_eq_some hmask with ⟨_, rfl⟩ | ⟨_, hold⟩
    · exact hevents hop
    · exact h other mask hold
  have hgone : Made (Function.update set handle none) :=
    fun other mask hmask => h other mask (update_none_eq_some hmask).2
  unfold Epoll.epollCtl
  split
  · exact h
  · exact hstored (by decide)
  · exact h
  · exact hstored (by decide)
  · exact hgone
  · exact h

theorem step_made {a : Epoll.Action} {s t : Epoll.State} (h : Made s.selector.backend)
    (hstep : Epoll.step a s = some t) : Made t.selector.backend := by
  cases a with
  | enter thread call =>
    simp only [Epoll.step] at hstep
    split at hstep
    · cases hstep
    · split at hstep
      · cases hstep
        exact h
      · rename_i phase selector hbegin
        cases hstep
        rw [Epoll.continue_selector, (Epoll.beginCall_cases hbegin).1]
        exact h
  | ctl thread refusal =>
    simp only [Epoll.step, Epoll.ctlStep] at hstep
    split at hstep
    · rename_i handle interests _
      have hmade := epollCtl_made h refusal .add handle fun _ => ⟨interests, rfl⟩
      split at hstep <;> rename_i hctl <;> rw [hctl] at hmade <;> cases hstep <;> exact hmade
    · rename_i handle interests _
      have hmade := epollCtl_made h refusal .mod handle fun _ => ⟨interests, rfl⟩
      split at hstep <;> rename_i hctl <;> rw [hctl] at hmade <;> cases hstep <;> exact hmade
    · rename_i registration _
      cases hstep
      exact epollCtl_made h none .del registration.handle (absurd rfl)
    · cases hstep
  | rollback thread =>
    simp only [Epoll.step] at hstep
    split at hstep
    · cases hstep
      exact h
    · cases hstep

/-- A thread that goes on with its call, or returns from it, leaves other handles alone. -/
theorem continue_aside {s : Epoll.State} {thread : Nat} {phase : Epoll.Phase} {handle : NativeHandle}
    (hphase : s.calls thread = some phase) (hfree : Free s handle) {next : Option Epoll.Phase}
    (hnext : ∀ phase', next = some phase' → phase'.handle = phase.handle) (selector : Selector EpollSet) :
    Free (s.continue thread next selector) handle := by
  intro other phase' hother
  rcases update_eq_some hother with ⟨rfl, hnew⟩ | ⟨_, hold⟩
  · rw [hnext phase' hnew]
    exact hfree other phase hphase
  · exact hfree other phase' hold

/-- A step touches the entry of no handle but the one its call is on. -/
theorem step_aside {a : Epoll.Action} {s t : Epoll.State} (hkeyed : Keyed s.selector.registrations)
    (hstep : Epoll.step a s = some t) {handle : NativeHandle} (hbegins : handle ∉ begins a)
    (hfree : Free s handle) :
    t.selector.registrations handle = s.selector.registrations handle ∧ Free t handle := by
  cases a with
  | enter thread call =>
    have hother : handle ≠ call.handle := fun he => hbegins (List.mem_singleton.mpr he)
    simp only [Epoll.step] at hstep
    split at hstep
    · cases hstep
    · split at hstep
      · cases hstep
        exact ⟨rfl, hfree⟩
      · rename_i phase selector hbegin
        cases hstep
        have hphase : phase.handle = call.handle ∧
            selector.registrations handle = s.selector.registrations handle := by
          rcases (Epoll.beginCall_cases hbegin).2 with
            ⟨r, _, rfl, _, htable⟩ | ⟨r, updated, _, rfl, _, htable⟩ | ⟨r, hr, rfl, htable⟩
          · exact ⟨rfl, by rw [htable, Function.update_of_ne hother]⟩
          · exact ⟨rfl, by rw [htable, Function.update_of_ne hother]⟩
          · exact ⟨hkeyed _ r hr, by rw [htable, erase, Function.update_of_ne hother]⟩
        refine ⟨hphase.2, fun other phase' hcall => ?_⟩
        rcases update_some_eq_some hcall with ⟨_, rfl⟩ | ⟨_, hold⟩
        · rw [hphase.1]
          exact hother.symm
        · exact hfree other phase' hold
  | ctl thread refusal =>
    simp only [Epoll.step, Epoll.ctlStep] at hstep
    split at hstep
    · rename_i hphase
      split at hstep
      · cases hstep
        exact ⟨rfl, continue_aside hphase hfree (by simp) _⟩
      · cases hstep
        exact ⟨rfl, continue_aside hphase hfree (by simp [Epoll.Phase.handle]) _⟩
    · rename_i hphase
      split at hstep
      · cases hstep
        exact ⟨rfl, continue_aside hphase hfree (by simp) _⟩
      · cases hstep
        exact ⟨rfl, continue_aside hphase hfree (by simp) s.selector⟩
    · rename_i hphase
      cases hstep
      exact ⟨rfl, continue_aside hphase hfree (by simp) _⟩
    · cases hstep
  | rollback thread =>
    simp only [Epoll.step] at hstep
    split at hstep
    · rename_i rolled hphase
      cases hstep
      refine ⟨Function.update_of_ne ?_ _ _, continue_aside hphase hfree (by simp) _⟩
      exact fun he => hfree thread _ hphase he.symm
    · cases hstep

/-! The invariant. -/

/-- A poll after its wait, beside the threads as they are now. -/
structure Kept (now : Epoll.State) (p : Progress) : Prop extends Accounted p where
  returned : ∀ raw ∈ p.given, ∃ interests,
    p.waited.selector.backend raw.fd = some (toEpollEvents interests) ∧
    Masks.Sub raw.events (toEpollEvents interests)
  agreed : ∀ handle, p.Still handle → Epoll.Agrees p.waited.selector handle
  unmoved : ∀ handle, p.Still handle →
    now.selector.registrations handle = p.waited.selector.registrations handle ∧ Free now handle

/-- The invariant while no `MOD` has failed. -/
structure Invariant (s : State) : Prop where
  consistent : Consistent s.threads
  made : Made s.threads.selector.backend
  cleared : ∀ events, s.phase = .waiting events → events.items = []
  kept : ∀ p, s.phase = .reporting p → Kept s.threads p

theorem Progress.Still.before {p : Progress} {handles : List NativeHandle} {handle : NativeHandle}
    (h : Progress.Still { p with since := handles ++ p.since } handle) : p.Still handle ∧ handle ∉ handles :=
  ⟨⟨h.1, fun hmem => h.2 (List.mem_append_right _ hmem)⟩, fun hmem => h.2 (List.mem_append_left _ hmem)⟩

/-- A step of another thread during a poll. -/
theorem Kept.beside {now next : Epoll.State} {p : Progress} (h : Kept now p) {a : Epoll.Action}
    (hkeyed : Keyed now.selector.registrations) (hstep : Epoll.step a now = some next) :
    Kept next { p with since := begins a ++ p.since } where
  events := h.events
  order := by
    obtain ⟨passed, hgiven, hsublist, hall⟩ := h.order
    exact ⟨passed, hgiven, hsublist, fun raw hraw hstill => hall raw hraw hstill.before.1⟩
  keyed := h.keyed
  asked := h.asked
  still report hreport hstill := h.still report hreport hstill.before.1
  returned := h.returned
  agreed handle hstill := h.agreed handle hstill.before.1
  unmoved handle hstill := by
    obtain ⟨hbefore, hbegins⟩ := hstill.before
    obtain ⟨hsame, hfree⟩ := h.unmoved handle hbefore
    obtain ⟨hsame', hfree'⟩ := step_aside hkeyed hstep hbegins hfree
    exact ⟨hsame'.trans hsame, hfree'⟩

/-- The wait. -/
theorem Invariant.waits {s : State} (h : Invariant s) {events : Events} (hphase : s.phase = .waiting events)
    {raws : List EpollEvent} (hreturn : mayReturn events raws s.threads.selector.backend = true) :
    Kept s.threads ⟨s.threads, raws, raws, [], [], events⟩ where
  events := h.cleared events hphase
  order := ⟨[], rfl, List.Sublist.refl _, by simp⟩
  keyed := by simp
  asked := by simp
  still := by simp
  returned raw hraw := by
    simp only [mayReturn, Bool.and_eq_true, List.all_eq_true] at hreturn
    have hmask := hreturn.2 raw hraw
    split at hmask
    · cases hmask
    · rename_i mask hset
      obtain ⟨interests, rfl⟩ := h.made raw.fd mask hset
      exact ⟨interests, hset, of_decide_eq_true hmask⟩
  agreed handle hstill := h.consistent.agreed handle hstill.1
  unmoved handle hstill := ⟨rfl, hstill.1⟩

/-- One pass of the loop. -/
theorem Kept.pass {now : Epoll.State} {p : Progress} (h : Kept now p) (growth : Growth)
    (hkeyed : Keyed now.selector.registrations) {raw : EpollEvent} {rest : List EpollEvent}
    (hrest : p.rest = raw :: rest) :
    Kept now (p.pass growth now.selector.registrations raw rest) := by
  obtain ⟨passed, hgiven, hsublist, hall⟩ := h.order
  have hgiven' : p.given = (passed ++ [raw]) ++ rest := by rw [hgiven, hrest, List.append_assoc]; rfl
  have hmem : raw ∈ p.given := by rw [hgiven']; simp
  obtain ⟨interests, hmask, hsub⟩ := h.returned raw hmem
  -- a handle that is still in the kernel's set since the wait is in the table
  have hentry : p.Still raw.fd → ∃ entry, now.selector.registrations raw.fd = some entry ∧
      p.waited.selector.registrations raw.fd = some entry ∧
      toEpollEvents entry.interests = toEpollEvents interests := by
    intro hstill
    have hagrees := h.agreed raw.fd hstill
    rw [Epoll.Agrees, hmask] at hagrees
    obtain ⟨entry, hwaited, hsame⟩ := Option.map_eq_some_iff.mp hagrees.symm
    exact ⟨entry, (h.unmoved raw.fd hstill).1.trans hwaited, hwaited, hsame⟩
  unfold Progress.pass
  cases hfind : now.selector.registrations raw.fd with
  | none =>
    refine { h with order := ⟨passed ++ [raw], hgiven', hsublist.trans (List.sublist_append_left _ _), ?_⟩ }
    intro other hother hstill
    rcases List.mem_append.mp hother with hbefore | hlast
    · exact hall other hbefore hstill
    · cases List.mem_singleton.mp hlast
      obtain ⟨entry, hnow, _⟩ := hentry hstill
      rw [hfind] at hnow
      cases hnow
  | some entry =>
    have hlater : ∀ report ∈ p.reports ++ [⟨raw, entry⟩], report ∈ p.reports ∨ report = ⟨raw, entry⟩ := by
      simp
    refine { h with
      events := ?_, order := ⟨passed ++ [raw], hgiven', ?_, ?_⟩, keyed := ?_, asked := ?_, still := ?_ }
    · rw [Events.push_items, h.events, List.map_append]
      rfl
    · rw [List.map_append]
      exact hsublist.append (List.Sublist.refl _)
    · intro other hother hstill
      rw [List.map_append]
      rcases List.mem_append.mp hother with hbefore | hlast
      · exact List.mem_append_left _ (hall other hbefore hstill)
      · exact List.mem_append_right _ hlast
    · intro report hreport
      rcases hlater report hreport with hold | rfl
      · exact h.keyed report hold
      · exact hkeyed raw.fd entry hfind
    · intro report hreport
      rcases hlater report hreport with hold | rfl
      · exact h.asked report hold
      · exact ⟨interests, hmask, faithful_of_sub entry hsub⟩
    · intro report hreport hstill
      rcases hlater report hreport with hold | rfl
      · exact h.still report hold hstill
      · obtain ⟨entry', hnow, hwaited, hsame⟩ := hentry hstill
        rw [hfind] at hnow
        cases hnow
        exact ⟨hwaited, faithful_of_sub entry (hsame ▸ hsub)⟩

/-- The polling thread does not touch what the other threads use. -/
theorem step_threads {growth : Growth} {a : Action} {s t : State} (hstep : step growth a s = some t) :
    (∃ a, Epoll.step a s.threads = some t.threads) ∨ t.threads = s.threads := by
  cases a with
  | calls a =>
    obtain ⟨threads, hthreads, rfl⟩ := Option.map_eq_some_iff.mp hstep
    exact .inl ⟨a, hthreads⟩
  | pollBegins events =>
    simp only [step] at hstep
    split at hstep <;> cases hstep
    exact .inr rfl
  | waitFails errno =>
    simp only [step] at hstep
    split at hstep <;> cases hstep
    exact .inr rfl
  | waits raws =>
    simp only [step] at hstep
    split at hstep
    · split at hstep <;> cases hstep
      exact .inr rfl
    · cases hstep
  | pushes =>
    simp only [step] at hstep
    split at hstep
    · split at hstep <;> cases hstep
      exact .inr rfl
    · cases hstep
  | pollReturns =>
    simp only [step] at hstep
    split at hstep
    · split at hstep <;> cases hstep
      exact .inr rfl
    · cases hstep

theorem step_invariant {growth : Growth} (a : Action) {s t : State}
    (h : s.threads.modFailed = true ∨ Invariant s) (halone : alone a s)
    (hstep : step growth a s = some t) : t.threads.modFailed = true ∨ Invariant t := by
  rcases h with hfailed | h
  · rcases step_threads hstep with ⟨a, hthreads⟩ | hsame
    · exact .inl (Epoll.step_modFailed a hfailed hthreads)
    · exact .inl (hsame ▸ hfailed)
  cases a with
  | calls a =>
    obtain ⟨threads, hthreads, rfl⟩ := Option.map_eq_some_iff.mp hstep
    refine (Epoll.step_consistent a (.inr h.consistent) halone hthreads).imp_right fun hconsistent =>
      ⟨hconsistent, step_made h.made hthreads, fun events hphase => ?_, fun p hphase => ?_⟩
    · cases hold : s.phase with
      | waiting events' =>
        rw [hold] at hphase
        cases hphase
        exact h.cleared events hold
      | _ =>
        rw [hold] at hphase
        cases hphase
    · cases hold : s.phase with
      | reporting p' =>
        rw [hold] at hphase
        cases hphase
        exact (h.kept p' hold).beside h.consistent.keyed hthreads
      | _ =>
        rw [hold] at hphase
        cases hphase
  | pollBegins events =>
    simp only [step] at hstep
    split at hstep
    · cases hstep
      refine .inr ⟨h.consistent, h.made, fun events' hphase => ?_, fun p hphase => ?_⟩
      · dsimp only at hphase
        split at hphase
        · cases hphase
        · cases hphase
          rfl
      · dsimp only at hphase
        split at hphase <;> cases hphase
    · cases hstep
  | waitFails errno =>
    simp only [step] at hstep
    split at hstep
    · cases hstep
      exact .inr ⟨h.consistent, h.made, by simp, by simp⟩
    · cases hstep
  | waits raws =>
    simp only [step] at hstep
    split at hstep
    · rename_i events hwaiting
      split at hstep
      · rename_i hreturn
        cases hstep
        refine .inr ⟨h.consistent, h.made, by simp, fun p hphase => ?_⟩
        cases hphase
        exact h.waits hwaiting hreturn
      · cases hstep
    · cases hstep
  | pushes =>
    simp only [step] at hstep
    split at hstep
    · rename_i p hreporting
      split at hstep
      · cases hstep
      · rename_i raw rest hrest
        cases hstep
        refine .inr ⟨h.consistent, h.made, by simp, fun p' hphase => ?_⟩
        cases hphase
        exact (h.kept p hreporting).pass growth h.consistent.keyed hrest
    · cases hstep
  | pollReturns =>
    simp only [step] at hstep
    split at hstep
    · split at hstep
      · cases hstep
        exact .inr ⟨h.consistent, h.made, by simp, by simp⟩
      · cases hstep
    · cases hstep

/-- Whatever the other threads do, the events of a poll are accounted for. -/
theorem reports_accounted (growth : Growth) {s : State} (h : Reach (step growth) alone initial s)
    (hmod : s.threads.modFailed = false) {p : Progress} (hphase : s.phase = .reporting p) :
    Accounted p := by
  have hinvariant : s.threads.modFailed = true ∨ Invariant s := by
    refine h.invariant (.inr ⟨Epoll.consistent_initial, ?_, by simp [initial], by simp [initial]⟩)
      fun a _ _ hu hok hstep => step_invariant a hu hok hstep
    simp [Made, initial, Epoll.initial, Epoll.initialSelector]
  rcases hinvariant with hfailed | hinvariant
  · rw [hmod] at hfailed
    cases hfailed
  · exact (hinvariant.kept p hphase).toAccounted

def exampleGrowth : Growth := ⟨Nat.succ, Nat.lt_succ_self⟩

/-- A thread that makes one call after another never overlaps with itself. -/
theorem enter_tail {s t : State} (h : Reach (step exampleGrowth) alone initial s)
    (hidle : ∀ thread, s.threads.calls thread = none) (call : Call)
    (hstep : step exampleGrowth (.calls (.enter 0 call)) s = some t) :
    Reach (step exampleGrowth) alone initial t := by
  refine .tail (.calls (.enter 0 call)) h (fun thread phase hphase => ?_) hstep
  rw [hidle thread] at hphase
  cases hphase

/-- Descriptor 6 is deregistered and registered again, under another token and for
writing, between the wait and its pass. -/
theorem reports_accounted_registered_again :
    ∃ s p, Reach (step exampleGrowth) alone initial s ∧ s.phase = .reporting p ∧
      p.events.items = [⟨⟨1⟩, Interest.READABLE, false, false, false⟩,
        ⟨⟨9⟩, Interest.READABLE, false, false, false⟩] ∧ Accounted p := by
  have h₁ : Reach (step exampleGrowth) alone initial _ :=
    enter_tail .refl (fun _ => rfl) (.add 5 .socket ⟨1⟩ Interest.READABLE false) rfl
  have h₂ : Reach (step exampleGrowth) alone initial _ := .tail (.calls (.ctl 0 none)) h₁ trivial rfl
  have h₃ : Reach (step exampleGrowth) alone initial _ :=
    enter_tail h₂ (fun thread => by cases thread <;> rfl) (.add 6 .socket ⟨2⟩ Interest.READABLE false) rfl
  have h₄ : Reach (step exampleGrowth) alone initial _ := .tail (.calls (.ctl 0 none)) h₃ trivial rfl
  have h₅ : Reach (step exampleGrowth) alone initial _ :=
    .tail (.pollBegins ⟨2, [], by decide⟩) h₄ trivial rfl
  have h₆ : Reach (step exampleGrowth) alone initial _ :=
    .tail (.waits [⟨Epoll.epollIn, 5⟩, ⟨Epoll.epollIn, 6⟩]) h₅ trivial rfl
  have h₇ : Reach (step exampleGrowth) alone initial _ :=
    enter_tail h₆ (fun thread => by cases thread <;> rfl) (.remove 6) rfl
  have h₈ : Reach (step exampleGrowth) alone initial _ := .tail (.calls (.ctl 0 none)) h₇ trivial rfl
  have h₉ : Reach (step exampleGrowth) alone initial _ :=
    enter_tail h₈ (fun thread => by cases thread <;> rfl) (.add 6 .socket ⟨9⟩ Interest.WRITABLE false) rfl
  have h₁₀ : Reach (step exampleGrowth) alone initial _ := .tail (.calls (.ctl 0 none)) h₉ trivial rfl
  have h₁₁ : Reach (step exampleGrowth) alone initial _ := .tail .pushes h₁₀ trivial rfl
  have h₁₂ : Reach (step exampleGrowth) alone initial _ := .tail .pushes h₁₁ trivial rfl
  exact ⟨_, _, h₁₂, rfl, rfl, reports_accounted exampleGrowth h₁₂ rfl rfl⟩

end Reports
