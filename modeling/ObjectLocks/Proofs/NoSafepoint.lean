import ObjectLocks.Proofs.Unguarded

/-!
# No-safepoint regions

A thread with open no-safepoint guards does not begin to wait: what it would wait in ends by a fault.
There is one exception. A guard may be opened inside a native or blocked region, and the end of the
region does not look at it. So a thread can be parked at the barrier with a guard open, but only at
the end of a region and while a safepoint is requested, and it never waits in another place.
-/

namespace ObjectLocks

/-- What a thread waits for while it has guards open: nothing, or to come out of a region. -/
def Wait.Leaving (x : Option Wait) : Prop := x = none ∨ ∃ resume, x = some (.barrier resume .resume)

/-- The invariant of no-safepoint regions. -/
def Scene.Guarded (v : Scene) : Prop :=
  ∀ w t, v.thread w = some t → 0 < v.guards t → Wait.Leaving (v.wait w)

namespace Scene.Guarded

variable {v : Scene} {p : Scene × Bool} {w : WorkerId} {t : ThreadId} {resume : ThreadState}
  {goal : Goal}

/-- A worker may begin to wait if its thread, if any, has no guard open. -/
lemma wait (h : v.Guarded) {x : Option Wait}
    (may : ∀ t, v.thread w = some t → 0 < v.guards t → Wait.Leaving x) {state registry nextThread}
    {monitor inScope safepoint} :
    Scene.Guarded ⟨state, v.guards, registry, nextThread, monitor, v.thread,
      Function.update v.wait w x, inScope, safepoint⟩ := by
  intro w' t ht guarded
  show Wait.Leaving (Function.update v.wait w x w')
  rw [Function.update_apply]
  split
  next eq => exact may t (eq ▸ ht) guarded
  next => exact h w' t ht guarded

/-- A thread may leave a safe state with guards open if nothing is left to do then. -/
lemma leave (h : v.Guarded) (ht : v.thread w = some t) (last : 0 < v.guards t → goal = .resume) :
    (v.leave w t resume goal).1.Guarded := by
  obtain ⟨y, x, q, eq, hx⟩ := leave_eq v w t resume goal
  rw [eq]
  refine h.wait fun u hu guarded => ?_
  obtain rfl := Option.some.inj (ht.symm.trans hu)
  obtain rfl := last guarded
  rcases hx with rfl | rfl | ⟨-, eq⟩
  · exact .inl rfl
  · exact .inr ⟨resume, rfl⟩
  · cases eq

/-- A worker without a thread may request a safepoint. -/
lemma request (h : v.Guarded) (free : v.thread w = none) : (v.request w).1.Guarded := by
  obtain ⟨x, q, eq, -⟩ := request_eq v w
  rw [eq]
  exact h.wait fun _ ht => nomatch free.symm.trans ht

/-- A new thread has no guard open. -/
lemma attach (h : v.Guarded) (w : WorkerId) : (v.attach w).Guarded := by
  intro w' t ht guarded
  replace ht : Function.update v.thread w (some v.nextThread) w' = some t := ht
  replace guarded : 0 < Function.update v.guards v.nextThread 0 t := guarded
  rw [Function.update_apply] at ht guarded
  split at guarded
  next => exact absurd guarded (Nat.lt_irrefl 0)
  next old =>
    split at ht
    next => exact absurd (Option.some.inj ht).symm old
    next => exact h w' t ht guarded

/-- Every step lets no thread with open guards begin to wait, but for the end of a region. -/
theorem step (h : v.Guarded) (d : v.Distinct) (c : Step v p) : p.1.Guarded := by
  have closed {w t} (unguarded : v.guards t = 0) (ht : v.thread w = some t) {x : Option Wait} :
      ∀ u, v.thread w = some u → 0 < v.guards u → Wait.Leaving x := by
    intro u hu guarded
    obtain rfl := Option.some.inj (ht.symm.trans hu)
    exact absurd guarded (by omega)
  -- A guarded thread that waits does so at the barrier, with nothing left to do.
  have waiting {w t} (ht : v.thread w = some t) {x : Wait} (hw : v.wait w = some x)
      (guarded : 0 < v.guards t) : ∃ resume, x = .barrier resume .resume := by
    rcases h w t ht guarded with none | ⟨resume, eq⟩
    · cases hw.symm.trans none
    · exact ⟨resume, Option.some.inj (hw.symm.trans eq)⟩
  cases c with
  | idle | operate _ _ _ | exit _ _ _ _ _ | enterRegion _ _ _ _ | skip => exact h
  | block ht _ unguarded _ _ _ _ => exact h.wait (closed unguarded ht)
  | @guard w t n ht free =>
    intro w' u hu guarded
    by_cases own : u = t
    · subst own
      -- Only an awake thread opens a guard.
      obtain rfl := d.unique w' w u hu ht
      exact .inl free
    · replace guarded : 0 < Function.update v.guards t n u := guarded
      rw [Function.update_of_ne own] at guarded
      exact h w' u hu guarded
  | leaveRegion ht _ => exact h.leave ht fun _ => rfl
  | poll ht _ unguarded _ => exact h.leave ht fun guarded => absurd guarded (by omega)
  | attach _ _ _ =>
    refine (h.attach _).leave (Function.update_self ..) fun guarded => ?_
    replace guarded : 0 < Function.update v.guards v.nextThread 0 v.nextThread := guarded
    rw [Function.update_self] at guarded
    exact absurd guarded (Nat.lt_irrefl 0)
  | @detach w t ht free _ =>
    intro w' u hu guarded
    replace hu : Function.update v.thread w none w' = some u := hu
    rw [Function.update_apply] at hu
    split at hu
    · cases hu
    · exact h w' u hu guarded
  | handed ht waits _ =>
    refine h.leave ht fun guarded => ?_
    obtain ⟨_, eq⟩ := waiting ht waits guarded
    cases eq
  | unpark ht waits _ =>
    refine h.leave ht fun guarded => ?_
    obtain ⟨_, eq⟩ := waiting ht waits guarded
    cases eq
    rfl
  | queueUp ht _ _ unguarded => exact h.wait (closed unguarded ht)
  | queueUpDetached free _ _ => exact h.wait fun _ ht => nomatch free.symm.trans ht
  | turn ht waits _ _ =>
    refine leave (v := v.give _ _) h ht fun guarded => ?_
    obtain ⟨_, eq⟩ := waiting ht waits guarded
    cases eq
  | turnDetached free _ _ _ => exact request (v := v.give _ _) h free
  | reach _ _ => exact h.wait fun _ _ _ => .inl rfl
  | release _ _ =>
    unfold release
    split <;> exact h

end Scene.Guarded

namespace World

variable {s : World} {w : WorkerId} {t : ThreadId}

/-- The system with all guards of thread `t` closed. -/
def unguarded (s : World) (t : ThreadId) : World := { s with machine := s.machine.unguard t }

/-- Closing the guards of a thread leaves all workers alone. -/
lemma worker_unguarded (w : WorkerId) : (s.unguarded t).worker w = s.worker w := rfl

/-- An operation that never waits does not wait. -/
lemma conclude_ne_waiting {α : Type} (answer : α → Answer) (operation : Machine → Outcome α) :
    (s.conclude answer operation).2 ≠ .waiting := by
  cases eq : operation s.machine with
  | ok a m =>
    rw [conclude_ok eq]
    exact nofun
  | fault f m =>
    rw [conclude_fault eq]
    exact nofun

/-- A checked operation of a thread with open guards is stopped. -/
lemma operate_stopped (guarded : 0 < (s.machine.thread t).guards)
    (next : World → Unit → World × Progress) :
    (s.operate (·.checkSafepoint t) next).2 = .failed .noSafepointRegion := by
  rcases checkSafepoint_cases s.machine t with ⟨none, -⟩ | ⟨-, eq⟩
  · omega
  · rw [operate_fault eq]

/-- A thread with open guards requests no safepoint. -/
lemma beginSafepoint_stopped (ht : (s.worker w).thread = some t)
    (guarded : 0 < (s.machine.thread t).guards) :
    (s.beginSafepoint w).2 = .failed .noSafepointRegion := by
  unfold beginSafepoint
  rw [ht]
  exact operate_stopped guarded _

/-- So is an enter that checks the safepoint first. -/
lemma enter_checked (guarded : 0 < (s.machine.thread t).guards) {o : ObjectId} {r : RecordId}
    {goal : Goal} {next : World → World × Progress} :
    (s.enter w (·.enter t o r) goal next).2 = .failed .noSafepointRegion := by
  have stopped : s.machine.enter t o r = .fault .noSafepointRegion s.machine := by
    rcases checkSafepoint_cases s.machine t with ⟨none, -⟩ | ⟨-, eq⟩
    · omega
    · unfold Machine.enter
      rw [eq]
      rfl
  unfold enter
  rw [operate_fault stopped]

/-- So is an enter that checks the safepoint later, if it would wait without the guards. -/
lemma enter_stopped (guarded : 0 < (s.machine.thread t).guards) {operation : Machine → Outcome Entry}
    {goal : Goal} {next : World → World × Progress}
    (spares : (operation s.machine).Spares t (operation (s.machine.unguard t)))
    (enters : (operation s.machine).Enqueues t s.machine) (ends : ∀ s, (next s).2 ≠ .waiting)
    (waits : ((s.unguarded t).enter w operation goal next).2 = .waiting) :
    (s.enter w operation goal next).2 = .failed .noSafepointRegion := by
  unfold enter
  rcases spares with ⟨m, eq⟩ | same
  · rw [operate_fault eq]
  · exfalso
    unfold enter at waits
    match eq : operation s.machine with
    | .ok .entered m =>
      rw [eq] at same
      rw [operate_ok (s := s.unguarded t) same] at waits
      exact ends _ waits
    | .ok (.queued id resume) m =>
      rw [eq] at enters
      obtain ⟨k, alters, none, -⟩ := enters
      rw [alters.guards] at none
      omega
    | .fault f m =>
      rw [eq] at same
      rw [operate_fault (s := s.unguarded t) same] at waits
      cases waits

/-- The end of a synchronized region does not wait. -/
lemma endSynchronized_ne_waiting (result : Progress) (ends : result ≠ .waiting) :
    (s.endSynchronized w t result).2 ≠ .waiting := by
  unfold endSynchronized
  split
  next o r _ _ =>
    cases eq : (s.closeRegion w).machine.exit t o r with
    | ok a m =>
      rw [operate_ok eq]
      exact ends
    | fault f m =>
      rw [operate_fault eq]
      exact nofun
  next => exact nofun

/-- A thread does not wait to attach for the second time. -/
lemma attach_ne_waiting (ht : (s.worker w).thread = some t) : (s.attach w).2 ≠ .waiting := by
  unfold attach
  rw [ht]
  exact nofun

/-- The end of a safepoint does not wait. -/
lemma endSafepoint_ne_waiting : (s.endSafepoint w).2 ≠ .waiting := by
  unfold endSafepoint
  dsimp only
  split <;> exact nofun

/-- The end of a native or blocked region parks the thread, whatever its guards. -/
lemma leaveRegion_parks {resume : ThreadState}
    (waits : (((s.unguarded t).closeRegion w).leave w t resume .resume).2 = .waiting) :
    (((s.closeRegion w).leave w t resume .resume).1.worker w).wait =
      some (.barrier resume .resume) := by
  unfold leave at waits ⊢
  split at waits
  next requested =>
    rw [if_pos (show (s.closeRegion w).safepoint.requested = true from requested)]
    show ((World.setWait _ w _).worker w).wait = _
    rw [setWait, worker_modifyWorker, if_pos rfl]
  next => cases waits

/-- The end of a native or blocked region that would wait without the guards parks the thread with
them. -/
lemma endRegion_parks {a : Action} (ends : a = .endNative ∨ a = .endBlocked)
    (waits : ((s.unguarded t).act w t a).2 = .waiting) :
    ∃ resume, ((s.act w t a).1.worker w).wait = some (.barrier resume .resume) := by
  obtain rfl | rfl := ends
  all_goals
    dsimp only [act, worker_unguarded] at waits ⊢
    split at waits
    next resume _ _ => exact ⟨resume, leaveRegion_parks waits⟩
    next => cases waits

/-- The quick enter of a region does not look at the guards, and the enter after it does. -/
lemma beginSynchronized_stopped (marked : s.machine.WellMarked)
    (guarded : 0 < (s.machine.thread t).guards) {o : ObjectId}
    (waits : ((s.unguarded t).beginSynchronized w t o).2 = .waiting) :
    (s.beginSynchronized w t o).2 = .failed .noSafepointRegion := by
  let r := s.machine.records.size
  let n := (s.machine.addRecord w).2
  have begun : (s.unguarded t).beginSynchronized w t o =
      ({ s with machine := n.unguard t } : World).operate (·.quickEnter t (some o) r)
        (openSynchronized w t o r) := rfl
  have same := Machine.quickEnter_unguard n t (some o) r
  rw [begun] at waits
  rw [beginSynchronized_eq]
  match eq : n.quickEnter t (some o) r with
  | .fault f m =>
    rw [eq] at same
    rw [operate_fault (s := { s with machine := n.unguard t }) same] at waits
    cases waits
  | .ok true m =>
    rw [eq] at same
    rw [operate_ok (s := { s with machine := n.unguard t }) same] at waits
    cases waits
  | .ok false m =>
    have alters := Machine.quickEnter_alters (m := n) (t := t) (r := r) marked (some o)
    rw [eq] at alters
    rw [operate_ok (s := { s with machine := n }) eq]
    refine enter_checked (s := { s with machine := m }) ?_
    rw [Machine.Alters.guards alters]
    exact guarded

/-- An operation that would wait without the guards fails, or parks the thread at the end of a
region. -/
lemma act_stopped (marked : s.machine.WellMarked) (ht : (s.worker w).thread = some t)
    (guarded : 0 < (s.machine.thread t).guards) (a : Action)
    (waits : ((s.unguarded t).act w t a).2 = .waiting) :
    (s.act w t a).2 = .failed .noSafepointRegion ∨ (a = .endNative ∨ a = .endBlocked) ∧
      ∃ resume, ((s.act w t a).1.worker w).wait = some (.barrier resume .resume) := by
  -- An operation that cannot wait does not wait with the guards closed either.
  have never {p : World × Progress} (ends : p.2 ≠ .waiting) (waits : p.2 = .waiting)
      {P : Prop} : P := absurd waits ends
  cases a with
  | attach => exact never (attach_ne_waiting (s := s.unguarded t) ht) waits
  | detach =>
    rw [act_detach] at waits
    split at waits <;> cases waits
  | allocate _ _ | poll | beginNative | beginBlocked => exact .inl (operate_stopped guarded _)
  | enter o r raw =>
    cases raw with
    | true =>
      exact .inl (enter_stopped guarded (Locking.enter_spares (o := o) (r := r))
        (Locking.enter_enqueues marked) (fun _ => nofun) waits)
    | false => exact .inl (enter_checked guarded)
  | quickEnter o r raw =>
    cases o with
    | none => cases raw <;> exact never (conclude_ne_waiting _ _) waits
    | some o => cases raw <;> exact never (conclude_ne_waiting _ _) waits
  | exit o r raw => cases raw <;> exact never (conclude_ne_waiting _ _) waits
  | identityHash _ | inflate _ _ | checkSafepoint | tryEnterMonitor _ | exitMonitor _
  | claimMonitor _ _ | store _ _ _ | load _ _ | add _ _ _ =>
    exact never (conclude_ne_waiting _ _) waits
  | beginGuard | monitorHash _ => cases waits
  | endGuard =>
    rw [act_endGuard] at waits
    split at waits <;> cases waits
  | endNative => exact .inr ⟨.inl rfl, endRegion_parks (.inl rfl) waits⟩
  | endBlocked => exact .inr ⟨.inr rfl, endRegion_parks (.inr rfl) waits⟩
  | beginSynchronized o => exact .inl (beginSynchronized_stopped marked guarded waits)
  | endSynchronized => exact never (endSynchronized_ne_waiting (.answered .done) nofun) waits
  | failSynchronized => exact never (endSynchronized_ne_waiting (.failed .bodyFailed) nofun) waits
  | beginSafepoint =>
    rw [act_beginSafepoint] at waits ⊢
    split at waits
    next => cases waits
    next unscoped =>
      rw [if_neg (show ¬(s.worker w).inScope = true from unscoped)]
      exact .inl (beginSafepoint_stopped ht guarded)
  | endSafepoint =>
    rw [act_endSafepoint] at waits
    split at waits
    next => exact never endSafepoint_ne_waiting waits
    next => cases waits
  | enterMonitor id =>
    exact .inl (enter_stopped guarded (Machine.enterMonitor_spares _ t id)
      (Machine.enterMonitor_enqueues _ t id) (fun _ => nofun) waits)

/-- What holds of threads with open guards at any time. -/
structure RespectsGuards (s : World) : Prop where
  /-- Such a thread waits for nothing, but to come out of a region. -/
  leaving : ∀ w t, (s.worker w).thread = some t → 0 < (s.machine.thread t).guards →
    Wait.Leaving (s.worker w).wait
  /-- What it would wait in without the guards ends by a fault, but for the end of a region. -/
  stopped : ∀ w t a, (s.worker w).thread = some t → (s.worker w).wait = none →
    0 < (s.machine.thread t).guards → ((s.unguarded t).begin w a).2 = .waiting →
      (s.begin w a).2 = .failed .noSafepointRegion ∨ (a = .endNative ∨ a = .endBlocked) ∧
        ∃ resume, ((s.begin w a).1.worker w).wait = some (.barrier resume .resume)

end World

namespace Run

variable {rule : Rule} {options : Options} {s : World} {h : List Event}

/-- Threads with open guards are not made to wait, whatever a run does, but for one case: a region
that was entered before the guard was opened ends while a safepoint is requested. -/
theorem no_safepoint_regions (run : Run rule options s h) : s.RespectsGuards := by
  have guarded : s.scene.Distinct ∧ s.scene.Guarded :=
    run.keeps (P := fun v => v.Distinct ∧ v.Guarded) ⟨.new options, fun _ _ hw => nomatch hw⟩
      fun ⟨d, h⟩ c => ⟨d.step c, h.step d c⟩
  refine ⟨guarded.2, fun w t a ht _ guards waits => ?_⟩
  rw [World.begin_attached ht]
  rw [World.begin_attached (s := s.unguarded t) ht] at waits
  exact World.act_stopped run.wellMarked ht guards a waits

/-- A thread opens a guard inside a native region and ends the region during a safepoint. -/
def slipped : World × List Event :=
  (World.new (.ofMode .lightweight)).follow []
    [.addWorker, .addWorker, .act 0 .attach, .act 1 .attach, .act 0 .beginNative,
      .act 0 .beginGuard, .act 1 .beginSafepoint, .grant 1, .reach 1, .act 0 .endNative]

/-- The thread is parked at the barrier with its guard open. -/
theorem no_safepoint_regions_slipped : (slipped.1.machine.thread 2).guards = 1 ∧
    (slipped.1.worker 0).thread = some 2 ∧
    (slipped.1.worker 0).wait = some (.barrier .inManaged .resume) ∧ slipped.1.RespectsGuards :=
  ⟨by decide +kernel, by decide +kernel, by decide +kernel,
    no_safepoint_regions (.follow .new _ (anything.allows _ _ _))⟩

end Run

end ObjectLocks
