import ObjectLocks.Proofs.FastLocking.Inflation
import ObjectLocks.Proofs.IdentityHash
import ObjectLocks.Proofs.Levels
import ObjectLocks.Proofs.Regions

/-!
# Inflation

A lock is the same lock after its object was inflated, whoever has done that. Everyone holds what they
held, as often as before, and is told the same owners and the same hashes. With fast-locking the
entries on a lock stack are translated into the recursions of the monitor, at once or when their
thread claims it, and every exit gives back one level as before.
-/

namespace ObjectLocks

open SystemView (Step Path)

namespace Machine

/-- The object is locked by the lock stack of a thread alone. -/
def IsFast (m : Machine) (o : ObjectId) : Prop :=
  m.options.mode = .lightweight ∧ (m.mark o).isFastLocked = true

instance (m : Machine) (o : ObjectId) : Decidable (m.IsFast o) := inferInstanceAs (Decidable (_ ∧ _))

/-- What an inflation of `o` by thread `t` does, `p` being the pending enters. -/
structure Inflates (m : Machine) (p : Pending) (t : ThreadId) (o : ObjectId) (id : MonitorId)
    (n : Machine) : Prop where
  monitor : n.monitorOf? o = some id
  holds : n.holdsLock = m.holdsLock
  owner : n.lockOwner? = m.lockOwner?
  levels : n.levels p = m.levels p
  waiting : n.waiting = m.waiting
  /-- A lock stack is all that changes of a thread. -/
  thread : ∀ u, n.thread u = { m.thread u with lockStack := n.lockStack u }
  /-- Everyone is told the hashes that they would have been told. -/
  hash : ∀ u q x k, m.identityHash u q = .ok x k → ∃ k', n.identityHash u q = .ok x k'
  lockStack : ∀ u, (n.lockStack u).toList =
    if m.IsFast o ∧ u = t then (m.lockStack u).toList.filter (· ≠ o)
    else (m.lockStack u).toList
  own : m.IsFast o → 0 < (m.lockStack t).count o → (n.monitor id).owner = .thread t ∧
    (n.monitor id).recursions.toNat + 1 = (m.lockStack t).count o
  foreign : m.IsFast o → (m.lockStack t).count o = 0 → (n.monitor id).owner = .anonymous

end Machine

/-- What holds of an object with a monitor, at any time. -/
structure World.Inflated (s : World) (h : List Event) (o : ObjectId) (id : MonitorId) : Prop where
  /-- Another inflation finds the monitor and does nothing. -/
  again : ∀ w t cause, (s.worker w).thread = some t → (s.worker w).wait = none →
    s.move (.act w (.inflate o cause)) = (s, .answered (.monitor id))
  /-- A thread that owns the monitor anonymously claims it with an enter or an exit. -/
  enters : ∀ w t r raw, (s.worker w).thread = some t → (s.worker w).wait = none →
    (raw = true ∨ (s.machine.thread t).guards = 0) → (s.machine.monitor id).owner = .anonymous →
    0 < (s.machine.lockStack t).count o →
    ∃ n, s.move (.act w (.enter o r raw)) = ({ s with machine := n }, .answered .done) ∧
      s.machine.UsesAnonymous t o id ((s.machine.lockStack t).tryRecursiveEnter o) (·.tryEnter t) n
  exits : ∀ w t r raw, (s.worker w).thread = some t → (s.worker w).wait = none →
    (s.machine.monitor id).owner = .anonymous → 0 < (s.machine.lockStack t).count o →
    ∃ n, s.move (.act w (.exit o r raw)) = ({ s with machine := n }, .answered .done) ∧
      s.machine.UsesAnonymous t o id ((s.machine.lockStack t).tryRecursiveExit o) (·.exit? t) n
  /-- The levels are those that the history leads to. -/
  levels : ∃ L, replay h = some L ∧ s.Shows L (pending h) ∧
    ∀ t q, s.machine.levels (pending h) t q = (L q).depth t
  /-- The exit of a latest enter gives one level back. -/
  released : ∀ w t q r rest raw, (s.worker w).thread = some t → (s.worker w).wait = none →
    pending h t = (q, r) :: rest →
    ∃ n, s.move (.act w (.exit q r raw)) = ({ s with machine := n }, .answered .done) ∧
      s.machine.GivesBack (pending h) t q (Event.pend (pending h) (.exited t q r)) n

section

variable {m n : Machine} {L : Locks} {p : Pending} {t : ThreadId} {o : ObjectId} {r : RecordId}
  {id : MonitorId}

/-- No header of fast-locking is the address of a record, and each monitor in a header is that of
its object. -/
lemma FastLocking.Coherent.wellHeaded (h : FastLocking.Coherent m.view) : m.WellHeaded := by
  refine ⟨fun mode => absurd h.mode mode, fun o r hk => ?_, fun o id hk => ?_⟩
  · -- No header of fast-locking is the address of a record.
    have hd := FastLocking.header h o
    generalize m.form o = f at hd
    cases hd with
    | unlocked hk' _ _ | fast hk' _ _ | inline _ hk' | table _ _ hk' _ => cases hk.symm.trans hk'
  · refine h.linked o id ?_
    show m.form o = _
    have hd := FastLocking.header h o
    generalize m.form o = f at hd ⊢
    cases hd with
    | unlocked hk' _ _ | fast hk' _ _ | table _ _ hk' _ => cases hk.symm.trans hk'
    | inline _ hk' => rw [Mark.monitor.inj (hk'.symm.trans hk)]

/-- The headers of stack-locking lead to the records and monitors of their objects. -/
lemma StackLocking.Refines.wellHeaded (h : StackLocking.Refines m.view L p) : m.WellHeaded := by
  refine ⟨fun _ o w hk => (StackLocking.form_word h.coherent hk).1, fun o r hk => ?_,
    fun o id hk => h.coherent.linked o id (StackLocking.form_monitor h.coherent hk)⟩
  have stacked := StackLocking.form_record h.coherent hk
  have legacy : m.options.mode = .legacy := by
    cases mode : m.options.mode with
    | legacy => rfl
    | monitor => exact absurd stacked (h.coherent.heavy mode o r)
    | lightweight => exact absurd mode h.coherent.mode
  obtain ⟨-, -, -, -, -, bits, -⟩ := (h.represents o).stacked stacked
  exact ⟨legacy, h.coherent.recorded o r stacked, bits⟩

/-- Headers lead to what is there wherever a machine refines recursive locks. -/
lemma LockView.Refines.wellHeaded (h : m.view.Refines L p) : m.WellHeaded := by
  by_cases mode : m.options.mode = .lightweight
  · exact (h.fast mode).coherent.wellHeaded
  · exact (h.stack mode).wellHeaded

/-- With the same headers and hashes in place, everyone is told the same hashes. -/
lemma Machine.Carries.identityHash (h : Machine.Carries none m n) (headed : m.WellHeaded)
    {u : ThreadId} {q : ObjectId} {x : UInt32} {k : Machine}
    (told : m.identityHash u q = .ok x k) : ∃ k', n.identityHash u q = .ok x k' := by
  have before := Machine.identityHash_identifies (t := u) (o := q) headed
  have after := Machine.identityHash_identifies (t := u) (o := q) (h.headed headed)
  rw [told] at before
  cases eq : n.identityHash u q with
  | ok x' k' =>
    rw [eq] at after
    have same : x' = x := by
      rw [Machine.Identifies.told after, Machine.Identifies.told before, h.hash headed, h.hashes]
    exact ⟨k', by rw [same]⟩
  | fault f k' =>
    rw [eq] at after
    exact after.elim

/-- An inflation of stack-locking changes no thread. -/
lemma StackLocking.inflate_thread (m : Machine) (t : ThreadId) (o : ObjectId)
    (cause : InflationCause) : (inflate m t o cause).machine.thread = m.thread := by
  unfold inflate
  split
  next => rfl
  next => rfl
  next =>
    split <;> rfl

namespace Locking

/-- An inflation ends with the object inflated, and no event becomes of it. -/
lemma inflate_steps (h : m.view.Coherent) (cause : InflationCause) :
    ∃ id n, inflate m t o cause = .ok id n ∧
      Steps (Change m.options.mode t (.visit o)) m.view none n.view ∧
      n.form o = .inflated id := by
  unfold inflate Change
  by_cases mode : m.options.mode = .lightweight
  · simp only [if_pos mode]
    exact FastLocking.inflate_inflates (.visit o) (h.fast mode) cause
  · simp only [if_neg mode]
    obtain ⟨id, n, eq, steps, form, -⟩ :=
      StackLocking.inflate_steps (t := t) (.visit o) (h.stack mode) cause
    exact ⟨id, n, eq, steps, form⟩

/-- An object that has a monitor is inflated already. -/
lemma inflate_of_monitorOf? (found : m.monitorOf? o = some id) (cause : InflationCause) :
    inflate m t o cause = .ok id m := by
  unfold Machine.monitorOf? readMonitor? at found
  unfold inflate
  split at found
  next mode =>
    rw [if_pos mode]
    exact FastLocking.inflate_of_readMonitor? found cause
  next mode =>
    rw [if_neg mode]
    unfold StackLocking.readMonitor? at found
    unfold StackLocking.inflate
    cases hk : m.mark o with
    | monitor i =>
      rw [hk] at found
      obtain rfl := Option.some.inj found
      rfl
    | word _ | record _ =>
      rw [hk] at found
      cases found

/-- An inflation changes at most the lock stacks of threads, in every mode. -/
lemma inflate_thread (m : Machine) (t : ThreadId) (o : ObjectId) (cause : InflationCause)
    (u : ThreadId) : (inflate m t o cause).machine.thread u =
      { m.thread u with lockStack := (inflate m t o cause).machine.lockStack u } := by
  unfold inflate
  split
  next => exact FastLocking.inflate_thread m t o cause u
  next =>
    unfold Machine.lockStack
    rw [StackLocking.inflate_thread]

end Locking

/-- With fast-locking, an inflation finds the monitor of the object or makes one. -/
lemma Locking.inflate_inherits {cause : InflationCause} (h : m.view.Coherent)
    (mode : m.options.mode = .lightweight) (inflates : inflate m t o cause = .ok id n) :
    m.form o = .inflated id ∧ n = m ∨ FastLocking.Inherits m.view t o id n.view := by
  obtain ⟨i, k, eq, inherits⟩ :=
    FastLocking.inflate_inherits (t := t) (o := o) (h.fast mode) cause
  unfold inflate at inflates
  rw [if_pos mode] at inflates
  cases eq.symm.trans inflates
  exact inherits

namespace Machine.IsFast

/-- The view shows the object as fast-locked. -/
lemma form_eq (fast : m.IsFast o) (h : m.view.Coherent) : m.view.form o = .fast :=
  (FastLocking.isFastLocked_iff (h.fast fast.1)).1 fast.2

/-- The monitor of a fast-locked object is new. -/
lemma inherits {cause : InflationCause} (fast : m.IsFast o) (h : m.view.Coherent)
    (inflates : Locking.inflate m t o cause = .ok id n) :
    FastLocking.Inherits m.view t o id n.view := by
  rcases Locking.inflate_inherits h fast.1 inflates with ⟨ho, -⟩ | inherits
  · cases ho.symm.trans (fast.form_eq h)
  · exact inherits

/-- The thread that inflates its own fast lock has its entries counted by the monitor. -/
lemma own {cause : InflationCause} (fast : m.IsFast o) (h : m.view.Coherent)
    (inflates : Locking.inflate m t o cause = .ok id n) (held : 0 < (m.lockStack t).count o) :
    (n.monitor id).owner = .thread t ∧
      (n.monitor id).recursions.toNat + 1 = (m.lockStack t).count o := by
  rw [LockStack.count_eq] at held ⊢
  have mem : o ∈ m.view.lockStack t := List.count_pos_iff.1 held
  obtain ⟨owner, recursions⟩ := (fast.inherits h inflates).own (fast.form_eq h) mem
  refine ⟨owner, ?_⟩
  rw [show (n.monitor id).recursions = _ from recursions]
  exact (h.fast fast.1).toNat_count mem

/-- A thread that inflates the fast lock of another one leaves its monitor to an anonymous owner. -/
lemma foreign {cause : InflationCause} (fast : m.IsFast o) (h : m.view.Coherent)
    (inflates : Locking.inflate m t o cause = .ok id n) (none : (m.lockStack t).count o = 0) :
    (n.monitor id).owner = .anonymous :=
  (fast.inherits h inflates).foreign (fast.form_eq h) (FastLocking.count_eq_zero.1 none)

end Machine.IsFast

/-- Only the entries of a fast lock leave a lock stack, and only that of the thread that inflates. -/
lemma Locking.inflate_lockStack {cause : InflationCause} (h : m.view.Coherent)
    (inflates : inflate m t o cause = .ok id n) (u : ThreadId) : (n.lockStack u).toList =
      if m.IsFast o ∧ u = t then (m.lockStack u).toList.filter (· ≠ o)
      else (m.lockStack u).toList := by
  by_cases mode : m.options.mode = .lightweight
  · have fast_iff : m.IsFast o ↔ m.view.form o = .fast :=
      (and_iff_right mode).trans (FastLocking.isFastLocked_iff (h.fast mode))
    simp only [fast_iff]
    rcases inflate_inherits h mode inflates with ⟨ho, rfl⟩ | inherits
    · refine (if_neg fun fast => ?_).symm
      cases ho.symm.trans fast.1
    · exact inherits.lockStack u
  · have same := StackLocking.inflate_thread m t o cause
    unfold inflate at inflates
    rw [if_neg mode] at inflates
    rw [inflates] at same
    rw [if_neg fun fast => mode fast.1.1]
    unfold Machine.lockStack
    rw [show n.thread = _ from same]

/-- An inflation does what it should wherever a machine refines recursive locks. -/
lemma LockView.Refines.inflates (h : m.view.Refines L p) (attached : t < m.nextThread)
    (registered : ∀ u, p u ≠ [] → u ∈ m.registry) (cause : InflationCause)
    (inflates : Locking.inflate m t o cause = .ok id n)
    (steps : Steps (Locking.Change m.options.mode t (.visit o)) m.view none n.view)
    (form : n.form o = .inflated id) : m.Inflates p t o id n := by
  have coherent := h.coherent
  have nested : Nested (p t) (.visit o) := trivial
  have unused : Unused (fun r => r) p (.visit o) := trivial
  -- The locks are the same recursive locks, which all that is seen of them depends on.
  have after : n.view.Refines L p := h.silent attached (fun _ => nested) unused steps
  have registry : n.registry = m.registry := (SystemView.registry_steps steps).1
  have thread := Locking.inflate_thread m t o cause
  have carries := Locking.inflate_carries (t := t) (o := o) h.wellHeaded cause
  rw [inflates] at thread carries
  refine ⟨after.coherent.monitorOf?_iff.2 form, ?_, ?_, ?_, ?_, thread,
    fun u q x k told => carries.identityHash h.wellHeaded told,
    Locking.inflate_lockStack coherent inflates, fun fast held => fast.own coherent inflates held,
    fun fast none => fast.foreign coherent inflates none⟩
  · funext u q
    rw [Bool.eq_iff_iff, after.holds_iff, h.holds_iff]
  · funext q
    rw [after.lockOwner? (registry ▸ registered), h.lockOwner? registered]
  · funext u q
    rw [after.levels_eq, h.levels_eq]
  · funext q
    rw [after.waiting_eq, h.waiting_eq]

/-- Only fast-locking makes monitors with anonymous owners. -/
lemma LockView.Refines.fast_of_anonymous (h : m.view.Refines L p) (ho : m.form o = .inflated id)
    (anonymous : (m.monitor id).owner = .anonymous) : m.options.mode = .lightweight := by
  by_contra mode
  exact ((h.stack mode).represents o).known ho anonymous

/-- A claim is the same one for every machine with the same lock stack and monitor. -/
lemma Machine.UsesAnonymous.congr {m' n' : Machine} {light : Option (LockStack ObjectId)}
    {use : Monitor → Option Monitor} (h : m.UsesAnonymous t o id light use n)
    (lockStack : m'.lockStack t = m.lockStack t) (monitor : m'.monitor id = m.monitor id)
    (lockStack' : n'.lockStack t = n.lockStack t) (monitor' : n'.monitor id = n.monitor id) :
    m'.UsesAnonymous t o id light use n' := by
  cases light with
  | some s => exact ⟨lockStack'.trans h.1, monitor'.trans (h.2.trans monitor.symm)⟩
  | none =>
    obtain ⟨entries, used⟩ := h
    refine ⟨?_, ?_⟩
    · rw [lockStack', lockStack, entries]
    · rw [lockStack, monitor, monitor']
      exact used

/-- An anonymous owner claims its monitor when it enters the object again. -/
lemma Locking.enter_anonymous (h : m.view.Refines L p) (attached : t < m.nextThread)
    (ho : m.form o = .inflated id) (anonymous : (m.monitor id).owner = .anonymous)
    (mem : o ∈ m.view.lockStack t) : ∃ n, enter m t o r = .ok .entered n ∧
      m.UsesAnonymous t o id ((m.lockStack t).tryRecursiveEnter o) (·.tryEnter t) n := by
  have mode := h.fast_of_anonymous ho anonymous
  unfold enter
  rw [if_pos mode]
  exact FastLocking.enter_anonymous (h.fast mode).coherent attached ho anonymous mem

/-- An anonymous owner claims its monitor when it exits the object. -/
lemma Locking.exit_anonymous (h : m.view.Refines L p) (ho : m.form o = .inflated id)
    (anonymous : (m.monitor id).owner = .anonymous) (mem : o ∈ m.view.lockStack t) :
    ∃ n, exit m t o r = .ok () n ∧
      m.UsesAnonymous t o id ((m.lockStack t).tryRecursiveExit o) (·.exit? t) n := by
  have mode := h.fast_of_anonymous ho anonymous
  unfold exit
  rw [if_pos mode]
  exact FastLocking.exit_anonymous (h.fast mode).coherent ho anonymous mem

/-- Counting one more held lock leaves the lock stacks alone. -/
lemma Machine.lockStack_gain (m : Machine) (t : ThreadId) :
    (m.modifyThread t .gain).lockStack = m.lockStack := by
  funext u
  unfold Machine.lockStack
  rw [Machine.thread_modifyThread]
  split
  next eq => rw [eq]; rfl
  next => rfl

/-- The bookkeeping around an enter has no part in the claim. -/
lemma Machine.enter_anonymous (h : m.view.Refines L p) (attached : t < m.nextThread)
    (unguarded : (m.thread t).guards = 0) (ho : m.form o = .inflated id)
    (anonymous : (m.monitor id).owner = .anonymous) (mem : o ∈ m.view.lockStack t) :
    ∃ n, m.enter t o r = .ok .entered n ∧
      m.UsesAnonymous t o id ((m.lockStack t).tryRecursiveEnter o) (·.tryEnter t) n := by
  let k := m.warnValueBased t o
  have view : k.view = m.view := view_warnValueBased ..
  have warned : k.thread = m.thread ∧ k.monitor = m.monitor := by
    unfold k warnValueBased
    split <;> exact ⟨rfl, rfl⟩
  have lockStack : k.lockStack = m.lockStack :=
    funext fun u => congrArg Thread.lockStack (congrFun warned.1 u)
  obtain ⟨n, entered, uses⟩ := Locking.enter_anonymous (m := k) (r := r) (view ▸ h)
    (show t < k.view.nextThread from view ▸ attached) (show k.view.form o = _ from view ▸ ho)
    (warned.2 ▸ anonymous) (view ▸ mem)
  refine ⟨n.modifyThread t .gain, ?_, ?_⟩
  · unfold Machine.enter checkSafepoint
    rw [if_pos unguarded]
    simp only [Outcome.bind, show Locking.enter (m.warnValueBased t o) t o r = _ from entered,
      if_true]
  · rw [← lockStack]
    exact uses.congr (congrFun lockStack t).symm (congrFun warned.2 id).symm
      (congrFun (lockStack_gain n t) t) rfl

end

namespace World

variable {address : RecordId → UInt64} {s : World} {h : List Event} {L : Locks} {w : WorkerId}
  {t : ThreadId} {o : ObjectId} {r : RecordId} {id : MonitorId}

/-- A worker whose thread owns the monitor anonymously claims it with an enter. -/
lemma enters_anonymous (k : s.view.Tracks address h L) (ht : (s.worker w).thread = some t)
    (free : (s.worker w).wait = none) (raw : Bool)
    (unguarded : raw = true ∨ (s.machine.thread t).guards = 0)
    (ho : s.machine.form o = .inflated id)
    (anonymous : (s.machine.monitor id).owner = .anonymous)
    (mem : o ∈ s.machine.view.lockStack t) :
    ∃ n, s.move (.act w (.enter o r raw)) = ({ s with machine := n }, .answered .done) ∧
      s.machine.UsesAnonymous t o id ((s.machine.lockStack t).tryRecursiveEnter o)
        (·.tryEnter t) n := by
  have attached : t < s.machine.nextThread := k.sound.lt ht
  rw [move_act free, begin_attached ht]
  have concludes {goal : Goal} {operation : Machine → Outcome Entry} {n : Machine}
      (entered : operation s.machine = .ok .entered n) :
      s.concludeEnter w goal operation = ({ s with machine := n }, .answered .done) := by
    unfold concludeEnter World.enter
    rw [operate_ok entered]
  cases raw with
  | true =>
    obtain ⟨n, entered, uses⟩ :=
      Locking.enter_anonymous (r := r) k.refines attached ho anonymous mem
    exact ⟨n, concludes entered, uses⟩
  | false =>
    have unguarded := unguarded.resolve_left nofun
    obtain ⟨n, entered, uses⟩ :=
      Machine.enter_anonymous (r := r) k.refines attached unguarded ho anonymous mem
    exact ⟨n, concludes entered, uses⟩

/-- A worker whose thread owns the monitor anonymously claims it with an exit. -/
lemma exits_anonymous (k : s.view.Tracks address h L) (ht : (s.worker w).thread = some t)
    (free : (s.worker w).wait = none) (raw : Bool) (ho : s.machine.form o = .inflated id)
    (anonymous : (s.machine.monitor id).owner = .anonymous)
    (mem : o ∈ s.machine.view.lockStack t) :
    ∃ n, s.move (.act w (.exit o r raw)) = ({ s with machine := n }, .answered .done) ∧
      s.machine.UsesAnonymous t o id ((s.machine.lockStack t).tryRecursiveExit o)
        (·.exit? t) n := by
  let m := s.machine.counted raw t
  have view : m.view = s.machine.view := Machine.view_counted ..
  have lockStack : m.lockStack = s.machine.lockStack := Machine.lockStack_counted ..
  have monitor : m.monitor = s.machine.monitor := (Machine.aside_counted ..).monitor
  have refines : m.view.Refines L (pending h) := view ▸ k.refines
  obtain ⟨n, exits, uses⟩ := Locking.exit_anonymous (m := m) (r := r) refines
    (show m.view.form o = _ from view ▸ ho) (monitor ▸ anonymous) (view ▸ mem)
  rw [move_act free, begin_exit ht]
  refine ⟨n, conclude_ok exits _, ?_⟩
  rw [← lockStack]
  exact uses.congr (congrFun lockStack t).symm (congrFun monitor id).symm rfl rfl

/-- An object with a monitor is as it should be wherever the history leads to the locks. -/
lemma inflated_of_tracks (k : s.view.Tracks address h L) (ho : s.machine.form o = .inflated id) :
    s.Inflated h o id := by
  have found : s.machine.monitorOf? o = some id :=
    (LockView.Refines.coherent (m := s.machine) k.refines).monitorOf?_iff.2 ho
  have listed {t : ThreadId} (held : 0 < (s.machine.lockStack t).count o) :
      o ∈ s.machine.view.lockStack t := by
    rw [LockStack.count_eq, List.count_pos_iff] at held
    exact held
  refine ⟨fun w t cause ht free => ?_, fun w t r raw ht free unguarded anonymous held => ?_,
    fun w t r raw ht free anonymous held => ?_, ⟨L, k.replays, k.shows, fun t q => ?_⟩,
    fun w t q r rest raw ht free latest => ?_⟩
  · rw [move_act free, begin_attached ht]
    exact conclude_ok (Locking.inflate_of_monitorOf? found cause) _
  · exact enters_anonymous k ht free raw unguarded ho anonymous (listed held)
  · exact exits_anonymous k ht free raw ho anonymous (listed held)
  · exact LockView.Refines.levels_eq (m := s.machine) k.refines
  · exact exit_givesBack k ht free latest raw

end World

namespace World.LeadsTo

variable {address : RecordId → UInt64} {options : Options} {s : World} {h : List Event}
  {w : WorkerId} {t : ThreadId}

/-- Wherever careful use has led, a thread that inflates an object leaves its lock what it was, and
so it stays wherever careful use leads from there. -/
theorem inflate_keeps_lock (used : (World.new options).LeadsTo address [] s h)
    (attached : (s.worker w).thread = some t) (awake : (s.worker w).wait = none) (o : ObjectId)
    (cause : InflationCause) :
    ∃ id n, s.move (.act w (.inflate o cause)) =
        ({ s with machine := n }, .answered (.monitor id)) ∧
      s.machine.Inflates (pending h) t o id n ∧
      ∀ s' h', { s with machine := n }.LeadsTo address h s' h' → s'.Inflated h' o id := by
  obtain ⟨L, k⟩ := used.tracks (Run.tracks_new options)
  obtain ⟨id, n, inflates, steps, form⟩ :=
    Locking.inflate_steps (t := t) (o := o) k.sound.coherent cause
  have free := waitsFor_of_wait awake
  obtain ⟨L', k'⟩ : ∃ L', { s with machine := n }.view.Tracks address h L' :=
    k.step (.lock attached free steps nofun) ⟨trivial, trivial, trivial⟩
      (fun _ l op (nested : Nested l op) => nested) fun _ _ => Nested.inReverse
  refine ⟨id, n, ?_, ?_, fun s' h' later => ?_⟩
  · rw [move_act awake, begin_attached attached]
    exact conclude_ok inflates _
  · exact LockView.Refines.inflates k.refines (k.sound.lt attached) k.registered cause inflates
      steps form
  · obtain ⟨L'', k''⟩ := later.tracks k'
    exact inflated_of_tracks k'' (later.inflated k' form)

/-- Two threads and an object. -/
def shared : World × List Event :=
  (World.new (.ofMode .lightweight)).follow []
    [.addWorker, .addWorker, .act 0 .attach, .act 1 .attach,
      .act 0 (.allocate "shared" ⟨"Counter", 1, false⟩)]

/-- One of them begins a synchronized region, and enters the object once more within it. -/
def withinRegion : World × List Event :=
  (shared.1.beginSynchronized 0 2 0).1.follow
    ((shared.1.beginEvent? 0 2 0).toList ++ shared.2) [.addRecord 0, .act 0 (.enter 0 1 false)]

/-- The other thread inflates the object, and the two levels of the region are still there. -/
theorem inflate_keeps_lock_withinRegion : (withinRegion.1.machine.lockStack 2).count 0 = 2 ∧
    ∃ id n, withinRegion.1.move (.act 1 (.inflate 0 .hashCode)) =
        ({ withinRegion.1 with machine := n }, .answered (.monitor id)) ∧
      n.levels (pending withinRegion.2) 2 0 = 2 ∧ (n.monitor id).owner = .anonymous ∧
      ∀ s' h', { withinRegion.1 with machine := n }.LeadsTo .ofNat withinRegion.2 s' h' →
        s'.Inflated h' 0 id := by
  have run : Run (careful .ofNat Nested) _ shared.1 shared.2 := .follow .new _ (by decide +kernel)
  have begun := run.leadsTo.beginRegion (w := 0) (t := 2) (o := 0) (by decide +kernel)
    (by decide +kernel) (by decide +kernel)
  have used : (World.new _).LeadsTo .ofNat [] withinRegion.1 withinRegion.2 :=
    begun.follow _ (by decide +kernel)
  obtain ⟨id, n, eq, inflates, later⟩ :=
    inflate_keeps_lock used (w := 1) (t := 3) (by decide +kernel) (by decide +kernel) 0 .hashCode
  refine ⟨by decide +kernel, id, n, eq, ?_, inflates.foreign ?_ ?_, later⟩
  · rw [inflates.levels]
    decide +kernel
  · decide +kernel
  · decide +kernel

end World.LeadsTo

end ObjectLocks
