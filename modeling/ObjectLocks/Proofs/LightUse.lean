import ObjectLocks.Proofs.NeededMonitors
import ObjectLocks.Proofs.Regions

/-!
# Light use

Careful use makes no monitor as long as it gives no reason to: no thread enters an object that
another thread holds, there is always room for one more lock, with fast-locking only the top entry
is entered again, and with stack-locking a locked object is only hashed if it has a hash. Such a use
is called light. It never leaves a monitor behind.
-/

namespace ObjectLocks

open SystemView (Step)

namespace Machine

/-- An enter that gives no reason for a monitor. -/
structure LocksLightly (m : Machine) (t : ThreadId) (o : ObjectId) : Prop where
  /-- No other thread holds the object. -/
  free : m.lockOwner? o = none ∨ m.lockOwner? o = some t
  room : m.options.mode = .lightweight → (m.lockStack t).isFull = false
  records : m.options.mode = .legacy → (m.lockRecords t).isFull = false
  top : m.options.mode = .lightweight → m.lockOwner? o = some t → (m.lockStack t).top? = some o

instance (m : Machine) (t : ThreadId) (o : ObjectId) : Decidable (m.LocksLightly t o) :=
  decidable_of_iff (_ ∧ _ ∧ _ ∧ _) ⟨fun ⟨free, room, records, top⟩ => ⟨free, room, records, top⟩,
    fun ⟨free, room, records, top⟩ => ⟨free, room, records, top⟩⟩

/-- The word that a stack-locked object had as its header. -/
def displaced? (m : Machine) (o : ObjectId) : Option LockWord :=
  match m.mark o with
  | .record r => some (m.record r).displaced
  | .word _ | .monitor _ => none

/-- An identity hash that gives no reason for a monitor. -/
structure HashesLightly (m : Machine) (t : ThreadId) (o : ObjectId) : Prop where
  free : m.lockOwner? o = none ∨ m.lockOwner? o = some t
  hashed : m.options.mode = .legacy → ∀ k ∈ m.displaced? o, k.hasHash = true

instance (m : Machine) (t : ThreadId) (o : ObjectId) : Decidable (m.HashesLightly t o) :=
  decidable_of_iff (_ ∧ _) ⟨fun ⟨free, hashed⟩ => ⟨free, hashed⟩,
    fun ⟨free, hashed⟩ => ⟨free, hashed⟩⟩

/-- Whether an action of a thread gives no reason for a monitor. -/
def Lightly (m : Machine) (t : ThreadId) : Action → Prop
  | .enter o _ _ => m.LocksLightly t o
  | .identityHash o => m.HashesLightly t o
  | .inflate _ _ => False
  | _ => True

instance (m : Machine) (t : ThreadId) (a : Action) : Decidable (m.Lightly t a) :=
  match a with
  | .enter o _ _ => inferInstanceAs (Decidable (m.LocksLightly t o))
  | .identityHash o => inferInstanceAs (Decidable (m.HashesLightly t o))
  | .inflate _ _ => isFalse id
  | .attach | .detach | .allocate _ _ | .quickEnter _ _ _ | .exit _ _ _ | .poll | .checkSafepoint
  | .beginGuard | .endGuard | .beginNative | .endNative | .beginBlocked | .endBlocked
  | .beginSynchronized _ | .endSynchronized | .failSynchronized | .beginSafepoint | .endSafepoint
  | .enterMonitor _ | .tryEnterMonitor _ | .exitMonitor _ | .monitorHash _ | .claimMonitor _ _
  | .store _ _ _ | .load _ _ | .add _ _ _ => isTrue trivial

end Machine

/-- Careful use that gives no reason for a monitor. -/
def light (address : RecordId → UInt64) : Rule := fun s h x =>
  careful address Nested s h x ∧
    ∀ w a, x = .act w a → ∀ t ∈ (s.worker w).thread, s.machine.Lightly t a

instance (address : RecordId → UInt64) (s : World) (h : List Event) (x : Move) :
    Decidable (light address s h x) :=
  inferInstanceAs (Decidable (_ ∧ _))

namespace World

/-- Light use leads from a world with its history to another one. -/
inductive LeadsLightly (address : RecordId → UInt64) (s : World) (h : List Event) :
    World → List Event → Prop where
  | refl : LeadsLightly address s h s h
  | move {s' h' x} :
    LeadsLightly address s h s' h' →
    light address s' h' x →
    LeadsLightly address s h (s'.move x).1 ((s'.label x).event?.toList ++ h')
  | beginRegion {s' h' w t o} :
    LeadsLightly address s h s' h' →
    (s'.worker w).thread = some t →
    (s'.worker w).wait = none →
    Unused address (pending h') (.enter o s'.machine.records.size) →
    s'.machine.LocksLightly t o →
    LeadsLightly address s h (s'.beginSynchronized w t o).1 ((s'.beginEvent? w t o).toList ++ h')
  | endRegion {s' h' w t o r rest regions result} :
    LeadsLightly address s h s' h' →
    (s'.worker w).thread = some t →
    (s'.worker w).wait = none →
    (s'.worker w).regions = .synchronized o r :: regions →
    pending h' t = (o, r) :: rest →
    LeadsLightly address s h (s'.endSynchronized w t result).1 (.exited t o r :: h')

variable {address : RecordId → UInt64} {options : Options} {s s' : World} {h h' : List Event}
  {L : Locks} {w : WorkerId} {t : ThreadId} {o : ObjectId} {r : RecordId}

/-- Light moves lead on from where light use has led. -/
lemma LeadsLightly.follow (l : LeadsLightly address s h s' h') (moves : List Move)
    (allowed : (light address).Allows s' h' moves) :
    LeadsLightly address s h (s'.follow h' moves).1 (s'.follow h' moves).2 := by
  induction moves generalizing s' h' with
  | nil => exact l
  | cons x moves ih => exact ih (l.move allowed.1) allowed.2

/-- Light use is careful use. -/
lemma LeadsLightly.leadsTo (l : LeadsLightly address s h s' h') : s.LeadsTo address h s' h' := by
  induction l with
  | refl => exact .refl
  | move _ allowed ih => exact ih.move allowed.1
  | beginRegion _ ht free new _ ih => exact ih.beginRegion ht free new
  | endRegion _ ht free inside latest ih => exact ih.endRegion ht free inside latest

/-- What the end of a region answers has no part in what it does. -/
lemma endSynchronized_fst (result : Progress) :
    (s.endSynchronized w t result).1 = (s.endSynchronized w t (.answered .done)).1 := by
  unfold endSynchronized
  split
  next o r _ _ =>
    cases eq : (s.closeRegion w).machine.exit t o r with
    | ok a n => rw [operate_ok eq, operate_ok eq]
    | fault f n => rw [operate_fault eq, operate_fault eq]
  next => rfl

/-- No operation of careful use is one on a monitor itself. -/
lemma madeMonitors_of_careful {order : ExitOrder} {x : Move}
    (allowed : careful address order s h x) (h' : List Event) : madeMonitors s h' x := by
  intro w a eq id uses
  have direct := (allowed.1 w a eq).1
  cases a with
  | enterMonitor | tryEnterMonitor | exitMonitor | monitorHash | claimMonitor => cases direct
  | _ => cases uses

/-- Wherever careful use leads from a new system, a run leads. -/
lemma LeadsTo.run (l : (World.new options).LeadsTo address [] s h) :
    ∃ h', Run madeMonitors options s h' := by
  induction l with
  | refl => exact ⟨[], .new⟩
  | move _ allowed ih =>
    obtain ⟨h, run⟩ := ih
    exact ⟨_, run.move (madeMonitors_of_careful allowed h)⟩
  | @beginRegion s' h' w t o _ ht free new ih =>
    obtain ⟨h, run⟩ := ih
    have begun := run.move (x := .act w (.beginSynchronized o)) fun w' a eq id uses => by
      cases eq
      cases uses
    rw [move_act free, begin_attached ht] at begun
    exact ⟨_, begun⟩
  | @endRegion s' h' w t o r rest regions result _ ht free inside latest ih =>
    obtain ⟨h, run⟩ := ih
    have ended := run.move (x := .act w .endSynchronized) fun w' a eq id uses => by
      cases eq
      cases uses
    rw [move_act free, begin_attached ht] at ended
    rw [endSynchronized_fst]
    exact ⟨_, ended⟩

/-- With stack-locking, the thread that holds an object has the record in its header. -/
lemma owns_record (k : s.view.Tracks address h L) (mode : s.machine.options.mode = .legacy)
    (free : s.machine.lockOwner? o = none ∨ s.machine.lockOwner? o = some t)
    (hk : s.machine.mark o = .record r) : (s.machine.lockRecords t).contains r = true := by
  have refines := k.refines.stack (mode ▸ nofun : s.machine.options.mode ≠ .lightweight)
  have owner := k.shows.owner o
  obtain ⟨u, _, -, -, -, -, eq⟩ :=
    (refines.represents o).stacked (StackLocking.form_record refines.coherent hk)
  rw [eq] at owner
  have own := free.resolve_left (owner ▸ nofun)
  have holds : StackLocking.holdsLock s.machine t o = true := by
    rw [StackLocking.Refines.holds_iff refines, ← own, k.shows.owner]
  unfold StackLocking.holdsLock at holds
  rwa [hk] at holds

/-- An enter that gives no reason for a monitor needs none. -/
lemma not_needsMonitor (k : s.view.Tracks address h L) (mode : s.machine.options.mode ≠ .monitor)
    (locks : s.machine.LocksLightly t o) : ¬ s.machine.NeedsMonitor t o := by
  unfold Machine.NeedsMonitor
  cases eq : s.machine.options.mode with
  | lightweight =>
    rintro (full | ⟨fast, other⟩)
    · cases full.symm.trans (locks.room eq)
    · have refines := k.refines.fast eq
      have owner := k.shows.owner o
      obtain ⟨u, -, held⟩ := (refines.represents o).fast
        ((FastLocking.isFastLocked_iff refines.coherent).1 fast)
      rw [held] at owner
      exact other (locks.top eq (locks.free.resolve_left (owner ▸ nofun)))
  | legacy =>
    rintro (full | ⟨r, hk, other⟩)
    · cases full.symm.trans (locks.records eq)
    · cases other.symm.trans (owns_record k eq locks.free hk)
  | monitor => exact absurd eq mode

/-- A hash that gives no reason for a monitor needs none. -/
lemma not_hashNeedsMonitor (k : s.view.Tracks address h L) (hashes : s.machine.HashesLightly t o) :
    ¬ s.machine.HashNeedsMonitor t o := by
  rintro ⟨mode, r, hk, unknown⟩
  refine unknown ⟨owns_record k mode hashes.free hk, hashes.hashed mode _ ?_⟩
  unfold Machine.displaced?
  rw [hk]
  rfl

end World

namespace Machine

variable {m n : Machine} {t : ThreadId} {o : ObjectId} {r : RecordId}
  (valid : m.options.validate = .ok ()) (linked : m.WellLinked) (tagged : m.WellTagged)
  (free : m.monitorOf? o = none) (needless : ¬ m.NeedsMonitor t o)
include valid linked tagged free needless

/-- In a no-safepoint region an enter does nothing, and outside of one it does without a monitor. -/
lemma enter_spares : (m.enter t o r).Retags none m := by
  by_cases unguarded : (m.thread t).guards = 0
  · exact (enter_tagsIf valid linked tagged unguarded (linked.hasMonitor_eq_false free)).spares
      needless
  · unfold enter checkSafepoint
    rw [if_neg unguarded]
    exact Retags.refl tagged

/-- So does one after a quick enter in vain. -/
lemma enter_spares_of_quickEnter (vain : m.quickEnter t (some o) r = .ok false n) :
    (n.enter t o r).Retags none m := by
  have quick := tagged.quickEnters_retags (x := none) (t := t) (r := r) (some o)
  have thread : n.thread = m.thread := by
    rw [quickEnter_vain valid vain]
    split
    · exact thread_forget
    · rfl
  rw [vain] at quick
  by_cases unguarded : (m.thread t).guards = 0
  · have managed : (m.thread t).state = .inManaged := by
      by_contra other
      unfold quickEnter at vain
      rw [if_pos other] at vain
      cases vain
    have anticipates := quickEnter_anticipates (o := o) (r := r) valid managed unguarded
    rw [vain] at anticipates
    have same : n.enter t o r = m.enter t o r := by
      obtain ⟨rfl, same⟩ := anticipates
      exact same
    rw [same]
    exact enter_spares valid linked tagged free needless
  · unfold enter checkSafepoint
    rw [thread, if_neg unguarded]
    exact quick

end Machine

namespace World

variable {address : RecordId → UInt64} {options : Options} {s s' : World} {h h' : List Event}
  {L : Locks} {w : WorkerId} {t : ThreadId} {o : ObjectId}

section

variable (valid : s.machine.options.validate = .ok ()) (linked : s.machine.WellLinked)
  (tagged : s.machine.WellTagged)
include linked

/-- An action of a worker that changes no monitor bits makes no monitor. -/
lemma act_makesNone {a : Action} (ht : (s.worker w).thread = some t)
    (wait : (s.worker w).wait = none) (plain : a.monitor? = none)
    (retags : s.machine.Retags none (s.act w t a).1.machine) :
    s.machine.MakesNone (s.act w t a).1.machine := by
  have kept := move_retains (w := w) linked plain
  rw [move_act wait, begin_attached ht] at kept
  exact linked.makesNone kept retags

include tagged

/-- The end of a synchronized region makes no monitor. -/
lemma endSynchronized_makesNone (ht : (s.worker w).thread = some t)
    (wait : (s.worker w).wait = none) (result : Progress) :
    s.machine.MakesNone (s.endSynchronized w t result).1.machine := by
  rw [endSynchronized_fst]
  refine act_makesNone (a := .endSynchronized) linked ht wait rfl ?_
  show s.machine.Retags none (s.endSynchronized w t (.answered .done)).1.machine
  unfold endSynchronized
  split
  next o r _ _ =>
    have exits := tagged.exits_retags (x := none) (t := t) (o := o) (r := r)
    cases eq : s.machine.exit t o r with
    | ok a n =>
      rw [operate_ok (s := s.closeRegion w) eq]
      rwa [eq] at exits
    | fault f n =>
      rw [operate_fault (s := s.closeRegion w) eq]
      rwa [eq] at exits
  next => exact .refl tagged

include valid

/-- The beginning of a synchronized region makes no monitor if its enter needs none. -/
lemma beginSynchronized_makesNone (ht : (s.worker w).thread = some t)
    (wait : (s.worker w).wait = none) (free : s.machine.monitorOf? o = none)
    (needless : ¬ s.machine.NeedsMonitor t o) :
    s.machine.MakesNone (s.beginSynchronized w t o).1.machine := by
  refine act_makesNone (a := .beginSynchronized o) linked ht wait rfl ?_
  show s.machine.Retags none (s.beginSynchronized w t o).1.machine
  let n := (s.machine.addRecord w).2
  let r := s.machine.records.size
  have added : s.machine.Retags none n := tagged.retags_addRecord w
  have quick := added.tagged.quickEnters_retags (x := none) (t := t) (r := r) (some o)
  rw [beginSynchronized_eq]
  match eq : n.quickEnter t (some o) r with
  | .fault f k =>
    rw [eq] at quick
    rw [operate_fault (s := { s with machine := n }) eq]
    exact added.trans quick
  | .ok true k =>
    rw [eq] at quick
    rw [operate_ok (s := { s with machine := n }) eq]
    exact added.trans quick
  | .ok false k =>
    have enters := Machine.enter_spares_of_quickEnter (m := n) valid
      (linked.retains_addRecord w).linked added.tagged free needless eq
    rw [operate_ok (s := { s with machine := n }) eq]
    show s.machine.Retags none (World.enter _ w (·.enter t o r) _ _).1.machine
    rw [machine_enter fun _ => rfl]
    exact added.trans enters

end

/-- Only operations on locks make monitors. -/
lemma monitorCount_step {v v' : SystemView} {l : Label} (c : Step v l v')
    (plain : ∀ w t op e, l ≠ .lock w t op e) : v'.locks.monitorCount = v.locks.monitorCount := by
  cases c with
  | lock | wait => exact absurd rfl (plain _ _ _ _)
  | _ => rfl

/-- A move that is no operation on a lock is not labelled as one. -/
lemma label_plain {x : Move} (plain : ∀ w a, x = .act w a → a.operation? = none) (w : WorkerId)
    (t : ThreadId) (op : Operation) (e : Option Event) : s.label x ≠ .lock w t op e := by
  unfold label
  split
  next w' a =>
    split
    next =>
      unfold Action.label
      rw [plain w' a rfl]
      dsimp only
      split <;> exact nofun
    next => exact nofun
  next => exact nofun

/-- What light use needs, besides, to do without monitors. -/
structure Light (address : RecordId → UInt64) (s : World) (h : List Event) (L : Locks) : Prop where
  valid : s.machine.options.validate = .ok ()
  mode : s.machine.options.mode ≠ .monitor
  tracks : s.view.Tracks address h L
  linked : s.machine.WellLinked
  tagged : s.machine.WellTagged
  spared : s.machine.monitorCount = 0

namespace Light

variable (k : s.Light address h L)
include k

/-- Without a monitor in the system no object has one. -/
lemma monitorOf? (o : ObjectId) : s.machine.monitorOf? o = none := by
  rw [Option.eq_none_iff_forall_ne_some]
  intro id leads
  have lt := ((k.linked.linked o id).1 leads).1
  rw [← k.linked.counted, k.spared] at lt
  exact Nat.not_lt_zero _ lt

/-- A synchronized region may begin without a monitor. -/
lemma beginRegion (ht : (s.worker w).thread = some t) (free : (s.worker w).wait = none)
    (locks : s.machine.LocksLightly t o) :
    (s.beginSynchronized w t o).1.machine.monitorCount = 0 :=
  (beginSynchronized_makesNone k.valid k.linked k.tagged ht free (k.monitorOf? o)
    (not_needsMonitor k.tracks k.mode locks)).count.trans k.spared

/-- A synchronized region may end without a monitor. -/
lemma endRegion (ht : (s.worker w).thread = some t) (free : (s.worker w).wait = none)
    (result : Progress) : (s.endSynchronized w t result).1.machine.monitorCount = 0 :=
  (endSynchronized_makesNone k.linked k.tagged ht free result).count.trans k.spared

/-- An enter may do without a monitor. -/
lemma enter (ht : (s.worker w).thread = some t) (free : (s.worker w).wait = none)
    (locks : s.machine.LocksLightly t o) (raw : Bool) :
    (s.move (.act w (.enter o r raw))).1.machine.monitorCount = 0 := by
  have needless := not_needsMonitor k.tracks k.mode locks
  have bits := k.linked.hasMonitor_eq_false (k.monitorOf? o)
  have begins := (move_act free (.enter o r raw)).trans (begin_attached ht _)
  rw [begins]
  refine Machine.MakesNone.count (act_makesNone k.linked ht free rfl ?_) |>.trans k.spared
  cases raw with
  | true =>
    show s.machine.Retags none (s.concludeEnter w .resume _).1.machine
    unfold concludeEnter
    rw [machine_enter fun _ => rfl]
    exact (Locking.enter_tagsIf k.valid k.linked k.tagged bits).spares needless
  | false =>
    show s.machine.Retags none (s.concludeEnter w .countLock _).1.machine
    unfold concludeEnter
    rw [machine_enter fun _ => rfl]
    exact Machine.enter_spares k.valid k.linked k.tagged (k.monitorOf? o) needless

/-- Every light move does without a monitor. -/
lemma move {x : Move} (allowed : light address s h x) :
    (s.move x).1.machine.monitorCount = 0 := by
  by_cases lock : ∀ w a, x = .act w a → a.operation? = none
  · have kept : s.machine.Retains (s.move x).1.machine :=
      retains_follow k.linked [x] ⟨madeMonitors_of_careful allowed.1 h, trivial⟩
    have same : (s.move x).1.machine.monitors.size = s.machine.monitors.size :=
      monitorCount_step (move_step k.tracks.sound allowed.1.1) (label_plain lock)
    rw [kept.linked.counted, same, ← k.linked.counted, k.spared]
  · simp only [not_forall] at lock
    obtain ⟨w, a, rfl, lock⟩ := lock
    cases free : (s.worker w).wait with
    | some y =>
      rw [move_of_waits free]
      exact k.spared
    | none =>
      cases ht : (s.worker w).thread with
      | none =>
        rw [move_act free]
        rcases begin_detached ht a with eq | ⟨rfl, -⟩ | ⟨rfl, -⟩ | ⟨rfl, -⟩
        · rw [eq]
          exact k.spared
        all_goals exact absurd rfl lock
      | some t =>
        have lightly := allowed.2 w a rfl t ht
        cases a with
        | enter o r raw => exact k.enter ht free lightly raw
        | quickEnter x r raw =>
          exact (quickEnter_makesNone k.linked k.tagged x raw).count.trans k.spared
        | exit o r raw => exact (exit_makesNone k.linked k.tagged o raw).count.trans k.spared
        | identityHash o =>
          have spares := (identityHash_makesIf k.linked k.tagged ht free).none.2
            (not_hashNeedsMonitor k.tracks lightly)
          exact spares.count.trans k.spared
        | inflate o cause => exact lightly.elim
        | _ => exact absurd rfl lock

end Light

namespace LeadsLightly

variable (valid : options.validate = .ok ()) (mode : options.mode ≠ .monitor)
include valid mode

/-- Light use leaves a system that can do without monitors. -/
lemma light (l : (World.new options).LeadsLightly address [] s h)
    (spared : s.machine.monitorCount = 0) : ∃ L, s.Light address h L := by
  obtain ⟨L, tracks⟩ := l.leadsTo.tracks (Run.tracks_new options)
  obtain ⟨_, run⟩ := l.leadsTo.run
  exact ⟨L, run.options_eq ▸ valid, run.options_eq ▸ mode, tracks, run.wellLinked valid,
    run.wellTagged, spared⟩

/-- Light use never makes a monitor. -/
lemma monitorCount (l : (World.new options).LeadsLightly address [] s h) :
    s.machine.monitorCount = 0 := by
  induction l with
  | refl =>
    show (Machine.new options).monitorCount = 0
    unfold Machine.monitorCount
    split <;> rfl
  | move l allowed ih =>
    obtain ⟨L, k⟩ := l.light valid mode ih
    exact k.move allowed
  | beginRegion l ht free _ locks ih =>
    obtain ⟨L, k⟩ := l.light valid mode ih
    exact k.beginRegion ht free locks
  | endRegion l ht free _ _ ih =>
    obtain ⟨L, k⟩ := l.light valid mode ih
    exact k.endRegion ht free _

end LeadsLightly

end World

/-- In every state of every run, a monitor is made exactly if it is needed. So light use ends
without any, unless all locks are monitors. -/
theorem Options.inflation_when_needed {options : Options} (valid : options.validate = .ok ()) :
    (∀ s h, Run madeMonitors options s h → s.InflatesWhenNeeded) ∧
      (options.mode ≠ .monitor → ∀ address s h,
        (World.new options).LeadsLightly address [] s h → s.machine.monitorCount = 0) := by
  refine ⟨fun s h run => ?_, fun mode address s h l => l.monitorCount valid mode⟩
  have valid' : s.machine.options.validate = .ok () := run.options_eq ▸ valid
  exact World.inflatesWhenNeeded valid' (run.wellLinked valid) run.wellTagged

/-- Two threads lock an object in turns, which has a hash. The second one still holds it. -/
def inTurns : World × List Event :=
  (World.new (.ofMode .legacy)).follow []
    [.addWorker, .addWorker, .act 0 .attach, .act 1 .attach, .addRecord 0, .addRecord 0,
      .addRecord 1, .act 0 (.allocate "shared" ⟨"Counter", 1, false⟩), .act 0 (.identityHash 0),
      .act 0 (.enter 0 0 false), .act 0 (.enter 0 1 false), .act 0 (.identityHash 0),
      .act 0 (.exit 0 1 false), .act 0 (.exit 0 0 false), .act 1 (.enter 0 2 false)]

/-- Nobody has needed a monitor, but the first thread would need one now. -/
theorem Options.inflation_when_needed_inTurns : inTurns.1.machine.monitorCount = 0 ∧
    inTurns.1.machine.NeedsMonitor 2 0 ∧
    inTurns.1.machine.Makes 0 (inTurns.1.move (.act 0 (.enter 0 0 false))).1.machine := by
  obtain ⟨needed, spared⟩ := Options.inflation_when_needed
    (by decide : (Options.ofMode .legacy).validate = .ok ())
  have run : Run madeMonitors (.ofMode .legacy) inTurns.1 inTurns.2 :=
    .follow .new _ (by decide +kernel)
  have used : (World.new (.ofMode .legacy)).LeadsLightly .ofNat [] inTurns.1 inTurns.2 :=
    World.LeadsLightly.refl.follow _ (by decide +kernel)
  have need : inTurns.1.machine.NeedsMonitor 2 0 :=
    .inr ⟨2, by decide +kernel, by decide +kernel⟩
  have makes := (needed _ _ run).enter 0 2 0 0 false (by decide +kernel) (by decide +kernel)
    (by decide +kernel) (by decide +kernel)
  exact ⟨spared (by decide) _ _ _ used, need, makes.made.2 need⟩

end ObjectLocks
