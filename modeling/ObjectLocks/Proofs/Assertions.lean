import ObjectLocks.Proofs.Acquisition
import ObjectLocks.Proofs.Faults
import ObjectLocks.Proofs.Headers
import ObjectLocks.Proofs.Placement

/-!
# Assertions of running systems

However the locks of objects are used, nothing fails but by a misuse of its caller. Each operation
has its own misuses, which are listed first. What the inside of a system assumes without looking
holds in every reachable system: the headers of objects lead to records and monitors that exist,
lock stacks keep to their slots, values fit the fields that they are written to, and a thread that
has waited for a monitor owns it.
-/

namespace ObjectLocks

/-- The four faults by which a caller is told of a misuse. -/
def Fault.isMisuse : Fault → Bool
  | illegalExit _ _ | noSafepointRegion | notInManaged | alreadyAttached _ => true
  | _ => false

/-- Reads or changes a slot of an object. -/
def Action.isSlot : Action → Bool
  | store _ _ _ | load _ _ | add _ _ _ => true
  | _ => false

/-- If an operation fails, then with one of the faults, unless it is a fault of a barrier. -/
def Progress.FailsOnly (faults : List Fault) : Progress → Prop
  | failed f => f ∈ faults ∨ f.ofBarrier = true
  | answered _ | waiting | refused => True

namespace World

/-- The exit at the end of the innermost region, if that is a synchronized one. -/
def regionMisuses (s : World) (w : WorkerId) (t : ThreadId) : List Fault :=
  match (s.worker w).regions with
  | .synchronized o _ :: _ => [.illegalExit t o]
  | _ => []

/-- The faults that an operation of thread `t` may end with. -/
def threadMisuses (s : World) (w : WorkerId) (t : ThreadId) : Action → List Fault
  | .attach => [.alreadyAttached t]
  | .allocate _ _ | .enter _ _ _ | .poll | .checkSafepoint | .beginNative | .beginBlocked
  | .beginSafepoint | .enterMonitor _ => [.noSafepointRegion]
  | .quickEnter _ _ _ => [.notInManaged]
  | .exit o _ _ => [.illegalExit t o]
  | .beginSynchronized _ => [.notInManaged, .noSafepointRegion]
  | .endSynchronized => s.regionMisuses w t
  | .failSynchronized => .bodyFailed :: s.regionMisuses w t
  | .exitMonitor _ => [.exitNotOwned t]
  | .claimMonitor _ _ => [.notAnonymous]
  | .store o i _ | .load o i | .add o i _ => [.indexOutOfBounds (s.machine.object o).slots.size i]
  | .detach | .identityHash _ | .inflate _ _ | .beginGuard | .endGuard | .endNative | .endBlocked
  | .endSafepoint | .tryEnterMonitor _ | .monitorHash _ => []

/-- The faults that a move may end with. -/
def misuses (s : World) : Move → List Fault
  | .act w a =>
    match (s.worker w).thread with
    | some t => s.threadMisuses w t a
    | none => []
  | .wake _ | .grant _ | .reach _ | .addWorker | .addRecord _ => []

variable {s : World} {w : WorkerId} {t : ThreadId} {faults : List Fault}

/-- On objects and threads there are no other misuses than the four, apart from a failing body. -/
lemma isMisuse_of_mem {a : Action} {f : Fault} (mem : f ∈ s.threadMisuses w t a)
    (direct : a.isDirect = false) (slot : a.isSlot = false) :
    f.isMisuse = true ∨ f = .bodyFailed ∧ a = .failSynchronized := by
  have region (mem : f ∈ s.regionMisuses w t) : f.isMisuse = true := by
    unfold regionMisuses at mem
    split at mem
    · rw [List.mem_singleton.1 mem]
      rfl
    · cases mem
  cases a with
  | endSynchronized => exact .inl (region mem)
  | failSynchronized =>
    rcases List.mem_cons.1 mem with body | mem
    · exact .inr ⟨body, rfl⟩
    · exact .inl (region mem)
  | beginSynchronized _ =>
    rcases List.mem_cons.1 mem with rfl | mem
    · exact .inl rfl
    · rw [List.mem_singleton.1 mem]
      exact .inl rfl
  | attach | allocate _ _ | enter _ _ _ | poll | checkSafepoint | beginNative | beginBlocked
  | beginSafepoint | quickEnter _ _ _ | exit _ _ _ =>
    rw [List.mem_singleton.1 mem]
    exact .inl rfl
  | enterMonitor _ | tryEnterMonitor _ | exitMonitor _ | monitorHash _ | claimMonitor _ _ =>
    cases direct
  | store _ _ _ | load _ _ | add _ _ _ => cases slot
  | detach | identityHash _ | inflate _ _ | beginGuard | endGuard | endNative | endBlocked
  | endSafepoint => cases mem

/-- A request for a safepoint fails with a fault of the barrier only. -/
lemma request_fails : (s.request w).2.FailsOnly faults := by
  unfold request Barrier.arm
  cases s.safepoint.barrier.armed with
  | true => exact .inr rfl
  | false => trivial

/-- Leaving a safe state fails with a fault of the barrier only. -/
lemma leave_fails (resume : ThreadState) (goal : Goal) :
    (s.leave w t resume goal).2.FailsOnly faults := by
  unfold leave
  split
  next => trivial
  next =>
    cases goal with
    | attach _ | resume | allocate _ _ | countLock | synchronized _ _ => trivial
    | safepoint => exact request_fails

/-- An operation fails with the faults of the machine and of what follows. -/
lemma operate_fails {α : Type} {operation : Machine → Outcome α}
    {next : World → α → World × Progress} (fails : (operation s.machine).FailsOnly faults)
    (go : ∀ a m, operation s.machine = .ok a m →
      (next { s with machine := m } a).2.FailsOnly faults) :
    (s.operate operation next).2.FailsOnly faults := by
  cases eq : operation s.machine with
  | ok a m =>
    rw [operate_ok eq]
    exact go a m eq
  | fault f m =>
    rw [eq] at fails
    rw [operate_fault eq]
    exact .inl fails

/-- An operation that never waits fails with the faults of the machine. -/
lemma conclude_fails {α : Type} (answer : α → Answer) {operation : Machine → Outcome α}
    (fails : (operation s.machine).FailsOnly faults) :
    (s.conclude answer operation).2.FailsOnly faults :=
  operate_fails fails fun _ _ _ => trivial

/-- An enter fails with the faults of the machine and of what follows. -/
lemma enter_fails {operation : Machine → Outcome Entry} {goal : Goal}
    {next : World → World × Progress} (fails : (operation s.machine).FailsOnly faults)
    (go : ∀ s, (next s).2.FailsOnly faults) :
    (s.enter w operation goal next).2.FailsOnly faults := by
  refine operate_fails fails fun entry m _ => ?_
  cases entry with
  | entered => exact go _
  | queued _ _ => trivial

/-- A checked operation fails because of a guard, or as what follows. -/
lemma checked_fails {next : World → Unit → World × Progress}
    (go : ∀ s, (next s ()).2.FailsOnly [.noSafepointRegion]) :
    (s.operate (·.checkSafepoint t) next).2.FailsOnly [.noSafepointRegion] :=
  operate_fails Machine.checkSafepoint_fails fun _ _ _ => go _

/-- The end of a synchronized region fails with the misuses of its exit. -/
lemma endSynchronized_fails {result : Progress} (fails : result.FailsOnly faults)
    (exit : ∀ f ∈ s.regionMisuses w t, f ∈ faults) :
    (s.endSynchronized w t result).2.FailsOnly faults := by
  unfold regionMisuses at exit
  unfold endSynchronized
  split
  next o r _ inside =>
    rw [inside] at exit
    exact operate_fails (Machine.exit_fails.mono exit) fun _ _ _ => fails
  next => trivial

/-- Waiting for the turn to request a safepoint fails because of a guard only. -/
lemma beginSafepoint_fails (allowed : (s.worker w).thread ≠ none → .noSafepointRegion ∈ faults) :
    (s.beginSafepoint w).2.FailsOnly faults := by
  unfold beginSafepoint
  dsimp only
  split
  next => trivial
  next t ht =>
    have region := allowed (ht ▸ nofun)
    rcases checkSafepoint_cases s.machine t with ⟨-, eq⟩ | ⟨-, eq⟩
    · rw [operate_ok eq]
      trivial
    · rw [operate_fault eq]
      exact .inl region

/-- The end of a safepoint fails with a fault of the barrier only. -/
lemma endSafepoint_fails : (s.endSafepoint w).2.FailsOnly faults := by
  unfold endSafepoint Barrier.disarm
  dsimp only
  cases s.safepoint.barrier.armed with
  | true => trivial
  | false => exact .inr rfl

/-- The end of a native or blocked region does not fail. -/
lemma endRegion_fails {a : Action} (ends : a = .endNative ∨ a = .endBlocked) :
    (s.act w t a).2.FailsOnly faults := by
  obtain eq | ⟨_, _, resume, -, -, eq⟩ := act_endRegion (s := s) (w := w) (t := t) ends
  · rw [eq]
    trivial
  · rw [eq]
    exact leave_fails resume .resume

section Coherent

variable (h : s.machine.view.Coherent)
include h

/-- The locks are coherent also between the quick enter of a region and its enter. -/
lemma beginSynchronized_fails (attached : t < s.machine.nextThread) (o : ObjectId) :
    (s.beginSynchronized w t o).2.FailsOnly [.notInManaged, .noSafepointRegion] := by
  let r := s.machine.records.size
  let n := (s.machine.addRecord w).2
  have coherent : n.view.Coherent := by
    rw [show n.view = _ from s.machine.view_addRecord w]
    exact SystemView.coherent_newRecord h w
  rw [beginSynchronized_eq]
  have first : (n.quickEnter t (some o) r).FailsOnly [.notInManaged, .noSafepointRegion] :=
    (Machine.quickEnter_fails (some o)).mono fun _ mem =>
      List.mem_cons.2 (.inl (List.mem_singleton.1 mem))
  refine operate_fails first fun entered m eq => ?_
  have quick := Machine.quickEnter_follows (m := n) (t := t) (o := o) (r := r) coherent attached
  rw [show n.quickEnter t (some o) r = _ from eq] at quick
  have later : m.view.Coherent := coherent.steps quick attached
  cases entered with
  | true => trivial
  | false =>
    refine enter_fails ?_ fun _ => trivial
    exact (Machine.enter_fails later).mono fun _ => List.mem_cons_of_mem _

/-- An operation of a thread fails with a misuse of its own only. -/
lemma act_fails (attached : t < s.machine.nextThread) (ht : (s.worker w).thread = some t)
    (a : Action) : (s.act w t a).2.FailsOnly (s.threadMisuses w t a) := by
  cases a with
  | attach =>
    show (s.attach w).2.FailsOnly _
    unfold attach
    rw [ht]
    exact .inl (List.mem_singleton_self _)
  | detach =>
    rw [act_detach]
    split <;> trivial
  | allocate _ _ | poll => exact checked_fails fun _ => leave_fails _ _
  | enter o r raw =>
    cases raw with
    | true => exact enter_fails (Locking.enter_fails h) fun _ => trivial
    | false => exact enter_fails (Machine.enter_fails h) fun _ => trivial
  | quickEnter o r raw =>
    cases o with
    | none => cases raw <;> exact conclude_fails _ (Machine.quickEnter_fails _)
    | some o =>
      cases raw with
      | true => exact conclude_fails _ Locking.quickEnter_never.of_never
      | false => exact conclude_fails _ (Machine.quickEnter_fails _)
  | exit o r raw =>
    cases raw with
    | true => exact conclude_fails _ Locking.exit_fails
    | false => exact conclude_fails _ Machine.exit_fails
  | identityHash o => exact conclude_fails _ (Machine.identityHash_never h)
  | inflate o cause => exact conclude_fails _ (Locking.inflate_never h cause)
  | checkSafepoint => exact conclude_fails _ Machine.checkSafepoint_fails
  | beginGuard | monitorHash _ => trivial
  | endGuard =>
    rw [act_endGuard]
    split <;> trivial
  | beginNative | beginBlocked => exact checked_fails fun _ => trivial
  | endNative => exact endRegion_fails (.inl rfl)
  | endBlocked => exact endRegion_fails (.inr rfl)
  | beginSynchronized o => exact beginSynchronized_fails h attached o
  | endSynchronized => exact endSynchronized_fails trivial fun _ => id
  | failSynchronized =>
    exact endSynchronized_fails (.inl List.mem_cons_self) fun _ => List.mem_cons_of_mem _
  | beginSafepoint =>
    rw [act_beginSafepoint]
    split
    · trivial
    · exact beginSafepoint_fails fun _ => List.mem_singleton_self _
  | endSafepoint =>
    rw [act_endSafepoint]
    split
    · exact endSafepoint_fails
    · trivial
  | enterMonitor id => exact enter_fails Machine.enterMonitor_fails fun _ => trivial
  | tryEnterMonitor id => exact conclude_fails _ Machine.tryEnterMonitor_never
  | exitMonitor id => exact conclude_fails _ Machine.exitMonitor_fails
  | claimMonitor id c => exact conclude_fails _ Machine.claimMonitor_fails
  | store o i v => exact conclude_fails _ (Machine.updateSlot_fails i _)
  | load o i => exact conclude_fails _ (Machine.loadSlot_fails i)
  | add o i v => exact conclude_fails _ (Machine.updateSlot_fails i _)

end Coherent

/-- The end of a wait does not fail. -/
lemma wake_fails : (s.wake w).2.FailsOnly faults := by
  unfold wake
  split
  next =>
    split
    · exact leave_fails _ _
    · trivial
  next =>
    split
    · trivial
    · exact leave_fails _ _
  next => trivial

/-- The turn to request a safepoint does not fail. -/
lemma grant_fails : (s.grant w).2.FailsOnly faults := by
  unfold grant
  split
  next =>
    split
    next =>
      dsimp only
      split
      · exact leave_fails _ _
      · exact request_fails
    next => trivial
  next => trivial

/-- A safepoint that is reached does not fail. -/
lemma reach_fails : (s.reach w).2.FailsOnly faults := by
  unfold reach
  split
  next => split <;> trivial
  next => trivial

/-- Every move fails with one of its misuses only. -/
theorem move_fails (h : s.view.Sound) (x : Move) : (s.move x).2.FailsOnly (s.misuses x) := by
  cases x with
  | act w a =>
    cases free : (s.worker w).wait with
    | some _ =>
      rw [move_of_waits free]
      trivial
    | none =>
      rw [move_act free]
      cases ht : (s.worker w).thread with
      | some t =>
        rw [begin_attached ht]
        simp only [misuses, ht]
        exact act_fails h.coherent (h.lt ht) ht a
      | none =>
        rcases begin_detached ht a with eq | ⟨-, -, eq⟩ | ⟨-, -, eq⟩ | ⟨-, -, eq⟩
        all_goals rw [eq]
        · trivial
        · unfold attach
          rw [ht]
          exact leave_fails _ _
        · exact beginSafepoint_fails fun attached => absurd ht attached
        · exact endSafepoint_fails
  | wake w => exact wake_fails
  | grant w => exact grant_fails
  | reach w => exact reach_fails
  | addWorker | addRecord _ => trivial

end World

/-- The header of an object can be read: it has a shape that the mode knows, and the record or the
monitor that it leads to exists. -/
def Machine.Legible (m : Machine) (o : ObjectId) : Prop :=
  match m.mark o with
  | .word w =>
    match w.bits with
    | .unlocked => True
    | .locked => m.options.mode = .lightweight
    | .monitor => m.options.mode = .lightweight ∧ m.options.useTable = true ∧
        ∃ id < m.monitors.size, m.table.get? o = some id
    | .marked => False
  | .record r => m.options.mode = .legacy ∧ r < m.records.size
  | .monitor id => (m.options.mode = .lightweight → m.options.useTable = false) ∧
      id < m.monitors.size

namespace FastLocking

/-- Fast-locking can read the header of every object. -/
lemma Coherent.legible {m : Machine} (h : Coherent m.view) (o : ObjectId) : m.Legible o := by
  have hd := header h o
  have exists_of {id} (hf : m.form o = .inflated id) : id < m.monitors.size := (h.linked o id hf).1
  unfold Machine.Legible
  generalize hf : m.form o = f at hd
  cases hd with
  | unlocked hk bits _ => simp only [hk, bits]
  | fast hk bits _ =>
    simp only [hk, bits]
    exact h.mode
  | inline table hk =>
    simp only [hk]
    exact ⟨fun _ => table, exists_of hf⟩
  | table table entry hk bits =>
    simp only [hk, bits]
    exact ⟨h.mode, table, _, exists_of hf, entry⟩

end FastLocking

namespace StackLocking

/-- Stack-locking can read the header of every object. -/
lemma Coherent.legible {m : Machine} (h : Coherent m.view) (o : ObjectId) : m.Legible o := by
  unfold Machine.Legible
  cases hk : m.mark o with
  | word w => simp only [(form_word h hk).1]
  | record r =>
    have form := form_record h hk
    have legacy : m.options.mode = .legacy := by
      cases mode : m.options.mode with
      | legacy => rfl
      | lightweight => exact absurd mode h.mode
      | monitor => exact absurd form (h.heavy mode o r)
    exact ⟨legacy, h.recorded o r form⟩
  | monitor id =>
    exact ⟨fun mode => absurd mode h.mode, (h.linked o id (form_monitor h hk)).1⟩

end StackLocking

/-- In every mode the header of every object can be read. -/
lemma LockView.Coherent.legible {m : Machine} (h : m.view.Coherent) (o : ObjectId) :
    m.Legible o := by
  by_cases mode : m.options.mode = .lightweight
  · exact (h.fast mode).legible o
  · exact (h.stack mode).legible o

/-- Whatever stands below the top of a stack lies in one of its slots. -/
def LockStack.InSlots {α : Type} (s : LockStack α) : Prop :=
  s.length ≤ 8 ∧ ∀ i < s.length, ∃ e, s.slots[i]? = some e

/-- A lock stack keeps to its slots. -/
lemma LockStack.inSlots {α : Type} (s : LockStack α) : s.InSlots :=
  ⟨s.top_le, fun _ lt => ⟨_, Vector.getElem?_eq_getElem (Nat.lt_of_lt_of_le lt s.top_le)⟩⟩

/-- A state is read back from its number. -/
lemma ThreadState.ofNat?_toNat (x : ThreadState) : ofNat? x.toNat = some x := by
  cases x <;> rfl

namespace World

/-- What holds of a system in which no assertion fails. -/
structure Asserted (s : World) : Prop where
  /-- Every move ends without a fault, or with one of its misuses. -/
  fails : ∀ x f, (s.move x).2 = .failed f → f ∈ s.misuses x
  /-- These are the four that a caller can commit, apart from the failing body of a region, unless a
  monitor itself or a slot is used. -/
  misuse : ∀ w a f, (s.move (.act w a)).2 = .failed f → a.isDirect = false → a.isSlot = false →
    f.isMisuse = true ∨ f = .bodyFailed ∧ a = .failSynchronized
  legible : ∀ o, s.machine.Legible o
  inSlots : ∀ t, (s.machine.lockStack t).InSlots ∧ (s.machine.lockRecords t).InSlots
  hashes : ∀ (k : LockWord) (h : UInt32),
    hashField.update? (h &&& hashMask).toUInt64 k.value = some (k.withHash h).value
  bits : ∀ (k : LockWord) (b : LockBits),
    lockField.update? b.toWord k.value = some (k.withBits b).value
  /-- The state of a thread reads back from the number that it is kept as. -/
  states : ∀ t, ThreadState.ofNat? (s.stateOf t).toNat = some (s.stateOf t)
  /-- A thread that has waited for a monitor owns it when it goes on. -/
  acquires : ∀ w t id resume goal, (s.worker w).thread = some t →
    (s.worker w).wait = some (.monitor id resume goal) → ∀ l, s.EndsWait w l →
      ((s.after l).machine.monitor id).owner = .thread t

end World

namespace Run

variable {options : Options} {s : World} {h : List Event}

/-- The assertions of a system hold at any time of any run, however locks are used. -/
theorem never_asserts (run : Run anyUse options s h) : s.Asserted := by
  have sound := run.accounted.1
  have fails (x : Move) (f : Fault) (failed : (s.move x).2 = .failed f) : f ∈ s.misuses x := by
    have only := World.move_fails sound x
    obtain ⟨armed, disarmed⟩ := run.orderly.excludes.asserted x
    rw [failed] at only armed disarmed
    refine only.resolve_right fun barrier => ?_
    cases f with
    | barrierArmed => exact armed rfl
    | barrierNotArmed => exact disarmed rfl
    | _ => cases barrier
  refine ⟨fails, fun w a f failed direct slot => ?_, sound.coherent.legible,
    fun t => ⟨LockStack.inSlots _, LockStack.inSlots _⟩, LockWord.update?_hash,
    LockWord.update?_bits, fun t => ThreadState.ofNat?_toNat _,
    fun w t id resume goal ht waits l ends => run.acquires ht waits ends⟩
  have mem := fails _ f failed
  cases ht : (s.worker w).thread with
  | some t =>
    simp only [World.misuses, ht] at mem
    exact World.isMisuse_of_mem mem direct slot
  | none =>
    simp only [World.misuses, ht] at mem
    cases mem

/-- A thread waits for an object whose owner exits it once more than it has entered it. -/
def exitedTwice : World × List Event :=
  (World.new (.ofMode .lightweight)).follow []
    [.addWorker, .addWorker, .act 0 .attach, .act 1 .attach, .addRecord 0, .addRecord 1,
      .act 0 (.allocate "shared" ⟨"Counter", 1, false⟩), .act 0 (.enter 0 0 false),
      .act 1 (.enter 0 1 false), .act 0 (.exit 0 0 false), .act 0 (.exit 0 0 false)]

/-- The second exit is rejected, and the other thread goes on waiting. -/
theorem never_asserts_exitedTwice :
    (exitedTwice.1.worker 1).wait = some (.monitor 0 .inManaged .countLock) ∧
      exitedTwice.2.head? = some (.rejected 2 0 0) ∧ exitedTwice.1.Asserted :=
  ⟨by decide +kernel, by decide +kernel, never_asserts (.follow .new _ (by decide +kernel))⟩

end Run

end ObjectLocks
