import ObjectLocks.Proofs.Monitor
import ObjectLocks.Proofs.Steps

/-!
# The changes of stack-locking

Every operation of stack-locking is made of the changes below. The mode that only uses monitors
makes the same changes but for the two that stack-lock.
-/

namespace ObjectLocks.StackLocking

/-- A change that thread `t` makes in the course of an operation. -/
inductive Change (t : ThreadId) : Operation → LockView → Option Event → LockView → Prop where
  | lock {v o r w} :
    v.mode = .legacy →
    v.form o = .unlocked →
    w.bits = .unlocked →
    Change t (.enter o r) v (some (.entered t o r))
      (((v.setRecord r ((v.record r).lockedOver w t)).setForm o (.stacked r)).setLockRecords t
        (v.lockRecords t ++ [r]))
  /-- The thread that has stack-locked the object enters it again. -/
  | again {v o r b} :
    v.mode = .legacy →
    v.form o = .stacked b →
    b ∈ v.lockRecords t →
    Change t (.enter o r) v (some (.entered t o r))
      ((v.setRecord r ((v.record r).lockedAgain t)).setLockRecords t (v.lockRecords t ++ [r]))
  /-- The record of an enter that goes through a monitor stays unused. -/
  | unused {v o r} :
    Change t (.enter o r) v none (v.setRecord r (v.record r).throughMonitor)
  | enterMonitor {v o r id x} :
    v.form o = .inflated id →
    (v.record r).displaced = .unused →
    (v.monitor id).tryEnter t = some x →
    Change t (.enter o r) v (some (.entered t o r)) (v.setMonitor id x)
  | wait {v o r id} :
    v.form o = .inflated id →
    (v.record r).displaced = .unused →
    (v.monitor id).tryEnter t = none →
    Change t (.enter o r) v (some (.waits t o r))
      (v.setMonitor id ((v.monitor id).contend.enqueue t))
  | exitAgain {v o r} :
    (v.record r).displaced = LockRecord.recursiveMark →
    r ∈ v.lockRecords t →
    Change t (.exit o r) v (some (.exited t o r)) (v.dropRecord t r)
  /-- The header that the record displaced is put back. -/
  | restore {v o r} :
    v.form o = .stacked r →
    (v.record r).displaced.bits = .unlocked →
    Change t (.exit o r) v (some (.exited t o r)) ((v.setForm o .unlocked).dropRecord t r)
  /-- The owner exits the monitor. Whatever the record stood for, it is done with. -/
  | exitMonitor {v o r id x} :
    v.form o = .inflated id →
    (v.record r).displaced ≠ LockRecord.recursiveMark →
    (v.monitor id).exit? t = some x →
    Change t (.exit o r) v (some (.exited t o r)) ((v.dropRecord t r).setMonitor id x)
  | rejectAgain {v o r} :
    (v.record r).displaced = LockRecord.recursiveMark →
    r ∉ v.lockRecords t →
    Change t (.exit o r) v (some (.rejected t o r)) v
  /-- An object may not be exited by a thread that does not own its monitor, or without the record
  that it is stack-locked with. -/
  | reject {v o r} :
    (v.record r).displaced ≠ LockRecord.recursiveMark →
    ((v.record r).displaced ≠ .unused → v.form o ≠ .stacked r) →
    (∀ id, v.form o = .inflated id → (v.monitor id).owner ≠ .thread t) →
    Change t (.exit o r) v (some (.rejected t o r)) (v.dropRecord t r)
  | inflateFree {op v w} :
    v.form op.object = .unlocked →
    Change t op v none (v.inflate op.object { Monitor.new op.object with header := w })
  /-- A stack lock, whoever holds it, becomes a monitor with the same owner. -/
  | inflateStacked {op v b w} :
    v.form op.object = .stacked b →
    Change t op v none (v.inflate op.object { (Monitor.new op.object).ownedBy
      (.ofThread? (v.record b).owner) 0 with header := w })
  /-- A monitor changes in what ownership does not depend on. -/
  | annotate {op v id x} :
    v.form op.object = .inflated id →
    x.SameLock (v.monitor id) →
    Change t op v none (v.setMonitor id x)

/-- The event of a change is one of the operation that makes it. -/
lemma Change.of {t : ThreadId} {op : Operation} {v w : LockView} {e : Event}
    (c : Change t op v (some e) w) : e.Of t op := by
  cases c <;> constructor

end ObjectLocks.StackLocking
