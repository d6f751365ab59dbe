import ObjectLocks.Proofs.Monitor
import ObjectLocks.Proofs.Steps

/-!
# The changes of fast-locking

Every operation of fast-locking is made of the changes below. Each is local to the object of the
operation: nothing that tells how another object is locked changes with it.
-/

namespace ObjectLocks.FastLocking

/-- A change that thread `t` makes in the course of an operation. -/
inductive Change (t : ThreadId) : Operation → LockView → Option Event → LockView → Prop where
  | again {v o r l} :
    v.lockStack t = l ++ [o] →
    (v.lockStack t).length < 8 →
    Change t (.enter o r) v (some (.entered t o r)) (v.setLockStack t (v.lockStack t ++ [o]))
  | lock {v o r} :
    v.form o = .unlocked →
    (v.lockStack t).length < 8 →
    Change t (.enter o r) v (some (.entered t o r))
      ((v.setForm o .fast).setLockStack t (v.lockStack t ++ [o]))
  | drop {v o r l} :
    v.lockStack t = l ++ [o, o] →
    Change t (.exit o r) v (some (.exited t o r)) (v.setLockStack t (l ++ [o]))
  | unlock {v o r} :
    v.form o = .fast →
    o ∈ v.lockStack t →
    (∀ l, v.lockStack t ≠ l ++ [o, o]) →
    Change t (.exit o r) v (some (.exited t o r)) ((v.setForm o .unlocked).dropObject t o)
  | enterMonitor {v o r id x} :
    v.form o = .inflated id →
    (v.monitor id).tryEnter t = some x →
    Change t (.enter o r) v (some (.entered t o r)) (v.setMonitor id x)
  /-- The thread starts to wait for the monitor, which is not its own. -/
  | wait {v o r id} :
    v.form o = .inflated id →
    (v.monitor id).tryEnter t = none →
    ((v.monitor id).owner = .anonymous → o ∉ v.lockStack t) →
    Change t (.enter o r) v (some (.waits t o r))
      (v.setMonitor id ((v.monitor id).contend.enqueue t))
  | exitMonitor {v o r id x} :
    v.form o = .inflated id →
    (v.monitor id).exit? t = some x →
    Change t (.exit o r) v (some (.exited t o r)) (v.setMonitor id x)
  | reject {v o r} :
    o ∉ v.lockStack t →
    (∀ id, v.form o = .inflated id → (v.monitor id).owner ≠ .thread t) →
    Change t (.exit o r) v (some (.rejected t o r)) v
  | inflateFree {op v w} :
    v.form op.object = .unlocked →
    Change t op v none (v.inflate op.object { Monitor.new op.object with header := w })
  /-- The fast lock of the thread itself becomes a monitor that it owns. -/
  | inflateOwn {op v w} :
    v.form op.object = .fast →
    op.object ∈ v.lockStack t →
    Change t op v none
      ((v.inflate op.object { (Monitor.new op.object).ownedBy (.thread t)
          (.ofNat ((v.lockStack t).count op.object - 1)) with header := w }).dropObject t op.object)
  /-- The fast lock of another thread becomes a monitor with an anonymous owner. -/
  | inflateOther {op v w} :
    v.form op.object = .fast →
    op.object ∉ v.lockStack t →
    Change t op v none
      (v.inflate op.object { (Monitor.new op.object).ownedBy .anonymous 0 with header := w })
  | claim {op v id} :
    v.form op.object = .inflated id →
    (v.monitor id).owner = .anonymous →
    op.object ∈ v.lockStack t →
    Change t op v none
      ((v.dropObject t op.object).setMonitor id ((v.monitor id).ownedBy (.thread t)
        (.ofNat ((v.lockStack t).count op.object - 1))))
  /-- A monitor changes in what ownership does not depend on. -/
  | annotate {op v id x} :
    v.form op.object = .inflated id →
    x.SameLock (v.monitor id) →
    Change t op v none (v.setMonitor id x)
  /-- The record caches the monitor, or forgets what it cached. -/
  | cache {o r v c} :
    (∀ id ∈ c, v.form o = .inflated id) →
    Change t (.enter o r) v none (v.setRecord r { v.record r with cache := c })

/-- The event of a change is one of the operation that makes it. -/
lemma Change.of {t : ThreadId} {op : Operation} {v w : LockView} {e : Event}
    (c : Change t op v (some e) w) : e.Of t op := by
  cases c <;> constructor

end ObjectLocks.FastLocking
