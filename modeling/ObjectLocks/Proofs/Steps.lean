import ObjectLocks.Proofs.Monitor
import ObjectLocks.Proofs.View

/-!
# Steps of a locking algorithm

An operation of a thread is a sequence of changes of the lock view. At most the last of them is an
event, a change that the callers of the lock can tell; the others are silent, they only change how
the lock is represented. Each locking algorithm has its own changes. An operation is described once,
by the changes that it makes, and whatever each change keeps is then kept by the operations.
-/

namespace ObjectLocks

/-- What a thread does with a lock. -/
inductive Operation where
  /-- It enters the object, in whatever way. -/
  | enter (o : ObjectId) (r : RecordId)
  | exit (o : ObjectId) (r : RecordId)
  /-- It asks for the hash or for the monitor of the object. -/
  | visit (o : ObjectId)
deriving DecidableEq, Repr

/-- The object of an operation. -/
def Operation.object : Operation → ObjectId
  | enter o _ | exit o _ | visit o => o

/-- What happens to locks, as their callers see it. -/
inductive Event where
  | entered (t : ThreadId) (o : ObjectId) (r : RecordId)
  /-- An enter has begun to wait. -/
  | waits (t : ThreadId) (o : ObjectId) (r : RecordId)
  | exited (t : ThreadId) (o : ObjectId) (r : RecordId)
  /-- An exit by a thread that does not hold the object has failed. -/
  | rejected (t : ThreadId) (o : ObjectId) (r : RecordId)
  | detached (t : ThreadId)
deriving DecidableEq, Repr

/-- The object of an event, unless a thread detaches. -/
def Event.object? : Event → Option ObjectId
  | entered _ o _ | waits _ o _ | exited _ o _ | rejected _ o _ => some o
  | detached _ => none

/-- The thread of an event. -/
def Event.thread : Event → ThreadId
  | entered t _ _ | waits t _ _ | exited t _ _ | rejected t _ _ | detached t => t

/-- The events that an operation of a thread may be. -/
inductive Event.Of (t : ThreadId) : Operation → Event → Prop where
  | entered {o r} : Of t (.enter o r) (.entered t o r)
  | waits {o r} : Of t (.enter o r) (.waits t o r)
  | exited {o r} : Of t (.exit o r) (.exited t o r)
  | rejected {o r} : Of t (.exit o r) (.rejected t o r)

/-- The event of an operation is about its object. -/
lemma Event.Of.object? {t : ThreadId} {op : Operation} {e : Event} (h : e.Of t op) :
    e.object? = some op.object := by
  cases h <;> rfl

/-- The changes of a locking algorithm, each with the event that it is. -/
abbrev Changes := LockView → Option Event → LockView → Prop

/-- A sequence of changes and the event that it ends with. -/
inductive Steps (C : Changes) (v : LockView) : Option Event → LockView → Prop where
  | refl : Steps C v none v
  | tail {u e w} : Steps C v none u → C u e w → Steps C v e w

namespace Steps

variable {C : Changes} {u v w : LockView} {e : Option Event}

/-- One change is a sequence of changes. -/
lemma single (c : C v e w) : Steps C v e w := .tail .refl c

/-- Silent changes may come before a sequence of changes. -/
lemma trans (s : Steps C u none v) (s' : Steps C v e w) : Steps C u e w := by
  induction s' with
  | refl => exact s
  | tail _ c ih => exact ih.tail c

/-- What every change keeps is kept by a sequence of them. -/
lemma keeps {P : LockView → Prop} (s : Steps C v e w) (hv : P v)
    (step : ∀ {u e w}, P u → C u e w → P w) : P w := by
  induction s with
  | refl => exact hv
  | tail _ c ih => exact step ih c

/-- What every silent change keeps is kept up to the event. -/
lemma before {P : LockView → Prop} (s : Steps C v e w) (hv : P v)
    (silent : ∀ {u w}, P u → C u none w → P w) : e = none ∧ P w ∨ ∃ u, P u ∧ C u e w := by
  induction s with
  | refl => exact .inl ⟨rfl, hv⟩
  | tail _ c ih =>
    rcases ih with ⟨-, hu⟩ | ⟨u', hu, c'⟩
    · exact .inr ⟨_, hu, c⟩
    · exact .inr ⟨_, silent hu c', c⟩

/-- What every silent change keeps is there when the event comes. -/
lemma before_event {P : LockView → Prop} {e : Event} (s : Steps C v (some e) w) (hv : P v)
    (silent : ∀ {u w}, P u → C u none w → P w) : ∃ u, P u ∧ C u (some e) w := by
  rcases s.before hv silent with ⟨eq, -⟩ | h
  · cases eq
  · exact h

/-- What every silent change keeps is kept by a sequence without an event. -/
lemma keeps_silent {P : LockView → Prop} (s : Steps C v none w) (hv : P v)
    (silent : ∀ {u w}, P u → C u none w → P w) : P w := by
  rcases s.before hv silent with ⟨-, hw⟩ | ⟨u, hu, c⟩
  · exact hw
  · exact silent hu c

end Steps

/-- An operation makes a sequence of changes: with the event of its value, or with another one if it
ends by a fault. -/
def Outcome.Follows {α : Type} (C : Changes) (v : LockView) (event : α → Option Event)
    (failed : Option Event) : Outcome α → Prop
  | .ok a m => Steps C v (event a) m.view
  | .fault _ m => Steps C v failed m.view

/-- Silent changes may come before an operation. -/
lemma Steps.follows {α : Type} {C : Changes} {u v : LockView} {event : α → Option Event}
    {failed : Option Event} {x : Outcome α} (s : Steps C u none v)
    (h : x.Follows C v event failed) : x.Follows C u event failed := by
  cases x with
  | ok a m => exact s.trans h
  | fault f m => exact s.trans h

/-- An enter makes a sequence of changes and is complete at the end of it, or waits for the monitor
of the object. If it ends by a fault, the lock is as it was. -/
def Outcome.Enters (C : Changes) (v : LockView) (t : ThreadId) (o : ObjectId) (r : RecordId) :
    Outcome Entry → Prop
  | .ok .entered m => Steps C v (some (.entered t o r)) m.view
  | .ok (.queued id _) m => Steps C v (some (.waits t o r)) m.view ∧ m.form o = .inflated id
  | .fault _ m => Steps C v none m.view

/-- Silent changes may come before an enter. -/
lemma Steps.enters {C : Changes} {u v : LockView} {t : ThreadId} {o : ObjectId} {r : RecordId}
    {x : Outcome Entry} (s : Steps C u none v) (h : x.Enters C v t o r) :
    x.Enters C u t o r := by
  match x, h with
  | .ok .entered _, h => exact s.trans h
  | .ok (.queued _ _) _, h => exact ⟨s.trans h.1, h.2⟩
  | .fault _ _, h => exact s.trans h

/-- The event of a quick enter, if it enters. -/
def quickEvent (t : ThreadId) (o : ObjectId) (r : RecordId) (entered : Bool) : Option Event :=
  if entered then some (.entered t o r) else none

namespace Machine

variable {C : Changes} {m : Machine} {t : ThreadId} {o : ObjectId} {r : RecordId} {id : MonitorId}

/-- A monitor that can be entered at once is entered. -/
lemma enterMonitor_of_tryEnter {x : Monitor} (entered : (m.monitor id).tryEnter t = some x) :
    m.enterMonitor t id = .ok .entered (m.setMonitor id x) := by
  unfold enterMonitor
  simp only [entered]

/-- A monitor that can be exited is exited. -/
lemma exitMonitor_of_exit? {x : Monitor} (exits : (m.monitor id).exit? t = some x) :
    m.exitMonitor t id = .ok () (m.setMonitor id x) := by
  unfold exitMonitor
  simp only [exits]

/-- A thread enters the monitor of the object, or waits for it. If it may not wait, it has only been
counted. -/
lemma enterMonitor_enters (ho : m.form o = .inflated id)
    (entered : ∀ x, (m.monitor id).tryEnter t = some x →
      C m.view (some (.entered t o r)) (m.view.setMonitor id x))
    (waits : (m.monitor id).tryEnter t = none →
      C m.view (some (.waits t o r)) (m.view.setMonitor id ((m.monitor id).contend.enqueue t)))
    (counted : ∀ x, x.SameLock (m.monitor id) → C m.view none (m.view.setMonitor id x)) :
    (m.enterMonitor t id).Enters C m.view t o r := by
  cases enter : (m.monitor id).tryEnter t with
  | some x =>
    rw [enterMonitor_of_tryEnter enter]
    show Steps _ _ _ (m.setMonitor id x).view
    rw [view_setMonitor]
    exact .single (entered x enter)
  | none =>
    unfold enterMonitor
    simp only [enter]
    -- The wait is counted and logged before the guards are looked at.
    generalize hn : (m.setMonitor id (m.monitor id).contend).note _ = n
    have hv : n.view = m.view.setMonitor id (m.monitor id).contend := by
      rw [← hn, view_note, view_setMonitor]
    unfold checkSafepoint
    split
    next =>
      have e : ((n.setMonitor id ((m.monitor id).contend.enqueue t)).setState t .blocked).view =
          m.view.setMonitor id ((m.monitor id).contend.enqueue t) := by
        rw [view_setState, view_setMonitor, hv, LockView.setMonitor_setMonitor]
      refine ⟨?_, ?_⟩
      · rw [e]
        exact .single (waits enter)
      · show (Machine.view _).form o = _
        rw [e]
        exact ho
    next =>
      show Steps _ _ _ n.view
      rw [hv]
      exact .single (counted _ (Monitor.sameLock_contend _))

/-- The hash that a monitor keeps has no part in locks. -/
lemma monitorHash_steps
    (hashed : ∀ x, x.SameLock (m.monitor id) → C m.view none (m.view.setMonitor id x)) :
    Steps C m.view none (m.monitorHash t id).2.view := by
  unfold monitorHash
  dsimp only
  split
  next => exact .refl
  next =>
    rw [view_setMonitor, view_drawHash]
    exact .single (hashed _ (Monitor.sameLock_header _ _))

end Machine

end ObjectLocks
