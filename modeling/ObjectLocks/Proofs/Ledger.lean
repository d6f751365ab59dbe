import ObjectLocks.Proofs.Headers
import ObjectLocks.Proofs.Simulation

/-!
# The ledger of a script

What the hashes of a script depend on can be kept in a ledger that knows of neither headers nor
monitors: the recursive locks, who waits for which object, the hash of every object and the sequence
that each thread draws from. The ledger of a script is the same for every configuration.
-/

namespace ObjectLocks

/-- The locks, the workers and the hashes of a system, whatever represents them. -/
structure Ledger where
  locks : Locks
  thread : WorkerId → Option ThreadId
  /-- The object that a worker waits for. -/
  waits : WorkerId → Option ObjectId
  nextThread : ThreadId
  records : Nat
  sequence : ThreadId → HashSequence
  hash : ObjectId → UInt32

namespace Ledger

/-- Nothing is locked, attached or hashed. -/
def new : Ledger :=
  ⟨fun _ => .unlocked, fun _ => none, fun _ => none, firstThread, 0, fun _ => default, fun _ => 0⟩

/-- The event of an operation of thread `t`. -/
def event? (v : Ledger) (t : ThreadId) : Operation → Option Event
  | .enter o r => some (if ((v.locks o).enter t).isSome then .entered t o r else .waits t o r)
  | .exit o r => some (.exited t o r)
  | .visit _ => none

/-- What a move turns out to be. -/
def label (v : Ledger) : Move → Label
  | .act w a =>
    match v.thread w, v.waits w with
    | some t, none =>
      match a.operation? with
      | some op => .lock w t op (v.event? t op)
      | none => .other
    | _, _ => .other
  | _ => .other

/-- The locks change with an event, and worker `w` may have to wait. -/
def book (v : Ledger) (w : WorkerId) (e : Event) : Ledger :=
  { v with
    locks := (e.apply v.locks).getD v.locks
    waits :=
      match e with
      | .waits _ o _ => Function.update v.waits w (some o)
      | _ => v.waits }

/-- A worker gets a new thread, with a sequence of its own. -/
def attach (v : Ledger) (w : WorkerId) : Ledger :=
  { v with
    thread := Function.update v.thread w (some v.nextThread)
    nextThread := v.nextThread + 1
    sequence := Function.update v.sequence v.nextThread (.seed v.nextThread) }

/-- Thread `t` asks for the hash of an object. -/
def identify (v : Ledger) (t : ThreadId) (o : ObjectId) : UInt32 × Ledger :=
  let (x, s) := ObjectLocks.identify (v.hash o) (v.sequence t)
  (x, { v with
    sequence := Function.update v.sequence t s
    hash := Function.update v.hash o x })

/-- An operation of thread `t`, and the hash that it answers, if it answers one. -/
def act (v : Ledger) (w : WorkerId) (t : ThreadId) : Action → Ledger × Option UInt32
  | .attach => ({ v with nextThread := v.nextThread + 1 }, none)
  | .identityHash o => ((v.identify t o).2, some (v.identify t o).1)
  | a => ((a.operation?.bind (v.event? t)).elim v (v.book w), none)

/-- A worker goes on if its thread does not wait for the object any more. -/
def wake (v : Ledger) (w : WorkerId) : Ledger :=
  match v.thread w, v.waits w with
  | some t, some o =>
    if t ∈ (v.locks o).waiting then v else { v with waits := Function.update v.waits w none }
  | _, _ => v

/-- A move in the ledger, and the hash that it answers, if it answers one. -/
def move (v : Ledger) : Move → Ledger × Option UInt32
  | .act w a =>
    if (v.waits w).isSome then (v, none)
    else
      match v.thread w with
      | some t => v.act w t a
      | none => (if a = .attach then v.attach w else v, none)
  | .wake w => (v.wake w, none)
  | .addRecord _ => ({ v with records := v.records + 1 }, none)
  | .grant _ | .reach _ | .addWorker => (v, none)

/-- The locks change with the events of the moves, and with nothing else. -/
lemma locks_move (v : Ledger) (x : Move) : (v.move x).1.locks =
    (v.label x).event?.elim v.locks fun e => (e.apply v.locks).getD v.locks := by
  cases x with
  | act w a =>
    cases hw : v.waits w with
    | some o =>
      simp only [move, label, hw, Option.isSome_some, if_true]
      cases v.thread w <;> rfl
    | none =>
      simp only [move, label, hw, Option.isSome_none, Bool.false_eq_true, if_false]
      cases v.thread w with
      | none =>
        dsimp only
        split <;> rfl
      | some t =>
        cases a with
        | quickEnter o _ _ => cases o <;> rfl
        | _ => rfl
  | wake w =>
    show (v.wake w).locks = v.locks
    unfold wake
    split
    · split <;> rfl
    · rfl
  | _ => rfl

end Ledger

/-- An operation with a record that exists makes no other one exist. -/
lemma SystemView.recordCount_steps {v v' : LockView} {mode : LockingMode} {t : ThreadId}
    {op : Operation} {e : Option Event} (c : Steps (Locking.Change mode t op) v e v')
    (existing : op.Existing v.recordCount) : v'.recordCount = v.recordCount := by
  refine c.keeps (P := fun u => u.recordCount = v.recordCount) rfl fun {u _ x} same c => ?_
  have max {o r} (eq : op = .enter o r) : max u.recordCount (r + 1) = u.recordCount := by
    subst eq
    exact Nat.max_eq_left (same ▸ existing)
  rw [← same]
  unfold Locking.Change at c
  split at c
  · cases c with
    | cache _ => exact max rfl
    | _ => rfl
  · cases c with
    | lock _ _ _ | again _ _ _ | unused => exact max rfl
    | _ => rfl

namespace Ledger

/-- The ledger tells of the workers of a system what its view tells. -/
structure Matches (v : Ledger) (s : SystemView) : Prop where
  thread : s.thread = v.thread
  free : ∀ w, v.waits w = none → s.waitsFor w = none
  waits : ∀ w o, v.waits w = some o →
    ∃ id, s.waitsFor w = some id ∧ s.locks.form o = .inflated id
  nextThread : s.locks.nextThread = v.nextThread
  records : s.locks.recordCount = v.records

namespace Matches

open SystemView (Step Sound)

variable {v : Ledger} {s s' : SystemView} {w : WorkerId} {t : ThreadId} {op : Operation}
  {e : Option Event}

/-- An event of a lock operation is booked. -/
lemma lock (k : v.Matches s) (sound : s.Sound) (c : Step s (.lock w t op e) s')
    (existing : op.Existing s.locks.recordCount) : Matches (e.elim v (v.book w)) s' := by
  have thread : (e.elim v (v.book w)).thread = v.thread := by cases e <;> rfl
  have nextThread : (e.elim v (v.book w)).nextThread = v.nextThread := by cases e <;> rfl
  have records : (e.elim v (v.book w)).records = v.records := by cases e <;> rfl
  cases c with
  | @lock _ _ _ _ x ht free c calm =>
    -- The operation was completed or rejected, so no wait is booked.
    have waits : (e.elim v (v.book w)).waits = v.waits := by
      cases e with
      | none => rfl
      | some e =>
        cases of_steps c with
        | waits => exact absurd rfl (calm _ _)
        | _ => rfl
    refine ⟨thread ▸ k.thread, fun w' hw => k.free w' (waits ▸ hw), fun w' o hw => ?_, ?_, ?_⟩
    · obtain ⟨id, eq, ho⟩ := k.waits w' o (waits ▸ hw)
      exact ⟨id, eq, inflated_steps sound.coherent (sound.lt ht) c ho⟩
    · exact ((SystemView.registry_steps c).2.1.trans k.nextThread).trans nextThread.symm
    · exact ((SystemView.recordCount_steps c existing).trans k.records).trans records.symm
  | @wait _ _ o r x id ht free c ho =>
    have kept {p i} (hp : s.locks.form p = .inflated i) : x.form p = .inflated i :=
      inflated_steps sound.coherent (sound.lt ht) c hp
    refine ⟨k.thread, fun w' hw => ?_, fun w' p hw => ?_,
      (SystemView.registry_steps c).2.1.trans k.nextThread,
      (SystemView.recordCount_steps c existing).trans k.records⟩
    · replace hw : Function.update v.waits w (some o) w' = none := hw
      show Function.update s.waitsFor w (some id) w' = none
      rw [Function.update_apply] at hw ⊢
      split at hw
      · cases hw
      next ne =>
        rw [if_neg ne]
        exact k.free w' hw
    · replace hw : Function.update v.waits w (some o) w' = some p := hw
      show ∃ i, Function.update s.waitsFor w (some id) w' = some i ∧ _
      rw [Function.update_apply] at hw ⊢
      split at hw
      next eq =>
        obtain rfl := Option.some.inj hw
        exact ⟨id, if_pos eq, ho⟩
      next ne =>
        rw [if_neg ne]
        obtain ⟨i, eq, hp⟩ := k.waits w' p hw
        exact ⟨i, eq, kept hp⟩

/-- What a ledger tells of hashes has no part in it. -/
lemma congr {u : Ledger} (k : v.Matches s) (thread : u.thread = v.thread)
    (waits : u.waits = v.waits) (nextThread : u.nextThread = v.nextThread)
    (records : u.records = v.records) : u.Matches s :=
  ⟨k.thread.trans thread.symm, fun w hw => k.free w (waits ▸ hw),
    fun w o hw => k.waits w o (waits ▸ hw), k.nextThread.trans nextThread.symm,
    k.records.trans records.symm⟩

/-- A worker that does not wait attaches. -/
lemma attach (k : v.Matches s) : (v.attach w).Matches { s with
    locks := s.locks.attach
    thread := Function.update s.thread w (some s.locks.nextThread) } := by
  refine ⟨?_, k.free, k.waits, congrArg Nat.succ k.nextThread, k.records⟩
  show Function.update s.thread w (some s.locks.nextThread) =
    Function.update v.thread w (some v.nextThread)
  rw [k.thread, k.nextThread]

/-- The ledger still tells of the workers when a thread number has been used up. -/
lemma skip (k : v.Matches s) : Matches { v with nextThread := v.nextThread + 1 }
    { s with locks := { s.locks with nextThread := s.locks.nextThread + 1 } } :=
  ⟨k.thread, k.free, k.waits, congrArg Nat.succ k.nextThread, k.records⟩

/-- The ledger still tells of the workers when there is one more record. -/
lemma newRecord (k : v.Matches s) (x : LockRecord) : Matches { v with records := v.records + 1 }
    { s with locks := s.locks.setRecord s.locks.recordCount x } := by
  refine ⟨k.thread, k.free, k.waits, k.nextThread, ?_⟩
  show max s.locks.recordCount (s.locks.recordCount + 1) = v.records + 1
  rw [k.records, Nat.max_eq_right (Nat.le_succ _)]

/-- A worker stops waiting. -/
lemma resume (k : v.Matches s) : Matches { v with waits := Function.update v.waits w none }
    { s with waitsFor := Function.update s.waitsFor w none } := by
  refine ⟨k.thread, fun w' hw => ?_, fun w' o hw => ?_, k.nextThread, k.records⟩
  · replace hw : Function.update v.waits w none w' = none := hw
    show Function.update s.waitsFor w none w' = none
    rw [Function.update_apply] at hw ⊢
    split
    next => rfl
    next ne =>
      rw [if_neg ne] at hw
      exact k.free w' hw
  · replace hw : Function.update v.waits w none w' = some o := hw
    show ∃ id, Function.update s.waitsFor w none w' = some id ∧ _
    rw [Function.update_apply] at hw ⊢
    split at hw
    · cases hw
    next ne =>
      rw [if_neg ne]
      exact k.waits w' o hw

end Matches

end Ledger

end ObjectLocks
