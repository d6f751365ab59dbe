import ObjectLocks.Proofs.Refinement

/-!
# Careful use with synchronized regions

A synchronized region begins with an enter, for which it makes a lock record of its own, and ends
with the exit that undoes it. So regions have their part in the history of a system, which leads to
its locks as it does without them.
-/

namespace ObjectLocks

open SystemView (Step Path)

namespace World

/-- Careful use of the locks leads from a world with its history to another one. A synchronized
region begins with a record that is not in use, and ends when its enter is the latest one of the
thread, whether its body fails or not. -/
inductive LeadsTo (address : RecordId → UInt64) (s : World) (h : List Event) :
    World → List Event → Prop where
  | refl : LeadsTo address s h s h
  | move {s' h' x} :
    LeadsTo address s h s' h' →
    careful address Nested s' h' x →
    LeadsTo address s h (s'.move x).1 ((s'.label x).event?.toList ++ h')
  | beginRegion {s' h' w t o} :
    LeadsTo address s h s' h' →
    (s'.worker w).thread = some t →
    (s'.worker w).wait = none →
    Unused address (pending h') (.enter o s'.machine.records.size) →
    LeadsTo address s h (s'.beginSynchronized w t o).1 ((s'.beginEvent? w t o).toList ++ h')
  | endRegion {s' h' w t o r rest regions result} :
    LeadsTo address s h s' h' →
    (s'.worker w).thread = some t →
    (s'.worker w).wait = none →
    (s'.worker w).regions = .synchronized o r :: regions →
    pending h' t = (o, r) :: rest →
    LeadsTo address s h (s'.endSynchronized w t result).1 (.exited t o r :: h')

variable {address : RecordId → UInt64} {s s' : World} {h h' : List Event} {L : Locks}
  {w : WorkerId} {t : ThreadId} {o : ObjectId} {r : RecordId} {id : MonitorId}

/-- A sequence of moves, each careful, is a careful use. -/
lemma LeadsTo.follow (l : LeadsTo address s h s' h') (moves : List Move)
    (allowed : Rule.Allows (careful address Nested) s' h' moves) :
    LeadsTo address s h (s'.follow h' moves).1 (s'.follow h' moves).2 := by
  induction moves generalizing s' h' with
  | nil => exact l
  | cons x moves ih => exact ih (l.move allowed.1) allowed.2

/-- The enter at the begin of a region leads to the locks that its event, if any, leads to. -/
lemma beginSynchronized_tracks (k : s.view.Tracks address h L) (ht : (s.worker w).thread = some t)
    (free : (s.worker w).wait = none)
    (new : Unused address (pending h) (.enter o s.machine.records.size)) :
    ∃ L', (s.beginSynchronized w t o).1.view.Tracks address
      ((s.beginEvent? w t o).toList ++ h) L' := by
  let n := (s.addRecord w).2
  have hn : n.view = { s.view with
      locks := s.view.locks.setRecord s.view.locks.recordCount (.fresh w) } := view_addRecord s w
  have added : n.view.Tracks address h L := hn ▸ k.newRecord w
  have step {v v' : SystemView} {L : Locks} {e : Option Event} (k : v.Tracks address h L)
      (count : n.view.locks.recordCount ≤ v.locks.recordCount)
      (c : Step v (.lock w t (.enter o s.machine.records.size) e) v') :
      ∃ L', v'.Tracks address (e.toList ++ h) L' := by
    refine k.step c ⟨Nat.lt_of_lt_of_le ?_ count, new, trivial⟩ (fun _ _ _ => id)
      fun _ _ => Nested.inReverse
    rw [hn]
    exact Nat.lt_of_lt_of_le (Nat.lt_succ_self _) (Nat.le_max_right ..)
  rcases beginSynchronized_enters k.sound ht (waitsFor_of_wait free) with c | ⟨v, vain, c⟩
  · exact step added (Nat.le_refl _) c
  · obtain ⟨L', k'⟩ := step added (Nat.le_refl _) vain
    exact step k' vain.records.1 c

/-- The exit at the end of a region undoes its enter. -/
lemma endSynchronized_tracks (k : s.view.Tracks address h L) (ht : (s.worker w).thread = some t)
    (free : (s.worker w).wait = none) {regions : List Region}
    (inside : (s.worker w).regions = .synchronized o r :: regions)
    {rest : List (ObjectId × RecordId)} (latest : pending h t = (o, r) :: rest)
    (result : Progress) :
    ∃ L', (s.endSynchronized w t result).1.view.Tracks address (.exited t o r :: h) L' := by
  obtain ⟨e, ends, c⟩ := endSynchronized_exits k.sound ht (waitsFor_of_wait free) inside result
  obtain ⟨L', k'⟩ := k.step c ⟨trivial, trivial, rest, latest⟩
    (fun _ l op (nested : Nested l op) => nested) fun _ _ => Nested.inReverse
  rcases ends with rfl | rfl
  · exact ⟨L', k'⟩
  · -- The thread has the enter pending, so that the exit is not rejected.
    have replays : (replay h).bind (Event.apply · (.rejected t o r)) = some L' := k'.replays
    rw [k.replays] at replays
    cases replays

/-- Careful use keeps to the locks that the history leads to. -/
lemma LeadsTo.tracks (l : LeadsTo address s h s' h') (k : s.view.Tracks address h L) :
    ∃ L', s'.view.Tracks address h' L' := by
  induction l with
  | refl => exact ⟨L, k⟩
  | move _ allowed ih =>
    obtain ⟨L', k'⟩ := ih
    exact k'.step (move_step k'.sound allowed.1) allowed.2 (fun _ _ _ => id)
      fun _ _ => Nested.inReverse
  | beginRegion _ ht free new ih =>
    obtain ⟨L', k'⟩ := ih
    exact beginSynchronized_tracks k' ht free new
  | endRegion _ ht free inside latest ih =>
    obtain ⟨L', k'⟩ := ih
    exact endSynchronized_tracks k' ht free inside latest _

/-- No step takes the monitor from an object. -/
lemma inflated_step {v v' : SystemView} {l : Label} (c : Step v l v') (sound : v.Sound)
    (ho : v.locks.form o = .inflated id) : v'.locks.form o = .inflated id := by
  cases c with
  | lock ht _ c _ => exact inflated_steps sound.coherent (sound.lt ht) c ho
  | wait ht _ c _ => exact inflated_steps sound.coherent (sound.lt ht) c ho
  | _ => exact ho

/-- Careful use never takes the monitor from an object. -/
lemma LeadsTo.inflated (l : LeadsTo address s h s' h') (k : s.view.Tracks address h L)
    (ho : s.machine.form o = .inflated id) : s'.machine.form o = .inflated id := by
  induction l with
  | refl => exact ho
  | move l allowed ih =>
    obtain ⟨L', k'⟩ := l.tracks k
    exact inflated_step (move_step k'.sound allowed.1) k'.sound ih
  | beginRegion l ht free _ ih =>
    obtain ⟨L', k'⟩ := l.tracks k
    exact (beginSynchronized_path k'.sound ht (waitsFor_of_wait free)).keeps k'.sound ih
      fun sound ho _ c => inflated_step c sound ho
  | endRegion l ht free _ _ ih =>
    obtain ⟨L', k'⟩ := l.tracks k
    exact (endSynchronized_path k'.sound ht (waitsFor_of_wait free) _).keeps k'.sound ih
      fun sound ho _ c => inflated_step c sound ho

end World

namespace Run

variable {address : RecordId → UInt64} {options : Options} {s : World} {h : List Event}

/-- A careful run is a careful use without regions. -/
lemma leadsTo (run : Run (careful address Nested) options s h) :
    (World.new options).LeadsTo address [] s h := by
  induction run with
  | new => exact .refl
  | move _ allowed ih => exact ih.move allowed

end Run

end ObjectLocks
