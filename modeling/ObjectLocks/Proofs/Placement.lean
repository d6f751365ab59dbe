import Mathlib.Data.List.Basic
import ObjectLocks.Proofs.Runs

/-!
# Where fast-locked objects are

With fast-locking, three places tell how an object is locked: its header, the lock stacks of the
threads and the owner of its monitor. They change one after the other, and a thread may change the
header while the object is on the stack of another one. In every reachable system they fit together
in exactly one of four ways.
-/

namespace ObjectLocks

/-- Every use of the locks of objects, with any records: exits need not be balanced. -/
def anyUse : Rule := fun _ _ x => ∀ w a, x = .act w a → a.isDirect = false

instance (s : World) (h : List Event) (x : Move) : Decidable (anyUse s h x) :=
  inferInstanceAs (Decidable (∀ w a, x = .act w a → _))

/-- The ways in which the header, the lock stacks and the monitor of an object fit together. -/
inductive Placement where
  | unlocked
  | fastLocked
  /-- The owner of the monitor is the thread with the object on its lock stack. -/
  | anonymous
  /-- The monitor tells who its owner is. -/
  | inflated
deriving DecidableEq, Repr

namespace Machine

/-- No thread has the object on its lock stack. -/
def OnNoStack (m : Machine) (o : ObjectId) : Prop := ∀ t, (m.lockStack t).contains o = false

/-- One thread has the object on its lock stack: an attached one, or one that has detached since. -/
def OnOneStack (m : Machine) (past : List Event) (o : ObjectId) : Prop :=
  ∃ t, (∀ u, (m.lockStack u).contains o = true ↔ u = t) ∧ (t ∈ m.registry ∨ .detached t ∈ past)

/-- An object is placed in one of the ways. -/
def Placed (m : Machine) (past : List Event) (o : ObjectId) : Placement → Prop
  | .unlocked => (m.mark o).isUnlocked = true ∧ m.OnNoStack o
  | .fastLocked => (m.mark o).isFastLocked = true ∧ m.OnOneStack past o
  | .anonymous => (m.mark o).hasMonitor = true ∧
      ∃ id, FastLocking.readMonitor? m o (m.mark o) = some id ∧
        (m.monitor id).owner = .anonymous ∧ m.OnOneStack past o
  | .inflated => (m.mark o).hasMonitor = true ∧
      ∃ id, FastLocking.readMonitor? m o (m.mark o) = some id ∧
        (m.monitor id).owner ≠ .anonymous ∧ m.OnNoStack o

/-- What holds of a machine that fast-locks. -/
structure FastLocked (m : Machine) (past : List Event) : Prop where
  placed : ∀ o, ∃! p, m.Placed past o p
  room : ∀ t, (m.lockStack t).length ≤ 8
  /-- What lies between two entries of an object are entries of that object. -/
  consecutive : ∀ t o (i j k : Nat), i ≤ j → j ≤ k →
    (m.lockStack t).toList[i]? = some o → (m.lockStack t).toList[k]? = some o →
    (m.lockStack t).toList[j]? = some o
  unmarked : ∀ o, (m.mark o).bits ≠ .marked
  idle : ∀ id, (m.monitor id).owner = .nobody → (m.monitor id).recursions = 0
  /-- The monitor bits lead to a monitor of the object. -/
  linked : ∀ o, (m.mark o).hasMonitor = true → ∃ id < m.monitors.size,
    FastLocking.readMonitor? m o (m.mark o) = some id ∧ (m.monitor id).object = o

end Machine

namespace FastLocking

variable {m : Machine} {o : ObjectId} {l : List ObjectId} {past : List Event}

/-- A thread that has locked something is attached, or was. -/
def Accounted (v : LockView) (past : List Event) : Prop :=
  ∀ t, v.lockStack t ≠ [] → t ∈ v.registry ∨ .detached t ∈ past

/-- One run, as told by positions. -/
lemma Runs.getElem? (h : Runs l) {i j k : Nat} (ij : i ≤ j) (jk : j ≤ k) (hi : l[i]? = some o)
    (hk : l[k]? = some o) : l[j]? = some o := by
  rcases Nat.eq_or_lt_of_le ij with rfl | ij
  · exact hi
  rcases Nat.eq_or_lt_of_le jk with rfl | jk
  · exact hk
  obtain ⟨lt, ek⟩ := List.getElem?_eq_some_iff.1 hk
  have hj : j < l.length := Nat.lt_trans jk lt
  have before : [o].Sublist (l.take j) := by
    rw [List.singleton_sublist]
    exact List.mem_of_getElem? (i := i) (by rw [List.getElem?_take, if_pos ij, hi])
  have after : [o].Sublist (l.drop (j + 1)) := by
    rw [List.singleton_sublist]
    refine List.mem_of_getElem? (i := k - (j + 1)) ?_
    rw [List.getElem?_drop, Nat.add_sub_cancel' jk, hk]
  have between : [o, l[j], o].Sublist l := by
    conv => rhs; rw [← List.take_append_drop j l, List.drop_eq_getElem_cons hj]
    exact before.append (after.cons_cons _)
  rw [List.getElem?_eq_getElem hj, h o _ between]

/-- A header has the monitor bits if the object has a monitor. -/
lemma hasMonitor_iff (h : Coherent m.view) :
    (m.mark o).hasMonitor = true ↔ ∃ id, m.form o = .inflated id := by
  have hd := header h o
  cases hf : m.form o <;> rw [hf] at hd <;> cases hd <;> simp_all [Mark.hasMonitor, Mark.bits]

/-- An object that is not found on a lock stack is not there. -/
lemma contains_eq_false {t : ThreadId} :
    (m.lockStack t).contains o = false ↔ o ∉ m.view.lockStack t := by
  rw [Bool.eq_false_iff, ne_eq, LockStack.contains_iff]
  rfl

/-- An object is on no lock stack of the machine if it is on none in the view. -/
lemma onNoStack_iff : m.OnNoStack o ↔ OnNoStack m.view o :=
  forall_congr' fun _ => contains_eq_false

/-- The only thread with the object on its lock stack is attached or has been. -/
lemma onOneStack (threads : Accounted m.view past) (one : OnOneStack m.view o) :
    m.OnOneStack past o := by
  obtain ⟨t, mem, unique⟩ := one
  refine ⟨t, fun u => ?_, threads t (List.ne_nil_of_mem mem)⟩
  rw [LockStack.contains_iff]
  constructor
  · exact unique u
  · rintro rfl
    exact mem

/-- The header decides between three of the ways, and the owner of the monitor between the last
two. -/
lemma Coherent.existsUnique_placed (h : Coherent m.view) (threads : Accounted m.view past)
    (o : ObjectId) : ∃! p, m.Placed past o p := by
  have placed := h.placed o
  have unlocked := isUnlocked_iff h (o := o)
  have fast := isFastLocked_iff h (o := o)
  have inflated := hasMonitor_iff h (o := o)
  have read := readMonitor?_iff h (o := o)
  cases hf : m.view.form o with
  | unlocked =>
    replace hf : m.form o = .unlocked := hf
    refine ⟨.unlocked, ⟨unlocked.2 hf, onNoStack_iff.2 (placed.unlocked hf)⟩, fun p hp => ?_⟩
    cases p with
    | unlocked => rfl
    | fastLocked => cases hf.symm.trans (fast.1 hp.1)
    | anonymous | inflated =>
      obtain ⟨id, hi⟩ := inflated.1 hp.1
      cases hf.symm.trans hi
  | fast =>
    replace hf : m.form o = .fast := hf
    refine ⟨.fastLocked, ⟨fast.2 hf, onOneStack threads (placed.fast hf)⟩, fun p hp => ?_⟩
    cases p with
    | unlocked => cases hf.symm.trans (unlocked.1 hp.1)
    | fastLocked => rfl
    | anonymous | inflated =>
      obtain ⟨id, hi⟩ := inflated.1 hp.1
      cases hf.symm.trans hi
  | inflated id =>
    replace hf : m.form o = .inflated id := hf
    -- The header leads to one monitor only.
    have here {id'} (hr : readMonitor? m o (m.mark o) = some id') : id' = id :=
      Form.inflated.inj (((read id').1 hr).symm.trans hf)
    by_cases own : (m.monitor id).owner = .anonymous
    · refine ⟨.anonymous, ⟨inflated.2 ⟨id, hf⟩, id, (read id).2 hf, own,
        onOneStack threads (placed.anonymous hf own)⟩, fun p hp => ?_⟩
      cases p with
      | unlocked => cases hf.symm.trans (unlocked.1 hp.1)
      | fastLocked => cases hf.symm.trans (fast.1 hp.1)
      | anonymous => rfl
      | inflated =>
        obtain ⟨-, id', hr, named, -⟩ := hp
        exact absurd (here hr ▸ own) named
    · refine ⟨.inflated, ⟨inflated.2 ⟨id, hf⟩, id, (read id).2 hf, own,
        onNoStack_iff.2 (placed.inflated hf own)⟩, fun p hp => ?_⟩
      cases p with
      | unlocked => cases hf.symm.trans (unlocked.1 hp.1)
      | fastLocked => cases hf.symm.trans (fast.1 hp.1)
      | anonymous =>
        obtain ⟨-, id', hr, own', -⟩ := hp
        exact absurd (here hr ▸ own') own
      | inflated => rfl
  | stacked _ | invalid =>
    -- Headers of stack-locking have no place here.
    rw [Placed, hf] at placed
    exact placed.elim

/-- A machine that keeps the invariant is fast-locked as it should be. -/
lemma Coherent.fastLocked (h : Coherent m.view) (threads : Accounted m.view past) :
    m.FastLocked past where
  placed := h.existsUnique_placed threads
  room t := (m.lockStack t).top_le
  consecutive t o i j k ij jk hi hk := (h.runs t).getElem? ij jk hi hk
  unmarked o := by
    have hd := header h o
    cases hf : m.form o <;> rw [hf] at hd <;> cases hd <;> simp_all [Mark.bits]
  idle := h.idle
  linked o bits := by
    obtain ⟨id, hf⟩ := (hasMonitor_iff h).1 bits
    obtain ⟨lt, eq⟩ := h.linked o id hf
    exact ⟨id, lt, (readMonitor?_iff h id).2 hf, eq⟩

end FastLocking

namespace SystemView

variable {s s' : SystemView} {l : Label} {past : List Event}

/-- Every step keeps account of the threads. -/
lemma accounted_step (h : FastLocking.Accounted s.locks past) (sound : s.Sound)
    (told : ∀ w t, l = .detach w t → .detached t ∈ past) (c : Step s l s') :
    FastLocking.Accounted s'.locks past := by
  have lock {w t op e v} (ht : s.thread w = some t)
      (c : Steps (Locking.Change s.locks.mode t op) s.locks e v) :
      FastLocking.Accounted v past := by
    intro u locked
    rw [(registry_steps c).1]
    by_cases eq : u = t
    · exact .inl ((sound.registered u).2 ⟨w, eq ▸ ht⟩)
    · rw [lockStack_steps c eq] at locked
      exact h u locked
  cases c with
  | lock ht _ c _ => exact lock ht c
  | wait ht _ c _ => exact lock ht c
  | attach _ =>
    intro u locked
    simp only [LockView.attach_lockStack, Function.update_apply] at locked
    split at locked
    next => exact absurd rfl locked
    next => exact (h u locked).imp_left (List.mem_append_left _)
  | @detach w t _ _ =>
    intro u locked
    rcases h u locked with attached | detached
    · by_cases eq : u = t
      · exact .inr (eq ▸ told w t rfl)
      · refine .inl ((unregister_perm _ t).mem_iff.2 ?_)
        exact (List.mem_erase_of_ne eq).2 attached
    · exact .inr detached
  | _ => exact h

end SystemView

namespace Run

variable {options : Options} {s : World} {h : List Event}

/-- A run keeps the invariant and accounts for all threads that have locked something. -/
lemma accounted (run : Run anyUse options s h) :
    s.view.Sound ∧ s.view.locks.mode = options.mode ∧ FastLocking.Accounted s.view.locks h := by
  induction run with
  | new => exact ⟨World.sound_new options, rfl, fun t locked => absurd rfl locked⟩
  | @move s h x _ allowed ih =>
    obtain ⟨sound, mode, threads⟩ := ih
    -- A move that detaches a thread says so in the history that it leaves behind.
    let past := (s.label x).event?.toList ++ h
    have plain : ∀ w t, s.label x = .detach w t → .detached t ∈ past := by
      intro w t eq
      simp [past, eq, Label.event?]
    have path : SystemView.Path (fun _ l => ∀ w t, l = .detach w t → .detached t ∈ past) s.view
        (s.move x).1.view :=
      World.move_path sound allowed plain fun _ _ region w t eq => absurd eq (region.2 w t)
    refine ⟨path.sound sound, path.keeps sound mode fun _ mode _ c => c.mode.trans mode, ?_⟩
    refine path.keeps (P := fun v => FastLocking.Accounted v.locks past) sound
      (fun t locked => (threads t locked).imp_right (List.mem_append_right _)) ?_
    exact fun sound threads told c => SystemView.accounted_step threads sound told c

/-- The header, the lock stacks and the monitor of every object fit together in one of four ways. -/
theorem placement (run : Run anyUse options s h) (mode : options.mode = .lightweight) :
    s.machine.FastLocked h := by
  obtain ⟨sound, same, threads⟩ := run.accounted
  exact (sound.coherent.fast (same.trans mode)).fastLocked threads

/-- A thread locks an object twice, another one gives it a monitor, and the first one detaches. -/
def abandoned : World × List Event :=
  (World.new (.ofMode .lightweight)).follow []
    [.addWorker, .addWorker, .act 0 .attach, .act 1 .attach, .addRecord 0,
      .act 0 (.allocate "shared" ⟨"Counter", 1, false⟩), .act 0 (.enter 0 0 false),
      .act 0 (.enter 0 0 false), .act 1 (.inflate 0 .monitorEnter), .act 0 .detach]

/-- The entries of the thread that has detached stay in place. -/
theorem placement_abandoned : abandoned.1.machine.FastLocked abandoned.2 :=
  placement (.follow .new _ (by decide +kernel)) (rfl : (Options.ofMode _).mode = _)

end Run

end ObjectLocks
