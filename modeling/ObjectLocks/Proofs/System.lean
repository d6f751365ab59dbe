import Mathlib.Data.List.Nodup
import ObjectLocks.Proofs.Locking
import ObjectLocks.World

/-!
# The view of a system

On top of the lock view, the view of a system has the thread of each worker and the monitor that it
waits for. Whatever a system does next is one of the steps below: a lock operation of one thread,
the end of a wait, or a worker or a record that comes or goes.
-/

namespace ObjectLocks

/-- The part of a system that locks depend on. -/
@[ext] structure SystemView where
  locks : LockView
  /-- The thread as which a worker is attached. -/
  thread : WorkerId → Option ThreadId
  /-- The monitor in whose queue a worker was last. -/
  waitsFor : WorkerId → Option MonitorId

/-- The monitor that is waited for. -/
def Wait.monitor? : Wait → Option MonitorId
  | monitor id _ _ => some id
  | barrier _ _ | turn _ | others => none

/-- The view of a world. -/
def World.view (s : World) : SystemView where
  locks := s.machine.view
  thread w := (s.worker w).thread
  waitsFor w := (s.worker w).wait.bind Wait.monitor?

/-- What a step of a system is. -/
inductive Label where
  /-- An operation of a thread, up to its end or up to where it waits. -/
  | lock (w : WorkerId) (t : ThreadId) (op : Operation) (e : Option Event)
  | detach (w : WorkerId) (t : ThreadId)
  | other
deriving DecidableEq, Repr

namespace SystemView

/-- What a system does next, as far as locks and the workers that wait for them are concerned. -/
inductive Step (s : SystemView) : Label → SystemView → Prop where
  | idle : Step s .other s
  | lock {w t op e v} :
    s.thread w = some t →
    s.waitsFor w = none →
    Steps (Locking.Change s.locks.mode t op) s.locks e v →
    (∀ o r, e ≠ some (.waits t o r)) →
    Step s (.lock w t op e) { s with locks := v }
  | wait {w t o r v id} :
    s.thread w = some t →
    s.waitsFor w = none →
    Steps (Locking.Change s.locks.mode t (.enter o r)) s.locks (some (.waits t o r)) v →
    v.form o = .inflated id →
    Step s (.lock w t (.enter o r) (some (.waits t o r)))
      { s with locks := v, waitsFor := Function.update s.waitsFor w (some id) }
  | resume {w t id} :
    s.thread w = some t →
    s.waitsFor w = some id →
    (s.locks.monitor id).owner = .thread t →
    Step s .other { s with waitsFor := Function.update s.waitsFor w none }
  | attach {w} :
    s.thread w = none →
    Step s .other { s with
      locks := s.locks.attach
      thread := Function.update s.thread w (some s.locks.nextThread) }
  /-- The number of a thread is used up. -/
  | skip : Step s .other { s with
      locks := { s.locks with nextThread := s.locks.nextThread + 1 } }
  | detach {w t} :
    s.thread w = some t →
    s.waitsFor w = none →
    Step s (.detach w t) { s with
      locks := { s.locks with registry := World.unregister s.locks.registry t }
      thread := Function.update s.thread w none }
  | newRecord {w} :
    Step s .other { s with
      locks := s.locks.setRecord s.locks.recordCount (.fresh w) }

/-- The invariant: the locks are coherent, and the registry has every attached thread once. -/
structure Sound (s : SystemView) : Prop where
  coherent : s.locks.Coherent
  registered : ∀ t, t ∈ s.locks.registry ↔ ∃ w, s.thread w = some t
  unique : ∀ w w' t, s.thread w = some t → s.thread w' = some t → w = w'
  nodup : s.locks.registry.Nodup
  attached : ∀ t, t ∈ s.locks.registry → t < s.locks.nextThread

variable {s s' : SystemView} {l : Label} {w : WorkerId} {t u : ThreadId}

/-- Every attached thread has a number that was given out. -/
lemma Sound.lt (h : s.Sound) (ht : s.thread w = some t) : t < s.locks.nextThread :=
  h.attached t ((h.registered t).2 ⟨w, ht⟩)

/-- Replacing an entry of a list takes it out and puts the new one in. -/
lemma replace_perm {l : List ThreadId} (mem : t ∈ l) : (l.replace t u).Perm (u :: l.erase t) := by
  induction l with
  | nil => cases mem
  | cons a l ih =>
    by_cases eq : a = t
    · subst eq
      simp
    · have mem' : t ∈ l := by
        rcases List.mem_cons.1 mem with e | mem
        · exact absurd e.symm eq
        · exact mem
      have ne : (t == a) = false := beq_eq_false_iff_ne.2 (Ne.symm eq)
      rw [List.replace_cons, ne, List.erase_cons_tail (by simpa using eq)]
      exact ((ih mem').cons a).trans (.swap u a _)

/-- A thread that leaves the registry leaves nothing else out of it. -/
lemma unregister_perm (l : List ThreadId) (t : ThreadId) :
    (World.unregister l t).Perm (l.erase t) := by
  unfold World.unregister
  rcases List.eq_nil_or_concat l with rfl | ⟨l, last, rfl⟩
  · exact .refl _
  · rw [List.concat_eq_append, List.getLast?_append, List.getLast?_singleton]
    dsimp only [Option.or]
    split
    next mem =>
      rw [List.dropLast_concat]
      by_cases inner : t ∈ l
      · rw [List.erase_append_left _ inner]
        exact (replace_perm inner).trans (List.perm_append_singleton _ _).symm
      · obtain rfl : t = last := by simpa [inner] using mem
        rw [List.erase_append_right _ inner, List.erase_cons_head, List.append_nil,
          List.replace_of_not_mem (by simpa using inner)]
    next out => rw [List.erase_of_not_mem out]

/-- Every number that a thread takes is new, so nothing is locked under it. -/
lemma coherent_attach {v : LockView} (h : v.Coherent) : v.attach.Coherent := by
  have same {α : Type} {f : ThreadId → List α} (fresh : ∀ t, v.nextThread ≤ t → f t = []) :
      Function.update f v.nextThread [] = f := by
    rw [← fresh v.nextThread (Nat.le_refl _), Function.update_eq_self]
  constructor <;> intro mode
  · have h := h.fast mode
    have same_stack : v.attach.lockStack = v.lockStack := same h.fresh
    refine ⟨mode, fun o => ?_, h.linked, h.idle, same_stack ▸ h.runs, same_stack ▸ h.room, h.cached,
      fun t le => same_stack ▸ h.fresh t (Nat.le_of_succ_le le)⟩
    exact (h.placed o).congr rfl (fun _ _ => rfl) fun t => by rw [same_stack]
  · have h := h.stack mode
    have records : v.attach.lockRecords = v.lockRecords := same h.fresh
    exact ⟨mode, h.plain, h.valid, h.linked, h.displaced, h.recorded, records ▸ h.registered,
      h.heavy, h.unused, fun t le => records ▸ h.fresh t (Nat.le_of_succ_le le)⟩

/-- A new record keeps the locks coherent. -/
lemma coherent_newRecord {v : LockView} (h : v.Coherent) (w : WorkerId) :
    (v.setRecord v.recordCount (.fresh w)).Coherent := by
  constructor <;> intro mode
  · have h := h.fast mode
    refine ⟨mode, h.placed, h.linked, h.idle, h.runs, h.room, fun r id cache => ?_, h.fresh⟩
    rw [LockView.setRecord_record, Function.update_apply] at cache
    split at cache
    next => cases cache
    next => exact h.cached r id cache
  · have h := h.stack mode
    have lt {r n} (h : r < v.recordCount) : r < max v.recordCount n :=
      Nat.lt_of_lt_of_le h (Nat.le_max_left ..)
    refine ⟨mode, h.plain, h.valid, h.linked, fun r => ?_, fun o r ho => lt (h.recorded o r ho),
      fun t r hr => lt (h.registered t r hr), h.heavy, fun heavy r => ?_, h.fresh⟩
    · rw [LockView.setRecord_record, Function.update_apply]
      split
      · exact .inr (.inl rfl)
      · exact h.displaced r
    · rw [LockView.setRecord_record, Function.update_apply]
      split
      · exact StackLocking.unused_ne
      · exact h.unused heavy r

/-- Who is attached has no part in it. -/
lemma coherent_threads {v : LockView} (h : v.Coherent) (registry : List ThreadId) {n : ThreadId}
    (le : v.nextThread ≤ n) : { v with registry := registry, nextThread := n }.Coherent := by
  constructor <;> intro mode
  · have h := h.fast mode
    exact ⟨mode, h.placed, h.linked, h.idle, h.runs, h.room, h.cached,
      fun t le' => h.fresh t (Nat.le_trans le le')⟩
  · have h := h.stack mode
    exact ⟨mode, h.plain, h.valid, h.linked, h.displaced, h.recorded, h.registered, h.heavy,
      h.unused, fun t le' => h.fresh t (Nat.le_trans le le')⟩

/-- No operation changes the mode or who is attached. -/
lemma registry_steps {v v' : LockView} {mode : LockingMode} {op : Operation} {e : Option Event}
    (c : Steps (Locking.Change mode t op) v e v') :
    v'.registry = v.registry ∧ v'.nextThread = v.nextThread ∧ v'.mode = v.mode := by
  refine c.keeps (P := fun u => u.registry = v.registry ∧ u.nextThread = v.nextThread ∧
    u.mode = v.mode) ⟨rfl, rfl, rfl⟩ fun ⟨registry, next, hm⟩ c => ?_
  unfold Locking.Change at c
  split at c
  · exact ⟨c.registry.trans registry, c.nextThread.trans next, c.mode.trans hm⟩
  · exact ⟨c.registry.trans registry, c.nextThread.trans next, c.mode.trans hm⟩

/-- No operation takes a record away, or gives it to another worker. -/
lemma records_steps {v v' : LockView} {mode : LockingMode} {op : Operation} {e : Option Event}
    (c : Steps (Locking.Change mode t op) v e v') :
    v.recordCount ≤ v'.recordCount ∧ ∀ r, (v'.record r).worker = (v.record r).worker := by
  refine c.keeps (P := fun u => v.recordCount ≤ u.recordCount ∧
    ∀ r, (u.record r).worker = (v.record r).worker) ⟨Nat.le_refl _, fun _ => rfl⟩
    fun ⟨count, worker⟩ c => ?_
  unfold Locking.Change at c
  split at c
  · exact ⟨Nat.le_trans count c.recordCount, fun r => (c.worker r).trans (worker r)⟩
  · exact ⟨Nat.le_trans count c.recordCount, fun r => (c.record r).1.trans (worker r)⟩

/-- No operation changes the lock stack of another thread. -/
lemma lockStack_steps {v v' : LockView} {mode : LockingMode} {op : Operation} {e : Option Event}
    (c : Steps (Locking.Change mode t op) v e v') (ne : u ≠ t) :
    v'.lockStack u = v.lockStack u := by
  refine c.keeps (P := fun w => w.lockStack u = v.lockStack u) rfl fun {x _ y} same c => ?_
  unfold Locking.Change at c
  split at c
  · exact (c.lockStack_of_ne ne).trans same
  · have same' : y.lockStack = x.lockStack := by cases c <;> rfl
    rw [same', same]

/-- A lock operation keeps a system sound. -/
lemma Sound.lock (h : s.Sound) (ht : s.thread w = some t) {v : LockView} {op : Operation}
    {e : Option Event} (c : Steps (Locking.Change s.locks.mode t op) s.locks e v)
    (waitsFor : WorkerId → Option MonitorId) :
    Sound { s with locks := v, waitsFor := waitsFor } := by
  obtain ⟨registry, next, -⟩ := registry_steps c
  refine ⟨h.coherent.steps c (h.lt ht), fun u => ?_, h.unique, ?_, fun u hu => ?_⟩
  · rw [show v.registry = _ from registry]
    exact h.registered u
  · rw [show v.registry = _ from registry]
    exact h.nodup
  · rw [show v.registry = _ from registry] at hu
    rw [show v.nextThread = _ from next]
    exact h.attached u hu

/-- A worker that attaches keeps a system sound. -/
lemma Sound.attach (h : s.Sound) (free : s.thread w = none) :
    Sound { s with
      locks := s.locks.attach
      thread := Function.update s.thread w (some s.locks.nextThread) } := by
  -- The number of the new thread has never been used.
  have new : s.locks.nextThread ∉ s.locks.registry := fun mem =>
    Nat.lt_irrefl _ (h.attached _ mem)
  have unused (w' : WorkerId) : s.thread w' ≠ some s.locks.nextThread := fun ht =>
    new ((h.registered _).2 ⟨w', ht⟩)
  have threads (w' : WorkerId) (u : ThreadId) :
      Function.update s.thread w (some s.locks.nextThread) w' = some u ↔
        w' = w ∧ s.locks.nextThread = u ∨ s.thread w' = some u := by
    by_cases eq : w' = w
    · subst eq
      rw [Function.update_self]
      simp [free]
    · rw [Function.update_of_ne eq]
      simp [eq]
  refine ⟨coherent_attach h.coherent, fun u => ?_, fun w₁ w₂ u h₁ h₂ => ?_, ?_, fun u hu => ?_⟩
  · show u ∈ s.locks.registry ++ [s.locks.nextThread] ↔ ∃ w', _
    rw [List.mem_append, List.mem_singleton, h.registered]
    simp only [threads]
    constructor
    · rintro (⟨w', hw⟩ | rfl)
      · exact ⟨w', .inr hw⟩
      · exact ⟨w, .inl ⟨rfl, rfl⟩⟩
    · rintro ⟨w', ⟨-, rfl⟩ | hw⟩
      · exact .inr rfl
      · exact .inl ⟨w', hw⟩
  · rcases (threads w₁ u).1 h₁ with ⟨e₁, n₁⟩ | k₁ <;>
      rcases (threads w₂ u).1 h₂ with ⟨e₂, n₂⟩ | k₂
    · exact e₁.trans e₂.symm
    · exact absurd (n₁ ▸ k₂) (unused w₂)
    · exact absurd (n₂ ▸ k₁) (unused w₁)
    · exact h.unique w₁ w₂ u k₁ k₂
  · refine List.Nodup.append h.nodup (by simp) fun u mem hu => new ?_
    rwa [← List.mem_singleton.1 hu]
  · rcases List.mem_append.1 hu with hu | hu
    · exact Nat.lt_succ_of_lt (h.attached u hu)
    · rw [List.mem_singleton.1 hu]
      exact Nat.lt_succ_self _

/-- A worker that detaches keeps a system sound. -/
lemma Sound.detach (h : s.Sound) (ht : s.thread w = some t) :
    Sound { s with
      locks := { s.locks with registry := World.unregister s.locks.registry t }
      thread := Function.update s.thread w none } := by
  have perm := unregister_perm s.locks.registry t
  have mem (u : ThreadId) :
      u ∈ World.unregister s.locks.registry t ↔ u ≠ t ∧ u ∈ s.locks.registry := by
    rw [perm.mem_iff, h.nodup.mem_erase_iff]
  have threads (w' : WorkerId) (u : ThreadId) :
      Function.update s.thread w none w' = some u ↔ w' ≠ w ∧ s.thread w' = some u := by
    by_cases eq : w' = w
    · subst eq
      simp
    · simp [eq]
  refine ⟨coherent_threads h.coherent _ (Nat.le_refl _), fun u => ?_, fun w₁ w₂ u h₁ h₂ => ?_,
    perm.nodup_iff.2 (h.nodup.erase t), fun u hu => h.attached u ((mem u).1 hu).2⟩
  · rw [show u ∈ LockView.registry _ ↔ _ from mem u, h.registered]
    simp only [threads]
    constructor
    · rintro ⟨ne, w', hw⟩
      refine ⟨w', fun eq => ne ?_, hw⟩
      rw [eq, ht] at hw
      exact (Option.some.inj hw).symm
    · rintro ⟨w', ne, hw⟩
      exact ⟨fun eq => ne (h.unique w' w t (eq ▸ hw) ht), w', hw⟩
  · exact h.unique w₁ w₂ u ((threads w₁ u).1 h₁).2 ((threads w₂ u).1 h₂).2

/-- Every step keeps the invariant. -/
lemma Step.sound (c : Step s l s') (h : s.Sound) : s'.Sound := by
  cases c with
  | idle => exact h
  | lock ht _ c _ => exact h.lock ht c _
  | wait ht _ c _ => exact h.lock ht c _
  | resume _ _ _ => exact ⟨h.coherent, h.registered, h.unique, h.nodup, h.attached⟩
  | attach free => exact h.attach free
  | skip =>
    exact ⟨coherent_threads h.coherent _ (Nat.le_succ _), h.registered, h.unique, h.nodup,
      fun u hu => Nat.lt_succ_of_lt (h.attached u hu)⟩
  | detach ht _ => exact h.detach ht
  | newRecord =>
    exact ⟨coherent_newRecord h.coherent _, h.registered, h.unique, h.nodup, h.attached⟩

/-- An operation takes no record away, and gives none to another worker. -/
lemma Step.records {op : Operation} {e : Option Event} (c : Step s (.lock w t op e) s') :
    s.locks.recordCount ≤ s'.locks.recordCount ∧
      ∀ r, (s'.locks.record r).worker = (s.locks.record r).worker := by
  cases c with
  | lock _ _ c _ => exact records_steps c
  | wait _ _ c _ => exact records_steps c

/-- No step changes the mode. -/
lemma Step.mode (c : Step s l s') : s'.locks.mode = s.locks.mode := by
  cases c with
  | lock _ _ c _ => exact (registry_steps c).2.2
  | wait _ _ c _ => exact (registry_steps c).2.2
  | _ => rfl

end SystemView

end ObjectLocks
