import ObjectLocks.Proofs.IdentityHash
import ObjectLocks.Proofs.Scene

/-!
# Enters come to an end

An enter of a thread outside of all no-safepoint regions ends without a fault in every mode: it is
complete, or the thread waits. Lock stacks do not overflow, and there is always a monitor to fall
back on.
-/

namespace ObjectLocks

/-- The operation ends without a fault. -/
def Outcome.Ends {α : Type} (x : Outcome α) : Prop := ∃ a n, x = .ok a n

namespace Machine

variable {m n : Machine} {t : ThreadId} {o : ObjectId} {r : RecordId}

/-- Thread `t` is in no no-safepoint region. -/
def Unguarded (m : Machine) (t : ThreadId) : Prop := (m.thread t).guards = 0

/-- An alteration opens no guard. -/
lemma Alters.unguarded (h : m.Alters t n) {u : ThreadId} (unguarded : m.Unguarded u) :
    n.Unguarded u := (h.guards u).trans unguarded

/-- Entering a monitor ends without a fault. -/
lemma enterMonitor_ends (unguarded : m.Unguarded t) (id : MonitorId) :
    (m.enterMonitor t id).Ends := by
  unfold enterMonitor
  dsimp only
  split
  next => exact ⟨_, _, rfl⟩
  next x _ =>
    unfold checkSafepoint
    rw [if_pos (show ((Machine.note (m.setMonitor id _) _).thread t).guards = 0 from unguarded)]
    exact ⟨_, _, rfl⟩

end Machine

namespace FastLocking

variable {m : Machine} {t : ThreadId} {o : ObjectId} {r : RecordId}

/-- An enter through a monitor ends without a fault. -/
lemma enterInflated_ends (h : Coherent m.view) (marked : m.WellMarked)
    (unguarded : m.Unguarded t) (cause : InflationCause) :
    (enterInflated m t o r cause).Ends := by
  obtain ⟨id, n, inflates, -, ho⟩ := inflate_inflates (t := t) (.enter o r) h cause
  obtain ⟨k, claims, -⟩ := claimed_steps (t := t) (.enter o r) ho
  have inflated := inflate_alters (t := t) (o := o) h.mode marked cause
  have claimed := claimed_alters n t o id
  rw [show inflate m t o cause = _ from inflates] at inflated
  replace claims : (if (n.monitor id).hasAnonymousOwner && (n.lockStack t).contains o then
    claim n t o id else .ok () n) = .ok () k := claims
  rw [claims] at claimed
  unfold enterInflated
  rw [show inflate m t o cause = _ from inflates]
  dsimp only [Outcome.bind]
  rw [claims]
  have alters : m.Alters t (fillCache k r id) :=
    (Machine.Alters.trans inflated claimed).trans (fillCache_alters k t r id)
  exact Machine.enterMonitor_ends (alters.unguarded unguarded) id

/-- A fast-locking enter ends without a fault. -/
lemma enter_ends (h : Coherent m.view) (marked : m.WellMarked) (attached : t < m.nextThread)
    (unguarded : m.Unguarded t) : (enter m t o r).Ends := by
  have h := h.steps (clearCache_steps (t := t) (o := o) (r := r)) attached
  have cleared := clearCache_alters m t r
  have unguarded := cleared.unguarded unguarded
  have marked := cleared.marked marked
  unfold enter
  dsimp only
  generalize clearCache m r = n at h unguarded marked
  split
  next => exact ⟨_, _, rfl⟩
  next =>
    split
    next => exact enterInflated_ends h marked unguarded _
    next room =>
      split
      next free =>
        obtain ⟨k, locks, -⟩ := lockFast_steps (r := r) h ((isUnlocked_iff h).1 free.2)
          (by simpa using room)
        exact ⟨.entered, k, by rw [locks]; rfl⟩
      next => exact enterInflated_ends h marked unguarded _

end FastLocking

namespace StackLocking

open Machine (Carries)

variable {m : Machine} {t : ThreadId} {o : ObjectId} {r : RecordId}

/-- An enter through a monitor ends without a fault. -/
lemma enterInflated_ends (mode : m.options.mode ≠ .lightweight) (headed : m.WellHeaded)
    (free : ∀ p, m.mark p ≠ .record r) (unguarded : m.Unguarded t) (cause : InflationCause) :
    (enterInflated m t o r cause).Ends := by
  have unused : Carries none m (m.modifyRecord r .throughMonitor) :=
    Machine.carries_modifyRecord m r (.inl free)
  obtain ⟨id, n, inflates, -⟩ := inflate_carries (t := t) (o := o) (unused.options ▸ mode)
    (unused.headed headed) cause
  have inflated := inflate_alters (m := m.modifyRecord r .throughMonitor) (t := t) (o := o)
    mode cause
  rw [inflates] at inflated
  unfold enterInflated
  rw [inflates]
  exact Machine.enterMonitor_ends (Machine.Alters.unguarded inflated unguarded) id

/-- A stack-locking enter ends without a fault. -/
lemma enter_ends (mode : m.options.mode ≠ .lightweight) (headed : m.WellHeaded)
    (free : ∀ p, m.mark p ≠ .record r) (unguarded : m.Unguarded t) : (enter m t o r).Ends := by
  unfold enter
  split
  next => exact enterInflated_ends mode headed free unguarded _
  next light =>
    rcases tryStackLock_carries (t := t) (o := o) (legacy_of_ne mode light) headed free with
      ⟨n, locks, -⟩ | ⟨cause, refused⟩
    · exact ⟨.entered, n, by rw [locks]; rfl⟩
    · rw [refused]
      exact enterInflated_ends mode headed free unguarded cause

end StackLocking

section

variable {m : Machine} {t : ThreadId} {o : ObjectId} {r : RecordId}

/-- In every mode an enter ends without a fault. -/
lemma Locking.enter_ends (h : m.view.Coherent) (marked : m.WellMarked) (headed : m.WellHeaded)
    (attached : t < m.nextThread) (free : ∀ p, m.mark p ≠ .record r)
    (unguarded : m.Unguarded t) : (Locking.enter m t o r).Ends := by
  unfold Locking.enter
  split
  next mode => exact FastLocking.enter_ends (h.fast mode) marked attached unguarded
  next mode => exact StackLocking.enter_ends mode headed free unguarded

/-- The bookkeeping refuses no enter either. -/
lemma Machine.enter_ends (h : m.view.Coherent) (marked : m.WellMarked) (headed : m.WellHeaded)
    (attached : t < m.nextThread) (free : ∀ p, m.mark p ≠ .record r)
    (unguarded : m.Unguarded t) : (m.enter t o r).Ends := by
  have warned : m.Alters t (m.warnValueBased t o) := alters_warnValueBased
  have carries := carries_warnValueBased m t o
  have marks : (m.warnValueBased t o).mark = m.mark := by
    unfold warnValueBased
    split <;> rfl
  obtain ⟨entry, n, enters⟩ := Locking.enter_ends (m := m.warnValueBased t o) (o := o) (r := r)
    (by rwa [view_warnValueBased]) (warned.marked marked) (carries.headed headed)
    (warned.nextThread ▸ attached) (marks ▸ free) (warned.unguarded unguarded)
  refine ⟨entry, if entry = .entered then n.modifyThread t .gain else n, ?_⟩
  unfold enter checkSafepoint
  rw [if_pos (show (m.thread t).guards = 0 from unguarded)]
  dsimp only [Outcome.bind]
  rw [enters]

end

end ObjectLocks
