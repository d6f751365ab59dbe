import ObjectLocks.Proofs.FastLocking.Effects
import ObjectLocks.Proofs.Retention

/-!
# Monitors in fast-locking

Fast-locking makes a monitor only for an object whose header does not have the monitor bits, and
sets them in the same go. The table never has an entry for an object without them.
-/

namespace ObjectLocks.FastLocking

open Machine

variable {m : Machine} {t : ThreadId} {o : ObjectId} {r : RecordId} {id : MonitorId}

/-- The monitor of an object is the one that is read from its header. -/
lemma monitorOf?_eq (mode : m.options.mode = .lightweight) :
    m.monitorOf? o = readMonitor? m o (m.mark o) := by
  unfold monitorOf? Locking.readMonitor?
  rw [if_pos mode]

/-- Dropping an object retains the monitors. -/
lemma dropObject_retains (h : m.WellLinked) : m.Retains (m.dropObject t o) :=
  h.retains_modifyThread t _

/-- A fast lock that becomes a monitor changes its thread only. -/
lemma transfer_aside (m : Machine) (t : ThreadId) (o : ObjectId) (owner : Owner) :
    m.Aside (transfer m t o owner) := by
  unfold transfer
  split <;> exact ⟨rfl, rfl, rfl, rfl, rfl, rfl⟩

/-- The lock bits of a header change, but not to those of a monitor. -/
lemma retains_setBits (h : m.WellLinked) (mode : m.options.mode = .lightweight)
    (free : (m.mark o).hasMonitor = false) {b : LockBits} (other : b ≠ .monitor) :
    m.Retains (m.setMark o ((m.mark o).mapWord (·.withBits b))) := by
  refine h.retains_setMark free ?_ fun _ => mapWord_plain (h.plain mode o) _
  cases hk : m.mark o with
  | word w =>
    show ((w.withBits b).bits == .monitor) = false
    rw [LockWord.bits_withBits]
    exact beq_eq_false_iff_ne.2 other
  | record r => rfl
  | monitor id => rw [hk] at free; cases free

/-- An inline monitor is made for an object that has none, and then is the one of the object. -/
lemma inflateInline_monitors (h : m.WellLinked) (mode : m.options.mode = .lightweight)
    (table : m.options.useTable = false) (cause : InflationCause) :
    (inflateInline m t o cause).Monitors m o := by
  have leads : m.monitorOf? o = if (m.mark o).hasMonitor then (m.mark o).monitor? else none := by
    rw [monitorOf?_eq mode, readMonitor?, table]
    rfl
  unfold inflateInline
  dsimp only
  split
  next id found =>
    have has : (m.mark o).hasMonitor = true := by
      by_contra free
      rw [Mark.monitor?_eq_none (Bool.eq_false_iff.2 free)] at found
      cases found
    exact ⟨.refl h, by rw [leads, if_pos has, found]⟩
  next none =>
    have free := h.hasMonitor_eq_false (o := o) (by rw [leads, none, ite_self])
    rcases ownerAs m t o (m.mark o) with ⟨owner, c⟩
    dsimp only
    generalize hx : ({ (Monitor.new o).ownedBy owner c with header := _ } : Monitor) = x
    obtain ⟨retains, leads⟩ := h.retains_installed table free (x := x) (by rw [← hx]; rfl)
    -- What is left of the inflation happens next to the locks.
    have same := transfer_aside ((m.addMonitor x).2.setMark o (.monitor m.monitors.size)) t o owner
    have kept := retains.linked.retains_aside (n := { (transfer ((m.addMonitor x).2.setMark o
        (.monitor m.monitors.size)) t o owner).note (.inflatedInline t o owner cause) with
          inlineMonitors := m.monitors.size :: (transfer ((m.addMonitor x).2.setMark o
            (.monitor m.monitors.size)) t o owner).inlineMonitors })
      ⟨same.options, same.heap, same.records, same.monitors, congrArg (_ :: ·) same.listed,
        same.table⟩
    exact ⟨retains.trans kept, kept.keeps retains.linked leads⟩

/-- A new monitor that the table gives to an object, whose header gets the monitor bits. -/
lemma retains_enrolled (h : m.WellLinked) (table : m.options.useTable = true)
    (free : (m.mark o).hasMonitor = false) {monitors : Store Monitor}
    (made : monitors.size = m.monitors.size + 1)
    (object : ∀ id, (monitors.get id).object =
      if id = m.monitors.size then o else (m.monitor id).object) :
    let n := { m.setMark o ((m.mark o).mapWord .setMonitor) with
      monitors := monitors
      table := m.table.insert o m.monitors.size }
    m.Retains n ∧ n.monitorOf? o = some m.monitors.size := by
  intro n
  have mode : m.options.mode = .lightweight := h.tables table
  have plain := h.plain mode o
  have mark : n.mark = Function.update m.mark o ((m.mark o).mapWord .setMonitor) :=
    mark_setMark m o _
  -- The monitor bits of the header lead to the table, and the table to the new monitor.
  have leads : n.monitorOf? o = some m.monitors.size := by
    have found : n.table.get? o = some m.monitors.size := by
      show (m.table.insert o m.monitors.size).get? o = _
      rw [get?_insert, if_pos rfl]
    rw [monitorOf?_eq (m := n) mode, mark, Function.update_self, readMonitor?,
      if_pos (hasMonitor_mapWord plain), found]
    exact if_pos table
  refine ⟨.of_made h rfl rfl free leads ?_ ?_ ?_ ?_ made ?_ object, leads⟩
  · rw [mark, Function.update_self]
    exact fun _ => mapWord_plain plain _
  · rw [mark, Function.update_self]
    cases hk : m.mark o with
    | word _ | record _ => intro _ eq; cases eq
    | monitor id => rw [hk] at free; cases free
  · intro p ne
    rw [mark, Function.update_of_ne ne]
  · intro p ne
    show (m.table.insert o m.monitors.size).get? p = _
    rw [get?_insert, if_neg ne]
  · unfold monitorCount
    rw [show n.options.useTable = true from table, table]
    rfl

/-- Whether its owner is set or not, the new monitor is the object's. -/
lemma enrolled_owned (m : Machine) (o : ObjectId) (owner : Owner) (c : UInt64) (fast : Bool) :
    ∃ monitors : Store Monitor, (if fast then (enrolled m o).setMonitor m.monitors.size
        (((enrolled m o).monitor m.monitors.size).ownedBy owner c) else enrolled m o) =
          { enrolled m o with monitors := monitors } ∧ monitors.size = m.monitors.size + 1 ∧
      ∀ id, (monitors.get id).object =
        if id = m.monitors.size then o else (m.monitor id).object := by
  have size : (enrolled m o).monitors.size = m.monitors.size + 1 := Store.size_push ..
  have object (id : MonitorId) : ((enrolled m o).monitors.get id).object =
      if id = m.monitors.size then o else (m.monitor id).object := by
    show ((m.monitors.push (.new o)).get id).object = _
    rw [Store.get_push, Function.update_apply]
    split <;> rfl
  cases fast with
  | true =>
    refine ⟨_, rfl, ?_, fun id => ?_⟩
    · rw [Store.size_set, size, Nat.max_self]
    · rw [Store.get_set, Function.update_apply]
      split
      next eq => exact (object m.monitors.size).trans (if_pos rfl)
      next ne => exact (object id).trans (if_neg ne)
  | false => exact ⟨_, rfl, size, object⟩

/-- A monitor in the table is made for an object that has none, and then is the one of the object.
-/
lemma inflateIntoTable_monitors (h : m.WellLinked) (table : m.options.useTable = true)
    (cause : InflationCause) : (inflateIntoTable m t o cause).Monitors m o := by
  have mode : m.options.mode = .lightweight := h.tables table
  have leads : m.monitorOf? o = if (m.mark o).hasMonitor then m.table.get? o else none := by
    rw [monitorOf?_eq mode, readMonitor?, table]
    rfl
  cases found : m.table.get? o with
  | some id =>
    have has := h.entered o id found
    simp only [inflateIntoTable, tableMonitor, found, has, if_true]
    exact ⟨.refl h, by rw [leads, if_pos has, found]⟩
  | none =>
    have free := h.hasMonitor_eq_false (o := o) (by rw [leads, found, ite_self])
    have made : tableMonitor m o = (m.monitors.size, enrolled m o) := by
      unfold tableMonitor
      rw [found]
      rfl
    have mark : (enrolled m o).mark o = m.mark o := rfl
    unfold inflateIntoTable
    simp only [made, mark, free, Bool.false_eq_true, if_false]
    rcases ownerAs (enrolled m o) t o (m.mark o) with ⟨owner, c⟩
    obtain ⟨monitors, eq, size, object⟩ := enrolled_owned m o owner c (m.mark o).isFastLocked
    dsimp only
    rw [eq]
    obtain ⟨retains, leads⟩ := retains_enrolled h table free size object
    have same := transfer_aside ({ enrolled m o with monitors := monitors }.setMark o
      ((m.mark o).mapWord .setMonitor)) t o owner
    have kept := retains.linked.retains_aside same
    have noted := kept.linked.retains_note (.inflatedIntoTable t o owner cause)
    exact ⟨retains.trans (kept.trans noted),
      noted.keeps kept.linked (kept.keeps retains.linked leads)⟩

/-- An inflation retains the monitors and gives the object the one that it answers. -/
lemma inflate_monitors (h : m.WellLinked) (mode : m.options.mode = .lightweight)
    (cause : InflationCause) : (inflate m t o cause).Monitors m o := by
  unfold inflate
  split
  next table => exact inflateIntoTable_monitors h table cause
  next table => exact inflateInline_monitors h mode (Bool.eq_false_iff.2 table) cause

/-- A claim retains the monitors. -/
lemma claim_retains (h : m.WellLinked) : (claim m t o id).Retains m := by
  have dropped := dropObject_retains (t := t) (o := o) h
  unfold claim
  dsimp only
  split
  · exact dropped
  · exact (dropped.linked.claimMonitor_retains _).after dropped

/-- Clearing a cache retains the monitors. -/
lemma clearCache_retains (h : m.WellLinked) (r : RecordId) : m.Retains (clearCache m r) := by
  unfold clearCache
  split
  · exact h.retains_modifyRecord (h.displaced r)
  · exact .refl h

/-- Filling a cache retains the monitors. -/
lemma fillCache_retains (h : m.WellLinked) (r : RecordId) (id : MonitorId) :
    m.Retains (fillCache m r id) := by
  unfold fillCache
  split
  · exact h.retains_modifyRecord (h.displaced r)
  · exact .refl h

/-- An enter through a monitor retains the monitors. -/
lemma enterInflated_retains (h : m.WellLinked) (mode : m.options.mode = .lightweight)
    (cause : InflationCause) : (enterInflated m t o r cause).Retains m := by
  have inflated := inflate_monitors (t := t) (o := o) h mode cause
  refine inflated.retains.bind fun id n eq h' => ?_
  have lt := inflated.lt eq
  have claimed : (if (n.monitor id).hasAnonymousOwner && (n.lockStack t).contains o then
      claim n t o id else .ok () n).Retains n := by
    split
    · exact claim_retains h'
    · exact Retains.refl h'
  have made := claimed.made
  refine claimed.bind fun _ k eq h'' => ?_
  rw [eq] at made
  have filled := fillCache_retains h'' r id
  have lt' := Nat.lt_of_lt_of_le lt (Nat.le_trans made filled.made)
  exact (filled.linked.enterMonitor_retains lt').after filled

/-- Taking a fast lock retains the monitors. -/
lemma lockFast_retains (h : m.WellLinked) (mode : m.options.mode = .lightweight)
    (unlocked : (m.mark o).isUnlocked = true) : (lockFast m t o).Retains m := by
  have locked := retains_setBits h mode (hasMonitor_of_isUnlocked unlocked) (b := .locked) nofun
  exact locked.linked.pushObject_retains.after locked

/-- An enter retains the monitors. -/
lemma enter_retains (h : m.WellLinked) (mode : m.options.mode = .lightweight) :
    (enter m t o r).Retains m := by
  have cleared := clearCache_retains h r
  unfold enter
  dsimp only
  generalize clearCache m r = n at cleared
  have mode' : n.options.mode = .lightweight := cleared.options ▸ mode
  refine Outcome.Retains.after ?_ cleared
  split
  next s _ => exact cleared.linked.retains_modifyThread t _
  next =>
    split
    next => exact enterInflated_retains cleared.linked mode' _
    next =>
      split
      next free => exact (lockFast_retains cleared.linked mode' free.2).map _
      next => exact enterInflated_retains cleared.linked mode' _

/-- A quick enter retains the monitors. -/
lemma quickEnter_retains (h : m.WellLinked) (mode : m.options.mode = .lightweight) :
    (quickEnter m t o r).Retains m := by
  have cleared := clearCache_retains h r
  unfold quickEnter
  dsimp only
  generalize clearCache m r = n at cleared
  have mode' : n.options.mode = .lightweight := cleared.options ▸ mode
  refine Outcome.Retains.after ?_ cleared
  split
  next s _ => exact cleared.linked.retains_modifyThread t _
  next =>
    split
    next free =>
      split
      next => exact Retains.refl cleared.linked
      next => exact (lockFast_retains cleared.linked mode' free).map _
    next =>
      split
      next id found =>
        have lt := cleared.linked.lt ((monitorOf?_eq mode').trans found)
        refine (cleared.linked.tryEnterMonitor_retains lt).bind fun entered k _ h' => ?_
        show k.Retains _
        split
        · exact fillCache_retains h' r id
        · exact .refl h'
      next => exact Retains.refl cleared.linked

/-- An exit through a monitor retains the monitors. -/
lemma exitInflated_retains (h : m.WellLinked) : (exitInflated m t o id).Retains m := by
  unfold exitInflated
  dsimp only
  refine Outcome.Retains.bind ?_ fun _ n _ h' => ?_
  · split
    · split
      · exact claim_retains h
      · exact h.illegalExit_retains
    · exact Retains.refl h
  · split
    · exact h'.exitMonitor_retains
    · exact h'.illegalExit_retains

/-- An exit retains the monitors. -/
lemma exit_retains (h : m.WellLinked) (mode : m.options.mode = .lightweight) :
    (exit m t o r).Retains m := by
  unfold exit
  split
  next s _ => exact h.retains_modifyThread t _
  next =>
    dsimp only
    split
    next held =>
      have free := hasMonitor_of_isFastLocked (Bool.and_eq_true_iff.1 held).2
      have unlocked := retains_setBits h mode free (b := .unlocked) (by decide)
      exact unlocked.trans (dropObject_retains unlocked.linked)
    next =>
      split
      next => exact exitInflated_retains h
      next => exact h.illegalExit_retains

/-- Asking for the identity hash retains the monitors. -/
lemma identityHash_retains (h : m.WellLinked) : (identityHash m t o).Retains m := by
  unfold identityHash
  split
  next id hk => exact h.monitorHash_retains (h.lt (h.address o id hk))
  next w hk =>
    split
    next => exact Retains.refl h
    next => exact h.retains_hashed t hk _
  next => exact Retains.refl h

end ObjectLocks.FastLocking
