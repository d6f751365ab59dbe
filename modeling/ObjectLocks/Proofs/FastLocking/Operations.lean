import ObjectLocks.Proofs.FastLocking.Coherence

/-!
# The operations of fast-locking

Every operation of fast-locking is described by the changes that it makes. The operations are
unfolded here and nowhere else.
-/

namespace ObjectLocks.FastLocking

variable {m : Machine} {t : ThreadId} {o : ObjectId} {r : RecordId} {op : Operation}

/-- How the header and the table of a system give an object its form. -/
inductive Header (m : Machine) (o : ObjectId) : Form → Prop where
  | unlocked {w} :
    m.mark o = .word w → w.bits = .unlocked → (m.options.useTable → m.table.get? o = none) →
    Header m o .unlocked
  | fast {w} :
    m.mark o = .word w → w.bits = .locked → (m.options.useTable → m.table.get? o = none) →
    Header m o .fast
  | inline {id} :
    m.options.useTable = false → m.mark o = .monitor id → Header m o (.inflated id)
  | table {id w} :
    m.options.useTable = true → m.table.get? o = some id → m.mark o = .word w →
    w.bits = .monitor → Header m o (.inflated id)

/-- Every object has the form that its header and the table give it. -/
lemma header (h : Coherent m.view) (o : ObjectId) : Header m o (m.form o) := by
  have mode : m.options.mode = .lightweight := h.mode
  have valid : m.form o ≠ .invalid := h.valid o
  generalize e : m.form o = f at valid
  simp only [Machine.form, Form.ofMark, mode, if_true] at e
  split at e
  next table =>
    split at e
    next w hw hg =>
      split at e
      next hb => subst e; exact .unlocked hw hb fun _ => hg
      next hb => subst e; exact .fast hw hb fun _ => hg
      next => exact absurd e.symm valid
    next w id hw hg =>
      split at e
      next hb => subst e; exact .table table hg hw hb
      next => exact absurd e.symm valid
    next => exact absurd e.symm valid
  next table =>
    split at e
    next w hw =>
      split at e
      next hb => subst e; exact .unlocked hw hb fun h => absurd h table
      next hb => subst e; exact .fast hw hb fun h => absurd h table
      next => exact absurd e.symm valid
    next id hw => subst e; exact .inline (by simpa using table) hw
    next => exact absurd e.symm valid

/-- The lock bits of a header are those of an unlocked object if its form is. -/
lemma isUnlocked_iff (h : Coherent m.view) :
    (m.mark o).isUnlocked = true ↔ m.form o = .unlocked := by
  have hd := header h o
  cases hf : m.form o <;> rw [hf] at hd <;> cases hd <;> simp_all [Mark.isUnlocked, Mark.bits]

/-- The lock bits of a header are those of a fast lock if its form is. -/
lemma isFastLocked_iff (h : Coherent m.view) :
    (m.mark o).isFastLocked = true ↔ m.form o = .fast := by
  have hd := header h o
  cases hf : m.form o <;> rw [hf] at hd <;> cases hd <;> simp_all [Mark.isFastLocked, Mark.bits]

/-- The monitor that is read from the header of an object is the one of its form. -/
lemma readMonitor?_iff (h : Coherent m.view) (id : MonitorId) :
    readMonitor? m o (m.mark o) = some id ↔ m.form o = .inflated id := by
  have hd := header h o
  cases hf : m.form o <;> rw [hf] at hd <;> cases hd <;>
    simp_all [readMonitor?, Mark.hasMonitor, Mark.bits, Mark.monitor?]

/-- A fast lock that becomes a monitor of its own thread leaves the lock stack. -/
lemma view_transfer (owner : Owner) : (transfer m t o owner).view =
    if owner = .thread t then m.view.dropObject t o else m.view := by
  unfold transfer
  split <;> simp

/-- An object that is not counted is not on the lock stack. -/
lemma count_eq_zero : (m.lockStack t).count o = 0 ↔ o ∉ m.view.lockStack t := by
  rw [LockStack.count_eq, List.count_eq_zero]
  rfl

/-- The new monitor of an object, as the header and the lock stack of the thread tell. -/
lemma ownerAs_change (h : Coherent m.view) (free : ∀ id, m.form op.object ≠ .inflated id)
    (w : LockWord) {owner recursions}
    (own : ownerAs m t op.object (m.mark op.object) = (owner, recursions)) :
    Change t op m.view none
      (let x := { (Monitor.new op.object).ownedBy owner recursions with header := w }
       let v := m.view.inflate op.object x
       if owner = .thread t then v.dropObject t op.object else v) := by
  unfold ownerAs at own
  cases hf : m.form op.object with
  | unlocked =>
    rw [if_neg (by rw [isFastLocked_iff h, hf]; exact nofun)] at own
    cases own
    exact .inflateFree hf
  | fast =>
    rw [if_pos (by rw [isFastLocked_iff h, hf])] at own
    split at own
    next none =>
      cases own
      exact .inflateOther hf (count_eq_zero.1 none)
    next n held =>
      -- The first entry is the first enter, the others are its recursions.
      cases own
      have mem : op.object ∈ m.view.lockStack t := by
        by_contra out
        rw [count_eq_zero.2 out] at held
        cases held
      have eq : n = (m.view.lockStack t).count op.object - 1 := by
        rw [LockStack.count_eq] at held
        show n = (m.lockStack t).toList.count op.object - 1
        omega
      subst eq
      simpa using Change.inflateOwn (w := w) hf mem
  | inflated id => exact absurd hf (free id)
  | stacked _ | invalid =>
    have hd := header h op.object
    rw [hf] at hd
    cases hd

/-- An inline monitor whose address is put into the header is the new monitor of the object. -/
lemma view_install (mode : m.options.mode = .lightweight) (table : m.options.useTable = false)
    (x : Monitor) :
    ((m.addMonitor x).2.setMark o (.monitor m.monitors.size)).view = m.view.inflate o x := by
  have e : Form.ofMark (m.addMonitor x).2.options ((m.addMonitor x).2.table.get? o)
      (.monitor m.monitors.size) = .inflated m.monitors.size := by
    simp [Form.ofMark, Machine.addMonitor, mode, table]
  rw [Machine.view_setMark, Machine.view_addMonitor, e]
  rfl

/-- An inflation makes silent changes, and then the object has the monitor that it answers. -/
def Inflates (t : ThreadId) (op : Operation) (m : Machine) (x : Outcome MonitorId) : Prop :=
  ∃ id m', x = .ok id m' ∧ Steps (Change t op) m.view none m'.view ∧
    m'.view.form op.object = .inflated id

/-- Making an inline monitor is a silent change, unless the object has one already. -/
lemma inflateInline_inflates (h : Coherent m.view) (table : m.options.useTable = false)
    (cause : InflationCause) : Inflates t op m (inflateInline m t op.object cause) := by
  have hd := header h op.object
  unfold inflateInline
  cases hk : (m.mark op.object).monitor? with
  | some id =>
    simp only [hk]
    refine ⟨id, m, rfl, .refl, ?_⟩
    show m.form op.object = _
    rw [← readMonitor?_iff h]
    cases hm : m.mark op.object <;>
      simp_all [readMonitor?, Mark.monitor?, Mark.hasMonitor, Mark.bits]
  | none =>
    have free : ∀ id, m.form op.object ≠ .inflated id := by
      intro id hf
      rw [hf] at hd
      cases hd <;> simp_all [Mark.monitor?]
    rcases own : ownerAs m t op.object (m.mark op.object) with ⟨owner, recursions⟩
    simp only [hk, own]
    generalize (if (m.mark op.object).isFastLocked then _ else _ : LockWord) = w
    have c := ownerAs_change h free w own
    generalize ({ (Monitor.new op.object).ownedBy owner recursions with header := w } : Monitor) = x
      at c
    let n := (m.addMonitor x).2.setMark op.object (.monitor m.monitors.size)
    have e : (transfer n t op.object owner).view =
        let v := m.view.inflate op.object x
        if owner = .thread t then v.dropObject t op.object else v := by
      rw [view_transfer, view_install h.mode table]
    refine ⟨_, _, rfl, .single (e.symm ▸ c), ?_⟩
    show (transfer n t op.object owner).view.form op.object = _
    rw [e]
    dsimp only
    split <;> exact Function.update_self ..

/-- An entry that is added to the table is found there, and so are the others. -/
lemma get?_insert (t : MonitorTable) (o p : ObjectId) (id : MonitorId) :
    (t.insert o id).get? p = if p = o then some id else t.get? p := by
  by_cases eq : p = o
  · simp [MonitorTable.get?, MonitorTable.insert, eq]
  · simp [MonitorTable.get?, MonitorTable.insert, List.lookup_cons, eq, beq_eq_false_iff_ne.2 eq]

/-- The machine with a new monitor in the table that no header leads to yet. -/
def enrolled (m : Machine) (o : ObjectId) : Machine :=
  { (m.addMonitor (.new o)).2 with table := m.table.insert o m.monitors.size }

/-- A monitor in the table becomes the one of its object with the monitor bits of the header. -/
lemma view_enrolled (mode : m.options.mode = .lightweight) (table : m.options.useTable = true)
    (w : LockWord) :
    ((enrolled m o).setMark o (.word w.setMonitor)).view = m.view.inflate o (.new o) := by
  ext1 <;> try rfl
  · funext p
    rw [Machine.view_setMark]
    by_cases eq : p = o
    · subst eq
      have e : (m.table.insert p m.monitors.size).get? p = some m.monitors.size := by
        rw [get?_insert, if_pos rfl]
      simp only [LockView.setForm_form, LockView.inflate, Function.update_self]
      show Form.ofMark m.options ((m.table.insert p m.monitors.size).get? p) _ = _
      rw [e]
      simp [Form.ofMark, mode, table, LockWord.setMonitor, Machine.view]
    · simp only [LockView.setForm_form, LockView.inflate, Function.update_of_ne eq]
      show Form.ofMark m.options ((m.table.insert o m.monitors.size).get? p) (m.mark p) = m.form p
      rw [get?_insert, if_neg eq]
      rfl
  · exact Store.get_push _ _
  · show (m.monitors.push _).size = max m.monitors.size (m.monitors.size + 1)
    simp

/-- A new monitor that is changed before anyone sees it. -/
lemma inflate_setMonitor (v : LockView) (x y : Monitor) :
    (v.inflate o x).setMonitor v.monitorCount y = v.inflate o y := by
  simp [LockView.inflate, LockView.setMonitor, LockView.setForm]

/-- The monitor is in the table before its owner is set, but the header does not lead to it yet. -/
lemma view_enrolled_owned (h : Coherent m.view) (table : m.options.useTable = true)
    {w : LockWord} {owner : Owner} {recursions : UInt64}
    (own : ownerAs m t o (.word w) = (owner, recursions)) :
    ((if (Mark.word w).isFastLocked = true then
        (enrolled m o).setMonitor m.monitors.size
          (((enrolled m o).monitor m.monitors.size).ownedBy owner recursions)
      else enrolled m o).setMark o (.word w.setMonitor)).view =
        m.view.inflate o ((Monitor.new o).ownedBy owner recursions) := by
  have new : (enrolled m o).monitor m.monitors.size = .new o := Store.get_push_size _ _
  split
  next =>
    rw [new, ← inflate_setMonitor _ (.new o), ← view_enrolled h.mode table w,
      Machine.view_setMark, Machine.view_setMark, Machine.view_setMonitor]
    rfl
  next slow =>
    rw [view_enrolled h.mode table]
    simp only [ownerAs, slow] at own
    cases own
    rfl

/-- Making a monitor in the table is a silent change, unless the object has one already. -/
lemma inflateIntoTable_inflates (h : Coherent m.view) (table : m.options.useTable = true)
    (cause : InflationCause) : Inflates t op m (inflateIntoTable m t op.object cause) := by
  have hd := header h op.object
  cases hg : m.table.get? op.object with
  | some id =>
    have hf : m.form op.object = .inflated id := by
      cases hf : m.form op.object <;> rw [hf] at hd <;> cases hd <;> simp_all
    have bits : (m.mark op.object).hasMonitor = true := by
      rw [hf] at hd
      cases hd <;> simp_all [Mark.hasMonitor, Mark.bits]
    refine ⟨id, m, ?_, .refl, hf⟩
    simp only [inflateIntoTable, tableMonitor, hg, bits, if_true]
  | none =>
    have free : ∀ id, m.form op.object ≠ .inflated id := by
      intro id hf
      rw [hf] at hd
      cases hd <;> simp_all
    obtain ⟨w, hk, bits⟩ : ∃ w, m.mark op.object = .word w ∧ w.bits ≠ .monitor := by
      cases hf : m.form op.object <;> rw [hf] at hd <;> cases hd <;> simp_all
    have made : tableMonitor m op.object = (m.monitors.size, enrolled m op.object) := by
      unfold tableMonitor
      rw [hg]
      rfl
    rcases own : ownerAs m t op.object (m.mark op.object) with ⟨owner, recursions⟩
    have c := ownerAs_change h free .fresh own
    rw [hk] at own
    have hv := view_enrolled_owned h table own
    -- The table has no part in what the header and the lock stack tell.
    have hk' : (enrolled m op.object).mark op.object = .word w := hk
    have own' : ownerAs (enrolled m op.object) t op.object (.word w) = (owner, recursions) := own
    have hm : (Mark.word w).hasMonitor = false := by simp [Mark.hasMonitor, Mark.bits, bits]
    unfold inflateIntoTable
    simp only [made, hk', hm, own', Bool.false_eq_true, if_false]
    generalize (ite ((Mark.word w).isFastLocked = true) _ _ : Machine) = n at hv ⊢
    let n' := n.setMark op.object (.word w.setMonitor)
    have e : (transfer n' t op.object owner).view =
        let v := m.view.inflate op.object ((Monitor.new op.object).ownedBy owner recursions)
        if owner = .thread t then v.dropObject t op.object else v := by
      rw [view_transfer, hv]
    refine ⟨_, _, rfl, .single (e ▸ c), ?_⟩
    show (transfer n' t op.object owner).view.form op.object = _
    rw [e]
    dsimp only
    split <;> exact Function.update_self ..

/-- An inflation gives the object a monitor by silent changes. -/
lemma inflate_inflates (op : Operation) (h : Coherent m.view) (cause : InflationCause) :
    Inflates t op m (inflate m t op.object cause) := by
  unfold inflate
  split
  next table => exact inflateIntoTable_inflates h table cause
  next table => exact inflateInline_inflates h (by simpa using table) cause

/-- A new cache of a record is one of the view. -/
lemma view_setCache (c : Option MonitorId) :
    (m.setCache r c).view = m.view.setRecord r { m.view.record r with cache := c } :=
  m.view_modifyRecord r _

/-- Clearing the cache of a record is a silent change. -/
lemma clearCache_steps : Steps (Change t (.enter o r)) m.view none (clearCache m r).view := by
  unfold clearCache
  split
  · rw [view_setCache]
    exact .single (.cache nofun)
  · exact .refl

/-- Filling the cache of a record with the monitor of the object is a silent change. -/
lemma fillCache_steps {id : MonitorId} (ho : m.form o = .inflated id) :
    Steps (Change t (.enter o r)) m.view none (fillCache m r id).view := by
  unfold fillCache
  split
  · rw [view_setCache]
    refine .single (.cache fun id' hc => ?_)
    obtain rfl := Option.some.inj hc
    exact ho
  · exact .refl

/-- Filling a cache changes no lock. -/
lemma fillCache_locks (m : Machine) (r : RecordId) (id : MonitorId) :
    (fillCache m r id).view.form = m.view.form ∧
      (fillCache m r id).view.monitor = m.view.monitor ∧
      (fillCache m r id).view.lockStack = m.view.lockStack := by
  unfold fillCache
  split <;> exact ⟨rfl, rfl, rfl⟩

/-- A cache may be filled before or after the monitor is written. -/
lemma view_fillCache_setMonitor (id : MonitorId) (x : Monitor) :
    (fillCache (m.setMonitor id x) r id).view = (fillCache m r id).view.setMonitor id x := by
  unfold fillCache
  show (if m.options.useTable then (m.setMonitor id x).setCache r (some id) else _).view = _
  split
  · rw [view_setCache, view_setCache, Machine.view_setMonitor]
    rfl
  · rw [Machine.view_setMonitor]

/-- A thread enters the monitor of the object, which is not owned anonymously by the thread
itself. -/
lemma enterMonitor_enters {id : MonitorId} (ho : m.form o = .inflated id)
    (other : (m.monitor id).owner = .anonymous → o ∉ m.view.lockStack t) :
    (m.enterMonitor t id).Enters (Change t (.enter o r)) m.view t o r :=
  Machine.enterMonitor_enters ho (fun _ enter => .enterMonitor ho enter)
    (fun enter => .wait ho enter other) fun _ same => .annotate ho same

/-- The monitor as its anonymous owner claims it. -/
def claimed (m : Machine) (t : ThreadId) (o : ObjectId) (id : MonitorId) : Monitor :=
  (m.monitor id).ownedBy (.thread t) (.ofNat ((m.lockStack t).count o - 1))

/-- A thread that has the object on its lock stack can claim the monitor. -/
lemma claim_eq {id : MonitorId} (own : (m.monitor id).owner = .anonymous)
    (mem : o ∈ m.view.lockStack t) :
    claim m t o id = .ok () ((m.dropObject t o).setMonitor id (claimed m t o id)) := by
  have held : (m.lockStack t).count o ≠ 0 := fun zero => count_eq_zero.1 zero mem
  have own' : ((m.dropObject t o).monitor id).owner = .anonymous := own
  unfold claim Machine.claimMonitor Monitor.claim?
  simp only [held, own', if_false, if_true]
  rfl

/-- A claim is a silent change, and then the thread owns the monitor by name. -/
lemma claim_steps (op : Operation) {id : MonitorId} (ho : m.form op.object = .inflated id)
    (own : (m.monitor id).owner = .anonymous) (mem : op.object ∈ m.view.lockStack t) :
    ∃ m', claim m t op.object id = .ok () m' ∧ Steps (Change t op) m.view none m'.view ∧
      m'.view.form op.object = .inflated id ∧ (m'.monitor id).owner = .thread t := by
  refine ⟨_, claim_eq own mem, ?_, ho, ?_⟩
  · rw [Machine.view_setMonitor, Machine.view_dropObject, claimed, LockStack.count_eq]
    exact .single (.claim ho own mem)
  · show (((m.dropObject t op.object).setMonitor id _).view.monitor id).owner = _
    rw [Machine.view_setMonitor, LockView.setMonitor_monitor, Function.update_self]
    rfl

/-- After a claim, if there is one to make, the thread does not own the monitor anonymously. -/
lemma claimed_steps (op : Operation) {id : MonitorId} (ho : m.form op.object = .inflated id) :
    ∃ m', (if (m.monitor id).hasAnonymousOwner && (m.lockStack t).contains op.object then
        claim m t op.object id else .ok () m) = .ok () m' ∧
      Steps (Change t op) m.view none m'.view ∧ m'.view.form op.object = .inflated id ∧
      ((m'.monitor id).owner = .anonymous → op.object ∉ m'.view.lockStack t) := by
  by_cases claimable : (m.monitor id).owner = .anonymous ∧ op.object ∈ m.view.lockStack t
  · obtain ⟨own, mem⟩ := claimable
    obtain ⟨n, eq, steps, ho', own'⟩ := claim_steps op ho own mem
    refine ⟨n, ?_, steps, ho', fun own => ?_⟩
    · have contained := (LockStack.contains_iff (m.lockStack t) op.object).2 mem
      simp only [Monitor.hasAnonymousOwner, own, contained, beq_self_eq_true, Bool.and_self,
        if_true, eq]
    · rw [own'] at own
      cases own
  · refine ⟨m, if_neg ?_, .refl, ho, fun own mem => claimable ⟨own, mem⟩⟩
    simp only [Monitor.hasAnonymousOwner, Bool.and_eq_true, beq_iff_eq, LockStack.contains_iff]
    exact claimable

/-- An enter through a monitor enters the object or waits for it. -/
lemma enterInflated_enters (h : Coherent m.view) (cause : InflationCause) :
    (enterInflated m t o r cause).Enters (Change t (.enter o r)) m.view t o r := by
  obtain ⟨id, n, eq, steps, ho⟩ := inflate_inflates (t := t) (.enter o r) h cause
  obtain ⟨n', eq', steps', ho', other⟩ := claimed_steps (t := t) (.enter o r) ho
  obtain ⟨form, monitor, stack⟩ := fillCache_locks n' r id
  replace eq : inflate m t o cause = .ok id n := eq
  replace eq' : (if (n.monitor id).hasAnonymousOwner && (n.lockStack t).contains o then
    claim n t o id else .ok () n) = .ok () n' := eq'
  unfold enterInflated
  simp only [eq, Outcome.bind, eq']
  refine ((steps.trans steps').trans (fillCache_steps ho')).enters (enterMonitor_enters ?_ ?_)
  · show (fillCache n' r id).view.form o = _
    rw [form]
    exact ho'
  · show ((fillCache n' r id).view.monitor id).owner = _ → _
    rw [monitor, stack]
    exact other

/-- The form of a header whose lock bits are set anew. -/
lemma ofMark_setBits (mode : m.options.mode = .lightweight)
    (table : m.options.useTable → m.table.get? o = none) (w : LockWord) :
    Form.ofMark m.options (m.table.get? o) (.word w.setFastLocked) = .fast ∧
      Form.ofMark m.options (m.table.get? o) (.word w.setUnlocked) = .unlocked := by
  cases ht : m.options.useTable with
  | true => simp [Form.ofMark, mode, ht, table ht, LockWord.setFastLocked, LockWord.setUnlocked]
  | false => simp [Form.ofMark, mode, ht, LockWord.setFastLocked, LockWord.setUnlocked]

/-- Fast-locking succeeds if there is room on the lock stack. -/
lemma lockFast_steps (h : Coherent m.view) (ho : m.form o = .unlocked)
    (room : (m.lockStack t).isFull = false) :
    ∃ m', lockFast m t o = .ok () m' ∧
      Steps (Change t (.enter o r)) m.view (some (.entered t o r)) m'.view := by
  unfold lockFast Machine.pushObject
  cases push : ((m.setMark o ((m.mark o).mapWord .setFastLocked)).lockStack t).push? o with
  | none =>
    have full := LockStack.push?_eq_none push
    rw [← LockStack.isFull_iff] at full
    cases room.symm.trans full
  | some s =>
    refine ⟨_, rfl, ?_⟩
    obtain ⟨lt, eq⟩ := LockStack.push?_eq_some push
    have hd := header h o
    rw [ho] at hd
    cases hd with
    | @unlocked w hk _ table =>
      rw [Machine.view_setLockStack, Machine.view_setMark, hk, Mark.mapWord,
        (ofMark_setBits h.mode table w).1, eq]
      exact .single (.lock ho lt)

/-- A further enter by the thread whose top entry the object is. -/
lemma again_steps {s : LockStack ObjectId} (again : (m.lockStack t).tryRecursiveEnter o = some s) :
    Steps (Change t (.enter o r)) m.view (some (.entered t o r)) (m.setLockStack t s).view := by
  obtain ⟨lt, ⟨l, top⟩, eq⟩ := LockStack.tryRecursiveEnter_eq_some again
  rw [Machine.view_setLockStack, eq]
  exact .single (.again top lt)

/-- An enter enters the object or waits for it. -/
lemma enter_enters (h : Coherent m.view) (attached : t < m.nextThread) :
    (enter m t o r).Enters (Change t (.enter o r)) m.view t o r := by
  refine (clearCache_steps (r := r)).enters ?_
  have h := h.steps (clearCache_steps (o := o) (r := r)) attached
  unfold enter
  generalize clearCache m r = n at h
  cases again : (n.lockStack t).tryRecursiveEnter o with
  | some s =>
    simp only [again]
    exact again_steps again
  | none =>
    simp only [again]
    split
    next => exact enterInflated_enters h _
    next room =>
      split
      next free =>
        obtain ⟨n', eq, steps⟩ := lockFast_steps (r := r) h ((isUnlocked_iff h).1 free.2)
          (by simpa using room)
        rw [eq]
        exact steps
      next => exact enterInflated_enters h _

/-- A quick enter enters the object if it answers so, and otherwise makes silent changes. -/
lemma quickEnter_follows (h : Coherent m.view) (attached : t < m.nextThread) :
    (quickEnter m t o r).Follows (Change t (.enter o r)) m.view (quickEvent t o r) none := by
  refine (clearCache_steps (r := r)).follows ?_
  have h := h.steps (clearCache_steps (o := o) (r := r)) attached
  unfold quickEnter
  generalize clearCache m r = n at h
  cases again : (n.lockStack t).tryRecursiveEnter o with
  | some s =>
    simp only [again]
    exact again_steps again
  | none =>
    simp only [again]
    split
    next free =>
      split
      next => exact .refl
      next room =>
        obtain ⟨n', eq, steps⟩ := lockFast_steps (r := r) h ((isUnlocked_iff h).1 free)
          (by simpa using room)
        rw [eq]
        exact steps
    next =>
      split
      next id hk =>
        have ho := (readMonitor?_iff h id).1 hk
        unfold Machine.tryEnterMonitor
        cases enter : (n.monitor id).tryEnter t with
        | none => exact .refl
        | some x =>
          -- The cache is filled after the enter, which comes to the same as filling it before.
          show Steps _ _ _ (fillCache (n.setMonitor id x) r id).view
          rw [view_fillCache_setMonitor]
          have same := fillCache_locks n r id
          refine (fillCache_steps ho).trans (.single (.enterMonitor ?_ ?_))
          · rw [same.1]
            exact ho
          · rw [same.2.1]
            exact enter
      next => exact .refl

/-- An illegal exit is rejected. -/
lemma illegalExit_follows (out : o ∉ m.view.lockStack t)
    (own : ∀ id, m.form o = .inflated id → (m.monitor id).owner ≠ .thread t) :
    (m.illegalExit t o).Follows (Change t (.exit o r)) m.view
      (fun _ => some (.exited t o r)) (some (.rejected t o r)) :=
  .single (.reject out own)

/-- An exit of a monitor that the thread owns exits the object. -/
lemma exitMonitor_follows {id : MonitorId} (ho : m.form o = .inflated id)
    (own : (m.monitor id).owner = .thread t) :
    (m.exitMonitor t id).Follows (Change t (.exit o r)) m.view
      (fun _ => some (.exited t o r)) (some (.rejected t o r)) := by
  cases exit : (m.monitor id).exit? t with
  | none => exact absurd own (Monitor.exit?_eq_none exit)
  | some x =>
    rw [Machine.exitMonitor_of_exit? exit]
    show Steps _ _ _ (m.setMonitor id x).view
    rw [Machine.view_setMonitor]
    exact .single (.exitMonitor ho exit)

/-- An exit through a monitor exits the object, or is rejected. -/
lemma exitInflated_follows (h : Coherent m.view) {id : MonitorId} (ho : m.form o = .inflated id) :
    (exitInflated m t o id).Follows (Change t (.exit o r)) m.view
      (fun _ => some (.exited t o r)) (some (.rejected t o r)) := by
  have here (id') (hf : m.form o = .inflated id') : id' = id :=
    Form.inflated.inj (hf.symm.trans ho)
  unfold exitInflated
  by_cases anonymous : (m.monitor id).owner = .anonymous
  · by_cases mem : o ∈ m.view.lockStack t
    · obtain ⟨n, eq, steps, ho', own⟩ := claim_steps (.exit o r) ho anonymous mem
      have contained := (LockStack.contains_iff (m.lockStack t) o).2 mem
      have isOwner : (n.monitor id).isOwner t = true := beq_iff_eq.2 own
      replace eq : claim m t o id = .ok () n := eq
      simp only [Monitor.hasAnonymousOwner, anonymous, contained, beq_self_eq_true, if_true, eq,
        Outcome.bind, isOwner]
      exact steps.follows (exitMonitor_follows ho' own)
    · have contained : (m.lockStack t).contains o = false := by
        rw [Bool.eq_false_iff, ne_eq, LockStack.contains_iff]
        exact mem
      simp only [Monitor.hasAnonymousOwner, anonymous, contained, beq_self_eq_true, if_true,
        Bool.false_eq_true, if_false]
      refine illegalExit_follows mem fun id' hf => ?_
      rw [here id' hf, anonymous]
      exact nofun
  · have named : (m.monitor id).hasAnonymousOwner = false := by
      simpa [Monitor.hasAnonymousOwner] using anonymous
    simp only [named, Bool.false_eq_true, if_false, Outcome.bind]
    split
    next own => exact exitMonitor_follows ho (by simpa [Monitor.isOwner] using own)
    next own =>
      refine illegalExit_follows ((h.placed o).inflated ho anonymous t) fun id' hf => ?_
      rw [here id' hf]
      simpa [Monitor.isOwner] using own

/-- The monitor that an exit finds is the one of the object, whether it was cached or not. -/
lemma found_monitor (h : Coherent m.view) {id : MonitorId}
    (found : (cached? m o r).or (readMonitor? m o (m.mark o)) = some id) :
    m.form o = .inflated id := by
  rcases Option.or_eq_some_iff.1 found with hit | ⟨-, read⟩
  · unfold cached? at hit
    split at hit
    next =>
      obtain ⟨cache, eq⟩ := Option.filter_eq_some_iff.1 hit
      have hf := (h.cached r id cache).2
      rwa [show (m.view.monitor id).object = o from beq_iff_eq.1 eq] at hf
    next => cases hit
  · exact (readMonitor?_iff h id).1 read

/-- An exit exits the object, or is rejected. -/
lemma exit_follows (h : Coherent m.view) :
    (exit m t o r).Follows (Change t (.exit o r)) m.view
      (fun _ => some (.exited t o r)) (some (.rejected t o r)) := by
  unfold exit
  cases top : (m.lockStack t).tryRecursiveExit o with
  | some s =>
    obtain ⟨l, eq, eq'⟩ := LockStack.tryRecursiveExit_eq_some top
    show Steps _ _ _ (m.setLockStack t s).view
    rw [Machine.view_setLockStack, eq']
    exact .single (.drop eq)
  | none =>
    dsimp only
    have single := LockStack.tryRecursiveExit_eq_none top
    split
    next held =>
      rw [Bool.and_eq_true, LockStack.contains_iff, isFastLocked_iff h] at held
      obtain ⟨mem, ho⟩ := held
      have hd := header h o
      rw [ho] at hd
      cases hd with
      | @fast w hk _ table =>
        show Steps _ _ _ ((m.setMark o ((m.mark o).mapWord .setUnlocked)).dropObject t o).view
        rw [Machine.view_dropObject, Machine.view_setMark, hk, Mark.mapWord,
          (ofMark_setBits h.mode table w).2]
        exact .single (.unlock ho mem single)
    next free =>
      split
      next id found => exact exitInflated_follows h (found_monitor h found)
      next none =>
        have uninflated (id) : m.form o ≠ .inflated id := by
          intro ho
          rw [← readMonitor?_iff h] at ho
          rw [ho, Option.or_eq_none_iff] at none
          cases none.2
        -- Neither fast-locked nor inflated, the object can be on no lock stack.
        refine illegalExit_follows (fun mem => ?_) fun id ho => absurd ho (uninflated id)
        rw [Bool.and_eq_true, LockStack.contains_iff, isFastLocked_iff h] at free
        have placed := h.placed o
        unfold Placed at placed
        cases ho : m.view.form o with
        | unlocked =>
          rw [ho] at placed
          exact placed t mem
        | fast => exact free ⟨mem, ho⟩
        | inflated id => exact uninflated id ho
        | stacked _ | invalid => simp only [ho] at placed

/-- Asking for the identity hash makes silent changes. -/
lemma identityHash_follows (h : Coherent m.view) :
    (identityHash m t o).Follows (Change t (.visit o)) m.view (fun _ => none) none := by
  have hd := header h o
  unfold identityHash
  split
  next id hk =>
    have ho : m.form (Operation.visit o).object = .inflated id := by
      cases hf : m.form o <;> rw [hf] at hd <;> cases hd <;> simp_all [Operation.object]
    exact Machine.monitorHash_steps fun _ same => .annotate ho same
  next w hk =>
    split
    next => exact .refl
    next =>
      show Steps _ _ _ ((m.drawHash t).2.setMark o (.word (w.withHash (m.drawHash t).1))).view
      have hk' : (m.drawHash t).2.mark o = .word w := hk
      rw [Machine.view_setMark_word _ _ hk' (LockWord.bits_withHash ..), Machine.view_drawHash]
      exact .refl
  next r hk => cases hf : m.form o <;> rw [hf] at hd <;> cases hd <;> simp_all

/-- An inflation makes silent changes. -/
lemma inflate_follows (h : Coherent m.view) (cause : InflationCause) :
    (inflate m t o cause).Follows (Change t (.visit o)) m.view (fun _ => none) none := by
  obtain ⟨id, n, eq, steps, -⟩ := inflate_inflates (t := t) (.visit o) h cause
  replace eq : inflate m t o cause = .ok id n := eq
  rw [eq]
  exact steps

end ObjectLocks.FastLocking
