import ObjectLocks.Proofs.FastLocking.Refinement
import ObjectLocks.Proofs.QuickEnter

/-!
# Fast locks that are inflated

Inflation of a fast lock is done at once if the lock belongs to the thread that inflates: its entries
leave the lock stack and become the first enter and the recursions of the monitor. The lock of
another thread gets an anonymous owner. That thread may enter and exit on its lock stack for a while
yet; it claims the monitor, with the entries that it has by then, when it needs the monitor.
-/

namespace ObjectLocks

open Machine (thread_modifyThread)

namespace FastLocking

variable {m n : Machine} {v w : LockView} {t : ThreadId} {o : ObjectId} {r : RecordId}
  {id : MonitorId} {op : Operation}

/-- What becomes of a lock that had no monitor before thread `t` has inflated it. -/
structure Inherits (v : LockView) (t : ThreadId) (o : ObjectId) (id : MonitorId) (w : LockView) :
    Prop where
  form : w.form o = .inflated id
  lockStack : ∀ u, w.lockStack u =
    if v.form o = .fast ∧ u = t then (v.lockStack u).filter (· ≠ o) else v.lockStack u
  own : v.form o = .fast → o ∈ v.lockStack t → (w.monitor id).owner = .thread t ∧
    (w.monitor id).recursions = .ofNat ((v.lockStack t).count o - 1)
  foreign : v.form o = .fast → o ∉ v.lockStack t → (w.monitor id).owner = .anonymous
  free : v.form o ≠ .fast → (w.monitor id).owner = .nobody

/-- The new monitor of an object is the last one. -/
lemma monitor_inflate (v : LockView) (o : ObjectId) (x : Monitor) :
    (v.inflate o x).monitor v.monitorCount = x := Function.update_self ..

/-- A silent change of a lock without a monitor gives it one. -/
lemma Change.inherits (c : Change t (.visit o) v none w) (bare : ∀ id, v.form o ≠ .inflated id) :
    ∃ id, Inherits v t o id w := by
  have whole (u : ThreadId) (slow : v.form o ≠ .fast) : v.lockStack u =
      if v.form o = .fast ∧ u = t then (v.lockStack u).filter (· ≠ o) else v.lockStack u :=
    (if_neg fun fast => slow fast.1).symm
  cases c with
  | inflateFree ho =>
    have slow : v.form o ≠ .fast := by
      intro hf
      cases ho.symm.trans hf
    exact ⟨_, Function.update_self .., fun u => whole u slow, fun hf => absurd hf slow,
      fun hf => absurd hf slow, fun _ => by rw [monitor_inflate]; rfl⟩
  | inflateOwn ho mem =>
    refine ⟨_, Function.update_self .., fun u => ?_, fun _ _ => ?_, fun _ out => absurd mem out,
      fun slow => absurd ho slow⟩
    · show Function.update v.lockStack t _ u = _
      rw [Function.update_apply]
      by_cases eq : u = t
      · rw [if_pos eq, if_pos ⟨ho, eq⟩, eq]
        rfl
      · rw [if_neg eq, if_neg fun fast => eq fast.2]
    · rw [LockView.dropObject, LockView.setLockStack_monitor, monitor_inflate]
      exact ⟨rfl, rfl⟩
  | inflateOther ho out =>
    refine ⟨_, Function.update_self .., fun u => ?_, fun _ mem => absurd mem out,
      fun _ _ => by rw [monitor_inflate]; rfl, fun slow => absurd ho slow⟩
    -- The thread has no entry of the object that could leave its lock stack.
    split
    next here =>
      obtain ⟨-, rfl⟩ := here
      refine (List.filter_eq_self.2 fun q hq => decide_eq_true ?_).symm
      rintro rfl
      exact out hq
    next => rfl
  | claim ho _ _ | annotate ho _ => exact absurd ho (bare _)

/-- Once the lock is inflated, no silent change of a visit claims it. -/
lemma Inherits.silent {u : LockView} (h : Inherits v t o id u) (c : Change t (.visit o) u none w) :
    Inherits v t o id w := by
  have same {i : MonitorId} (ho : u.form o = .inflated i) : i = id :=
    Form.inflated.inj (ho.symm.trans h.form)
  cases c with
  | inflateFree ho | inflateOwn ho _ | inflateOther ho _ => cases ho.symm.trans h.form
  | claim ho own mem =>
    obtain rfl := same ho
    have stack := h.lockStack t
    by_cases fast : v.form o = .fast
    · by_cases held : o ∈ v.lockStack t
      · cases own.symm.trans (h.own fast held).1
      · rw [if_pos ⟨fast, rfl⟩] at stack
        rw [show Operation.object _ = o from rfl, stack] at mem
        exact absurd (List.mem_of_mem_filter mem) held
    · cases own.symm.trans (h.free fast)
  | @annotate _ _ i x ho same' =>
    obtain rfl := same ho
    have update : (u.setMonitor i x).monitor i = x := Function.update_self ..
    refine ⟨h.form, h.lockStack, fun fast held => ?_, fun fast out => ?_, fun slow => ?_⟩
    · rw [update, same'.owner, same'.recursions]
      exact h.own fast held
    · rw [update, same'.owner]
      exact h.foreign fast out
    · rw [update, same'.owner]
      exact h.free slow

/-- An inflation finds the monitor of the object, or makes one that inherits the lock. -/
lemma inflate_inherits (h : Coherent m.view) (cause : InflationCause) :
    ∃ id n, inflate m t o cause = .ok id n ∧
      (m.form o = .inflated id ∧ n = m ∨ Inherits m.view t o id n.view) := by
  by_cases inflated : ∃ i, m.form o = .inflated i
  · obtain ⟨i, ho⟩ := inflated
    have found := inflate_of_readMonitor? ((readMonitor?_iff h i).2 ho) (t := t) cause
    exact ⟨i, m, found, .inl ⟨ho, rfl⟩⟩
  · have bare (i : MonitorId) : m.view.form o ≠ .inflated i := fun ho => inflated ⟨i, ho⟩
    obtain ⟨id, n, eq, steps, form⟩ := inflate_inflates (t := t) (.visit o) h cause
    refine ⟨id, n, eq, .inr ?_⟩
    replace form : n.view.form o = .inflated id := form
    have made := steps.keeps_silent (P := fun u => u = m.view ∨ ∃ i, Inherits m.view t o i u)
      (.inl rfl) fun {u w} before c => by
        rcases before with rfl | ⟨i, inherits⟩
        · exact .inr (c.inherits bare)
        · exact .inr ⟨i, inherits.silent c⟩
    rcases made with same | ⟨i, inherits⟩
    · exact absurd (same ▸ form) (bare id)
    · obtain rfl := Form.inflated.inj (inherits.form.symm.trans form)
      exact inherits

/-- Of the threads, an inflation changes nothing but a lock stack. -/
lemma transfer_thread (m : Machine) (t : ThreadId) (o : ObjectId) (owner : Owner) (u : ThreadId) :
    (transfer m t o owner).thread u =
      { m.thread u with lockStack := (transfer m t o owner).lockStack u } := by
  unfold transfer
  split
  next =>
    unfold Machine.lockStack Machine.dropObject Machine.setLockStack
    rw [thread_modifyThread]
    split
    next eq => rw [eq]
    next => rfl
  next => rfl

/-- Of each thread, an inflation changes nothing but its lock stack. -/
lemma inflate_thread (m : Machine) (t : ThreadId) (o : ObjectId) (cause : InflationCause)
    (u : ThreadId) : (inflate m t o cause).machine.thread u =
      { m.thread u with lockStack := (inflate m t o cause).machine.lockStack u } := by
  unfold inflate
  split
  next =>
    have listed : (tableMonitor m o).2.thread = m.thread := by
      unfold tableMonitor
      split <;> rfl
    unfold inflateIntoTable
    dsimp only
    split
    next =>
      show (tableMonitor m o).2.thread u = { m.thread u with
        lockStack := ((tableMonitor m o).2.thread u).lockStack }
      rw [listed]
    next =>
      refine (transfer_thread _ t o _ u).trans ?_
      rw [← congrFun listed u]
      split <;> rfl
  next =>
    unfold inflateInline
    dsimp only
    split
    next => rfl
    next => exact transfer_thread _ t o _ u

end FastLocking

namespace Machine

/-- Thread `t` claims the monitor of `o` and then uses it: the entries that it has by then leave its
lock stack, and are the first enter and the recursions of the monitor that it uses. -/
structure Claims (m : Machine) (t : ThreadId) (o : ObjectId) (id : MonitorId)
    (use : Monitor → Option Monitor) (n : Machine) : Prop where
  entries : (n.lockStack t).toList = (m.lockStack t).toList.filter (· ≠ o)
  used : ∃ x, x.owner = .thread t ∧ x.recursions.toNat + 1 = (m.lockStack t).count o ∧
    x.queue = (m.monitor id).queue ∧ use x = some (n.monitor id)

/-- Thread `t` uses a monitor that it owns anonymously. It claims the monitor, unless its lock stack
does without. -/
def UsesAnonymous (m : Machine) (t : ThreadId) (o : ObjectId) (id : MonitorId)
    (light : Option (LockStack ObjectId)) (use : Monitor → Option Monitor) (n : Machine) : Prop :=
  match light with
  | some s => n.lockStack t = s ∧ n.monitor id = m.monitor id
  | none => m.Claims t o id use n

end Machine

namespace FastLocking

variable {m n : Machine} {t : ThreadId} {o : ObjectId} {r : RecordId} {id : MonitorId}

/-- A claimed monitor that is used at once is claimed by the thread of its entries. -/
lemma claims_of_used (h : Coherent m.view) (mem : o ∈ m.view.lockStack t)
    {use : Monitor → Option Monitor} {y : Monitor} (used : use (claimed m t o id) = some y)
    (dropped : n.view.lockStack = (m.view.dropObject t o).lockStack) (monitor : n.monitor id = y) :
    m.Claims t o id use n := by
  refine ⟨(congrFun dropped t).trans (Function.update_self ..), claimed m t o id, rfl, ?_, rfl, ?_⟩
  · show (UInt64.ofNat ((m.lockStack t).count o - 1)).toNat + 1 = _
    rw [LockStack.count_eq]
    exact h.toNat_count mem
  · rw [monitor, used]

/-- An enter through a monitor that the thread owns anonymously claims it first. -/
lemma enterInflated_claims (h : Coherent m.view) (ho : m.form o = .inflated id)
    (anonymous : (m.monitor id).owner = .anonymous) (mem : o ∈ m.view.lockStack t)
    (cause : InflationCause) :
    ∃ n, enterInflated m t o r cause = .ok .entered n ∧ m.Claims t o id (·.tryEnter t) n := by
  let x := claimed m t o id
  let k := fillCache ((m.dropObject t o).setMonitor id x) r id
  let y := { x with recursions := x.recursions + 1 }
  have entered : x.tryEnter t = some y := if_pos rfl
  have here : k.monitor id = x := by
    show (fillCache _ r id).view.monitor id = x
    rw [(fillCache_locks _ r id).2.1, Machine.view_setMonitor]
    exact Function.update_self ..
  have contained := (LockStack.contains_iff (m.lockStack t) o).2 mem
  have found := inflate_of_readMonitor? (t := t) ((readMonitor?_iff h id).2 ho) cause
  refine ⟨k.setMonitor id y, ?_, claims_of_used h mem entered ?_ ?_⟩
  · unfold enterInflated
    simp only [found, Outcome.bind, Monitor.hasAnonymousOwner, anonymous, contained,
      beq_self_eq_true, Bool.and_self, if_true, claim_eq anonymous mem]
    exact Machine.enterMonitor_of_tryEnter (by rw [here, entered])
  · rw [Machine.view_setMonitor]
    show (fillCache _ r id).view.lockStack = _
    rw [(fillCache_locks _ r id).2.2, Machine.view_setMonitor, Machine.view_dropObject]
    rfl
  · exact congrFun (Machine.monitor_setMonitor ..) id |>.trans (Function.update_self ..)

/-- Clearing a cache changes no lock. -/
lemma clearCache_locks (m : Machine) (r : RecordId) : (clearCache m r).form = m.form ∧
    (clearCache m r).monitor = m.monitor ∧ (clearCache m r).lockStack = m.lockStack := by
  unfold clearCache
  split <;> exact ⟨rfl, rfl, rfl⟩

/-- An enter by the anonymous owner repeats the top entry, or claims the monitor. -/
lemma enter_anonymous (h : Coherent m.view) (attached : t < m.nextThread)
    (ho : m.form o = .inflated id) (anonymous : (m.monitor id).owner = .anonymous)
    (mem : o ∈ m.view.lockStack t) : ∃ n, enter m t o r = .ok .entered n ∧
      m.UsesAnonymous t o id ((m.lockStack t).tryRecursiveEnter o) (·.tryEnter t) n := by
  obtain ⟨form, monitor, lockStack⟩ := clearCache_locks m r
  have h' := h.steps (clearCache_steps (o := o) (r := r)) attached
  unfold enter
  dsimp only
  generalize clearCache m r = k at form monitor lockStack h'
  rw [← lockStack]
  cases again : (k.lockStack t).tryRecursiveEnter o with
  | some s =>
    refine ⟨k.setLockStack t s, rfl, ?_, congrFun monitor id⟩
    unfold Machine.lockStack Machine.setLockStack
    rw [thread_modifyThread, if_pos rfl]
  | none =>
    have ho' : k.form o = .inflated id := form ▸ ho
    have locked : ¬ (k.mark o).isUnlocked = true := by
      intro free
      cases ho'.symm.trans ((isUnlocked_iff h').1 free)
    have claims (cause : InflationCause) : ∃ n, enterInflated k t o r cause = .ok .entered n ∧
        m.Claims t o id (·.tryEnter t) n := by
      obtain ⟨n, entered, claims⟩ := enterInflated_claims (r := r) h' ho' (monitor ▸ anonymous)
        (show o ∈ (k.lockStack t).toList from lockStack ▸ mem) cause
      refine ⟨n, entered, ?_, ?_⟩
      · rw [← lockStack]
        exact claims.entries
      · rw [← lockStack, ← monitor]
        exact claims.used
    dsimp only
    split
    next => exact claims _
    next =>
      rw [if_neg fun spin => locked spin.2]
      exact claims _

/-- An exit of a monitor that the thread owns anonymously claims it first. -/
lemma exitInflated_claims (h : Coherent m.view) (anonymous : (m.monitor id).owner = .anonymous)
    (mem : o ∈ m.view.lockStack t) :
    ∃ n, exitInflated m t o id = .ok () n ∧ m.Claims t o id (·.exit? t) n := by
  let x := claimed m t o id
  let k := (m.dropObject t o).setMonitor id x
  have here : k.monitor id = x :=
    (congrFun (Machine.monitor_setMonitor ..) id).trans (Function.update_self ..)
  have contained := (LockStack.contains_iff (m.lockStack t) o).2 mem
  have own : (k.monitor id).isOwner t = true := by
    rw [here]
    exact beq_self_eq_true _
  cases exits : x.exit? t with
  | none => exact absurd rfl (Monitor.exit?_eq_none exits)
  | some y =>
    refine ⟨k.setMonitor id y, ?_, claims_of_used h mem exits ?_ ?_⟩
    · unfold exitInflated
      simp only [Outcome.bind, Monitor.hasAnonymousOwner, anonymous, contained, beq_self_eq_true,
        if_true, claim_eq anonymous mem]
      exact (if_pos own).trans (Machine.exitMonitor_of_exit? (by rw [here, exits]))
    · rw [Machine.view_setMonitor, Machine.view_setMonitor, Machine.view_dropObject]
      rfl
    · exact congrFun (Machine.monitor_setMonitor ..) id |>.trans (Function.update_self ..)

/-- An exit by the anonymous owner drops one of two top entries, or claims the monitor. -/
lemma exit_anonymous (h : Coherent m.view) (ho : m.form o = .inflated id)
    (anonymous : (m.monitor id).owner = .anonymous) (mem : o ∈ m.view.lockStack t) :
    ∃ n, exit m t o r = .ok () n ∧
      m.UsesAnonymous t o id ((m.lockStack t).tryRecursiveExit o) (·.exit? t) n := by
  unfold exit
  cases again : (m.lockStack t).tryRecursiveExit o with
  | some s =>
    refine ⟨m.setLockStack t s, rfl, ?_, rfl⟩
    unfold Machine.lockStack Machine.setLockStack
    rw [thread_modifyThread, if_pos rfl]
  | none =>
    have slow : ¬ ((m.lockStack t).contains o && (m.mark o).isFastLocked) = true := by
      intro fast
      cases ho.symm.trans ((isFastLocked_iff h).1 (Bool.and_eq_true_iff.1 fast).2)
    have found : (cached? m o r).or (readMonitor? m o (m.mark o)) = some id := by
      cases eq : (cached? m o r).or (readMonitor? m o (m.mark o)) with
      | some i => exact congrArg some (Form.inflated.inj ((found_monitor h eq).symm.trans ho))
      | none => cases (Option.or_eq_none_iff.1 eq).2.symm.trans ((readMonitor?_iff h id).2 ho)
    dsimp only
    rw [if_neg slow, found]
    exact exitInflated_claims h anonymous mem

end FastLocking

end ObjectLocks
