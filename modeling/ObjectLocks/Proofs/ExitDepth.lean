import ObjectLocks.Proofs.Handoff
import ObjectLocks.Proofs.Placement
import ObjectLocks.Proofs.Refinement

/-!
# What an exit of a fast lock releases

A thread holds an object as often as its entries on the lock stack tell, or, once the object has a
monitor that tells its owner, as the count of the monitor's further enters. An exit takes one of the
levels back, and the last exit hands the object to the thread that has waited longest. There is one
exception: the entries of a fast-locked object are all removed if there are several and none of them
is on top of the lock stack. Then the exit releases the object at once.

However the locks are used, every object is a recursive lock at any time, so that it is enough to
say what an exit does to that.
-/

namespace ObjectLocks

namespace RecursiveLock

/-- How often a thread has entered, and has yet to exit. -/
def depth (t : ThreadId) : RecursiveLock → Nat
  | unlocked => 0
  | owned u d _ => if u = t then d else 0

variable {x y : RecursiveLock} {t : ThreadId}

/-- A thread that has entered a lock and has yet to exit it owns the lock. -/
lemma owner?_of_depth (held : 0 < x.depth t) : ∃ d q, x = owned t (d + 1) q := by
  cases x with
  | unlocked => cases held
  | owned u d q =>
    simp only [depth] at held
    split at held
    next eq =>
      subst eq
      exact ⟨d - 1, q, by rw [Nat.sub_add_cancel held]⟩
    next => cases held

/-- An exit takes one level back, and at the last level passes the lock on. -/
lemma depth_exit (held : 0 < x.depth t) (awake : t ∉ x.waiting) (exits : x.exit t = some y) :
    y.depth t = x.depth t - 1 ∧ ∀ u, u ≠ t →
      y.depth u = if y.depth t = 0 ∧ x.waiting.head? = some u then 1 else 0 := by
  obtain ⟨d, q, rfl⟩ := owner?_of_depth held
  match d, q with
  | d + 1, q =>
    obtain rfl := Option.some.inj (exit_again.symm.trans exits)
    simp +contextual [depth, ne_comm]
  | 0, [] =>
    obtain rfl := Option.some.inj (exit_unlocks.symm.trans exits)
    simp [depth, waiting]
  | 0, v :: q =>
    obtain rfl := Option.some.inj (exit_hands_off.symm.trans exits)
    have ne : v ≠ t := fun eq => awake (eq ▸ List.mem_cons_self)
    simp [depth, waiting, ne]

end RecursiveLock

namespace Machine

/-- How often a thread has entered an object and has yet to exit it, with fast-locking. -/
def depth (m : Machine) (t : ThreadId) (o : ObjectId) : Nat :=
  if (m.lockStack t).contains o then (m.lockStack t).count o
  else
    match m.monitorOf? o with
    | some id => if (m.monitor id).isOwner t then (m.monitor id).recursions.toNat + 1 else 0
    | none => 0

/-- The threads in the queue of the object's monitor, the longest waiting first. -/
def waiting (m : Machine) (o : ObjectId) : List ThreadId :=
  match m.monitorOf? o with
  | some id => (m.monitor id).queue
  | none => []

/-- A thread has fast-locked an object several times, and another one after it. -/
def Buried (m : Machine) (t : ThreadId) (o : ObjectId) : Prop :=
  (m.mark o).isFastLocked = true ∧ 2 ≤ m.depth t o ∧ (m.lockStack t).top? ≠ some o

/-- What an exit of `o` by thread `t` releases. -/
structure ReleasesLevel (m : Machine) (t : ThreadId) (o : ObjectId) (n : Machine) : Prop where
  /-- One level, but for the exception. -/
  level : ¬ m.Buried t o → n.depth t o = m.depth t o - 1
  buried : m.Buried t o → n.depth t o = 0
  /-- Nobody else gets the object before it is released, and then the first waiting thread. -/
  next : ∀ u, u ≠ t →
    n.depth u o = if n.depth t o = 0 ∧ (m.waiting o).head? = some u then 1 else 0
  elsewhere : ∀ u p, p ≠ o → n.depth u p = m.depth u p

end Machine

namespace FastLocking

variable {m : Machine} {v : LockView} {t : ThreadId} {o : ObjectId} {r : RecordId}
  {x : RecursiveLock} {L : Locks}

/-- In every coherent view an object is a recursive lock. -/
lemma Coherent.represents (h : Coherent v)
    (queued : ∀ id, (v.monitor id).queued = (v.monitor id).queue.length)
    (owned : ∀ id, (v.monitor id).queue ≠ [] → (v.monitor id).owner ≠ .nobody) (o : ObjectId) :
    ∃ x, Represents v o x := by
  have placed := h.placed o
  cases hf : v.form o with
  | unlocked => exact ⟨_, represents_unlocked hf⟩
  | fast =>
    obtain ⟨t, mem, -⟩ := placed.fast hf
    exact ⟨_, represents_fast hf mem⟩
  | inflated id =>
    cases own : (v.monitor id).owner with
    | nobody =>
      have queue : (v.monitor id).queue = [] := by
        by_contra some
        exact owned id some own
      exact ⟨_, represents_free hf rfl own (by rw [queued, queue]; rfl) queue⟩
    | anonymous =>
      obtain ⟨t, mem, -⟩ := placed.anonymous hf own
      exact ⟨_, represents_anonymous hf rfl own (queued id) mem⟩
    | thread t => exact ⟨_, represents_owned hf rfl own (queued id) rfl⟩
  | stacked _ | invalid =>
    rw [Placed, hf] at placed
    exact placed.elim

/-- The monitor of an object is the one of its form. -/
lemma monitorOf?_iff (h : Coherent m.view) (id : MonitorId) :
    m.monitorOf? o = some id ↔ m.form o = .inflated id := by
  have mode : m.options.mode = .lightweight := h.mode
  unfold Machine.monitorOf? Locking.readMonitor?
  rw [if_pos mode]
  exact readMonitor?_iff h id

/-- An object without the form of a monitor has none. -/
lemma monitorOf?_eq_none (h : Coherent m.view) (free : ∀ id, m.form o ≠ .inflated id) :
    m.monitorOf? o = none :=
  Option.eq_none_iff_forall_ne_some.2 fun id hk => free id ((monitorOf?_iff h id).1 hk)

/-- An object on the lock stack of a thread was entered as often as it is there. -/
lemma depth_of_mem (mem : o ∈ m.view.lockStack t) :
    m.depth t o = (m.view.lockStack t).count o := by
  unfold Machine.depth
  rw [if_pos ((LockStack.contains_iff _ _).2 mem), LockStack.count_eq]
  rfl

/-- An object off the lock stack of a thread was entered as often as its monitor tells, if the
thread owns that. -/
lemma depth_of_not_mem (out : o ∉ m.view.lockStack t) : m.depth t o =
    match m.monitorOf? o with
    | some id => if (m.monitor id).isOwner t then (m.monitor id).recursions.toNat + 1 else 0
    | none => 0 := by
  unfold Machine.depth
  rw [if_neg (by rw [contains_eq_false.2 out]; exact nofun)]

/-- What the header, the lock stack and the monitor tell is the depth of the recursive lock. -/
lemma Represents.depth_eq (rep : Represents m.view o x) (h : Coherent m.view) (t : ThreadId) :
    m.depth t o = x.depth t := by
  have placed := h.placed o
  -- Of a lock without a named owner, the thread that has it on its stack has entered it.
  have stacked {u q} (mem : o ∈ m.view.lockStack u) (one : OnOneStack m.view o)
      (unnamed : ∀ id, m.monitorOf? o = some id → (m.monitor id).owner ≠ .thread t) :
      m.depth t o = (RecursiveLock.owned u ((m.view.lockStack u).count o) q).depth t := by
    by_cases eq : u = t
    · subst eq
      rw [depth_of_mem mem]
      exact (if_pos rfl).symm
    · rw [depth_of_not_mem fun mem' => eq (one.unique mem mem'), RecursiveLock.depth, if_neg eq]
      split
      next id hk => exact if_neg fun own => unnamed id hk (beq_iff_eq.1 own)
      next => rfl
  cases hf : m.view.form o with
  | unlocked =>
    have free : m.monitorOf? o = none := monitorOf?_eq_none h fun id hi => nomatch hf.symm.trans hi
    rw [rep.unlocked hf, depth_of_not_mem (placed.unlocked hf t), free]
    rfl
  | fast =>
    obtain ⟨u, mem, rfl⟩ := rep.fast hf
    refine stacked mem (placed.fast hf) fun id hk => ?_
    cases hf.symm.trans ((monitorOf?_iff h id).1 hk)
  | inflated id =>
    have hk : m.monitorOf? o = some id := (monitorOf?_iff h id).2 hf
    cases own : (m.view.monitor id).owner with
    | nobody =>
      have other : (m.monitor id).isOwner t = false :=
        beq_eq_false_iff_ne.2 fun eq => nomatch own.symm.trans eq
      rw [(rep.free hf own).2, depth_of_not_mem (placed.inflated hf (by rw [own]; exact nofun) t),
        hk]
      simp only [other]
      rfl
    | anonymous =>
      obtain ⟨u, mem, rfl⟩ := rep.anonymous hf own
      refine stacked mem (placed.anonymous hf own) fun id' hk' eq => ?_
      obtain rfl := Option.some.inj (hk.symm.trans hk')
      cases own.symm.trans eq
    | thread u =>
      rw [rep.owned hf own, depth_of_not_mem (placed.inflated hf (by rw [own]; exact nofun) t),
        hk]
      have own' : (m.monitor id).owner = .thread u := own
      simp only [Monitor.isOwner, own', RecursiveLock.depth, beq_iff_eq, Owner.thread.injEq]
      rfl
  | stacked _ | invalid => simp only [Represents, hf] at rep

/-- The waiting threads are those of the recursive lock. -/
lemma Represents.waiting_eq (rep : Represents m.view o x) (h : Coherent m.view) :
    m.waiting o = x.waiting := by
  rw [rep.waiting]
  unfold Machine.waiting
  cases hf : m.view.form o with
  | inflated id =>
    have hk : m.monitorOf? o = some id := (monitorOf?_iff h id).2 hf
    rw [hk]
    rfl
  | unlocked | fast | stacked _ | invalid =>
    have free : m.monitorOf? o = none := monitorOf?_eq_none h fun id hi => nomatch hf.symm.trans hi
    rw [free]

/-- An owned lock has been entered. -/
lemma Represents.pos {d : Nat} {q : List ThreadId} (rep : Represents v o (.owned t d q)) :
    0 < d := by
  cases hf : v.form o with
  | unlocked => cases rep.unlocked hf
  | fast =>
    obtain ⟨u, mem, eq⟩ := rep.fast hf
    cases eq
    exact List.count_pos_iff.2 mem
  | inflated id =>
    cases own : (v.monitor id).owner with
    | nobody => cases (rep.free hf own).2
    | anonymous =>
      obtain ⟨u, mem, eq⟩ := rep.anonymous hf own
      cases eq
      exact List.count_pos_iff.2 mem
    | thread u =>
      cases rep.owned hf own
      exact Nat.succ_pos _
  | stacked _ | invalid => simp only [Represents, hf] at rep

/-- Whoever has entered an object holds it. -/
lemma holdsLock_iff_depth (h : Coherent m.view) (rep : Represents m.view o x) :
    holdsLock m t o = true ↔ 0 < m.depth t o := by
  rw [holdsLock_iff h, rep.holds_iff h, rep.depth_eq h]
  cases x with
  | unlocked => exact ⟨nofun, nofun⟩
  | owned u d q =>
    have pos := rep.pos
    simp only [RecursiveLock.owner?, Option.some.injEq, RecursiveLock.depth]
    split <;> simp_all

/-- An exit that unlocks the header removes all entries of the object. -/
lemma exit_unlocks (h : Coherent m.view) (ho : m.form o = .fast) (mem : o ∈ m.view.lockStack t)
    (single : (m.lockStack t).tryRecursiveExit o = none) :
    ∃ n, exit m t o r = .ok () n ∧ n.view = (m.view.setForm o .unlocked).dropObject t o := by
  have hd := header h o
  rw [ho] at hd
  cases hd with
  | @fast w hk _ table =>
    have held : ((m.lockStack t).contains o && (m.mark o).isFastLocked) = true :=
      Bool.and_eq_true_iff.2 ⟨(LockStack.contains_iff _ _).2 mem, (isFastLocked_iff h).2 ho⟩
    refine ⟨(m.setMark o ((m.mark o).mapWord .setUnlocked)).dropObject t o, ?_, ?_⟩
    · unfold exit
      rw [single]
      exact if_pos held
    · rw [Machine.view_dropObject, Machine.view_setMark, hk, Mark.mapWord,
        (ofMark_setBits h.mode table w).2]

/-- What silent changes leave as it is. -/
structure Same (v : LockView) (L : Locks) (t : ThreadId) (o : ObjectId) (w : LockView) : Prop where
  coherent : Coherent w
  attached : t < w.nextThread
  represents : ∀ p, Represents w p (L p)
  fast : w.form o = .fast → v.form o = .fast ∧ w.lockStack = v.lockStack

/-- A silent change leaves the lock as it is. -/
lemma Same.silent {u w : LockView} {op : Operation} (k : Same v L t op.object u)
    (c : Change t op u none w) : Same v L t op.object w := by
  refine ⟨c.coherent k.coherent k.attached, c.nextThread ▸ k.attached, fun p => ?_, fun ho => ?_⟩
  · by_cases eq : p = op.object
    · exact eq ▸ c.represents k.coherent (k.represents op.object)
    · exact (k.represents p).elsewhere (c.elsewhere k.coherent) eq (c.count eq)
  · cases c with
    | inflateFree _ | inflateOwn _ _ | inflateOther _ _ =>
      cases (Function.update_self ..).symm.trans ho
    | claim hi _ _ => cases hi.symm.trans ho
    | annotate _ _ | cache _ => exact k.fast ho

/-- An exit by the owner that does not unlock the header takes one level back. -/
lemma Same.exited {u w : LockView} (k : Same v L t o u)
    (kept : v.form o = .fast → o ∈ v.lockStack t → ∃ l, v.lockStack t = l ++ [o, o])
    (c : Change t (.exit o r) u (some (.exited t o r)) w) :
    ∃ y, (L o).exit t = some y ∧ ∀ p, Represents w p (Function.update L o y p) := by
  suffices here : ∃ y, (L o).exit t = some y ∧ Represents w o y by
    obtain ⟨y, exits, rep⟩ := here
    refine ⟨y, exits, fun p => ?_⟩
    by_cases eq : p = o
    · rw [eq, Function.update_self]
      exact rep
    · rw [Function.update_of_ne eq]
      exact (k.represents p).elsewhere (c.elsewhere k.coherent) eq (c.count eq)
  cases c with
  | drop top => exact (k.represents o).drop (k.coherent.placed o) top
  | unlock ho mem once =>
    obtain ⟨hf, same⟩ := k.fast ho
    rw [same] at mem once
    obtain ⟨l, top⟩ := kept hf mem
    exact absurd top (once l)
  | exitMonitor ho exit => exact (k.represents o).exitMonitor ho exit

/-- An exit of an object that the thread holds is not rejected. -/
lemma Same.not_rejected {u w : LockView} (k : Same v L t o u) (held : 0 < (L o).depth t)
    (c : Change t (.exit o r) u (some (.rejected t o r)) w) : False := by
  obtain ⟨d, q, eq⟩ := RecursiveLock.owner?_of_depth held
  have rep := k.represents o
  rw [eq] at rep
  cases c with
  | reject out other =>
    obtain ⟨id, ho, own⟩ := rep.named out
    exact other id ho own

/-- What a thread holds several times under other objects has several entries. -/
lemma buried_unlocks (h : Coherent m.view) (buried : m.Buried t o) :
    m.form o = .fast ∧ o ∈ m.view.lockStack t ∧ (m.lockStack t).tryRecursiveExit o = none := by
  obtain ⟨fast, two, top⟩ := buried
  have ho := (isFastLocked_iff h).1 fast
  refine ⟨ho, ?_, ?_⟩
  · by_contra out
    have free : m.monitorOf? o = none := monitorOf?_eq_none h fun id hi => nomatch ho.symm.trans hi
    rw [depth_of_not_mem out, free] at two
    cases two
  · cases pair : (m.lockStack t).tryRecursiveExit o with
    | none => rfl
    | some s =>
      obtain ⟨l, eq, -⟩ := LockStack.tryRecursiveExit_eq_some pair
      exact absurd (LockStack.top?_eq_some.2 ⟨l ++ [o], by simpa using eq⟩) top

/-- An exit of an object that the thread holds takes one level back, unless its entries are below
others. -/
lemma exit_levels (h : Coherent m.view) (attached : t < m.nextThread)
    (rep : ∀ p, Represents m.view p (L p)) (held : 0 < (L o).depth t) :
    ∃ n y, exit m t o r = .ok () n ∧ Coherent n.view ∧
      (∀ p, Represents n.view p (Function.update L o y p)) ∧
      (m.Buried t o ∧ y = .unlocked ∨ ¬ m.Buried t o ∧ (L o).exit t = some y) := by
  by_cases unlocks : m.form o = .fast ∧ o ∈ m.view.lockStack t ∧
      (m.lockStack t).tryRecursiveExit o = none
  · obtain ⟨ho, mem, single⟩ := unlocks
    obtain ⟨n, eq, hn⟩ := exit_unlocks (r := r) h ho mem single
    have once := LockStack.tryRecursiveExit_eq_none single
    have c : Change t (.exit o r) m.view (some (.exited t o r)) n.view :=
      hn ▸ .unlock ho mem once
    refine ⟨n, .unlocked, eq, c.coherent h attached, fun p => ?_, ?_⟩
    · by_cases eq : p = o
      · rw [eq, Function.update_self, hn]
        exact represents_unlocked (Function.update_self ..)
      · rw [Function.update_of_ne eq]
        exact (rep p).elsewhere (c.elsewhere h) eq (c.count eq)
    · by_cases buried : m.Buried t o
      · exact .inl ⟨buried, rfl⟩
      · -- The only entry of the object is the first enter.
        have one : (m.view.lockStack t).count o = 1 := by
          by_contra more
          refine buried ⟨(isFastLocked_iff h).2 ho, ?_, fun top => more ?_⟩
          · have pos := List.count_pos_iff.2 mem
            rw [depth_of_mem mem]
            omega
          · obtain ⟨l, top⟩ := LockStack.top?_eq_some.1 top
            have runs := h.runs t
            rw [show m.view.lockStack t = _ from top] at runs ⊢
            exact runs.count_eq_one (top ▸ once)
        obtain ⟨u, mem', eq⟩ := (rep o).fast ho
        obtain rfl := ((h.placed o).fast ho).unique mem mem'
        exact .inr ⟨buried, by rw [eq, one, RecursiveLock.exit_unlocks]⟩
  · have start : Same m.view L t o m.view := ⟨h, attached, rep, fun ho => ⟨ho, rfl⟩⟩
    have kept : m.view.form o = .fast → o ∈ m.view.lockStack t →
        ∃ l, m.view.lockStack t = l ++ [o, o] := by
      intro ho mem
      cases pair : (m.lockStack t).tryRecursiveExit o with
      | none => exact absurd ⟨ho, mem, pair⟩ unlocks
      | some s =>
        obtain ⟨l, eq, -⟩ := LockStack.tryRecursiveExit_eq_some pair
        exact ⟨l, eq⟩
    have follows := exit_follows (t := t) (o := o) (r := r) h
    match eq : exit m t o r with
    | .ok _ n =>
      rw [eq] at follows
      obtain ⟨u, k, c⟩ := Steps.before_event follows start fun k c => k.silent c
      obtain ⟨y, exits, rep'⟩ := k.exited kept c
      exact ⟨n, y, rfl, c.coherent k.coherent k.attached, rep',
        .inr ⟨fun buried => unlocks (buried_unlocks h buried), exits⟩⟩
    | .fault f n =>
      rw [eq] at follows
      obtain ⟨u, k, c⟩ := Steps.before_event follows start fun k c => k.silent c
      exact (k.not_rejected held c).elim

/-- So it does for the depths at which the threads hold the objects. -/
lemma exit_releases (h : Coherent m.view) (attached : t < m.nextThread)
    (rep : ∀ p, Represents m.view p (L p)) (held : 0 < m.depth t o) (awake : t ∉ m.waiting o) :
    ∃ n, exit m t o r = .ok () n ∧ m.ReleasesLevel t o n := by
  have depth (p : ObjectId) (u : ThreadId) : m.depth u p = (L p).depth u := (rep p).depth_eq h u
  have queue : m.waiting o = (L o).waiting := (rep o).waiting_eq h
  rw [depth] at held
  rw [queue] at awake
  obtain ⟨n, y, eq, h', rep', exits⟩ := exit_levels (r := r) h attached rep held
  have depth' (p : ObjectId) (u : ThreadId) : n.depth u p = (Function.update L o y p).depth u :=
    (rep' p).depth_eq h' u
  have here (u : ThreadId) : n.depth u o = y.depth u := by rw [depth', Function.update_self]
  refine ⟨n, eq, fun whole => ?_, fun buried => ?_, fun u ne => ?_, fun u p ne => ?_⟩
  · obtain ⟨buried, -⟩ | ⟨-, exits⟩ := exits
    · exact absurd buried whole
    · rw [here, depth, (RecursiveLock.depth_exit held awake exits).1]
  · obtain ⟨-, rfl⟩ | ⟨whole, -⟩ := exits
    · rw [here]
      rfl
    · exact absurd buried whole
  · rw [here, here, queue]
    obtain ⟨buried, rfl⟩ | ⟨-, exits⟩ := exits
    · -- Nobody waits for an object without a monitor.
      obtain ⟨v, -, eq⟩ := (rep o).fast (buried_unlocks h buried).1
      simp [eq, RecursiveLock.depth, RecursiveLock.waiting]
    · exact (RecursiveLock.depth_exit held awake exits).2 u ne
  · rw [depth', depth, Function.update_of_ne ne]

end FastLocking

namespace Machine

variable {m n : Machine} {t : ThreadId} {o : ObjectId}

/-- The count of held locks has no part in the lock stacks. -/
lemma lockStack_lose (m : Machine) (t : ThreadId) :
    (m.modifyThread t .lose).lockStack = m.lockStack := by
  funext u
  simp only [lockStack, thread_modifyThread]
  split
  next eq => rw [eq]; rfl
  next => rfl

/-- The count of held locks has no part in depths. -/
lemma depth_lose (m : Machine) (t : ThreadId) : (m.modifyThread t .lose).depth = m.depth := by
  funext u o
  unfold depth
  rw [lockStack_lose]
  rfl

/-- The count of held locks has no part in what an exit releases. -/
lemma ReleasesLevel.of_lose (h : (m.modifyThread t .lose).ReleasesLevel t o n) :
    m.ReleasesLevel t o n := by
  obtain ⟨level, buried, next, elsewhere⟩ := h
  unfold Buried at level buried
  rw [depth_lose, lockStack_lose] at level buried
  rw [depth_lose] at elsewhere
  exact ⟨level, buried, next, elsewhere⟩

end Machine

/-- What depths tell at any time. -/
structure World.TracksDepth (s : World) : Prop where
  holds : ∀ t o, s.machine.holdsLock t o = true ↔ 0 < s.machine.depth t o
  exclusive : ∀ t u o, 0 < s.machine.depth t o → 0 < s.machine.depth u o → t = u
  /-- An exit of an object that the thread holds ends without a fault. -/
  exits : ∀ w t o r raw, (s.worker w).thread = some t → (s.worker w).wait = none →
    0 < s.machine.depth t o → ∃ n, s.begin w (.exit o r raw) =
        ({ s with machine := n }, .answered .done) ∧ s.machine.ReleasesLevel t o n

namespace Run

variable {options : Options} {s : World} {h : List Event}

/-- At any time of any run with fast-locking, an exit releases one level of the object, unless its
entries are below others on the lock stack. -/
theorem exit_depth (run : Run anyUse options s h) (mode : options.mode = .lightweight) :
    s.TracksDepth := by
  obtain ⟨sound, same, -⟩ := run.accounted
  have fast : s.machine.options.mode = .lightweight := same.trans mode
  have coherent := sound.coherent.fast fast
  have lined (id : MonitorId) := run.ordered.linedUp id
  obtain ⟨L, rep⟩ := Classical.axiomOfChoice fun o =>
    coherent.represents (fun id => (lined id).counted) (fun id => (lined id).owned) o
  refine ⟨fun t o => ?_, fun t u o ht hu => ?_, fun w t o r raw ht free held => ?_⟩
  · unfold Machine.holdsLock
    rw [if_pos fast]
    exact FastLocking.holdsLock_iff_depth coherent (rep o)
  · rw [(rep o).depth_eq coherent] at ht hu
    obtain ⟨d, q, eq⟩ := RecursiveLock.owner?_of_depth ht
    obtain ⟨d', q', eq'⟩ := RecursiveLock.owner?_of_depth hu
    cases eq.symm.trans eq'
    rfl
  · -- A worker that is awake is in no queue.
    have awake : t ∉ s.machine.waiting o := by
      unfold Machine.waiting
      split
      next id _ =>
        intro mem
        obtain ⟨⟨w', waits⟩, -⟩ := ((lined id).waiting t).1 mem
        exact run.ordered.distinct.awake ht free id w' waits
      next => exact nofun
    have attached : t < s.machine.nextThread := sound.lt ht
    rw [World.begin_attached ht]
    cases raw with
    | true =>
      obtain ⟨n, eq, releases⟩ :=
        FastLocking.exit_releases (r := r) coherent attached rep held awake
      have exits : Locking.exit s.machine t o r = .ok () n := by
        unfold Locking.exit
        rwa [if_pos fast]
      exact ⟨n, World.conclude_ok exits _, releases⟩
    | false =>
      let m := s.machine.modifyThread t .lose
      have view : m.view = s.machine.view := Machine.view_lose ..
      obtain ⟨n, eq, releases⟩ := FastLocking.exit_releases (m := m) (r := r) (by rwa [view])
        attached (by rwa [view]) (by rwa [Machine.depth_lose]) awake
      have exits : Locking.exit m t o r = .ok () n := by
        unfold Locking.exit
        rwa [if_pos (show m.options.mode = .lightweight from fast)]
      exact ⟨n, World.conclude_ok exits _, releases.of_lose⟩

/-- A thread enters an object twice and then another one. -/
def buriedLock : World × List Event :=
  (World.new (.ofMode .lightweight)).follow []
    [.addWorker, .act 0 .attach, .addRecord 0, .addRecord 0, .addRecord 0,
      .act 0 (.allocate "first" ⟨"Counter", 1, false⟩),
      .act 0 (.allocate "second" ⟨"Counter", 1, false⟩), .act 0 (.enter 0 0 false),
      .act 0 (.enter 0 1 false), .act 0 (.enter 1 2 false)]

/-- The thread holds the object twice, and after a single exit no longer. -/
theorem exit_depth_buriedLock : buriedLock.1.machine.depth 2 0 = 2 ∧
    ((buriedLock.1.begin 0 (.exit 0 1 false)).1.machine.depth 2 0 = 0) ∧
    buriedLock.1.TracksDepth :=
  ⟨by decide +kernel, by decide +kernel,
    exit_depth (.follow .new _ (by decide +kernel)) (rfl : (Options.ofMode _).mode = _)⟩

end Run

end ObjectLocks
