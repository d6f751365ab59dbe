import ObjectLocks.Proofs.Handoff
import ObjectLocks.Proofs.Ledger
import ObjectLocks.Proofs.Refinement
import ObjectLocks.Proofs.Scripts

/-!
# Hashes in every configuration

A system that runs a script with care follows the ledger move by move, in whatever way its locks are
represented. So a script is told the same hashes in every configuration.
-/

namespace ObjectLocks

/-- What the ledger tells of a system is so. -/
structure World.Agrees (s : World) (v : Ledger) : Prop where
  shown : v.Matches s.view
  sequence : ∀ t, (s.machine.thread t).hashes = v.sequence t
  hash : s.machine.hashOf = v.hash

/-- The system is where the ledger says, after a careful script with the given history. -/
structure World.Follows (address : RecordId → UInt64) (s : World) (h : List Event) (v : Ledger) :
    Prop where
  tracks : s.view.Tracks address h v.locks
  ordered : s.Ordered
  headed : s.Headed h
  calm : s.Calm
  agrees : s.Agrees v

/-- The hash that an operation answers. -/
def Progress.hash? : Progress → Option UInt32
  | answered (.hash x) => some x
  | _ => none

namespace World

variable {address : RecordId → UInt64} {s s' : World} {h : List Event} {v u : Ledger} {w : WorkerId}
  {t : ThreadId} {o : ObjectId} {r : RecordId} {op : Operation} {a : Action} {x : Move}
  {l : Option (ObjectId × RecordId)}

/-- An enter that ends without a fault is complete or makes its worker wait. -/
lemma concludeEnter_progress {operation : Machine → Outcome Entry} {goal : Goal}
    (ends : (operation s.machine).Ends) :
    (s.concludeEnter w goal operation).2 = .answered .done ∨
      (s.concludeEnter w goal operation).2 = .waiting := by
  obtain ⟨entry, n, eq⟩ := ends
  unfold concludeEnter enter
  rw [operate_ok eq]
  cases entry with
  | entered => exact .inl rfl
  | queued _ _ => exact .inr rfl

/-- An enter carries all hashes along when it is concluded. -/
lemma concludeEnter_carries {operation : Machine → Outcome Entry} {goal : Goal}
    (enters : (operation s.machine).Stacks s.machine o r) :
    ∃ l, Machine.Carries l s.machine (s.concludeEnter w goal operation).1.machine := by
  unfold concludeEnter enter
  match eq : operation s.machine with
  | .ok .entered n | .ok (.queued _ _) n =>
    rw [eq] at enters
    rw [operate_ok eq]
    exact ⟨_, enters⟩
  | .fault f n =>
    rw [eq] at enters
    rw [operate_fault eq]
    exact ⟨_, enters⟩

/-- An operation that does not wait answers or fails. -/
lemma conclude_progress {α : Type} (answer : α → Answer) (operation : Machine → Outcome α) :
    (∃ a, (s.conclude answer operation).2 = .answered (answer a)) ∨
      ∃ f, (s.conclude answer operation).2 = .failed f := by
  cases eq : operation s.machine with
  | ok a n => exact .inl ⟨a, by rw [conclude_ok eq]⟩
  | fault f n => exact .inr ⟨f, by rw [conclude_fault eq]⟩

/-- An operation that answers no hash answers none when it is concluded. -/
lemma conclude_hash? {α : Type} {answer : α → Answer} {operation : Machine → Outcome α}
    (other : ∀ a, (Progress.answered (answer a)).hash? = none) :
    (s.conclude answer operation).2.hash? = none := by
  rcases conclude_progress (s := s) answer operation with ⟨a, eq⟩ | ⟨f, eq⟩
  · rw [eq, other]
  · rw [eq]
    rfl

/-- What is left of an operation answers no hash. -/
lemma leave_hash? (resume : ThreadState) (goal : Goal) :
    (s.leave w t resume goal).2.hash? = none := by
  unfold leave
  split
  next => rfl
  next =>
    cases goal with
    | safepoint =>
      show (World.request _ w).2.hash? = none
      unfold request
      split <;> rfl
    | _ => rfl

namespace Agrees

/-- A change that carries all hashes along. -/
lemma carries (k : s.Agrees v) (headed : s.machine.WellHeaded)
    (carries : Machine.Carries l s.machine s'.machine) (shown : u.Matches s'.view)
    (sequence : u.sequence = v.sequence) (hash : u.hash = v.hash) : s'.Agrees u :=
  ⟨shown, fun t => by rw [carries.hashes, k.sequence, sequence],
    by rw [funext (carries.hash headed), k.hash, hash]⟩

/-- A change that the view does not show. -/
lemma unseen (k : s.Agrees v) (headed : s.machine.WellHeaded)
    (carries : Machine.Carries l s.machine s'.machine) (view : s'.view = s.view) : s'.Agrees v :=
  k.carries headed carries (view ▸ k.shown) rfl rfl

/-- A new thread has a sequence of its own. -/
lemma attach (k : s.Agrees v) (headed : s.machine.WellHeaded)
    (detached : (s.worker w).thread = none) (free : s.view.waitsFor w = none) :
    (s.attach w).1.Agrees (v.attach w) := by
  have shown : (v.attach w).Matches (s.attach w).1.view := by
    rw [view_attach detached free]
    exact k.shown.attach
  unfold World.attach at shown ⊢
  rw [detached] at shown ⊢
  dsimp only at shown ⊢
  generalize hs : World.modifyWorker _ w _ = s' at shown ⊢
  have carries := (leave_carries (s := s') (w := w) (t := s.machine.nextThread) .inManaged
    (.attach s.machine.nextThread)).machine
  have hash : s'.machine.hashOf = s.machine.hashOf := by rw [← hs]; rfl
  have headed' : s'.machine.WellHeaded := by
    rw [← hs]
    exact headed.of_marks rfl rfl (Nat.le_refl _) (Nat.le_refl _) (fun _ _ _ _ => rfl)
      fun _ _ _ _ => rfl
  refine ⟨shown, fun u => ?_, ?_⟩
  · rw [carries.hashes, ← hs]
    show ((s.machine.threads.set s.machine.nextThread _).get u).hashes =
      Function.update v.sequence v.nextThread (.seed v.nextThread) u
    rw [Store.get_set, ← k.shown.nextThread]
    show _ = Function.update v.sequence s.machine.nextThread (.seed s.machine.nextThread) u
    rw [Function.update_apply, Function.update_apply]
    split
    · rfl
    · exact k.sequence u
  · rw [funext (carries.hash headed'), hash]
    exact k.hash

/-- The hash of an object is the one that the ledger tells. -/
lemma identify (k : s.Agrees v) (headed : s.machine.WellHeaded)
    (same : v.Matches (s.act w t (.identityHash o)).1.view) :
    (s.act w t (.identityHash o)).1.Agrees (v.identify t o).2 ∧
      (s.act w t (.identityHash o)).2.hash? = some (v.identify t o).1 := by
  obtain ⟨x, n, ids, eq⟩ := identityHash_eq (w := w) (t := t) (o := o) headed
  have told : x = (v.identify t o).1 := by
    rw [ids.told, k.hash, k.sequence]
    rfl
  rw [eq] at same ⊢
  refine ⟨⟨same.congr rfl rfl rfl rfl, fun p => ?_, ?_⟩, congrArg some told⟩
  · rw [ids.hashes, k.hash, k.sequence, k.sequence]
    show _ = Function.update v.sequence t _ p
    rw [Function.update_apply]
    rfl
  · rw [ids.hash, told, k.hash]
    rfl

end Agrees

namespace Follows

variable (k : s.Follows address h v)
include k

/-- Who does not wait in the ledger does not wait for anything. -/
lemma wait_none (hw : v.waits w = none) : (s.worker w).wait = none := by
  have free : (s.worker w).wait.bind Wait.monitor? = none := k.agrees.shown.free w hw
  cases waits : (s.worker w).wait with
  | none => rfl
  | some x =>
    have lock := k.calm.waits w x waits
    cases x with
    | monitor id resume goal =>
      rw [waits] at free
      cases free
    | _ => cases lock

/-- Who waits for an object in the ledger waits for the monitor of that object. -/
lemma wait_some (hw : v.waits w = some o) : ∃ id resume goal,
    (s.worker w).wait = some (.monitor id resume goal) ∧ s.view.locks.form o = .inflated id := by
  obtain ⟨id, waits, ho⟩ := k.agrees.shown.waits w o hw
  replace waits : (s.worker w).wait.bind Wait.monitor? = some id := waits
  obtain ⟨x, hx, eq⟩ := Option.bind_eq_some_iff.1 waits
  cases x with
  | monitor i resume goal =>
    obtain rfl := Option.some.inj eq
    exact ⟨i, resume, goal, hx, ho⟩
  | _ => cases eq

/-- The ledger knows the threads of the workers. -/
lemma thread_eq (w : WorkerId) : (s.worker w).thread = v.thread w :=
  congrFun k.agrees.shown.thread w

/-- A careful move leads to the locks that its event leads to. -/
lemma next (allowed : careful address Nested s h x) : ∃ L',
    (s.move x).1.view.Tracks address ((s.label x).event?.toList ++ h) L' ∧
      (s.label x).event?.elim (L' = v.locks) fun e => e.apply v.locks = some L' := by
  obtain ⟨plain, use⟩ := allowed
  obtain ⟨L', tracks⟩ := k.tracks.step (move_step k.tracks.sound plain) use (fun _ _ _ => id)
    fun _ _ => Nested.inReverse
  refine ⟨L', tracks, ?_⟩
  have replays := tracks.replays
  cases he : (s.label x).event? with
  | none =>
    rw [he] at replays
    exact (Option.some.inj (k.tracks.replays.symm.trans replays)).symm
  | some e =>
    rw [he] at replays
    replace replays : (replay h).bind e.apply = some L' := replays
    rw [k.tracks.replays] at replays
    exact replays

/-- A careful enter uses a record that is not in use. -/
lemma apart (new : Unused address (pending h) (.enter o r)) (p : ObjectId) : ¬s.InUse h p r := by
  rintro (⟨t, mem⟩ | ⟨w, opened⟩)
  · exact new t _ mem rfl
  · rw [k.calm.regions w] at opened
    cases opened

/-- A careful script keeps the records of its enters apart. -/
lemma recordsApart (allowed : careful address Nested s h x) : recordsApart s h x := by
  intro w t o r e enters
  have use := allowed.2
  rw [enters] at use
  exact k.apart use.2.1

/-- The thread of a worker has been numbered. -/
lemma attached (ht : v.thread w = some t) : t < s.machine.nextThread :=
  k.tracks.sound.lt ((k.thread_eq w).trans ht)

section Acting

variable (ht : v.thread w = some t) (hw : v.waits w = none)

include hw in
/-- The worker of an awake thread begins what it is told to. -/
lemma begin_eq (a : Action) : s.move (.act w a) = s.begin w a :=
  move_act (k.wait_none hw) a

include ht

/-- A worker with a thread acts with that thread. -/
lemma act_eq (a : Action) : s.begin w a = s.act w t a :=
  begin_attached ((k.thread_eq w).trans ht) a

include hw in
/-- An operation on a lock is labelled as such. -/
lemma label_lock (lock : a.operation? = some op) :
    s.label (.act w a) = .lock w t op (a.event? t (s.act w t a).2) := by
  simp only [label_attached ((k.thread_eq w).trans ht) (k.wait_none hw), Action.label, lock]

/-- An enter is complete or waits. -/
lemma enter_progress (new : Unused address (pending h) (.enter o r)) (raw : Bool) :
    (s.act w t (.enter o r raw)).2 = .answered .done ∨
      (s.act w t (.enter o r raw)).2 = .waiting := by
  have coherent := k.tracks.sound.coherent
  have attached := k.attached ht
  have free := k.headed.free (k.apart new)
  cases raw with
  | true => exact concludeEnter_progress (Locking.enter_ends coherent k.ordered.marked
      k.headed.headed attached free (k.calm.unguarded t))
  | false => exact concludeEnter_progress (Machine.enter_ends coherent k.ordered.marked
      k.headed.headed attached free (k.calm.unguarded t))

include hw

/-- What an operation of a thread turns out to be is told by the locks. -/
lemma event_eq (allowed : careful address Nested s h (.act w a)) (scripted : a.isScripted = true)
    (lock : a.operation? = some op) : a.event? t (s.act w t a).2 = v.event? t op := by
  obtain ⟨L', -, applies⟩ := k.next allowed
  have use := allowed.2
  rw [k.label_lock ht hw lock] at applies use
  cases a with
  | enter o r raw =>
    cases lock
    show _ = some _
    rcases k.enter_progress ht use.2.1 raw with eq | eq
    · rw [eq] at applies ⊢
      obtain ⟨y, enters, -⟩ := Option.map_eq_some_iff.1 applies
      rw [if_pos (by rw [enters]; rfl)]
      rfl
    · rw [eq] at applies ⊢
      obtain ⟨y, waits, -⟩ := Option.map_eq_some_iff.1 applies
      rw [if_neg (by rw [RecursiveLock.enter_eq_none waits]; exact nofun)]
      rfl
  | exit o r raw =>
    cases lock
    -- An exit that fails is none that the locks allow.
    have progress : (∃ x, (s.act w t (.exit o r raw)).2 = .answered x) ∨
        ∃ f, (s.act w t (.exit o r raw)).2 = .failed f := by
      cases raw with
      | true => exact (conclude_progress _ _).imp_left fun ⟨_, eq⟩ => ⟨_, eq⟩
      | false => exact (conclude_progress _ _).imp_left fun ⟨_, eq⟩ => ⟨_, eq⟩
    rcases progress with ⟨x, eq⟩ | ⟨f, eq⟩
    · rw [eq]
      rfl
    · rw [eq] at applies
      cases applies
  | identityHash o | inflate o cause =>
    cases lock
    rfl
  | quickEnter _ _ _ => cases scripted
  | _ => cases lock

end Acting

/-- A move is an operation on a lock in the ledger if it is one in the system. -/
lemma label_cases (scripted : x.isScripted = true) :
    (s.label x = .other ∧ v.label x = .other) ∨
      ∃ w t op a, x = .act w a ∧ v.thread w = some t ∧ v.waits w = none ∧ a.operation? = some op ∧
        s.label x = .lock w t op (a.event? t (s.act w t a).2) ∧
        v.label x = .lock w t op (v.event? t op) := by
  cases x with
  | act w a =>
    cases hw : v.waits w with
    | some o =>
      obtain ⟨id, resume, goal, waits, -⟩ := k.wait_some hw
      simp only [World.label, Ledger.label, waits, hw]
      cases (s.worker w).thread <;> cases v.thread w <;> exact .inl ⟨rfl, rfl⟩
    | none =>
      cases ht : v.thread w with
      | none =>
        simp only [World.label, Ledger.label, (k.thread_eq w).trans ht, ht]
        exact .inl ⟨trivial, trivial⟩
      | some t =>
        cases lock : a.operation? with
        | some op =>
          exact .inr ⟨w, t, op, a, rfl, ht, hw, lock, k.label_lock ht hw lock,
            by simp only [Ledger.label, ht, hw, lock]⟩
        | none =>
          refine .inl ⟨?_, by simp only [Ledger.label, ht, hw, lock]⟩
          simp only [World.label, k.wait_none hw, (k.thread_eq w).trans ht, Action.label, lock]
          exact if_neg fun ends => by rw [ends.1] at scripted; cases scripted
  | _ => exact .inl ⟨rfl, rfl⟩

/-- A move of a system is what the ledger says. -/
lemma label_eq (allowed : careful address Nested s h x) (scripted : x.isScripted = true) :
    s.label x = v.label x := by
  rcases k.label_cases scripted with
    ⟨other, other'⟩ | ⟨w, t, op, a, rfl, ht, hw, lock, label, label'⟩
  · rw [other, other']
  · rw [label, label', k.event_eq ht hw allowed scripted lock]

/-- An operation of a thread on a lock, as far as the view shows it. -/
lemma lock_agrees (ht : v.thread w = some t) (hw : v.waits w = none)
    (allowed : careful address Nested s h (.act w a)) (scripted : a.isScripted = true)
    (lock : a.operation? = some op) :
    ((v.event? t op).elim v (v.book w)).Matches (s.act w t a).1.view := by
  have use := allowed.2
  rw [k.label_lock ht hw lock] at use
  have step := act_lock_step k.tracks.sound (congrFun k.agrees.shown.thread w |>.trans ht)
    (k.agrees.shown.free w hw) lock
  rw [k.event_eq ht hw allowed scripted lock] at step
  exact k.agrees.shown.lock k.tracks.sound step use.1

/-- An operation of a thread does in the system what it does in the ledger, and answers the same
hash. -/
lemma act_agrees (ht : v.thread w = some t) (hw : v.waits w = none)
    (allowed : careful address Nested s h (.act w a)) (scripted : a.isScripted = true) :
    (s.act w t a).1.Agrees (v.act w t a).1 ∧ (s.act w t a).2.hash? = (v.act w t a).2 := by
  have headed := k.headed.headed
  -- What carries all hashes along agrees with a ledger in which only its event is booked.
  have booked {op} {v' : Ledger} (carries : ∃ l, Machine.Carries l s.machine (s.act w t a).1.machine)
      (lock : a.operation? = some op) (eq : v' = (v.event? t op).elim v (v.book w)) :
      (s.act w t a).1.Agrees v' := by
    obtain ⟨l, carries⟩ := carries
    have shown := k.lock_agrees ht hw allowed scripted lock
    subst eq
    refine k.agrees.carries headed carries shown ?_ ?_
    · cases v.event? t op <;> rfl
    · cases v.event? t op <;> rfl
  cases a with
  | attach =>
    have attached : s.attach w = ({ s with machine := { s.machine with
        nextThread := s.machine.nextThread + 1 } }, .failed (.alreadyAttached t)) := by
      unfold World.attach
      rw [(k.thread_eq w).trans ht]
    show (s.attach w).1.Agrees _ ∧ (s.attach w).2.hash? = none
    rw [attached]
    exact ⟨k.agrees.carries (l := none) headed (.of_locks rfl rfl rfl rfl fun _ => rfl)
      k.agrees.shown.skip rfl rfl, rfl⟩
  | allocate label c =>
    have checked : s.machine.checkSafepoint t = .ok () s.machine := if_pos (k.calm.unguarded t)
    refine ⟨k.agrees.unseen headed (act_carries headed rfl).machine
      (view_poll (k.agrees.shown.free w hw) _), ?_⟩
    show (s.poll w t _).2.hash? = none
    unfold poll
    rw [operate_ok checked]
    exact leave_hash? _ _
  | enter o r raw =>
    -- The record of a careful enter is in no header, since no enter with it is pending.
    have use := allowed.2
    rw [k.label_lock ht hw rfl] at use
    have new : Unused address (pending h) (.enter o r) := use.2.1
    have free := k.headed.free (k.apart new)
    refine ⟨booked ?_ rfl rfl, ?_⟩
    · cases raw with
      | true => exact concludeEnter_carries (Locking.enter_stacks headed free)
      | false => exact concludeEnter_carries (Machine.enter_stacks headed free)
    · rcases k.enter_progress ht new raw with eq | eq <;> rw [eq] <;> rfl
  | exit o r raw =>
    cases raw with
    | true =>
      exact ⟨booked ⟨none, (conclude_carries (Locking.exit_carries headed)).machine⟩ rfl rfl,
        conclude_hash? fun _ => rfl⟩
    | false =>
      exact ⟨booked ⟨none, (conclude_carries (Machine.exit_carries headed)).machine⟩ rfl rfl,
        conclude_hash? fun _ => rfl⟩
  | identityHash o =>
    exact k.agrees.identify headed (k.lock_agrees ht hw allowed rfl rfl)
  | inflate o cause =>
    exact ⟨booked ⟨none, (act_carries headed rfl).machine⟩ rfl rfl, conclude_hash? fun _ => rfl⟩
  | _ => cases scripted

/-- The thread of a worker goes on once it has been handed the lock that it waits for. -/
lemma wake_agrees (w : WorkerId) :
    (s.wake w).1.Agrees (v.wake w) ∧ (s.wake w).2.hash? = none := by
  have headed := k.headed.headed
  have idle : (s, Progress.waiting).1.Agrees v ∧ (s, Progress.waiting).2.hash? = none :=
    ⟨k.agrees, rfl⟩
  cases hw : v.waits w with
  | none =>
    have asleep : v.wake w = v := by
      unfold Ledger.wake
      rw [hw]
      cases v.thread w <;> rfl
    rw [asleep]
    unfold World.wake
    rw [k.wait_none hw]
    cases (s.worker w).thread <;> exact idle
  | some o =>
    obtain ⟨id, resume, goal, waits, ho⟩ := k.wait_some hw
    cases ht : v.thread w with
    | none =>
      have detached : v.wake w = v := by
        unfold Ledger.wake
        rw [ht]
      rw [detached]
      unfold World.wake
      rw [(k.thread_eq w).trans ht]
      exact idle
    | some t =>
      -- The queue of the monitor is that of the lock, so both tell whether the thread still waits.
      have queue : (v.locks o).waiting = (s.machine.monitor id).queue := by
        rw [k.tracks.refines.waiting o, ho]
        rfl
      have standing := (k.ordered.linedUp id).of_waits (Scene.waiter?_eq_some.2
        ⟨congrArg (Option.bind · Wait.monitor?) waits, (k.thread_eq w).trans ht⟩)
      unfold World.wake Ledger.wake
      simp only [(k.thread_eq w).trans ht, waits, ht, hw]
      by_cases own : (s.machine.monitor id).owner = .thread t
      · have awake : t ∉ (v.locks o).waiting := k.tracks.refines.awake ho own
        have isOwner : (s.machine.monitor id).isOwner t = true := beq_iff_eq.2 own
        rw [if_pos isOwner, if_neg awake]
        refine ⟨k.agrees.carries headed (leave_carries resume goal).machine ?_ rfl rfl,
          leave_hash? _ _⟩
        rw [view_leave]
        exact k.agrees.shown.resume
      · have asleep : t ∈ (v.locks o).waiting := queue ▸ standing.resolve_right own
        have other : ¬(s.machine.monitor id).isOwner t = true := fun isOwner =>
          own (beq_iff_eq.1 isOwner)
        rw [if_neg other, if_pos asleep]
        exact idle

/-- A worker without a thread can only attach. -/
lemma begin_agrees (ht : v.thread w = none) (hw : v.waits w = none)
    (scripted : a.isScripted = true) :
    (s.begin w a).1.Agrees (if a = .attach then v.attach w else v) ∧
      (s.begin w a).2.hash? = none := by
  have detached := (k.thread_eq w).trans ht
  by_cases attach : a = .attach
  · subst attach
    have attaches : s.begin w .attach = s.attach w := by
      simp only [World.begin, detached, k.calm.unscoped w, Bool.false_eq_true, if_false]
    rw [attaches, if_pos rfl]
    refine ⟨k.agrees.attach k.headed.headed detached (k.agrees.shown.free w hw), ?_⟩
    unfold World.attach
    rw [detached]
    exact leave_hash? _ _
  · rw [if_neg attach]
    rcases begin_detached detached a with refused | ⟨eq, -⟩ | ⟨rfl, -⟩ | ⟨rfl, -⟩
    · rw [refused]
      exact ⟨k.agrees, rfl⟩
    · exact absurd eq attach
    all_goals cases scripted

/-- A move does in the system what it does in the ledger, and answers the same hash. -/
lemma move_agrees (allowed : careful address Nested s h x) (scripted : x.isScripted = true) :
    (s.move x).1.Agrees (v.move x).1 ∧ (s.move x).2.hash? = (v.move x).2 := by
  have headed := k.headed.headed
  cases x with
  | act w a =>
    cases hw : v.waits w with
    | some o =>
      obtain ⟨id, resume, goal, waits, -⟩ := k.wait_some hw
      simp only [World.move, Ledger.move, waits, hw, Option.isSome_some, if_true]
      exact ⟨k.agrees, rfl⟩
    | none =>
      rw [k.begin_eq hw]
      simp only [Ledger.move, hw, Option.isSome_none, Bool.false_eq_true, if_false]
      cases ht : v.thread w with
      | some t =>
        rw [k.act_eq ht]
        exact k.act_agrees ht hw allowed scripted
      | none =>
        exact k.begin_agrees ht hw scripted
  | wake w => exact k.wake_agrees w
  | grant w =>
    show (s.grant w).1.Agrees v ∧ (s.grant w).2.hash? = none
    rw [k.calm.grant_eq]
    exact ⟨k.agrees, rfl⟩
  | reach w =>
    show (s.reach w).1.Agrees v ∧ (s.reach w).2.hash? = none
    rw [k.calm.reach_eq]
    exact ⟨k.agrees, rfl⟩
  | addWorker => exact ⟨k.agrees.unseen headed (.refl _) (view_addWorker s), rfl⟩
  | addRecord w =>
    refine ⟨k.agrees.carries headed (Machine.carries_addRecord _ w) ?_ rfl rfl, rfl⟩
    show Ledger.Matches _ (s.addRecord w).2.view
    rw [view_addRecord]
    exact k.agrees.shown.newRecord _

/-- The system keeps following the ledger. -/
theorem move (allowed : careful address Nested s h x) (scripted : x.isScripted = true) :
    (s.move x).1.Follows address ((v.label x).event?.toList ++ h) (v.move x).1 := by
  have label := k.label_eq allowed scripted
  obtain ⟨L', tracks, applies⟩ := k.next allowed
  have headed := (move_stays k.headed (k.recordsApart allowed)).headed
  rw [label] at tracks applies headed
  have locks : L' = (v.move x).1.locks := by
    rw [v.locks_move x]
    cases he : (v.label x).event? with
    | none => exact (by rwa [he] at applies : L' = v.locks)
    | some e =>
      replace applies : e.apply v.locks = some L' := by rwa [he] at applies
      show L' = (e.apply v.locks).getD v.locks
      rw [applies]
      rfl
  exact ⟨locks ▸ tracks, k.ordered.move x, headed, k.calm.move k.ordered.marked scripted,
    (k.move_agrees allowed scripted).1⟩

end Follows

/-- A new system is where the new ledger says. -/
lemma follows_new (address : RecordId → UInt64) (options : Options) :
    (World.new options).Follows address [] .new := by
  refine ⟨Run.tracks_new options, .new options, Run.headed_new options, .new options,
    ⟨rfl, ?_, ?_, rfl, rfl⟩,
    fun _ => rfl, funext fun o => ?_⟩
  · exact fun _ _ => rfl
  · exact fun _ _ => nofun
  · exact (by decide : LockWord.fresh.hash = 0)

/-- What the moves of a script answer, if it is a hash. -/
def hashes (s : World) : List Move → List (Option UInt32)
  | [] => []
  | x :: l => (s.move x).2.hash? :: (s.move x).1.hashes l

namespace Follows

/-- Systems that follow the same ledger make the same moves with care. -/
lemma careful (k : s.Follows address h v) (k' : s'.Follows address h v)
    (allowed : careful address Nested s h x) (scripted : x.isScripted = true) :
    careful address Nested s' h x := by
  refine ⟨allowed.1, ?_⟩
  have use := allowed.2
  rw [k.label_eq allowed scripted] at use
  rcases k'.label_cases scripted with ⟨other, -⟩ | ⟨w, t, op, a, -, -, -, -, label, label'⟩
  · rw [other]
    trivial
  · rw [label'] at use
    obtain ⟨existing, rest⟩ := use
    rw [label]
    refine ⟨?_, rest⟩
    rw [k'.agrees.shown.records, ← k.agrees.shown.records]
    exact existing

/-- A careful script keeps the records of its enters apart. -/
lemma recordsApart_allows (k : s.Follows address h v) (l : List Move)
    (scripted : ∀ x ∈ l, x.isScripted = true)
    (allowed : (ObjectLocks.careful address Nested).Allows s h l) :
    ObjectLocks.recordsApart.Allows s h l := by
  induction l generalizing s h v with
  | nil => trivial
  | cons x l ih =>
    have this := scripted x List.mem_cons_self
    have next := k.move allowed.1 this
    rw [← k.label_eq allowed.1 this] at next
    exact ⟨k.recordsApart allowed.1,
      ih next (fun y mem => scripted y (List.mem_cons_of_mem x mem)) allowed.2⟩

/-- They answer the same hashes to a script. -/
theorem hashes_eq (k : s.Follows address h v) (k' : s'.Follows address h v) (l : List Move)
    (scripted : ∀ x ∈ l, x.isScripted = true)
    (allowed : (ObjectLocks.careful address Nested).Allows s h l) : s'.hashes l = s.hashes l := by
  induction l generalizing s s' h v with
  | nil => rfl
  | cons x l ih =>
    have this := scripted x List.mem_cons_self
    have allowed' := k.careful k' allowed.1 this
    have next := k.move allowed.1 this
    have next' := k'.move allowed' this
    have rest := allowed.2
    rw [k.label_eq allowed.1 this] at rest
    have told := (k.move_agrees allowed.1 this).2
    have told' := (k'.move_agrees allowed' this).2
    show (s'.move x).2.hash? :: _ = (s.move x).2.hash? :: _
    rw [told, told', ih next next' (fun y mem => scripted y (List.mem_cons_of_mem x mem)) rest]

end Follows

end World

namespace Run

/-- In every configuration the hash of an object is told once and for all, whatever happens to its
lock, as long as every enter has a lock record to itself. A balanced script is told the same hashes
in every configuration. -/
theorem identity_hash_stable :
    (∀ options s h, Run recordsApart options s h → ∀ o, s.KeepsHash h o) ∧
    ∀ address options options' l, (∀ x ∈ l, x.isScripted = true) →
      (careful address Nested).Allows (World.new options) [] l →
        (World.new options').hashes l = (World.new options).hashes l := by
  refine ⟨fun options s h run => run.headed.keepsHash, ?_⟩
  intro address options options' l scripted allowed
  exact (World.follows_new address options).hashes_eq (World.follows_new address options') l
    scripted allowed

/-- An object is hashed while one thread holds it, while another one waits for it, and after it was
handed over. -/
def hashedThroughout : List Move :=
  [.addWorker, .addWorker, .act 0 .attach, .act 1 .attach, .addRecord 0, .addRecord 1,
    .act 0 (.allocate "box" ⟨"Box", 0, false⟩), .act 0 (.enter 0 0 false),
    .act 1 (.identityHash 0), .act 1 (.enter 0 1 false), .act 0 (.identityHash 0),
    .act 0 (.exit 0 0 false), .wake 1, .act 1 (.identityHash 0)]

/-- The hash is the same one three times, in this mode and with fast-locking. -/
theorem identity_hash_stable_throughout :
    let world := (World.new (.ofMode .legacy)).follow [] hashedThroughout
    world.1.KeepsHash world.2 0 ∧
      (World.new (.ofMode .lightweight)).hashes hashedThroughout =
        (World.new (.ofMode .legacy)).hashes hashedThroughout ∧
      ((World.new (.ofMode .legacy)).hashes hashedThroughout).reduceOption =
        [757433710, 757433710, 757433710] := by
  have scripted : ∀ x ∈ hashedThroughout, x.isScripted = true := by decide
  have allowed : (careful .ofNat Nested).Allows (World.new (.ofMode .legacy)) []
      hashedThroughout := by decide +kernel
  have apart := (World.follows_new .ofNat (.ofMode .legacy)).recordsApart_allows _ scripted allowed
  exact ⟨identity_hash_stable.1 _ _ _ (.follow .new _ apart) 0,
    identity_hash_stable.2 .ofNat _ _ _ scripted allowed, by decide +kernel⟩

end Run

end ObjectLocks
