import ObjectLocks.Proofs.FastLocking.Headers
import ObjectLocks.Proofs.RecursiveLock
import ObjectLocks.Proofs.Runs
import ObjectLocks.Proofs.StackLocking.Headers

/-!
# Identity hashes are stable

Once an object has been hashed, everyone is told the same hash from then on. All that this takes is
that no enter uses a lock record that is in use for an earlier one: exits need not be in order, and
monitors may be used past the objects whose locks they are.
-/

namespace ObjectLocks

open Machine (Carries)

namespace Locking

variable {m : Machine} {t : ThreadId} {o : ObjectId} {r : RecordId}

/-- An enter carries all hashes along in every mode, if its record is in no header. -/
lemma enter_stacks (headed : m.WellHeaded) (free : ∀ p, m.mark p ≠ .record r) :
    (enter m t o r).Stacks m o r := by
  unfold enter
  split
  next mode => exact .of_carries (FastLocking.enter_carries mode headed)
  next mode => exact StackLocking.enter_stacks mode headed free

/-- A quick enter carries all hashes along in every mode, if its record is in no header. -/
lemma quickEnter_carries (headed : m.WellHeaded) (free : ∀ p, m.mark p ≠ .record r) :
    (quickEnter m t o r).Carries m := by
  unfold quickEnter
  split
  next mode => exact FastLocking.quickEnter_carries mode headed
  next => exact StackLocking.quickEnter_carries free

/-- An exit carries all hashes along in every mode. -/
lemma exit_carries (headed : m.WellHeaded) : (exit m t o r).Carries m := by
  unfold exit
  split
  next mode => exact FastLocking.exit_carries mode headed
  next => exact StackLocking.exit_carries headed

/-- After an exit the record is not in the header of the object. -/
lemma exit_unlinks (headed : m.WellHeaded) : (exit m t o r).machine.mark o ≠ .record r := by
  unfold exit
  split
  next mode =>
    intro linked
    have hk := (FastLocking.exit_carries mode headed).stacked o r linked
    exact FastLocking.mark_ne_record mode headed o r (hk.resolve_right nofun)
  next => exact StackLocking.exit_unlinks headed

/-- An inflation carries all hashes along in every mode. -/
lemma inflate_carries (headed : m.WellHeaded) (cause : InflationCause) :
    (inflate m t o cause).Carries m := by
  unfold inflate
  split
  next mode => exact FastLocking.inflate_carries mode headed cause
  next mode =>
    obtain ⟨id, n, inflates, carries, -⟩ :=
      StackLocking.inflate_carries (t := t) (o := o) mode headed cause
    rw [inflates]
    exact carries

end Locking

namespace Machine

variable {m : Machine} {t : ThreadId} {o : ObjectId} {r : RecordId}

/-- The thread that asks for an identity hash is told one, in every mode. -/
lemma identityHash_identifies (headed : m.WellHeaded) :
    (m.identityHash t o).Identifies t o m := by
  unfold identityHash
  split
  next mode => exact FastLocking.identityHash_identifies mode headed
  next mode => exact StackLocking.identityHash_identifies mode headed

/-- The warning about a value-based class has no part in hashes. -/
lemma carries_warnValueBased (m : Machine) (t : ThreadId) (o : ObjectId) :
    Carries none m (m.warnValueBased t o) := by
  unfold warnValueBased
  split
  · exact carries_note m _
  · exact .refl m

/-- Counting one more held lock has no part in hashes. -/
lemma carries_gain (m : Machine) (t : ThreadId) : Carries none m (m.modifyThread t .gain) :=
  carries_modifyThread m t fun _ => rfl

/-- An enter with its bookkeeping carries all hashes along. -/
lemma enter_stacks (headed : m.WellHeaded) (free : ∀ p, m.mark p ≠ .record r) :
    (m.enter t o r).Stacks m o r := by
  unfold enter checkSafepoint
  split
  next =>
    have warned := carries_warnValueBased m t o
    have marks : (m.warnValueBased t o).mark = m.mark := by
      unfold warnValueBased
      split <;> rfl
    refine Outcome.Stacks.after ?_ warned
    have enters := Locking.enter_stacks (t := t) (o := o) (warned.headed headed)
      (r := r) (marks ▸ free)
    dsimp only [Outcome.bind]
    match eq : Locking.enter (m.warnValueBased t o) t o r with
    | .ok .entered n =>
      rw [eq] at enters
      exact Machine.Carries.andThen enters (carries_gain n t)
    | .ok (.queued _ _) n =>
      rw [eq] at enters
      exact enters
    | .fault _ n =>
      rw [eq] at enters
      exact enters
  next => exact Machine.Carries.refl m

/-- A quick enter with its bookkeeping carries all hashes along. -/
lemma quickEnter_carries (headed : m.WellHeaded) (free : ∀ p, m.mark p ≠ .record r)
    (x : Option ObjectId) : (m.quickEnter t x r).Carries m := by
  unfold quickEnter
  split
  next => exact .refl m
  next =>
    split
    next => exact .refl m
    next =>
      split
      next => exact .refl m
      next =>
        refine (Locking.quickEnter_carries headed free).bind fun entered n _ => ?_
        show Carries none n _
        split
        · exact carries_gain n t
        · exact .refl n

/-- Counting one held lock less has no part in hashes. -/
lemma carries_lose (m : Machine) (t : ThreadId) : Carries none m (m.modifyThread t .lose) :=
  carries_modifyThread m t fun _ => rfl

/-- An exit with its bookkeeping carries all hashes along. -/
lemma exit_carries (headed : m.WellHeaded) : (m.exit t o r).Carries m :=
  (Locking.exit_carries ((carries_lose m t).headed headed)).after (carries_lose m t)

/-- After an exit with its bookkeeping the record is not in the header of the object. -/
lemma exit_unlinks (headed : m.WellHeaded) : (m.exit t o r).machine.mark o ≠ .record r :=
  Locking.exit_unlinks ((carries_lose m t).headed headed)

/-- The slots of an object have no part in hashes. -/
lemma updateSlot_carries (m : Machine) (o : ObjectId) (i : Nat) (f : UInt64 → UInt64) :
    (m.updateSlot o i f).Carries m := by
  unfold updateSlot loadSlot
  dsimp only
  split
  · exact carries_modifyObject m o fun _ => rfl
  · exact .refl m

end Machine

/-- An action of a thread that hashes nothing, uses no lock record and begins or ends no region. -/
def Action.isPlain : Action → Bool
  | .attach | .enter _ _ _ | .quickEnter _ _ _ | .exit _ _ _ | .identityHash _ | .monitorHash _
  | .beginSynchronized _ | .endSynchronized | .failSynchronized => false
  | _ => true

namespace World

/-- What happens in a world without a hash: all hashes are carried along, and no synchronized region
ends. -/
structure Carries (s s' : World) : Prop where
  machine : Machine.Carries none s.machine s'.machine
  regions : ∀ w o r, Region.synchronized o r ∈ (s.worker w).regions →
    Region.synchronized o r ∈ (s'.worker w).regions

namespace Carries

variable {s s' s'' : World}

/-- A world that does not change carries all hashes along. -/
lemma refl (s : World) : s.Carries s := ⟨.refl _, fun _ _ _ => id⟩

/-- Two changes that carry all hashes along do so together. -/
lemma trans (h : s.Carries s') (h' : s'.Carries s'') : s.Carries s'' :=
  ⟨h.machine.trans h'.machine, fun w o r open' => h'.regions w o r (h.regions w o r open')⟩

end Carries

variable {s : World} {w : WorkerId} {t : ThreadId}

/-- A change of the machine ends no region. -/
lemma carries_machine {n : Machine} (h : Machine.Carries none s.machine n) :
    s.Carries { s with machine := n } := ⟨h, fun _ _ _ => id⟩

/-- A change of a worker carries all hashes along, if its synchronized regions stay open. -/
lemma carries_modifyWorker {f : Worker → Worker}
    (keeps : ∀ o r, Region.synchronized o r ∈ (s.worker w).regions →
      Region.synchronized o r ∈ (f (s.worker w)).regions) : s.Carries (s.modifyWorker w f) := by
  refine ⟨.refl _, fun w' o r opened => ?_⟩
  rw [worker_modifyWorker]
  split
  next eq => exact keeps o r (eq ▸ opened)
  next => exact opened

/-- Waiting ends no region. -/
lemma carries_setWait (x : Option Wait) : s.Carries (s.setWait w x) :=
  carries_modifyWorker fun _ _ => id

/-- A new region ends no other one. -/
lemma carries_openRegion (x : Region) : s.Carries (s.openRegion w x) :=
  carries_modifyWorker fun _ _ => List.mem_cons_of_mem x

/-- The state of a thread has no part in hashes. -/
lemma carries_setState (x : ThreadState) : s.Carries (s.setState t x) :=
  carries_machine (Machine.carries_setState _ t x)

/-- The log has no part in hashes. -/
lemma carries_note (n : Notice) : s.Carries (s.note n) := carries_machine (Machine.carries_note _ n)

/-- The safepoint has no part in hashes. -/
lemma carries_safepoint (q : Safepoint) : s.Carries { s with safepoint := q } :=
  ⟨.refl _, fun _ _ _ => id⟩

/-- The request of a safepoint carries all hashes along. -/
lemma request_carries : s.Carries (s.request w).1 := by
  unfold request
  split
  next => exact .refl s
  next => exact (carries_safepoint _).trans (carries_setWait _)

/-- What a thread has left to do after a wait carries all hashes along. -/
lemma finish_carries (goal : Goal) : s.Carries (s.finish w t goal).1 := by
  cases goal with
  | attach _ | resume => exact .refl s
  | allocate label c => exact carries_machine (Machine.carries_allocate _ label c)
  | countLock => exact carries_machine (Machine.carries_gain _ t)
  | synchronized o r =>
    exact (carries_machine (Machine.carries_gain _ t)).trans (carries_openRegion _)
  | safepoint => exact request_carries

/-- Leaving a safe state carries all hashes along. -/
lemma leave_carries (resume : ThreadState) (goal : Goal) :
    s.Carries (s.leave w t resume goal).1 := by
  unfold leave
  split
  next => exact (carries_setState _).trans (carries_setWait _)
  next => exact ((carries_setState _).trans (carries_setWait _)).trans (finish_carries goal)

/-- A worker that goes on after a wait carries all hashes along. -/
lemma wake_carries : s.Carries (s.wake w).1 := by
  unfold wake
  split
  next =>
    split
    · exact leave_carries _ _
    · exact .refl s
  next =>
    split
    · exact .refl s
    · exact leave_carries _ _
  next => exact .refl s

/-- The turn of a worker to request a safepoint carries all hashes along. -/
lemma grant_carries : s.Carries (s.grant w).1 := by
  unfold grant
  split
  next =>
    split
    next =>
      dsimp only
      split
      · exact (carries_safepoint _).trans (leave_carries _ _)
      · exact (carries_safepoint _).trans request_carries
    next => exact .refl s
  next => exact .refl s

/-- The end of a safepoint's preparation carries all hashes along. -/
lemma reach_carries : s.Carries (s.reach w).1 := by
  unfold reach
  split
  next =>
    split
    · exact ((carries_setWait _).trans (carries_note _)).trans
        (carries_modifyWorker fun _ _ => id)
    · exact .refl s
  next => exact .refl s

/-- An operation and what follows it carry all hashes along together. -/
lemma operate_carries {α : Type} {operation : Machine → Outcome α}
    {next : World → α → World × Progress} (carries : (operation s.machine).Carries s.machine)
    (then_carries : ∀ (s' : World) a, s'.Carries (next s' a).1) :
    s.Carries (s.operate operation next).1 := by
  cases eq : operation s.machine with
  | ok a n =>
    rw [eq] at carries
    rw [operate_ok eq]
    exact (carries_machine carries).trans (then_carries _ a)
  | fault f n =>
    rw [eq] at carries
    rw [operate_fault eq]
    exact carries_machine carries

/-- An operation that does not wait carries all hashes along if its machine does. -/
lemma conclude_carries {α : Type} {answer : α → Answer} {operation : Machine → Outcome α}
    (carries : (operation s.machine).Carries s.machine) :
    s.Carries (s.conclude answer operation).1 := operate_carries carries fun s' _ => .refl s'

/-- A poll carries all hashes along. -/
lemma poll_carries (goal : Goal) : s.Carries (s.poll w t goal).1 :=
  operate_carries (Machine.checkSafepoint_carries _ t) fun _ _ => leave_carries _ goal

/-- The beginning of a native or blocked region carries all hashes along. -/
lemma beginRegion_carries (inside : ThreadState) (region : ThreadState → Region) :
    s.Carries (s.beginRegion w t inside region).1 :=
  operate_carries (Machine.checkSafepoint_carries _ t) fun _ _ =>
    (carries_setState inside).trans (carries_openRegion _)

/-- The end of another region ends no synchronized one. -/
lemma endRegion_carries {a : Action} (ends : a = .endNative ∨ a = .endBlocked) :
    s.Carries (s.act w t a).1 := by
  obtain eq | ⟨x, rest, resume, inside, other, eq⟩ := act_endRegion (s := s) (w := w) (t := t) ends
  all_goals rw [eq]
  · exact .refl s
  refine Carries.trans (carries_modifyWorker fun o r opened => ?_) (leave_carries _ _)
  rw [inside] at opened
  show _ ∈ (s.worker w).regions.tail
  rw [inside]
  exact (List.mem_cons.1 opened).resolve_left fun eq => other o r eq.symm

/-- The beginning of a safepoint carries all hashes along. -/
lemma beginSafepoint_carries : s.Carries (s.beginSafepoint w).1 := by
  unfold beginSafepoint
  dsimp only
  split
  next => exact (carries_safepoint _).trans (carries_setWait _)
  next t _ =>
    exact operate_carries (Machine.checkSafepoint_carries _ t) fun _ _ =>
      ((carries_setState _).trans (carries_safepoint _)).trans (carries_setWait _)

/-- The end of a safepoint carries all hashes along. -/
lemma endSafepoint_carries : s.Carries (s.endSafepoint w).1 := by
  unfold endSafepoint
  dsimp only
  split
  next => exact carries_safepoint _
  next =>
    exact ((carries_safepoint _).trans (carries_note _)).trans (carries_modifyWorker fun _ _ => id)

/-- Detaching a thread carries all hashes along. -/
lemma detach_carries : s.Carries (s.detach w t).1 := by
  refine Carries.trans (carries_machine ?_) (carries_modifyWorker fun _ _ => id)
  exact (Machine.carries_setState _ t _).trans (.of_locks rfl rfl rfl rfl fun _ => rfl)

/-- A change of a thread that has no part in its sequence carries all hashes along. -/
lemma modifyThread_carries {f : Thread → Thread} (same : ∀ x, (f x).hashes = x.hashes) :
    s.Carries { s with machine := s.machine.modifyThread t f } :=
  carries_machine (Machine.carries_modifyThread _ t same)

/-- A plain action carries all hashes along. -/
lemma act_carries (headed : s.machine.WellHeaded) {a : Action} (plain : a.isPlain = true) :
    s.Carries (s.act w t a).1 := by
  cases a with
  | detach =>
    rw [act_detach]
    split
    · exact .refl s
    · exact detach_carries
  | allocate _ _ | poll => exact poll_carries _
  | inflate o cause => exact conclude_carries (Locking.inflate_carries headed cause)
  | checkSafepoint => exact conclude_carries (Machine.checkSafepoint_carries _ t)
  | beginGuard => exact modifyThread_carries fun _ => rfl
  | endGuard =>
    rw [act_endGuard]
    split
    · exact .refl s
    · exact modifyThread_carries fun _ => rfl
  | beginNative | beginBlocked => exact beginRegion_carries _ _
  | endNative => exact endRegion_carries (.inl rfl)
  | endBlocked => exact endRegion_carries (.inr rfl)
  | beginSafepoint =>
    rw [act_beginSafepoint]
    split
    · exact .refl s
    · exact beginSafepoint_carries
  | endSafepoint =>
    rw [act_endSafepoint]
    split
    · exact endSafepoint_carries
    · exact .refl s
  | enterMonitor id =>
    refine operate_carries (Machine.enterMonitor_carries _ t id) fun s' entry => ?_
    cases entry with
    | entered => exact .refl s'
    | queued _ _ => exact carries_setWait _
  | tryEnterMonitor id => exact conclude_carries (Machine.tryEnterMonitor_carries _ t id)
  | exitMonitor id => exact conclude_carries (Machine.exitMonitor_carries _ t id)
  | claimMonitor id n => exact conclude_carries (Machine.claimMonitor_carries _ t id n)
  | store _ _ _ | add _ _ _ => exact conclude_carries (Machine.updateSlot_carries _ _ _ _)
  | load o i =>
    refine conclude_carries ?_
    show Machine.Carries none _ (s.machine.loadSlot o i).machine
    rw [machine_loadSlot]
    exact .refl _
  | attach | enter _ _ _ | quickEnter _ _ _ | exit _ _ _ | identityHash _ | monitorHash _
  | beginSynchronized _ | endSynchronized | failSynchronized => cases plain

end World

/-- A lock record is in use for an object while an enter is pending or a region is open. -/
def World.InUse (s : World) (h : List Event) (o : ObjectId) (r : RecordId) : Prop :=
  (∃ t, (o, r) ∈ pending h t) ∨ ∃ w, Region.synchronized o r ∈ (s.worker w).regions

/-- Every enter has a lock record that is not in use. -/
def recordsApart : Rule := fun s h x => ∀ w t o r e,
  s.label x = .lock w t (.enter o r) e → ∀ p, ¬s.InUse h p r

/-- The invariant: what headers lead to is there, and the records in them are in use. -/
structure World.Headed (s : World) (h : List Event) : Prop where
  headed : s.machine.WellHeaded
  used : ∀ o r, s.machine.mark o = .record r → s.InUse h o r

/-- The invariant holds from one world to the next, and a hash that is there stays. -/
structure World.Stays (s : World) (s' : World) (h' : List Event) : Prop where
  headed : s'.Headed h'
  hash : ∀ o, s.machine.hashOf o ≠ 0 → s'.machine.hashOf o = s.machine.hashOf o

namespace World

variable {s s' : World} {h h' : List Event} {w : WorkerId} {t : ThreadId} {o : ObjectId}
  {r : RecordId} {l : Option (ObjectId × RecordId)} {a : Action}

/-- A record stays in use while its enter stays pending and its region open. -/
lemma InUse.mono (used : s.InUse h o r)
    (pend : ∀ t, (o, r) ∈ pending h t → (o, r) ∈ pending h' t)
    (regions : ∀ w, Region.synchronized o r ∈ (s.worker w).regions →
      Region.synchronized o r ∈ (s'.worker w).regions) : s'.InUse h' o r :=
  used.imp (fun ⟨t, mem⟩ => ⟨t, pend t mem⟩) fun ⟨w, opened⟩ => ⟨w, regions w opened⟩

/-- A record that is not in use is in no header. -/
lemma Headed.free (k : s.Headed h) (apart : ∀ p, ¬s.InUse h p r) (p : ObjectId) :
    s.machine.mark p ≠ .record r := fun hk => apart p (k.used p r hk)

/-- Hashes that are carried along stay, if the records in the headers stay in use. -/
lemma Headed.stays (k : s.Headed h) (carries : Machine.Carries l s.machine s'.machine)
    (keeps : ∀ o r, s'.machine.mark o = .record r → s.InUse h o r → s'.InUse h' o r)
    (locked : ∀ o r, l = some (o, r) → s'.InUse h' o r) : s.Stays s' h' := by
  refine ⟨⟨carries.headed k.headed, fun o r hk => ?_⟩, fun o _ => carries.hash k.headed o⟩
  rcases carries.stacked o r hk with old | new
  · exact keeps o r hk (k.used o r old)
  · exact locked o r new

/-- What carries all hashes along in a world keeps the invariant, whatever gets pending. -/
lemma Headed.carries (k : s.Headed h) (carries : s.Carries s')
    (pend : ∀ t x, x ∈ pending h t → x ∈ pending h' t) : s.Stays s' h' :=
  k.stays carries.machine (fun o r _ used => used.mono (fun t => pend t _)
    fun w => carries.regions w o r) nofun

/-- The invariant does not mind more pending enters. -/
lemma Stays.weaken (stays : s.Stays s' h) (pend : ∀ t x, x ∈ pending h t → x ∈ pending h' t) :
    s.Stays s' h' :=
  ⟨⟨stays.headed.headed, fun o r hk => (stays.headed.used o r hk).mono (fun t => pend t _)
    fun _ => id⟩, stays.hash⟩

/-- Two changes that keep the invariant keep it together. -/
lemma Stays.after {s'' : World} (first : s.Stays s' h) (next : s'.Stays s'' h') :
    s.Stays s'' h' := by
  refine ⟨next.headed, fun o some => ?_⟩
  have kept := first.hash o some
  rw [next.hash o (kept ▸ some), kept]

/-- Only an exit takes something from the pending enters. -/
lemma mem_pend {e : Event} (other : ∀ t o r, e ≠ .exited t o r) {p : Pending} {u : ThreadId}
    {x : ObjectId × RecordId} (mem : x ∈ p u) : x ∈ e.pend p u := by
  cases e with
  | entered t o r | waits t o r =>
    rw [Event.pend, Function.update_apply]
    split
    next eq => exact List.mem_cons_of_mem _ (eq ▸ mem)
    next => exact mem
  | exited t o r => exact absurd rfl (other t o r)
  | rejected _ _ _ | detached _ => exact mem

/-- An event other than an exit leaves the pending enters pending. -/
lemma mem_pending_append {e : Option Event} (other : ∀ t o r, e ≠ some (.exited t o r))
    (u : ThreadId) (x : ObjectId × RecordId) (mem : x ∈ pending h u) :
    x ∈ pending (e.toList ++ h) u := by
  cases e with
  | none => exact mem
  | some e => exact mem_pend (fun t o r eq => other t o r (congrArg some eq)) mem

section Operations

variable (k : s.Headed h)
include k

/-- A record that an enter puts into a header has to be in use from then on. The history may depend
on how the enter ends. -/
lemma enter_stays {operation : Machine → Outcome Entry} {goal : Goal}
    {next : World → World × Progress} (history : Progress → List Event)
    (enters : (operation s.machine).Stacks s.machine o r)
    (carries : ∀ s' : World, s'.Carries (next s').1)
    (keeps : ∀ p u x, x ∈ pending h u → x ∈ pending (history p) u)
    (locked : ∀ s', (next s').1.InUse (history (next s').2) o r) :
    s.Stays (s.enter w operation goal next).1 (history (s.enter w operation goal next).2) := by
  unfold enter
  match eq : operation s.machine with
  | .ok .entered n =>
    rw [eq] at enters
    rw [operate_ok eq]
    have after := carries { s with machine := n }
    refine k.stays (Machine.Carries.andThen enters after.machine) (fun p q _ used => used.mono
      (fun u => keeps _ u _) fun w => after.regions w p q) fun p q eq => ?_
    cases eq
    exact locked _
  | .ok (.queued id resume) n =>
    rw [eq] at enters
    rw [operate_ok eq]
    exact k.carries ((carries_machine enters).trans (carries_setWait _)) (keeps _)
  | .fault f n =>
    rw [eq] at enters
    rw [operate_fault eq]
    exact k.carries (carries_machine enters) (keeps _)

/-- An enter keeps the invariant, whether it is complete, waits or fails. -/
lemma concludeEnter_stays {operation : Machine → Outcome Entry} {goal : Goal} {raw : Bool}
    (enters : (operation s.machine).Stacks s.machine o r) :
    s.Stays (s.concludeEnter w goal operation).1
      (((Action.enter o r raw).event? t (s.concludeEnter w goal operation).2).toList ++ h) := by
  refine enter_stays k (fun p => ((Action.enter o r raw).event? t p).toList ++ h) enters
    .refl (fun p => mem_pending_append fun _ _ _ => ?_) fun s' => .inl ⟨t, ?_⟩
  · cases p <;> exact nofun
  · show (o, r) ∈ Function.update (pending h) t ((o, r) :: pending h t) t
    rw [Function.update_self]
    exact List.mem_cons_self

/-- What an exit takes from the enters is in no header any more. -/
lemma exit_stays {operation : Machine → Outcome Unit} {raw : Bool}
    (carries : (operation s.machine).Carries s.machine)
    (unlinks : (operation s.machine).machine.mark o ≠ .record r) :
    s.Stays (s.conclude (fun _ => .done) operation).1 (((Action.exit o r raw).event? t
      (s.conclude (fun _ => .done) operation).2).toList ++ h) := by
  cases eq : operation s.machine with
  | ok a n =>
    rw [eq] at carries unlinks
    rw [conclude_ok eq]
    have moved : Machine.Carries none s.machine ({ s with machine := n } : World).machine := carries
    refine k.stays moved (fun p q hk used => ?_) nofun
    refine used.mono (fun u mem => ?_) fun _ => id
    show (p, q) ∈ Function.update (pending h) t ((pending h t).erase (o, r)) u
    rw [Function.update_apply]
    split
    next same =>
      refine (List.mem_erase_of_ne fun eq => ?_).2 (same ▸ mem)
      cases eq
      exact unlinks hk
    next => exact mem
  | fault f n =>
    rw [eq] at carries
    rw [conclude_fault eq]
    exact k.carries (carries_machine carries) (mem_pending_append (e := some _) nofun)

/-- A first hash replaces no other. -/
lemma stays_identifies {x : UInt32} (ids : Machine.Identifies t o s.machine x s'.machine)
    (regions : ∀ w, (s'.worker w).regions = (s.worker w).regions) : s.Stays s' h := by
  refine ⟨⟨ids.headed, fun p q hk => ?_⟩, fun p some => ?_⟩
  · exact (k.used p q (ids.stacked p q hk)).mono (fun _ => id) fun w => regions w ▸ id
  · rw [ids.hash, Function.update_apply]
    split
    next eq =>
      subst eq
      rw [ids.told, Machine.identify_of_ne some]
    next => rfl

/-- Attaching keeps the invariant and all hashes. -/
lemma attach_stays : s.Stays (s.attach w).1 h := by
  unfold attach
  dsimp only
  split
  next =>
    exact k.carries (carries_machine (.of_locks rfl rfl rfl rfl fun _ => rfl)) fun _ _ => id
  next =>
    -- The new thread has a hash sequence of its own, and no header changes.
    generalize hs : World.modifyWorker _ w _ = s'
    have mark : s'.machine.mark = s.machine.mark := by rw [← hs]; rfl
    have headed : s'.machine.WellHeaded := by
      rw [← hs]
      exact k.headed.of_marks rfl rfl (Nat.le_refl _) (Nat.le_refl _) (fun _ _ _ _ => rfl)
        fun _ _ _ _ => rfl
    have used : s'.Headed h := by
      refine ⟨headed, fun o r hk => (k.used o r (mark ▸ hk)).mono (fun _ => id) fun w' opened => ?_⟩
      rw [← hs, worker_modifyWorker]
      split
      next eq => exact eq ▸ opened
      next => exact opened
    obtain ⟨stays, hash⟩ : s'.Stays (s'.leave w s.machine.nextThread .inManaged
        (.attach s.machine.nextThread)).1 h := used.carries (leave_carries _ _) fun _ _ => id
    have same : s'.machine.hashOf = s.machine.hashOf := by rw [← hs]; rfl
    rw [same] at hash
    exact ⟨stays, hash⟩

/-- A monitor may be asked for its hash, whether it is that of an object or not. -/
lemma monitorHash_stays {id : MonitorId} :
    s.Stays { s with machine := (s.machine.monitorHash t id).2 } h := by
  by_cases linked : ∃ o, s.machine.mark o = .monitor id
  · obtain ⟨o, hk⟩ := linked
    exact stays_identifies k (Machine.monitorHash_identifies k.headed hk) fun _ => rfl
  · obtain ⟨headed, mark, hash⟩ := Machine.monitorHash_unlinked (t := t) k.headed
      fun o hk => linked ⟨o, hk⟩
    refine ⟨⟨headed, fun o r hk => k.used o r ?_⟩, fun o _ => congrFun hash o⟩
    rw [← mark]
    exact hk

/-- The record of a region is new. -/
lemma beginSynchronized_stays : s.Stays (s.beginSynchronized w t o).1 h := by
  let r := s.machine.records.size
  let n := (s.machine.addRecord w).2
  have added : s.Carries { s with machine := n } :=
    carries_machine (Machine.carries_addRecord s.machine w)
  have new (p : ObjectId) : n.mark p ≠ .record r := fun hk =>
    Nat.lt_irrefl r (k.headed.stacked p r hk).2.1
  obtain ⟨k₁, hash₁⟩ : s.Stays { s with machine := n } h := k.carries added fun _ _ => id
  have quick := Machine.quickEnter_carries (t := t) k₁.headed new (some o)
  rw [beginSynchronized_eq]
  match eq : n.quickEnter t (some o) r with
  | .fault f m =>
    rw [eq] at quick
    rw [operate_fault eq]
    exact k.carries (added.trans (carries_machine quick)) fun _ _ => id
  | .ok true m =>
    rw [eq] at quick
    rw [operate_ok eq]
    exact k.carries ((added.trans (carries_machine quick)).trans (carries_openRegion _))
      fun _ _ => id
  | .ok false m =>
    rw [eq] at quick
    rw [operate_ok eq]
    obtain ⟨k₂, hash₂⟩ : s.Stays { s with machine := m } h :=
      k.carries (added.trans (carries_machine quick)) fun _ _ => id
    have new' (p : ObjectId) : m.mark p ≠ .record r := fun hk =>
      new p ((quick.stacked p r hk).resolve_right nofun)
    refine Stays.after ⟨k₂, hash₂⟩ ?_
    refine enter_stays k₂ (fun _ => h) (Machine.enter_stacks k₂.headed new')
      (fun _ => carries_openRegion _) (fun _ _ _ => id) fun s' => .inr ⟨w, ?_⟩
    show _ ∈ ((s'.modifyWorker w _).worker w).regions
    rw [worker_modifyWorker, if_pos rfl]
    exact List.mem_cons_self

/-- The end of a synchronized region keeps the invariant, as its record is in no header any more. -/
lemma endSynchronized_stays (result : Progress) : s.Stays (s.endSynchronized w t result).1 h := by
  unfold endSynchronized
  split
  next o r rest inside =>
    -- Only the innermost region is closed.
    have closed (w' : WorkerId) {p q} (opened : Region.synchronized p q ∈ (s.worker w').regions)
        (other : (p, q) ≠ (o, r)) :
        Region.synchronized p q ∈ ((s.closeRegion w).worker w').regions := by
      rw [closeRegion, worker_modifyWorker]
      split
      next eq =>
        rw [eq, inside] at opened
        show _ ∈ (s.worker w).regions.tail
        rw [inside]
        refine (List.mem_cons.1 opened).resolve_left fun same => other ?_
        cases same
        rfl
      next => exact opened
    have carries := Machine.exit_carries (t := t) (o := o) (r := r) k.headed
    have unlinks := Machine.exit_unlinks (t := t) (o := o) (r := r) k.headed
    -- However the exit ends, its record is not in the header of the object any more.
    have ends {n : Machine} (carries : Machine.Carries none s.machine n)
        (unlinks : n.mark o ≠ .record r) :
        s.Stays { s.closeRegion w with machine := n } h := by
      have moved : Machine.Carries none s.machine
          ({ s.closeRegion w with machine := n } : World).machine := carries
      refine k.stays moved
        (fun p q hk used => used.mono (fun _ => id) fun w' opened => ?_) nofun
      refine closed w' opened fun eq => ?_
      cases eq
      exact unlinks hk
    cases eq : (s.closeRegion w).machine.exit t o r with
    | ok a n =>
      rw [operate_ok eq]
      rw [show s.machine.exit t o r = _ from eq] at carries unlinks
      exact ends carries unlinks
    | fault f n =>
      rw [operate_fault eq]
      rw [show s.machine.exit t o r = _ from eq] at carries unlinks
      exact ends carries unlinks
  next => exact k.carries (.refl s) fun _ _ => id

end Operations

/-- Who has the thread asked for the hash of an object is told one, and nothing else changes. -/
lemma identityHash_eq (headed : s.machine.WellHeaded) : ∃ x n,
    Machine.Identifies t o s.machine x n ∧
      s.act w t (.identityHash o) = ({ s with machine := n }, .answered (.hash x)) := by
  have ids := Machine.identityHash_identifies (t := t) (o := o) headed
  match eq : s.machine.identityHash t o with
  | .ok x n =>
    rw [eq] at ids
    exact ⟨x, n, ids, conclude_ok eq _⟩
  | .fault f n =>
    rw [eq] at ids
    exact ids.elim

/-- An action other than an enter and an exit of an object leaves all records in use. -/
lemma act_stays_of_other (k : s.Headed h) (free : ∀ o r, a.operation? = some (.enter o r) →
      ∀ p, s.machine.mark p ≠ .record r)
    (enter : ∀ o r raw, a ≠ .enter o r raw) (exit : ∀ o r raw, a ≠ .exit o r raw) :
    s.Stays (s.act w t a).1 h := by
  have carried {s' : World} (carries : s.Carries s') : s.Stays s' h :=
    k.carries carries fun _ _ => id
  by_cases plain : a.isPlain = true
  · exact carried (act_carries k.headed plain)
  · cases a with
    | attach => exact attach_stays k
    | enter o r raw => exact absurd rfl (enter o r raw)
    | exit o r raw => exact absurd rfl (exit o r raw)
    | quickEnter o r raw =>
      cases o with
      | none =>
        refine carried (conclude_carries ?_)
        show Machine.Carries none _ (s.machine.quickEnter t none r).machine
        unfold Machine.quickEnter
        split <;> exact .refl _
      | some o =>
        have own : ∀ p, s.machine.mark p ≠ .record r := free o r rfl
        cases raw with
        | true => exact carried (conclude_carries (Locking.quickEnter_carries k.headed own))
        | false => exact carried (conclude_carries (Machine.quickEnter_carries k.headed own _))
    | identityHash o =>
      obtain ⟨x, n, ids, eq⟩ := identityHash_eq (w := w) (t := t) (o := o) k.headed
      rw [eq]
      exact stays_identifies k ids fun _ => rfl
    | monitorHash id => exact monitorHash_stays k
    | beginSynchronized o => exact beginSynchronized_stays k
    | endSynchronized | failSynchronized => exact endSynchronized_stays k _
    | _ => exact absurd rfl plain

/-- Only an exit is the event of an exit. -/
lemma event_ne_exited {p : Progress} (exit : ∀ o r raw, a ≠ .exit o r raw) (u : ThreadId)
    (o : ObjectId) (r : RecordId) : (a.label w t p).event? ≠ some (.exited u o r) := by
  unfold Action.label
  split
  next =>
    show a.event? t p ≠ _
    cases a with
    | exit o r raw => exact absurd rfl (exit o r raw)
    | _ =>
      unfold Action.event?
      split <;> simp_all
  next => split <;> exact nofun

/-- Every action with a record of its own keeps the invariant and all hashes. -/
lemma act_stays (k : s.Headed h) (apart : ∀ o r, a.operation? = some (.enter o r) →
      ∀ p, ¬s.InUse h p r) :
    s.Stays (s.act w t a).1 ((a.label w t (s.act w t a).2).event?.toList ++ h) := by
  have free (o r) (enters : a.operation? = some (.enter o r)) := k.free (apart o r enters)
  by_cases enter : ∃ o r raw, a = .enter o r raw
  · obtain ⟨o, r, raw, rfl⟩ := enter
    have own : ∀ p, s.machine.mark p ≠ .record r := free o r rfl
    cases raw with
    | true => exact concludeEnter_stays k (Locking.enter_stacks k.headed own)
    | false => exact concludeEnter_stays k (Machine.enter_stacks k.headed own)
  by_cases exit : ∃ o r raw, a = .exit o r raw
  · obtain ⟨o, r, raw, rfl⟩ := exit
    cases raw with
    | true =>
      exact exit_stays k (Locking.exit_carries k.headed)
        (Locking.exit_unlinks k.headed)
    | false =>
      exact exit_stays k (Machine.exit_carries k.headed)
        (Machine.exit_unlinks k.headed)
  have exit' (o r raw) : a ≠ .exit o r raw := fun eq => exit ⟨o, r, raw, eq⟩
  exact (act_stays_of_other k free (fun o r raw eq => enter ⟨o, r, raw, eq⟩) exit').weaken
    (mem_pending_append (event_ne_exited exit'))

/-- Every move with a record of its own keeps the invariant and all hashes. -/
theorem move_stays (k : s.Headed h) {x : Move} (apart : recordsApart s h x) :
    s.Stays (s.move x).1 ((s.label x).event?.toList ++ h) := by
  have carried {s' : World} (carries : s.Carries s') : s.Stays s' h :=
    k.carries carries fun _ _ => id
  cases x with
  | act w a =>
    cases wait : (s.worker w).wait with
    | some x =>
      rw [label_of_waits wait, move_of_waits wait]
      exact carried (.refl s)
    | none =>
      rw [move_act wait]
      cases ht : (s.worker w).thread with
      | some t =>
        rw [label_attached ht wait, begin_attached ht]
        refine act_stays k fun o r enters => ?_
        -- The label of an enter names its record, which the rule keeps apart.
        refine apart w t o r (a.event? t (s.act w t a).2) ?_
        simp only [label_attached ht wait, Action.label, enters]
      | none =>
        rw [label_detached ht]
        rcases begin_detached ht a with eq | ⟨-, -, eq⟩ | ⟨-, -, eq⟩ | ⟨-, -, eq⟩
        all_goals rw [eq]
        · exact carried (.refl s)
        · exact attach_stays k
        · exact carried beginSafepoint_carries
        · exact carried endSafepoint_carries
  | wake w => exact carried wake_carries
  | grant w => exact carried grant_carries
  | reach w => exact carried reach_carries
  | addWorker =>
    refine carried ⟨.refl _, fun w o r opened => ?_⟩
    -- A new worker is like one that has never been used.
    have same : (s.workers.push default).get = s.workers.get := by
      rw [Store.get_push, ← Store.get_size, Function.update_eq_self]
    show _ ∈ ((s.workers.push default).get w).regions
    rw [same]
    exact opened
  | addRecord w => exact carried (carries_machine (Machine.carries_addRecord _ w))

/-- So does every sequence of moves. -/
lemma follow_stays (k : s.Headed h) (moves : List Move) (apart : recordsApart.Allows s h moves) :
    s.Stays (s.follow h moves).1 (s.follow h moves).2 := by
  induction moves generalizing s h with
  | nil => exact ⟨k, fun _ _ => rfl⟩
  | cons x moves ih =>
    obtain ⟨headed, hash⟩ := move_stays k apart.1
    exact Stays.after ⟨headed, hash⟩ (ih headed apart.2)

/-- The worker is attached and does not wait. -/
def Idle (s : World) (w : WorkerId) : Prop :=
  (∃ t, (s.worker w).thread = some t) ∧ (s.worker w).wait = none

/-- Every thread that asks for the hash of the object now is told `x`. -/
def TellsHash (s : World) (o : ObjectId) (x : UInt32) : Prop :=
  ∀ w, s.Idle w → (s.move (.act w (.identityHash o))).2 = .answered (.hash x)

/-- Who asks for the hash of the object is told a hash, and every thread is told the same one after
whatever happens next, as long as every enter has a record to itself. -/
def KeepsHash (s : World) (h : List Event) (o : ObjectId) : Prop :=
  ∀ w, s.Idle w → ∃ x : UInt32,
    (s.move (.act w (.identityHash o))).2 = .answered (.hash x) ∧
    1 ≤ x.toNat ∧ x.toNat ≤ 2 ^ 31 - 1 ∧
    ∀ moves, recordsApart.Allows s h (.act w (.identityHash o) :: moves) →
      (s.follow h (.act w (.identityHash o) :: moves)).1.TellsHash o x

/-- A worker that is not waiting can ask for a hash, and is told one. -/
lemma identityHash_move (headed : s.machine.WellHeaded) (idle : s.Idle w) : ∃ t x n,
    Machine.Identifies t o s.machine x n ∧
      s.move (.act w (.identityHash o)) = ({ s with machine := n }, .answered (.hash x)) := by
  obtain ⟨⟨t, ht⟩, wait⟩ := idle
  obtain ⟨x, n, ids, eq⟩ := identityHash_eq (w := w) (t := t) (o := o) headed
  refine ⟨t, x, n, ids, ?_⟩
  rw [move_act wait, begin_attached ht, eq]

/-- An object that has a hash tells it to everyone. -/
lemma tellsHash (k : s.Headed h) (some : s.machine.hashOf o ≠ 0) :
    s.TellsHash o (s.machine.hashOf o) := by
  intro w idle
  obtain ⟨t, x, n, ids, eq⟩ := identityHash_move (o := o) k.headed idle
  rw [eq, ids.told, Machine.identify_of_ne some]

/-- A system that keeps records apart keeps every hash that it tells. -/
lemma Headed.keepsHash (k : s.Headed h) (o : ObjectId) : s.KeepsHash h o := by
  intro w idle
  obtain ⟨t, x, n, ids, eq⟩ := identityHash_move (o := o) k.headed idle
  have hash : n.hashOf o = x := by rw [ids.hash, Function.update_self]
  obtain ⟨some, fits⟩ : x ≠ 0 ∧ x.toNat < 2 ^ 31 := by
    rw [ids.told]
    by_cases fresh : s.machine.hashOf o = 0
    · have drawn := (s.machine.thread t).hashes.next_fits
      rw [fresh, identify, if_pos rfl]
      exact ⟨drawn.1, drawn.2 ▸ HashSequence.masked_lt _⟩
    · rw [Machine.identify_of_ne fresh]
      exact ⟨fresh, LockWord.hash_lt _⟩
  have pos : 0 < x.toNat := Nat.pos_of_ne_zero fun zero => some (UInt32.toNat_inj.1 zero)
  refine ⟨x, by rw [eq], pos, Nat.le_pred_of_lt fits, fun moves apart => ?_⟩
  have first := move_stays k apart.1
  obtain ⟨headed, kept⟩ := follow_stays first.headed moves apart.2
  have here : (s.move (.act w (.identityHash o))).1.machine.hashOf o = x := by rw [eq, hash]
  have there := kept o (here ▸ some)
  rw [here] at there
  have tells := tellsHash headed (there ▸ some)
  rw [there] at tells
  exact tells

end World

namespace Run

variable {rule : Rule} {options : Options} {s : World} {h : List Event}

/-- A new system keeps the invariant, as none of its headers leads anywhere. -/
lemma headed_new (options : Options) : (World.new options).Headed [] :=
  ⟨⟨fun _ o w hk => by cases hk; rfl, fun _ _ hk => (nomatch hk), fun _ _ hk => (nomatch hk)⟩,
    fun _ _ hk => (nomatch hk)⟩

/-- Headers lead to what is in use at any time of a run that keeps records apart. -/
lemma headed (run : Run recordsApart options s h) : s.Headed h := by
  induction run with
  | new => exact headed_new options
  | move _ apart ih => exact (World.move_stays ih apart).headed

end Run

end ObjectLocks
