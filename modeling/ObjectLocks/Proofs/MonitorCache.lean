import ObjectLocks.Proofs.IllegalExit
import ObjectLocks.Proofs.OneMonitor
import ObjectLocks.Proofs.QuickEnter

/-!
# Cached monitors

With a monitor table a lock record caches the monitor that its last enter went through. The cache
outlives the lock: it stays over exits, over enters that fail, and over inflations by other threads,
and is there when the record is used for another object. An exit looks into the cache before it
looks into the table.

Nothing but a monitor that has been made is ever cached, and a monitor stays with its object. So the
table has what the cache has, and an exit does the same without the cache.
-/

namespace ObjectLocks

namespace Machine

/-- What an operation does to the caches of the records: one that has come to cache a monitor caches
one that has been made. -/
structure Recalls (m n : Machine) : Prop where
  made : m.monitors.size ≤ n.monitors.size
  cached : ∀ r id, (n.record r).cache = some id → (m.record r).cache = some id ∨ n.HasMade id

variable {m n k : Machine} {t : ThreadId} {o : ObjectId} {r : RecordId} {id : MonitorId}

namespace Recalls

/-- A machine that does not change caches nothing. -/
lemma refl (m : Machine) : m.Recalls m := ⟨Nat.le_refl _, fun _ _ => .inl⟩

/-- Two changes that cache only what has been made do so together. -/
lemma trans (h : m.Recalls n) (h' : n.Recalls k) : m.Recalls k where
  made := Nat.le_trans h.made h'.made
  cached r id cached := by
    rcases h'.cached r id cached with before | made
    · exact (h.cached r id before).imp_right fun made => Nat.lt_of_lt_of_le made h'.made
    · exact .inr made

/-- What changes no record caches nothing. -/
lemma of_records (kept : m.Retains n) (same : n.records = m.records) : m.Recalls n := by
  refine ⟨kept.made, fun r id cached => .inl ?_⟩
  rwa [record, same] at cached

end Recalls

/-- A cache may be cleared, or filled with a monitor that has been made. -/
lemma recalls_setCache (m : Machine) (r : RecordId) {c : Option MonitorId}
    (made : ∀ id ∈ c, m.HasMade id) : m.Recalls (m.setCache r c) := by
  refine ⟨Nat.le_refl _, fun q id cached => ?_⟩
  rw [setCache, record_modifyRecord, Function.update_apply] at cached
  split at cached
  · exact .inr (made id cached)
  · exact .inl cached

/-- A new record caches nothing. -/
lemma recalls_addRecord (m : Machine) (w : WorkerId) : m.Recalls (m.addRecord w).2 := by
  refine ⟨Nat.le_refl _, fun q id cached => .inl ?_⟩
  change ((m.records.push (.fresh w)).get q).cache = some id at cached
  rw [Store.get_push, Function.update_apply] at cached
  split at cached
  · cases cached
  · exact cached

end Machine

namespace Outcome

variable {α β : Type} {m n : Machine}

/-- An operation leaves the lock records alone, however it ends. -/
def SparesRecords (m : Machine) (x : Outcome α) : Prop := x.machine.records = m.records

/-- A change that leaves the records alone may come before an operation that does. -/
lemma SparesRecords.after {x : Outcome α} (h : x.SparesRecords n) (same : n.records = m.records) :
    x.SparesRecords m := Eq.trans h same

/-- An operation leaves the records alone if its first part does and whatever follows does. -/
lemma SparesRecords.bind {x : Outcome α} {f : α → Machine → Outcome β} (h : x.SparesRecords m)
    (next : ∀ a n, (f a n).SparesRecords n) : (x.bind f).SparesRecords m := by
  cases x with
  | ok a n => exact (next a n).after h
  | fault c n => exact h

/-- What an operation answers has no part in the records. -/
lemma SparesRecords.map {x : Outcome α} (h : x.SparesRecords m) (f : α → β) :
    (x.map f).SparesRecords m := by
  cases x <;> exact h

/-- An operation caches no monitor that has not been made, however it ends. -/
def Recalls (m : Machine) (x : Outcome α) : Prop := m.Recalls x.machine

/-- A change that caches only what has been made may come before an operation that does. -/
lemma Recalls.after {x : Outcome α} (h : x.Recalls n) (first : m.Recalls n) : x.Recalls m :=
  first.trans h

/-- An operation caches only what has been made if its first part does and whatever follows does. -/
lemma Recalls.bind {x : Outcome α} {f : α → Machine → Outcome β} (h : x.Recalls m)
    (next : ∀ a n, x = .ok a n → (f a n).Recalls n) : (x.bind f).Recalls m := by
  cases x with
  | ok a n => exact (next a n rfl).after h
  | fault c n => exact h

/-- An operation that leaves the records alone caches nothing. -/
lemma Retains.recalls {x : Outcome α} (h : x.Retains m) (same : x.SparesRecords m) : x.Recalls m :=
  .of_records h same

end Outcome

namespace Machine

variable (m : Machine) (t : ThreadId) (o : ObjectId) (r : RecordId) (id : MonitorId)

/-- Putting an object on the lock stack leaves the records alone. -/
lemma pushObject_sparesRecords : (m.pushObject t o).SparesRecords m := by
  unfold pushObject
  split <;> rfl

/-- Entering a monitor leaves the records alone. -/
lemma enterMonitor_sparesRecords : (m.enterMonitor t id).SparesRecords m := by
  unfold enterMonitor checkSafepoint
  dsimp only
  split
  · rfl
  · split <;> rfl

/-- Trying to enter a monitor leaves the records alone. -/
lemma tryEnterMonitor_sparesRecords : (m.tryEnterMonitor t id).SparesRecords m := by
  unfold tryEnterMonitor
  split <;> rfl

/-- Exiting a monitor leaves the records alone. -/
lemma exitMonitor_sparesRecords : (m.exitMonitor t id).SparesRecords m := by
  unfold exitMonitor
  split <;> rfl

/-- Claiming a monitor leaves the records alone. -/
lemma claimMonitor_sparesRecords (c : UInt64) : (m.claimMonitor t id c).SparesRecords m := by
  unfold claimMonitor
  split <;> rfl

/-- Asking a monitor for its hash leaves the records alone. -/
lemma records_monitorHash : (m.monitorHash t id).2.records = m.records := by
  unfold monitorHash
  dsimp only
  split <;> rfl

end Machine

namespace FastLocking

open Machine

variable {m : Machine} {t : ThreadId} {o : ObjectId} {r : RecordId} {id : MonitorId}

/-- Taking entries off the lock stack for a monitor leaves the records alone. -/
lemma records_transfer (m : Machine) (t : ThreadId) (o : ObjectId) (owner : Owner) :
    (transfer m t o owner).records = m.records := (transfer_aside m t o owner).records

/-- An inline inflation leaves the records alone. -/
lemma inflateInline_sparesRecords (cause : InflationCause) :
    (inflateInline m t o cause).SparesRecords m := by
  unfold inflateInline
  dsimp only
  split
  · rfl
  · exact records_transfer ..

/-- Finding or making a monitor in the table leaves the records alone. -/
lemma records_tableMonitor (m : Machine) (o : ObjectId) :
    (tableMonitor m o).2.records = m.records := by
  unfold tableMonitor
  split <;> rfl

/-- An inflation into the table leaves the records alone. -/
lemma inflateIntoTable_sparesRecords (cause : InflationCause) :
    (inflateIntoTable m t o cause).SparesRecords m := by
  have same := records_tableMonitor m o
  unfold inflateIntoTable
  generalize tableMonitor m o = made at same ⊢
  obtain ⟨id, n⟩ := made
  dsimp only
  split
  · exact same
  · refine (records_transfer ..).trans (Eq.trans ?_ same)
    split <;> rfl

/-- An inflation of fast-locking leaves the records alone. -/
lemma inflate_sparesRecords (cause : InflationCause) : (inflate m t o cause).SparesRecords m := by
  unfold inflate
  split
  · exact inflateIntoTable_sparesRecords cause
  · exact inflateInline_sparesRecords cause

/-- A claim leaves the records alone. -/
lemma claim_sparesRecords : (claim m t o id).SparesRecords m := by
  unfold claim
  dsimp only
  split
  · rfl
  · exact (claimMonitor_sparesRecords _ t id _).after rfl

/-- An exit of an inflated object leaves the records alone. -/
lemma exitInflated_sparesRecords : (exitInflated m t o id).SparesRecords m := by
  unfold exitInflated
  dsimp only
  refine Outcome.SparesRecords.bind ?_ fun _ n => ?_
  · split
    · split
      · exact claim_sparesRecords
      · rfl
    · rfl
  · split
    · exact exitMonitor_sparesRecords n t id
    · rfl

/-- An exit of fast-locking leaves the records alone. -/
lemma exit_sparesRecords : (exit m t o r).SparesRecords m := by
  unfold exit
  split
  · rfl
  · dsimp only
    split
    · rfl
    · split
      · exact exitInflated_sparesRecords
      · rfl

/-- The identity hash of fast-locking leaves the records alone. -/
lemma identityHash_sparesRecords : (identityHash m t o).SparesRecords m := by
  unfold identityHash
  split
  · exact records_monitorHash m t _
  · split <;> rfl
  · rfl

/-- Taking a fast lock leaves the records alone. -/
lemma lockFast_sparesRecords : (lockFast m t o).SparesRecords m :=
  (pushObject_sparesRecords _ t o).after rfl

/-- A cleared cache has no monitor. -/
lemma clearCache_recalls (m : Machine) (r : RecordId) : m.Recalls (clearCache m r) := by
  unfold clearCache
  split
  · exact recalls_setCache m r nofun
  · exact .refl m

/-- A cache is filled with a monitor that has been made. -/
lemma fillCache_recalls (r : RecordId) (made : m.HasMade id) : m.Recalls (fillCache m r id) := by
  unfold fillCache
  split
  · exact recalls_setCache m r fun _ eq => Option.mem_some.1 eq ▸ made
  · exact .refl m

/-- The monitor that is cached before it is entered is the one that the inflation answered. -/
lemma enterInflated_recalls (h : m.WellLinked) (mode : m.options.mode = .lightweight)
    (cause : InflationCause) : (enterInflated m t o r cause).Recalls m := by
  have inflated := inflate_monitors (t := t) (o := o) h mode cause
  refine (inflated.retains.recalls (inflate_sparesRecords cause)).bind fun id n eq => ?_
  have made : n.HasMade id := inflated.lt eq
  have linked : n.WellLinked := by
    have linked := inflated.retains.linked
    rwa [eq] at linked
  have claimed : (if (n.monitor id).hasAnonymousOwner && (n.lockStack t).contains o then
      claim n t o id else .ok () n).Retains n ∧
      (if (n.monitor id).hasAnonymousOwner && (n.lockStack t).contains o then
        claim n t o id else .ok () n).SparesRecords n := by
    split
    · exact ⟨claim_retains linked, claim_sparesRecords⟩
    · exact ⟨Machine.Retains.refl linked, rfl⟩
  refine (claimed.1.recalls claimed.2).bind fun _ k eq => ?_
  have kept := claimed.1
  rw [eq] at kept
  have filled := fillCache_retains kept.linked r id
  have made' : k.HasMade id := Nat.lt_of_lt_of_le made kept.made
  have entered := filled.linked.enterMonitor_retains (t := t) (Nat.lt_of_lt_of_le made' filled.made)
  exact (entered.recalls (enterMonitor_sparesRecords _ t id)).after (fillCache_recalls r made')

/-- An enter of fast-locking caches only a monitor that has been made. -/
lemma enter_recalls (h : m.WellLinked) (mode : m.options.mode = .lightweight) :
    (enter m t o r).Recalls m := by
  have cleared := clearCache_retains h r
  have cleared' := clearCache_recalls m r
  unfold enter
  dsimp only
  generalize clearCache m r = n at cleared cleared'
  have mode' : n.options.mode = .lightweight := cleared.options ▸ mode
  refine Outcome.Recalls.after ?_ cleared'
  split
  next s _ => exact .of_records (cleared.linked.retains_modifyThread t _) rfl
  next =>
    split
    next => exact enterInflated_recalls cleared.linked mode' _
    next =>
      split
      next free =>
        exact ((lockFast_retains cleared.linked mode' free.2).map _).recalls
          (lockFast_sparesRecords.map _)
      next => exact enterInflated_recalls cleared.linked mode' _

/-- A quick enter of fast-locking caches only a monitor that has been made. -/
lemma quickEnter_recalls (h : m.WellLinked) (mode : m.options.mode = .lightweight) :
    (quickEnter m t o r).Recalls m := by
  have cleared := clearCache_retains h r
  have cleared' := clearCache_recalls m r
  unfold quickEnter
  dsimp only
  generalize clearCache m r = n at cleared cleared'
  have mode' : n.options.mode = .lightweight := cleared.options ▸ mode
  refine Outcome.Recalls.after ?_ cleared'
  split
  next s _ => exact .of_records (cleared.linked.retains_modifyThread t _) rfl
  next =>
    split
    next free =>
      split
      next => exact Machine.Recalls.refl n
      next =>
        exact ((lockFast_retains cleared.linked mode' free).map _).recalls
          (lockFast_sparesRecords.map _)
    next =>
      split
      next id found =>
        have made : n.HasMade id := cleared.linked.lt ((monitorOf?_eq mode').trans found)
        have entered := cleared.linked.tryEnterMonitor_retains (t := t) made
        refine (entered.recalls (tryEnterMonitor_sparesRecords n t id)).bind fun entered' k eq => ?_
        rw [eq] at entered
        have made' : k.HasMade id := Nat.lt_of_lt_of_le made entered.made
        show k.Recalls _
        split
        · exact fillCache_recalls r made'
        · exact .refl k
      next => exact Machine.Recalls.refl n

end FastLocking

namespace Machine

variable {m n : Machine}

/-- With a table, all that an operation caches has been made. -/
lemma Works.recalls (c : m.Works HasMade n) (h : m.WellLinked)
    (mode : m.options.mode = .lightweight) : m.Recalls n := by
  have kept := c.retains h
  have enter : Locking.enter m = FastLocking.enter m := if_pos mode
  have quickEnter : Locking.quickEnter m = FastLocking.quickEnter m := if_pos mode
  have exit : Locking.exit m = FastLocking.exit m := if_pos mode
  have inflate : Locking.inflate m = FastLocking.inflate m := if_pos mode
  have identityHash : m.identityHash = FastLocking.identityHash m := if_pos mode
  -- Enters may fill a cache; all other operations leave the records alone.
  cases c with
  | aside same => exact .of_records kept same.records
  | enter t o r =>
    rw [enter]
    exact FastLocking.enter_recalls h mode
  | quickEnter t o r =>
    rw [quickEnter]
    exact FastLocking.quickEnter_recalls h mode
  | exit t o r =>
    refine .of_records kept ?_
    rw [exit]
    exact FastLocking.exit_sparesRecords
  | inflate t o cause =>
    refine .of_records kept ?_
    rw [inflate]
    exact FastLocking.inflate_sparesRecords cause
  | identityHash t o =>
    refine .of_records kept ?_
    rw [identityHash]
    exact FastLocking.identityHash_sparesRecords
  | enterMonitor t _ => exact .of_records kept (enterMonitor_sparesRecords m t _)
  | tryEnterMonitor t _ => exact .of_records kept (tryEnterMonitor_sparesRecords m t _)
  | exitMonitor t _ => exact .of_records kept (exitMonitor_sparesRecords m t _)
  | claimMonitor t c _ => exact .of_records kept (claimMonitor_sparesRecords m t _ c)
  | monitorHash t _ => exact .of_records kept (records_monitorHash m t _)
  | modifyObject o same => exact .of_records kept rfl
  | allocate label c => exact .of_records kept rfl
  | addRecord w => exact recalls_addRecord m w

/-- No record caches a monitor that has not been made. -/
def CachesMade (m : Machine) : Prop := ∀ r id, (m.record r).cache = some id → m.HasMade id

/-- No cache gets ahead of the monitors. -/
lemma CachesMade.recalls (h : m.CachesMade) (c : m.Recalls n) : n.CachesMade := by
  intro r id cached
  rcases c.cached r id cached with before | made
  · exact Nat.lt_of_lt_of_le (h r id before) c.made
  · exact made

/-- A monitor that has been made is found through the table. -/
lemma WellLinked.table_get? (h : m.WellLinked) (table : m.options.useTable = true) {id : MonitorId}
    (made : m.HasMade id) : (m.mark (m.monitor id).object).hasMonitor = true ∧
      m.table.get? (m.monitor id).object = some id := by
  have leads := (h.linked (m.monitor id).object id).2 ⟨made, rfl⟩
  have has := hasMonitor_of_monitorOf? leads
  unfold monitorOf? at leads
  rw [readMonitor?_table h table, if_pos has] at leads
  exact ⟨has, leads⟩

end Machine

/-- The machine with the cache of a record cleared. -/
def Machine.uncache (m : Machine) (r : RecordId) : Machine := m.setCache r none

/-- The outcome of an operation with the cache of a record cleared in the end. -/
def Outcome.uncache {α : Type} (r : RecordId) : Outcome α → Outcome α
  | ok a m => ok a (m.uncache r)
  | fault f m => fault f (m.uncache r)

/-- A cache may be cleared between two operations or after them. -/
lemma Outcome.uncache_bind {α β : Type} {r : RecordId} {x : Outcome α}
    {f : α → Machine → Outcome β} (next : ∀ a m, f a (m.uncache r) = (f a m).uncache r) :
    (x.uncache r).bind f = (x.bind f).uncache r := by
  cases x with
  | ok a m => exact next a m
  | fault c m => rfl

namespace FastLocking

open Machine

variable {m : Machine} {t : ThreadId} {o : ObjectId} {r q : RecordId} {id : MonitorId}

/-- A claim does not look at the cache. -/
lemma claim_uncache : claim (m.uncache r) t o id = (claim m t o id).uncache r := by
  unfold claim claimMonitor
  dsimp only
  have stack : (m.uncache r).lockStack t = m.lockStack t := rfl
  have monitor : ((m.uncache r).dropObject t o).monitor id = (m.dropObject t o).monitor id := rfl
  rw [stack, monitor]
  split
  · rfl
  · split <;> rfl

/-- An exit of an inflated object does not look at the cache. -/
lemma exitInflated_uncache :
    exitInflated (m.uncache r) t o id = (exitInflated m t o id).uncache r := by
  unfold exitInflated
  dsimp only
  have stack : (m.uncache r).lockStack t = m.lockStack t := rfl
  have monitor (m : Machine) : (m.uncache r).monitor id = m.monitor id := rfl
  rw [stack, monitor]
  have claimed : (if (m.monitor id).hasAnonymousOwner then
      if (m.lockStack t).contains o then claim (m.uncache r) t o id
      else (m.uncache r).illegalExit t o
    else .ok () (m.uncache r)) = Outcome.uncache r (if (m.monitor id).hasAnonymousOwner then
      if (m.lockStack t).contains o then claim m t o id else m.illegalExit t o
    else .ok () m) := by
    split
    · split
      · exact claim_uncache
      · rfl
    · rfl
  rw [claimed]
  apply Outcome.uncache_bind
  intro _ n
  rw [monitor]
  split
  · unfold exitMonitor
    rw [monitor]
    split <;> rfl
  · rfl

/-- The cache has nothing to say that a look at the header and the table would not. -/
lemma cached?_or (h : m.WellLinked) (made : m.CachesMade) (k : Mark) (latest : k = m.mark o) :
    (cached? m o r).or (readMonitor? m o k) = readMonitor? m o k := by
  subst latest
  unfold cached?
  split
  next table =>
    cases cache : (m.record r).cache with
    | none => rfl
    | some id =>
      cases own : (m.monitor id).object == o with
      | false => simp only [Option.filter_some, own, Bool.false_eq_true, if_false, Option.none_or]
      | true =>
        obtain ⟨has, found⟩ := h.table_get? table (made r id cache)
        rw [beq_iff_eq] at own
        rw [own] at has found
        have read : readMonitor? m o (m.mark o) = some id := by
          unfold readMonitor?
          rw [if_pos has, if_pos table, found]
        rw [read]
        simp only [Option.filter_some, own, BEq.rfl, if_true, Option.some_or]
  next => exact Option.none_or

/-- Clearing a cache leaves no monitor cached that has not been made. -/
lemma cachesMade_uncache (made : m.CachesMade) (r : RecordId) : (m.uncache r).CachesMade :=
  made.recalls (recalls_setCache m r nofun)

/-- An exit of fast-locking does the same without the cache. -/
lemma exit_uncache (h : m.WellLinked) (made : m.CachesMade) :
    exit (m.uncache q) t o r = (exit m t o r).uncache q := by
  have kept : m.Retains (m.uncache q) := h.retains_modifyRecord (h.displaced q)
  have stack : (m.uncache q).lockStack t = m.lockStack t := rfl
  have mark : (m.uncache q).mark o = m.mark o := rfl
  have read : readMonitor? (m.uncache q) o (m.mark o) = readMonitor? m o (m.mark o) := rfl
  unfold exit
  rw [stack]
  split
  · rfl
  · dsimp only
    rw [mark]
    split
    · rfl
    · rw [cached?_or h made _ rfl, cached?_or kept.linked (cachesMade_uncache made q) _ mark.symm,
        read]
      split
      · exact exitInflated_uncache
      · rfl

end FastLocking

namespace Locking

open Machine

variable {m : Machine} {t : ThreadId} {o : ObjectId} {r q : RecordId} {raw : Bool}

/-- With a table, an exit does the same without the cache, if it is counted or not. -/
lemma exit_uncache (h : m.WellLinked) (made : m.CachesMade) (mode : m.options.mode = .lightweight)
    (raw : Bool) : exit ((m.uncache q).counted raw t) t o r =
      (exit (m.counted raw t) t o r).uncache q := by
  have fast {n : Machine} (mode : n.options.mode = .lightweight) : exit n = FastLocking.exit n :=
    if_pos mode
  have counted : (m.counted raw t).WellLinked ∧ (m.counted raw t).CachesMade ∧
      (m.counted raw t).options = m.options ∧
      (m.uncache q).counted raw t = (m.counted raw t).uncache q := by
    cases raw with
    | true => exact ⟨h, made, rfl, rfl⟩
    | false => exact ⟨(h.retains_modifyThread t _).linked, made, rfl, rfl⟩
  obtain ⟨linked, made', options, same⟩ := counted
  have mode' : (m.counted raw t).options.mode = .lightweight := options ▸ mode
  rw [same, fast mode', fast (n := (m.counted raw t).uncache q) mode']
  exact FastLocking.exit_uncache linked made'

end Locking

/-- The system with the cache of a record cleared. -/
def World.uncache (s : World) (r : RecordId) : World := { s with machine := s.machine.uncache r }

/-- What the caches of a system tell, and that exits do not depend on them. -/
structure World.CachesAgree (s : World) : Prop where
  /-- A cached monitor is the one that the header of its object and the table lead to. -/
  cached : ∀ r id, (s.machine.record r).cache = some id →
    (s.machine.mark (s.machine.monitor id).object).hasMonitor = true ∧
      s.machine.table.get? (s.machine.monitor id).object = some id
  exit : ∀ w o r raw, (s.uncache r).move (.act w (.exit o r raw)) =
    ((s.move (.act w (.exit o r raw))).1.uncache r, (s.move (.act w (.exit o r raw))).2)
  /-- The exit at the end of a region, with the record of the region. -/
  region : ∀ w o r rest a, (s.worker w).regions = .synchronized o r :: rest →
    a = .endSynchronized ∨ a = .failSynchronized →
    (s.uncache r).move (.act w a) = ((s.move (.act w a)).1.uncache r, (s.move (.act w a)).2)

namespace World

variable {s : World} {w : WorkerId} {t : ThreadId} {o : ObjectId} {r : RecordId}

/-- What a worker does with an operation is the same without the cache, if the operation and what
follows are. -/
lemma operate_uncache {α : Type} {operation : Machine → Outcome α}
    {next : World → α → World × Progress}
    (same : operation (s.machine.uncache r) = (operation s.machine).uncache r)
    (go : ∀ s a, next (s.uncache r) a = ((next s a).1.uncache r, (next s a).2)) :
    (s.uncache r).operate operation next =
      ((s.operate operation next).1.uncache r, (s.operate operation next).2) := by
  cases eq : operation s.machine with
  | ok a n =>
    rw [eq] at same
    rw [operate_ok eq, operate_ok (s := s.uncache r) same]
    exact go { s with machine := n } a
  | fault f n =>
    rw [eq] at same
    rw [operate_fault eq, operate_fault (s := s.uncache r) same]
    rfl

/-- A move of a worker that is its thread's does the same without the cache, if what it begins
does. -/
lemma move_uncache {a : Action}
    (idle : (s.worker w).thread = none → s.begin w a = (s, .refused) ∧
      (s.uncache r).begin w a = (s.uncache r, .refused))
    (same : ∀ t, (s.worker w).thread = some t →
      (s.uncache r).begin w a = ((s.begin w a).1.uncache r, (s.begin w a).2)) :
    (s.uncache r).move (.act w a) = ((s.move (.act w a)).1.uncache r, (s.move (.act w a)).2) := by
  cases wait : (s.worker w).wait with
  | some x => rw [move_of_waits wait, move_of_waits (s := s.uncache r) wait]
  | none =>
    rw [move_act wait, move_act (s := s.uncache r) wait]
    cases ht : (s.worker w).thread with
    | none =>
      obtain ⟨plain, cleared⟩ := idle ht
      rw [plain, cleared]
    | some t => exact same t ht

/-- An exit of a worker does the same without the cache. -/
lemma exit_uncache (h : s.machine.WellLinked) (made : s.machine.CachesMade)
    (mode : s.machine.options.mode = .lightweight) (raw : Bool) :
    (s.uncache r).move (.act w (.exit o r raw)) =
      ((s.move (.act w (.exit o r raw))).1.uncache r, (s.move (.act w (.exit o r raw))).2) := by
  refine move_uncache (fun ht => ⟨?_, ?_⟩) fun t ht => ?_
  · simp only [World.begin, ht]
  · simp only [World.begin, show ((s.uncache r).worker w).thread = none from ht]
  · rw [begin_exit ht, begin_exit (s := s.uncache r) ht]
    exact operate_uncache (Locking.exit_uncache h made mode raw) fun _ _ => rfl

/-- The end of a synchronized region does the same without the cache. -/
lemma endSynchronized_uncache (h : s.machine.WellLinked) (made : s.machine.CachesMade)
    (mode : s.machine.options.mode = .lightweight) {rest : List Region}
    (inside : (s.worker w).regions = .synchronized o r :: rest) (result : Progress) :
    (s.uncache r).endSynchronized w t result =
      ((s.endSynchronized w t result).1.uncache r, (s.endSynchronized w t result).2) := by
  unfold endSynchronized
  rw [show ((s.uncache r).worker w).regions = _ from inside, inside]
  exact operate_uncache (s := s.closeRegion w) (Locking.exit_uncache h made mode false)
    fun _ _ => rfl

/-- A region may end by itself or by a failure, and does the same without the cache. -/
lemma region_uncache (h : s.machine.WellLinked) (made : s.machine.CachesMade)
    (mode : s.machine.options.mode = .lightweight) {rest : List Region}
    (inside : (s.worker w).regions = .synchronized o r :: rest) {a : Action}
    (ends : a = .endSynchronized ∨ a = .failSynchronized) :
    (s.uncache r).move (.act w a) = ((s.move (.act w a)).1.uncache r, (s.move (.act w a)).2) := by
  refine move_uncache (fun ht => ?_) fun t ht => ?_
  · have ht' : ((s.uncache r).worker w).thread = none := ht
    rcases ends with rfl | rfl <;> simp only [World.begin, ht, ht', and_self]
  · rw [begin_attached ht, begin_attached (s := s.uncache r) ht]
    rcases ends with rfl | rfl
    · exact endSynchronized_uncache h made mode inside _
    · exact endSynchronized_uncache h made mode inside _

end World

namespace Run

variable {options : Options} {s : World} {h : List Event}

/-- With a table, no record ever caches a monitor that has not been made. -/
lemma cachesMade (run : Run madeMonitors options s h) (valid : options.validate = .ok ())
    (table : options.useTable = true) : s.machine.CachesMade := by
  induction run with
  | new => exact fun _ _ => nofun
  | @move s h x run allowed ih =>
    have recalls := World.machine_move
      (R := fun m n => m.WellLinked → m.options.mode = .lightweight → m.Retains n ∧ m.Recalls n)
      (fun m linked _ => ⟨.refl linked, .refl m⟩)
      (fun first next linked mode => by
        obtain ⟨retains, recalls⟩ := first linked mode
        obtain ⟨retains', recalls'⟩ := next retains.linked (retains.options ▸ mode)
        exact ⟨retains.trans retains', recalls.trans recalls'⟩)
      (fun works linked mode => ⟨works.retains linked, works.recalls linked mode⟩) allowed
    have linked := run.wellLinked valid
    have mode : s.machine.options.mode = .lightweight := linked.tables (run.options_eq ▸ table)
    exact ih.recalls (recalls linked mode).2

/-- With a table, in every state of every run, the monitor that a record caches is the one that the
header of its object and the table lead to. So an exit with any record does the same and ends in the
same way without the cache, whatever the cache is left over from. -/
theorem caches_agree (run : Run madeMonitors options s h) (valid : options.validate = .ok ())
    (table : options.useTable = true) : s.CachesAgree := by
  have linked := run.wellLinked valid
  have made := run.cachesMade valid table
  have tabled : s.machine.options.useTable = true := run.options_eq ▸ table
  have mode := linked.tables tabled
  exact ⟨fun r id cached => linked.table_get? tabled (made r id cached),
    fun _ _ _ raw => World.exit_uncache linked made mode raw,
    fun _ _ _ _ _ inside ends => World.region_uncache linked made mode inside ends⟩

/-- A record caches a monitor from an enter that is over; its thread has entered the object again
with another record. A second object was fast-locked by one thread and inflated by the other. -/
def leftOver : World × List Event :=
  (World.new ⟨.lightweight, true, 64, 16⟩).follow []
    [.addWorker, .addWorker, .act 0 .attach, .act 1 .attach, .addRecord 0, .addRecord 0,
      .addRecord 1, .act 0 (.allocate "first" ⟨"Counter", 1, false⟩),
      .act 0 (.allocate "second" ⟨"Counter", 1, false⟩), .act 0 (.inflate 0 .monitorEnter),
      .act 0 (.enter 0 0 false), .act 0 (.exit 0 0 false), .act 0 (.enter 0 1 false),
      .act 1 (.enter 1 2 false), .act 0 (.inflate 1 .monitorEnter)]

/-- The record still caches the monitor, and the record of the second object caches none, though
that object has one. -/
theorem caches_agree_leftOver : (leftOver.1.machine.record 0).cache = some 0 ∧
    leftOver.1.machine.holdsLock 2 0 = true ∧ (leftOver.1.machine.record 2).cache = none ∧
    leftOver.1.machine.monitorOf? 1 = some 1 ∧ leftOver.1.CachesAgree :=
  ⟨by decide +kernel, by decide +kernel, by decide +kernel, by decide +kernel,
    caches_agree (.follow .new _ (by decide +kernel)) (by decide) (by decide)⟩

end Run

end ObjectLocks
