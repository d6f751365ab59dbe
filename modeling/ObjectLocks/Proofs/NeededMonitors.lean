import ObjectLocks.Proofs.LockBits
import ObjectLocks.Proofs.OneMonitor
import ObjectLocks.Proofs.QuickEnter
import ObjectLocks.Proofs.Scripts
import ObjectLocks.Script.Session

/-!
# Monitors that are needed

A monitor is never taken away from its object, so one that was not needed is there for good. With
fast-locking an enter needs one if the lock stack is full, or if the object is locked but not the
top entry. With stack-locking it needs one if there is no room for another lock record, or if the
object is locked with a record of somebody else; and a hash needs one if it cannot be read from such
a record of the thread itself. In these cases a monitor is made, and in no others.
-/

namespace ObjectLocks

namespace Machine

/-- Why an enter of an object without a monitor has to make one. -/
def NeedsMonitor (m : Machine) (t : ThreadId) (o : ObjectId) : Prop :=
  match m.options.mode with
  | .lightweight => (m.lockStack t).isFull = true ∨
      (m.mark o).isFastLocked = true ∧ (m.lockStack t).top? ≠ some o
  | .legacy => (m.lockRecords t).isFull = true ∨
      ∃ r, m.mark o = .record r ∧ (m.lockRecords t).contains r = false
  | .monitor => True

/-- Why the identity hash of an object without a monitor has to make one. -/
def HashNeedsMonitor (m : Machine) (t : ThreadId) (o : ObjectId) : Prop :=
  m.options.mode = .legacy ∧ ∃ r, m.mark o = .record r ∧
    ¬ ((m.lockRecords t).contains r = true ∧ (m.record r).displaced.hasHash = true)

/-- The object `o` has got a monitor, and no other object has. -/
structure Makes (m : Machine) (o : ObjectId) (n : Machine) : Prop where
  made : m.monitorOf? o = none ∧ ∃ id, n.monitorOf? o = some id
  others : ∀ p, p ≠ o → n.monitorOf? p = m.monitorOf? p
  count : n.monitorCount = m.monitorCount + 1

/-- No object has got a monitor. -/
structure MakesNone (m n : Machine) : Prop where
  monitors : n.monitorOf? = m.monitorOf?
  count : n.monitorCount = m.monitorCount

/-- A monitor is made, that of `o`, if and only if it is needed. -/
structure MakesIf (m : Machine) (needed : Prop) (o : ObjectId) (n : Machine) : Prop where
  made : m.Makes o n ↔ needed
  none : m.MakesNone n ↔ ¬ needed

variable {m n : Machine} {o : ObjectId} {needed : Prop}

/-- A machine that does not change has made no monitor. -/
lemma MakesNone.refl (m : Machine) : m.MakesNone m := ⟨rfl, rfl⟩

/-- A monitor is not made and not made at once. -/
lemma Makes.not_none (h : m.Makes o n) : ¬ m.MakesNone n := by
  intro none
  have count := h.count
  rw [none.count] at count
  exact absurd count (Nat.ne_of_lt (Nat.lt_succ_self _))

/-- It is enough to know what happens if a monitor is needed, and if it is not. -/
lemma MakesIf.of (made : needed → m.Makes o n) (none : ¬ needed → m.MakesNone n) :
    m.MakesIf needed o n := by
  refine ⟨⟨fun makes => ?_, made⟩, ⟨fun spares need => (made need).not_none spares, none⟩⟩
  by_contra needless
  exact makes.not_none (none needless)

namespace WellLinked

variable (h : m.WellLinked) (kept : m.Retains n)
include h kept

/-- An object has the monitor that it had as long as its monitor bits are the same. -/
lemma monitorOf?_of_bits (same : (n.mark o).hasMonitor = (m.mark o).hasMonitor) :
    n.monitorOf? o = m.monitorOf? o := by
  cases leads : m.monitorOf? o with
  | some id => exact kept.keeps h leads
  | none =>
    rw [h.hasMonitor_eq_false leads] at same
    exact monitorOf?_eq_none same

/-- Without a change of monitor bits no monitor is made. -/
lemma makesNone (same : m.Retags none n) : m.MakesNone n := by
  refine ⟨funext fun o => h.monitorOf?_of_bits kept (same.allBits o), ?_⟩
  have bits : {o | (n.mark o).hasMonitor = true} = {o | (m.mark o).hasMonitor = true} := by
    ext o
    rw [Set.mem_ofPred_eq, Set.mem_ofPred_eq, same.allBits o]
  have counted := kept.linked.monitored.counted
  rw [bits, h.monitored.counted] at counted
  exact (Nat.cast_inj.1 counted).symm

/-- An object whose monitor bits are set has got a monitor, and no other object has. -/
lemma makes (same : m.Retags (some o) n) (free : m.monitorOf? o = none)
    (has : (n.mark o).hasMonitor = true) : m.Makes o n := by
  have other {p : ObjectId} (ne : p ≠ o) : (n.mark p).hasMonitor = (m.mark p).hasMonitor :=
    same.bits p fun eq => ne (Option.some.inj eq).symm
  refine ⟨⟨free, (kept.linked.shown_iff o).1 has⟩,
    fun p ne => h.monitorOf?_of_bits kept (other ne), ?_⟩
  have bits : {p | (n.mark p).hasMonitor = true} = insert o {p | (m.mark p).hasMonitor = true} := by
    ext p
    rw [Set.mem_insert_iff, Set.mem_ofPred_eq, Set.mem_ofPred_eq]
    by_cases eq : p = o
    · exact iff_of_true (eq ▸ has) (.inl eq)
    · rw [other eq, or_iff_right eq]
  have new : o ∉ {p | (m.mark p).hasMonitor = true} := by
    rw [Set.mem_ofPred_eq, h.hasMonitor_eq_false free]
    exact nofun
  have counted := kept.linked.monitored.counted
  rw [bits, Set.encard_insert_of_notMem new, h.monitored.counted] at counted
  exact (Nat.cast_inj.1 (by rw [← counted, Nat.cast_add, Nat.cast_one])).symm

end WellLinked

end Machine

/-- An operation sets the monitor bits of `o` if a monitor is needed, and changes no monitor bits
otherwise. -/
structure Outcome.TagsIf {α : Type} (m : Machine) (needed : Prop) (o : ObjectId) (y : Outcome α) :
    Prop where
  tags : needed → (y.machine.mark o).hasMonitor = true
  spares : ¬ needed → y.Retags none m

namespace FastLocking

open Machine

variable {m : Machine} {t : ThreadId} {o : ObjectId} {r : RecordId}

/-- Fast-locking can inflate any object. -/
lemma inflate_ok (m : Machine) (t : ThreadId) (o : ObjectId) (cause : InflationCause) :
    ∃ id n, inflate m t o cause = .ok id n := by
  unfold inflate
  split
  · unfold inflateIntoTable
    dsimp only
    split <;> exact ⟨_, _, rfl⟩
  · unfold inflateInline
    dsimp only
    split <;> exact ⟨_, _, rfl⟩

/-- An enter through a monitor leaves the monitor bits of the object set, however it ends. -/
lemma enterInflated_tags (linked : m.WellLinked) (h : m.WellTagged)
    (mode : m.options.mode = .lightweight) (cause : InflationCause) :
    ((enterInflated m t o r cause).machine.mark o).hasMonitor = true := by
  obtain ⟨id, n, eq⟩ := inflate_ok m t o cause
  have inflated := inflate_monitors (t := t) (o := o) linked mode cause
  have retagged := inflate_retags (t := t) (o := o) h mode cause
  rw [eq] at inflated retagged
  have rest := enterClaimed_retags (x := none) (t := t) (o := o) (r := r) retagged.tagged id
  unfold enterInflated
  rw [eq]
  exact (rest.allBits o).trans (WellLinked.hasMonitor_of_monitorOf? inflated.2)

/-- An enter of fast-locking sets the monitor bits if and only if a monitor is needed. -/
lemma enter_tagsIf (linked : m.WellLinked) (h : m.WellTagged)
    (mode : m.options.mode = .lightweight) (spins : m.options.fastLockSpins ≠ 0)
    (free : (m.mark o).hasMonitor = false) :
    (enter m t o r).TagsIf m (m.NeedsMonitor t o) o := by
  have needs : m.NeedsMonitor t o ↔ (m.lockStack t).isFull = true ∨
      (m.mark o).isFastLocked = true ∧ (m.lockStack t).top? ≠ some o := by
    unfold NeedsMonitor
    rw [mode]
  have cleared := clearCache_retags (x := none) h r
  have stack : (clearCache m r).lockStack t = m.lockStack t := by
    unfold clearCache
    split <;> rfl
  have mark : (clearCache m r).mark o = m.mark o := by
    unfold clearCache
    split <;> rfl
  have linked' := (clearCache_retains linked r).linked
  -- Without a monitor, the object is locked or it is not.
  have locked (other : ¬ (m.mark o).isUnlocked = true) : (m.mark o).isFastLocked = true := by
    have suits := h.suits o
    unfold Mark.isUnlocked at other
    unfold Mark.isFastLocked
    unfold Mark.hasMonitor at free
    cases hk : m.mark o with
    | word w =>
      rw [hk] at suits other free
      have unmarked := (Mark.suits_word mode).1 suits
      cases bits : w.bits with
      | locked => exact beq_iff_eq.2 bits
      | unlocked => exact absurd (beq_iff_eq.2 bits) other
      | monitor => rw [Mark.bits, bits] at free; cases free
      | marked => exact absurd bits unmarked
    | record r => rfl
    | monitor id => rw [hk] at free; cases free
  rw [needs]
  unfold enter
  rw [← stack, ← mark] at needs ⊢
  rw [← mark] at locked
  dsimp only
  generalize clearCache m r = n at cleared linked' locked ⊢
  have mode' : n.options.mode = .lightweight := cleared.options ▸ mode
  have spins' : n.options.fastLockSpins ≠ 0 := cleared.options ▸ spins
  have inflated (cause : InflationCause) (need : (n.lockStack t).isFull = true ∨
      (n.mark o).isFastLocked = true ∧ (n.lockStack t).top? ≠ some o) :
      (enterInflated n t o r cause).TagsIf m ((n.lockStack t).isFull = true ∨
        (n.mark o).isFastLocked = true ∧ (n.lockStack t).top? ≠ some o) o :=
    ⟨fun _ => enterInflated_tags linked' cleared.tagged mode' cause, fun needless =>
      absurd need needless⟩
  split
  next s again =>
    obtain ⟨room, top⟩ := LockStack.top?_of_tryRecursiveEnter again
    refine ⟨fun need => ?_, fun _ => cleared.trans (cleared.tagged.retags_locks rfl rfl rfl)⟩
    rcases need with full | ⟨-, other⟩
    · cases room.symm.trans full
    · exact absurd top other
  next once =>
    split
    next full => exact inflated _ (.inl full)
    next room =>
      have top := (LockStack.tryRecursiveEnter_eq_none once).resolve_left room
      split
      next unlocked =>
        refine ⟨fun need => ?_, fun _ => Outcome.Retags.after
          ((lockFast_retags cleared.tagged mode' unlocked.2).map _) cleared⟩
        have fast := (need.resolve_left room).1
        have bits := beq_iff_eq.1 unlocked.2
        rw [Mark.isFastLocked, bits] at fast
        cases fast
      next busy =>
        exact inflated _ (.inr ⟨locked fun unlocked => busy ⟨spins', unlocked⟩, top⟩)

end FastLocking

namespace StackLocking

open Machine

variable {m : Machine} {t : ThreadId} {o : ObjectId} {r : RecordId}

/-- Stack-locking can inflate any object with a header of the mode. -/
lemma inflate_ok (h : m.WellTagged) (mode : m.options.mode ≠ .lightweight) (t : ThreadId)
    (o : ObjectId) (cause : InflationCause) : ∃ id n, inflate m t o cause = .ok id n := by
  have suits := h.suits o
  unfold inflate
  split
  next => exact ⟨_, _, rfl⟩
  next => exact ⟨_, _, rfl⟩
  next w hk =>
    rw [hk] at suits
    have unlocked : w.isUnlocked = true := beq_iff_eq.2 ((Mark.suits_plain mode).1 suits)
    rw [if_pos unlocked]
    exact ⟨_, _, rfl⟩

/-- An inflation of stack-locking leaves the monitor bits of the object set. -/
lemma inflate_tags (linked : m.WellLinked) (mode : m.options.mode ≠ .lightweight)
    {id : MonitorId} {n : Machine} {cause : InflationCause} (eq : inflate m t o cause = .ok id n) :
    (n.mark o).hasMonitor = true := by
  have inflated := inflate_monitors (t := t) (o := o) linked mode cause
  rw [eq] at inflated
  exact WellLinked.hasMonitor_of_monitorOf? inflated.2

/-- An enter through a monitor leaves the monitor bits of the object set, however it ends. -/
lemma enterInflated_tags (linked : m.WellLinked) (h : m.WellTagged)
    (mode : m.options.mode ≠ .lightweight) (cause : InflationCause) :
    ((enterInflated m t o r cause).machine.mark o).hasMonitor = true := by
  have unused := throughMonitor_retags (x := some o) h r
  have linked' := (throughMonitor_retains (r := r) linked).linked
  obtain ⟨id, n, eq⟩ := inflate_ok unused.tagged mode t o cause
  have retagged := inflate_retags (t := t) (o := o) unused.tagged cause
  rw [eq] at retagged
  have rest : (n.enterMonitor t id).Retags none n := retagged.tagged.enterMonitor_retags
  unfold enterInflated
  rw [eq]
  exact (rest.allBits o).trans (inflate_tags linked' mode eq)

/-- Stack-locking is refused if and only if a monitor is needed, and then has changed nothing. -/
lemma tryStackLock_cases (h : m.WellTagged) (mode : m.options.mode = .legacy)
    (free : (m.mark o).hasMonitor = false) :
    (m.NeedsMonitor t o ∧ ∃ cause, tryStackLock m t o r = .ok (some cause) m) ∨
      (¬ m.NeedsMonitor t o ∧ ∃ y : Outcome Unit, tryStackLock m t o r = y.map fun _ => none) := by
  have needs : m.NeedsMonitor t o ↔ (m.lockRecords t).isFull = true ∨
      ∃ r, m.mark o = .record r ∧ (m.lockRecords t).contains r = false := by
    unfold NeedsMonitor
    rw [mode]
  rw [needs]
  unfold tryStackLock
  cases hk : m.mark o with
  | word w =>
    have suits := h.suits o
    rw [hk] at suits
    -- The header of an object without a monitor is an unlocked word or a record.
    have unlocked : w.isUnlocked = true :=
      beq_iff_eq.2 ((Mark.suits_plain (by rw [mode]; decide)).1 suits)
    dsimp only
    rw [if_pos unlocked]
    split
    next full => exact .inl ⟨.inl full, _, rfl⟩
    next room =>
      refine .inr ⟨fun need => ?_, _, rfl⟩
      obtain ⟨q, eq, -⟩ := need.resolve_left room
      cases eq
  | record q =>
    dsimp only
    split
    next own =>
      split
      next full => exact .inl ⟨.inl full, _, rfl⟩
      next room =>
        refine .inr ⟨fun need => ?_, _, rfl⟩
        obtain ⟨q', eq, other⟩ := need.resolve_left room
        obtain rfl := Mark.record.inj eq
        cases own.symm.trans other
    next other => exact .inl ⟨.inr ⟨q, rfl, Bool.eq_false_iff.2 other⟩, _, rfl⟩
  | monitor id =>
    rw [hk] at free
    cases free

/-- An enter of stack-locking sets the monitor bits if and only if a monitor is needed. -/
lemma enter_tagsIf (linked : m.WellLinked) (h : m.WellTagged)
    (mode : m.options.mode ≠ .lightweight) (free : (m.mark o).hasMonitor = false) :
    (enter m t o r).TagsIf m (m.NeedsMonitor t o) o := by
  unfold enter
  split
  next heavy =>
    have need : m.NeedsMonitor t o := by
      unfold NeedsMonitor
      rw [heavy]
      trivial
    exact ⟨fun _ => enterInflated_tags linked h mode _, fun needless => absurd need needless⟩
  next light =>
    have legacy := legacy_of_ne mode light
    rcases tryStackLock_cases (t := t) (r := r) h legacy free with
      ⟨need, cause, refused⟩ | ⟨needless, y, locks⟩
    · rw [refused]
      exact ⟨fun _ => enterInflated_tags linked h mode cause, fun needless => absurd need needless⟩
    · have retags := tryStackLock_retags (x := none) (t := t) (o := o) (r := r) h legacy
      rw [locks] at retags ⊢
      refine ⟨fun need => absurd need needless, fun _ => ?_⟩
      cases y <;> exact retags

/-- The identity hash of stack-locking sets the monitor bits if and only if a monitor is needed. -/
lemma identityHash_tagsIf (linked : m.WellLinked) (h : m.WellTagged)
    (mode : m.options.mode ≠ .lightweight) :
    (identityHash m t o).TagsIf m (m.HashNeedsMonitor t o) o := by
  unfold identityHash
  split
  next w hk =>
    have suits := h.suits o
    rw [hk] at suits
    -- A word of stack-locking is unlocked, and is hashed in place.
    have unlocked : w.isUnlocked = true := beq_iff_eq.2 ((Mark.suits_plain mode).1 suits)
    rw [if_pos unlocked]
    refine ⟨fun need => ?_, fun _ => ?_⟩
    · obtain ⟨-, q, hk', -⟩ := need
      cases hk.symm.trans hk'
    split
    · exact Machine.Retags.refl h
    · have drawn : m.Retags none (m.drawHash t).2 := h.retags_locks rfl rfl rfl
      exact drawn.trans (drawn.tagged.retags_setHash (show (m.drawHash t).2.mark o = _ from hk)
        (LockWord.bits_withHash w _))
  next id hk =>
    refine ⟨fun need => ?_, fun _ => h.monitorHash_retags⟩
    obtain ⟨-, q, hk', -⟩ := need
    cases hk.symm.trans hk'
  next q hk =>
    have legacy : m.options.mode = .legacy := by
      have suits := h.suits o
      rwa [hk] at suits
    dsimp only
    split
    next known =>
      refine ⟨fun need => ?_, fun _ => Machine.Retags.refl h⟩
      obtain ⟨-, q', hk', unknown⟩ := need
      obtain rfl := Mark.record.inj (hk.symm.trans hk')
      exact absurd (Bool.and_eq_true_iff.1 known) unknown
    next unknown =>
      have need : m.HashNeedsMonitor t o :=
        ⟨legacy, q, hk, fun known => unknown (Bool.and_eq_true_iff.2 known)⟩
      refine ⟨fun _ => ?_, fun needless => absurd need needless⟩
      -- The inflation sets the bits, and the hash of the monitor leaves them.
      obtain ⟨id, n, eq⟩ := inflate_ok h mode t o .hashCode
      have retagged := inflate_retags (t := t) (o := o) h .hashCode
      rw [eq] at retagged
      have rest : n.Retags none (n.monitorHash t id).2 := retagged.tagged.monitorHash_retags
      rw [eq]
      exact (rest.allBits o).trans (inflate_tags linked mode eq)

end StackLocking

section

variable {m : Machine} {x : Option ObjectId} {t : ThreadId} {o : ObjectId} {r : RecordId}

/-- An enter sets the monitor bits if and only if a monitor is needed, in every mode. -/
lemma Locking.enter_tagsIf (valid : m.options.validate = .ok ()) (linked : m.WellLinked)
    (h : m.WellTagged) (free : (m.mark o).hasMonitor = false) :
    (Locking.enter m t o r).TagsIf m (m.NeedsMonitor t o) o := by
  unfold Locking.enter
  split
  next mode => exact FastLocking.enter_tagsIf linked h mode (Options.of_validate valid).2 free
  next mode => exact StackLocking.enter_tagsIf linked h mode free

namespace Machine

/-- The bookkeeping of an enter has no part in it. -/
lemma enter_tagsIf (valid : m.options.validate = .ok ()) (linked : m.WellLinked)
    (h : m.WellTagged) (unguarded : (m.thread t).guards = 0)
    (free : (m.mark o).hasMonitor = false) :
    (m.enter t o r).TagsIf m (m.NeedsMonitor t o) o := by
  have same : m.Aside (m.warnValueBased t o) ∧
      (m.warnValueBased t o).NeedsMonitor t o = m.NeedsMonitor t o := by
    unfold warnValueBased
    split <;> exact ⟨⟨rfl, rfl, rfl, rfl, rfl, rfl⟩, rfl⟩
  obtain ⟨aside, needs⟩ := same
  have warned := h.retags_aside (x := none) aside
  have tagsIf := Locking.enter_tagsIf (m := m.warnValueBased t o) (t := t) (o := o) (r := r)
    (by rwa [aside.options]) (linked.retains_aside aside).linked warned.tagged
    (by rwa [aside.mark])
  rw [needs] at tagsIf
  unfold enter checkSafepoint
  rw [if_pos unguarded]
  dsimp only [Outcome.bind]
  cases eq : Locking.enter (m.warnValueBased t o) t o r with
  | ok entry n =>
    rw [eq] at tagsIf
    dsimp only
    refine ⟨fun need => ?_, fun needless => ?_⟩
    · have has : (n.mark o).hasMonitor = true := tagsIf.tags need
      cases entry <;> exact has
    · have retags : m.Retags none n := warned.trans (tagsIf.spares needless)
      cases entry
      · exact retags.trans (retags.tagged.retags_locks rfl rfl rfl)
      · exact retags
  | fault f n =>
    rw [eq] at tagsIf
    exact ⟨tagsIf.tags, fun needless => warned.trans (tagsIf.spares needless)⟩

/-- An identity hash sets the monitor bits if and only if a monitor is needed, in every mode. -/
lemma identityHash_tagsIf (linked : m.WellLinked) (h : m.WellTagged) :
    (m.identityHash t o).TagsIf m (m.HashNeedsMonitor t o) o := by
  unfold identityHash
  split
  next mode =>
    refine ⟨fun need => ?_, fun _ => FastLocking.identityHash_retags h⟩
    cases mode.symm.trans need.1
  next mode => exact StackLocking.identityHash_tagsIf linked h mode

/-- An enter with its bookkeeping changes the monitor bits of its own object only. -/
lemma WellTagged.enters_retags (h : m.WellTagged) : (m.enter t o r).Retags (some o) m := by
  have warned : m.Retags (some o) (m.warnValueBased t o) := by
    unfold warnValueBased
    split <;> exact h.retags_locks rfl rfl rfl
  unfold enter checkSafepoint
  split
  next =>
    refine (warned.tagged.enter_retags.after warned).bind fun entry n _ h' => ?_
    show n.Retags (some o) _
    split
    · exact h'.retags_locks rfl rfl rfl
    · exact .refl h'
  next => exact Retags.refl h

/-- A quick enter with its bookkeeping changes no monitor bits. -/
lemma WellTagged.quickEnters_retags (h : m.WellTagged) (y : Option ObjectId) :
    (m.quickEnter t y r).Retags x m := by
  unfold quickEnter
  split
  next => exact Retags.refl h
  next =>
    cases y with
    | none => exact Retags.refl h
    | some o =>
      dsimp only
      split
      next => exact Retags.refl h
      next =>
        refine h.quickEnter_retags.bind fun entered n _ h' => ?_
        show n.Retags x _
        split
        · exact h'.retags_locks rfl rfl rfl
        · exact .refl h'

/-- An exit with its bookkeeping changes no monitor bits. -/
lemma WellTagged.exits_retags (h : m.WellTagged) : (m.exit t o r).Retags x m := by
  have counted : m.Retags x (m.modifyThread t .lose) := h.retags_locks rfl rfl rfl
  exact counted.tagged.exit_retags.after counted

end Machine

end

/-- Operations of a system make a monitor when one is needed, and only then. -/
structure World.InflatesWhenNeeded (s : World) : Prop where
  enter : ∀ w t o r raw, (s.worker w).thread = some t → (s.worker w).wait = none →
    (s.machine.thread t).guards = 0 → s.machine.monitorOf? o = none →
    s.machine.MakesIf (s.machine.NeedsMonitor t o) o
      (s.move (.act w (.enter o r raw))).1.machine
  identityHash : ∀ w t o, (s.worker w).thread = some t → (s.worker w).wait = none →
    s.machine.MakesIf (s.machine.HashNeedsMonitor t o) o
      (s.move (.act w (.identityHash o))).1.machine
  quickEnter : ∀ w x r raw, s.machine.MakesNone (s.move (.act w (.quickEnter x r raw))).1.machine
  exit : ∀ w o r raw, s.machine.MakesNone (s.move (.act w (.exit o r raw))).1.machine
  /-- To ask who holds an object, who owns it or which monitor it has leaves the system alone. -/
  asks : ∀ (session : Script.Session) w o, session.world = s →
    ∀ c ∈ [Script.Command.holdsLock o, .lockOwner o, .readMonitor o],
      (session.command w c).1.world = s

namespace World

variable {s : World} {w : WorkerId} {t : ThreadId} {o : ObjectId} {r : RecordId}

/-- An enter of a worker leaves the machine that its operation leaves. -/
lemma machine_enter {operation : Machine → Outcome Entry} {goal : Goal}
    {next : World → World × Progress} (same : ∀ s, (next s).1.machine = s.machine) :
    (s.enter w operation goal next).1.machine = (operation s.machine).machine := by
  unfold World.enter
  cases eq : operation s.machine with
  | ok entry n =>
    rw [operate_ok eq]
    cases entry with
    | entered => exact same _
    | queued id resume => rfl
  | fault f n =>
    rw [operate_fault eq]
    rfl

/-- A move that uses no monitor past its object retains all of them. -/
lemma move_retains (linked : s.machine.WellLinked) {a : Action} (plain : a.monitor? = none) :
    s.machine.Retains (s.move (.act w a)).1.machine := by
  refine retains_follow (h := []) linked [.act w a] ⟨fun w' a' eq id uses => ?_, trivial⟩
  cases eq
  cases plain.symm.trans uses

/-- What needs no monitor makes none. -/
lemma makesIf {α : Type} {f : Machine → Outcome α} {a : Action} {needed : Prop}
    (linked : s.machine.WellLinked) (plain : a.monitor? = none)
    (same : (s.move (.act w a)).1.machine = (f s.machine).machine)
    (retags : (f s.machine).Retags (some o) s.machine)
    (tagsIf : (f s.machine).TagsIf s.machine needed o)
    (free : needed → s.machine.monitorOf? o = none) :
    s.machine.MakesIf needed o (s.move (.act w a)).1.machine := by
  have kept := move_retains (w := w) linked plain
  rw [same] at kept ⊢
  exact .of (fun need => linked.makes kept retags (free need) (tagsIf.tags need))
    fun needless => linked.makesNone kept (tagsIf.spares needless)

/-- An action that changes no monitor bits makes no monitor. -/
lemma makesNone {a : Action} (linked : s.machine.WellLinked) (plain : a.monitor? = none)
    (retags : ∀ t, (s.worker w).thread = some t →
      s.machine.Retags none (s.begin w a).1.machine)
    (idle : (s.worker w).thread = none → s.begin w a = (s, .refused)) :
    s.machine.MakesNone (s.move (.act w a)).1.machine := by
  cases wait : (s.worker w).wait with
  | some x =>
    rw [move_of_waits wait]
    exact .refl _
  | none =>
    have kept := move_retains (w := w) linked plain
    rw [move_act wait] at kept ⊢
    cases ht : (s.worker w).thread with
    | some t => exact linked.makesNone kept (retags t ht)
    | none =>
      rw [idle ht]
      exact .refl _

/-- The enter of a worker makes a monitor if and only if it is needed. -/
lemma enter_makesIf (valid : s.machine.options.validate = .ok ()) (linked : s.machine.WellLinked)
    (tagged : s.machine.WellTagged) (ht : (s.worker w).thread = some t)
    (wait : (s.worker w).wait = none) (unguarded : (s.machine.thread t).guards = 0)
    (free : s.machine.monitorOf? o = none) (raw : Bool) :
    s.machine.MakesIf (s.machine.NeedsMonitor t o) o
      (s.move (.act w (.enter o r raw))).1.machine := by
  have bits := linked.hasMonitor_eq_false free
  have begins := (move_act wait (.enter o r raw)).trans (begin_attached ht _)
  cases raw with
  | true =>
    exact makesIf (f := fun m => Locking.enter m t o r) linked rfl
      (by rw [begins]; exact machine_enter fun _ => rfl) tagged.enter_retags
      (Locking.enter_tagsIf valid linked tagged bits) fun _ => free
  | false =>
    exact makesIf (f := (·.enter t o r)) linked rfl
      (by rw [begins]; exact machine_enter fun _ => rfl) tagged.enters_retags
      (Machine.enter_tagsIf valid linked tagged unguarded bits) fun _ => free

/-- The identity hash of a worker makes a monitor if and only if it is needed. -/
lemma identityHash_makesIf (linked : s.machine.WellLinked) (tagged : s.machine.WellTagged)
    (ht : (s.worker w).thread = some t) (wait : (s.worker w).wait = none) :
    s.machine.MakesIf (s.machine.HashNeedsMonitor t o) o
      (s.move (.act w (.identityHash o))).1.machine := by
  have begins := (move_act wait (.identityHash o)).trans (begin_attached ht _)
  refine makesIf (f := (·.identityHash t o)) linked rfl ?_ tagged.identityHash_retags
    (Machine.identityHash_tagsIf linked tagged) fun ⟨_, q, hk, _⟩ => ?_
  · rw [begins]
    exact congrArg World.machine conclude_fst
  · exact Machine.WellLinked.monitorOf?_eq_none (by rw [hk]; rfl)

/-- A quick enter of a worker makes no monitor. -/
lemma quickEnter_makesNone (linked : s.machine.WellLinked) (tagged : s.machine.WellTagged)
    (x : Option ObjectId) (raw : Bool) :
    s.machine.MakesNone (s.move (.act w (.quickEnter x r raw))).1.machine := by
  refine makesNone linked rfl (fun t ht => ?_) fun ht => ?_
  · rw [quickEnter_act ht, conclude_fst]
    cases x with
    | none => cases raw <;> exact tagged.quickEnters_retags none
    | some o =>
      cases raw with
      | true => exact tagged.quickEnter_retags
      | false => exact tagged.quickEnters_retags (some o)
  · simp only [World.begin, ht]

/-- An exit of a worker makes no monitor. -/
lemma exit_makesNone (linked : s.machine.WellLinked) (tagged : s.machine.WellTagged)
    (o : ObjectId) (raw : Bool) :
    s.machine.MakesNone (s.move (.act w (.exit o r raw))).1.machine := by
  refine makesNone linked rfl (fun t ht => ?_) fun ht => ?_
  · rw [begin_attached ht]
    cases raw with
    | true =>
      rw [show s.act w t (.exit o r true) = s.conclude (fun _ => .done) fun m =>
        Locking.exit m t o r from rfl, conclude_fst]
      exact tagged.exit_retags
    | false =>
      rw [show s.act w t (.exit o r false) = s.conclude (fun _ => .done) (·.exit t o r) from rfl,
        conclude_fst]
      exact tagged.exits_retags
  · simp only [World.begin, ht]

/-- A question of a script about a lock changes nothing. -/
lemma command_asks (session : Script.Session) (w : WorkerId) (o : String) {c : Script.Command}
    (asks : c ∈ [Script.Command.holdsLock o, .lockOwner o, .readMonitor o]) :
    (session.command w c).1 = session := by
  simp only [List.mem_cons, List.not_mem_nil, or_false] at asks
  rcases asks with rfl | rfl | rfl
  all_goals
    simp only [Script.Session.command, Script.Session.action?]
    split <;> rfl

/-- A system with valid options makes monitors when they are needed, and only then. -/
lemma inflatesWhenNeeded (valid : s.machine.options.validate = .ok ())
    (linked : s.machine.WellLinked) (tagged : s.machine.WellTagged) : s.InflatesWhenNeeded where
  enter _ _ _ _ raw ht wait unguarded free :=
    enter_makesIf valid linked tagged ht wait unguarded free raw
  identityHash _ _ _ ht wait := identityHash_makesIf linked tagged ht wait
  quickEnter _ x _ raw := quickEnter_makesNone linked tagged x raw
  exit _ o _ raw := exit_makesNone linked tagged o raw
  asks session w o eq c mem := by rw [command_asks session w o mem, eq]

end World

end ObjectLocks
