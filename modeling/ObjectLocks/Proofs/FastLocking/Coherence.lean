import Mathlib.Data.List.Basic
import ObjectLocks.Proofs.FastLocking.Changes

/-!
# The invariant of fast-locking

Where an object is on a lock stack is told by its header and, once it has a monitor, by the owner of
the monitor. This holds however the lock is used: exits need not be balanced and threads may detach
while they hold locks. Every change of fast-locking keeps it.
-/

namespace ObjectLocks.FastLocking

/-- No thread has the object on its lock stack. -/
def OnNoStack (v : LockView) (o : ObjectId) : Prop := ∀ t, o ∉ v.lockStack t

/-- One thread, attached or detached, has the object on its lock stack. -/
def OnOneStack (v : LockView) (o : ObjectId) : Prop := ∃! t, o ∈ v.lockStack t

/-- The object is on lock stacks as its header and its monitor say. -/
def Placed (v : LockView) (o : ObjectId) : Prop :=
  match v.form o with
  | .unlocked => OnNoStack v o
  | .fast => OnOneStack v o
  | .inflated id =>
    if (v.monitor id).owner = .anonymous then OnOneStack v o else OnNoStack v o
  | .stacked _ | .invalid => False

/-- The entries of one object form one run: no other entry lies between two of them. -/
def Runs (l : List ObjectId) : Prop := ∀ o x, [o, x, o].Sublist l → x = o

/-- The invariant. -/
structure Coherent (v : LockView) : Prop where
  mode : v.mode = .lightweight
  placed : ∀ o, Placed v o
  linked : v.Linked
  idle : ∀ id, (v.monitor id).owner = .nobody → (v.monitor id).recursions = 0
  runs : ∀ t, Runs (v.lockStack t)
  room : ∀ t, (v.lockStack t).length ≤ 8
  /-- A cached monitor is the one that its object leads to. -/
  cached : ∀ r id, (v.record r).cache = some id →
    id < v.monitorCount ∧ v.form (v.monitor id).object = .inflated id
  /-- A thread that has not attached yet has locked nothing. -/
  fresh : ∀ t, v.nextThread ≤ t → v.lockStack t = []

/-- No header is neither a lock-state word nor the address of a monitor. -/
lemma Coherent.valid {v : LockView} (h : Coherent v) (o : ObjectId) : v.form o ≠ .invalid := by
  intro ho
  have := h.placed o
  rw [Placed, ho] at this
  exact this

/-- Entries may be left out of a run. -/
lemma Runs.sublist {l l' : List ObjectId} (h : Runs l) (s : l'.Sublist l) : Runs l' :=
  fun o x h' => h o x (h'.trans s)

/-- A new object may come on top. -/
lemma Runs.push {l : List ObjectId} {o : ObjectId} (h : Runs l) (new : o ∉ l) :
    Runs (l ++ [o]) := by
  intro p x s
  obtain ⟨a, b, e, sa, sb⟩ := List.sublist_append_iff.1 s
  rcases List.sublist_singleton.1 sb with rfl | rfl
  · rw [List.append_nil] at e
    exact h p x (e ▸ sa)
  · obtain ⟨ea, eo⟩ := List.append_inj' (show [p, x] ++ [p] = _ from e) rfl
    obtain rfl : p = o := by simpa using eo
    exact absurd (sa.subset (by simp [← ea])) new

/-- The object on top may come there once more. -/
lemma Runs.repeated {l : List ObjectId} {o : ObjectId} (h : Runs (l ++ [o])) :
    Runs (l ++ [o] ++ [o]) := by
  intro p x s
  -- If the last of the three entries is the new one, the old top entry may take its place.
  obtain ⟨a, b, e, sa, sb⟩ := List.sublist_append_iff.1 s
  rcases List.sublist_singleton.1 sb with rfl | rfl
  · rw [List.append_nil] at e
    exact h p x (e ▸ sa)
  · obtain ⟨ea, eo⟩ := List.append_inj' (show [p, x] ++ [p] = _ from e) rfl
    obtain rfl : p = o := by simpa using eo
    obtain ⟨c, d, e', sc, sd⟩ := List.sublist_append_iff.1 (ea ▸ sa)
    rcases List.sublist_singleton.1 sd with rfl | rfl
    · rw [List.append_nil] at e'
      exact h p x (List.Sublist.append (e' ▸ sc) (.refl [p]))
    · obtain ⟨-, ex⟩ := List.append_inj' (show [p] ++ [x] = _ from e') rfl
      simpa using ex

variable {t : ThreadId} {op : Operation} {v w : LockView} {e : Option Event} {o p : ObjectId}

/-- New entries of a lock stack leave an object alone that is there as often as before. -/
lemma count_setLockStack (v : LockView) {l : List ObjectId}
    (h : l.count p = (v.lockStack t).count p) (u : ThreadId) :
    ((v.setLockStack t l).lockStack u).count p = (v.lockStack u).count p := by
  rw [LockView.setLockStack_lockStack, Function.update_apply]
  split
  next eq => rw [h, eq]
  next => rfl

/-- A change leaves the headers and monitors of all objects but that of its operation alone. -/
lemma Change.elsewhere (c : Change t op v e w) (h : Coherent v) : v.Elsewhere op.object w := by
  cases c with
  | lock _ _ | unlock _ _ _ => exact (LockView.elsewhere_setForm v _ _).congr rfl rfl
  | enterMonitor ho _ | wait ho _ _ | exitMonitor ho _ | annotate ho _ | claim ho _ _ =>
    exact (LockView.elsewhere_setMonitor h.linked ho _).congr rfl rfl
  | inflateFree _ | inflateOther _ _ | inflateOwn _ _ =>
    exact (LockView.elsewhere_inflate h.linked _ _).congr rfl rfl
  | _ => exact (LockView.Elsewhere.refl _ v).congr rfl rfl

/-- A change leaves the entries of all other objects on lock stacks alone. -/
lemma Change.count (c : Change t op v e w) (ne : p ≠ op.object) (u : ThreadId) :
    (w.lockStack u).count p = (v.lockStack u).count p := by
  cases c with
  | again _ _ | lock _ _ =>
    refine count_setLockStack v ?_ u
    simpa [List.count_cons] using fun eq => ne eq.symm
  | drop top =>
    refine count_setLockStack v ?_ u
    simpa [List.count_cons, top] using fun eq => ne eq.symm
  | unlock _ _ _ | inflateOwn _ _ | claim _ _ _ =>
    refine count_setLockStack v ?_ u
    exact List.count_filter (decide_eq_true ne)
  | _ => rfl

/-- Where an object should be depends on its header and the owner of its monitor only. -/
lemma Placed.congr (h : Placed v p) (form : w.form p = v.form p)
    (owner : ∀ id, v.form p = .inflated id → (w.monitor id).owner = (v.monitor id).owner)
    (mem : ∀ t, p ∈ w.lockStack t ↔ p ∈ v.lockStack t) : Placed w p := by
  unfold Placed OnOneStack OnNoStack at *
  rw [form]
  simp only [mem]
  cases hf : v.form p with
  | inflated id =>
    rw [hf] at h
    simp only [owner id hf]
    exact h
  | _ =>
    rw [hf] at h
    exact h

/-- A change for one object leaves all others where they should be. -/
lemma Placed.elsewhere (h : Placed v p) (s : v.Elsewhere o w) (ne : p ≠ o)
    (count : ∀ t, (w.lockStack t).count p = (v.lockStack t).count p) : Placed w p := by
  refine h.congr (s.form p ne) (fun id hp => by rw [s.monitor p ne id hp]) fun t => ?_
  rw [← List.count_pos_iff, count t, List.count_pos_iff]

/-- An unlocked object is on no lock stack. -/
lemma Placed.unlocked (h : Placed v o) (ho : v.form o = .unlocked) : OnNoStack v o := by
  simpa only [Placed, ho] using h

/-- A fast-locked object is on one lock stack. -/
lemma Placed.fast (h : Placed v o) (ho : v.form o = .fast) : OnOneStack v o := by
  simpa only [Placed, ho] using h

/-- An object whose monitor is owned anonymously is on one lock stack. -/
lemma Placed.anonymous {id : MonitorId} (h : Placed v o) (ho : v.form o = .inflated id)
    (own : (v.monitor id).owner = .anonymous) : OnOneStack v o := by
  simpa only [Placed, ho, own, if_true] using h

/-- An object whose monitor has another owner or none is on no lock stack. -/
lemma Placed.inflated {id : MonitorId} (h : Placed v o) (ho : v.form o = .inflated id)
    (own : (v.monitor id).owner ≠ .anonymous) : OnNoStack v o := by
  simpa only [Placed, ho, own, if_false] using h

/-- An object that is on no lock stack may have a monitor that is not owned anonymously. -/
lemma placed_inflated {id : MonitorId} (ho : v.form o = .inflated id)
    (own : (v.monitor id).owner ≠ .anonymous) (h : OnNoStack v o) : Placed v o := by
  simpa only [Placed, ho, own, if_false] using h

/-- An object that is dropped from its lock stack is on none. -/
lemma OnOneStack.dropObject (h : OnOneStack v o) (mem : o ∈ v.lockStack t) :
    OnNoStack (v.dropObject t o) o := by
  intro u hu
  simp only [LockView.dropObject, LockView.setLockStack_lockStack, Function.update_apply] at hu
  split at hu
  next => simp at hu
  next ne => exact ne (h.unique hu mem)

/-- After a change the object of its operation is where its header says. -/
lemma Change.placed (c : Change t op v e w) (h : Coherent v) : Placed w op.object := by
  have here := h.placed op.object
  cases c with
  | again top _ =>
    refine here.congr rfl (fun _ _ => rfl) fun u => ?_
    rw [LockView.setLockStack_lockStack, Function.update_apply]
    split
    -- The object is on the stack before and after, with one entry more or less.
    next eq => simp [eq, top]
    next => rfl
  | @lock _ o r ho _ =>
    -- No thread had the object on its stack, so the one that pushes it is the only one now.
    have none := here.unlocked ho
    simp only [Placed, Operation.object, LockView.setLockStack_form, LockView.setForm_form,
      Function.update_self]
    refine ⟨t, by simp, fun u hu => ?_⟩
    simp only [LockView.setLockStack_lockStack, Function.update_apply] at hu
    split at hu
    next eq => exact eq
    next => exact absurd hu (none u)
  | drop top =>
    refine here.congr rfl (fun _ _ => rfl) fun u => ?_
    rw [LockView.setLockStack_lockStack, Function.update_apply]
    split
    next eq => simp [eq, top]
    next => rfl
  | unlock ho mem _ =>
    simp only [Placed, LockView.dropObject, LockView.setLockStack_form, LockView.setForm_form,
      Operation.object, Function.update_self]
    -- The object leaves the only stack that it is on.
    exact (here.fast ho).dropObject mem
  | enterMonitor ho enter =>
    refine placed_inflated ho ?_ (here.inflated ho (Monitor.tryEnter_owner_ne enter))
    simp [Monitor.tryEnter_owner enter]
  | @exitMonitor _ _ _ id _ ho exit =>
    have own : (v.monitor id).owner ≠ .anonymous := by simp [(Monitor.exit?_eq_some exit).1]
    refine placed_inflated ho ?_ (here.inflated ho own)
    simpa using Monitor.exit?_owner_ne exit
  | wait ho _ _ =>
    refine here.congr rfl (fun id hp => ?_) fun _ => Iff.rfl
    obtain rfl := Form.inflated.inj (ho.symm.trans hp)
    simp [Monitor.enqueue, Monitor.contend]
  | annotate ho same =>
    refine here.congr rfl (fun id hp => ?_) fun _ => Iff.rfl
    obtain rfl := Form.inflated.inj (ho.symm.trans hp)
    simpa using same.owner
  | reject _ _ => exact here
  | inflateFree ho =>
    refine placed_inflated (Function.update_self ..) ?_ (here.unlocked ho)
    simp [LockView.inflate, Monitor.new]
  | inflateOwn ho mem =>
    refine placed_inflated (Function.update_self ..) ?_ ((here.fast ho).dropObject mem)
    simp [LockView.inflate, LockView.dropObject, Monitor.ownedBy]
  | inflateOther ho _ =>
    simp only [Placed, LockView.inflate, LockView.setForm_form, Function.update_self,
      LockView.setForm_monitor, LockView.setMonitor_monitor, Monitor.ownedBy, if_true]
    exact here.fast ho
  | claim ho own mem =>
    refine placed_inflated ho ?_ ((here.anonymous ho own).dropObject mem)
    simp [Monitor.ownedBy]
  | cache _ => exact here

/-- How a change affects the lock stacks: entries of the thread go, or the object comes on top. -/
lemma Change.lockStack (c : Change t op v e w) (h : Coherent v) :
    ∃ l, w.lockStack = Function.update v.lockStack t l ∧
      (l.Sublist (v.lockStack t) ∨ Runs l ∧ l.length ≤ 8) := by
  have same : v.lockStack = Function.update v.lockStack t (v.lockStack t) :=
    (Function.update_eq_self ..).symm
  cases c with
  | @again _ o _ l top room =>
    refine ⟨_, rfl, .inr ⟨?_, List.length_append ▸ room⟩⟩
    have runs := h.runs t
    rw [top] at runs ⊢
    exact runs.repeated
  | @lock _ o _ ho room =>
    refine ⟨_, rfl, .inr ⟨(h.runs t).push ((h.placed o).unlocked ho t), ?_⟩⟩
    exact List.length_append ▸ room
  | drop top =>
    refine ⟨_, rfl, .inl ?_⟩
    rw [top]
    exact (List.Sublist.refl _).append (List.sublist_append_left [_] [_])
  | unlock _ _ _ | inflateOwn _ _ | claim _ _ _ =>
    exact ⟨_, rfl, .inl List.filter_sublist⟩
  | _ => exact ⟨_, same, .inl (.refl _)⟩

/-- A change leaves the lock stacks of other threads alone. -/
lemma Change.lockStack_of_ne (c : Change t op v e w) {u : ThreadId} (ne : u ≠ t) :
    w.lockStack u = v.lockStack u := by
  cases c with
  | again _ _ | lock _ _ | drop _ | unlock _ _ _ | inflateOwn _ _ | claim _ _ _ =>
    exact Function.update_of_ne ne ..
  | _ => rfl

/-- A change leaves the mode alone. -/
lemma Change.mode (c : Change t op v e w) : w.mode = v.mode := by
  cases c <;> rfl

/-- A change attaches no thread. -/
lemma Change.nextThread (c : Change t op v e w) : w.nextThread = v.nextThread := by
  cases c <;> rfl

/-- A change leaves the attached threads alone. -/
lemma Change.registry (c : Change t op v e w) : w.registry = v.registry := by
  cases c <;> rfl

/-- A change makes records and takes none away. -/
lemma Change.recordCount (c : Change t op v e w) : v.recordCount ≤ w.recordCount := by
  cases c with
  | cache _ => exact Nat.le_max_left ..
  | _ => exact Nat.le_refl _

/-- A change leaves every record to its worker. -/
lemma Change.worker (c : Change t op v e w) (r : RecordId) :
    (w.record r).worker = (v.record r).worker := by
  cases c with
  | cache _ =>
    rw [LockView.setRecord_record, Function.update_apply]
    split
    next eq => rw [eq]
    next => rfl
  | _ => rfl

/-- A change makes monitors, takes none away and leaves each to its object. -/
lemma Change.monitor_object (c : Change t op v e w) {id : MonitorId} (lt : id < v.monitorCount) :
    id < w.monitorCount ∧ (w.monitor id).object = (v.monitor id).object := by
  have update {x : Monitor} {id'} (same : x.object = (v.monitor id').object) :
      id < (v.setMonitor id' x).monitorCount ∧
        ((v.setMonitor id' x).monitor id).object = (v.monitor id).object := by
    refine ⟨Nat.lt_of_lt_of_le lt (Nat.le_max_left ..), ?_⟩
    rw [LockView.setMonitor_monitor, Function.update_apply]
    split
    next eq => rw [same, eq]
    next => rfl
  have new (x : Monitor) : id < (v.setMonitor v.monitorCount x).monitorCount ∧
      ((v.setMonitor v.monitorCount x).monitor id).object = (v.monitor id).object := by
    refine ⟨Nat.lt_of_lt_of_le lt (Nat.le_max_left ..), ?_⟩
    rw [LockView.setMonitor_monitor, Function.update_of_ne (Nat.ne_of_lt lt)]
  cases c with
  | enterMonitor _ enter => exact update (Monitor.tryEnter_object enter)
  | exitMonitor _ exit => exact update (Monitor.exit?_object exit)
  | wait _ _ _ => exact update rfl
  | annotate _ same => exact update same.object
  | claim _ _ _ => exact update rfl
  | inflateFree _ | inflateOwn _ _ | inflateOther _ _ => exact new _
  | _ => exact ⟨lt, rfl⟩

/-- An object that has a monitor keeps it. -/
lemma Change.inflated (c : Change t op v e w) (h : Coherent v) {id : MonitorId}
    (hp : v.form p = .inflated id) : w.form p = .inflated id := by
  by_cases eq : p = op.object
  · subst eq
    cases c with
    | lock ho _ | unlock ho _ _ | inflateFree ho | inflateOwn ho _ | inflateOther ho _ =>
      cases ho.symm.trans hp
    | _ => exact hp
  · rw [(c.elsewhere h).form p eq, hp]

/-- After a change every monitor that an object leads to is its own. -/
lemma Change.linked (c : Change t op v e w) (h : Coherent v) : w.Linked := by
  cases c with
  | lock _ _ | unlock _ _ _ => exact h.linked.setForm nofun
  | enterMonitor _ enter => exact h.linked.setMonitor (Monitor.tryEnter_object enter)
  | exitMonitor _ exit => exact h.linked.setMonitor (Monitor.exit?_object exit)
  | wait _ _ _ | claim _ _ _ => exact h.linked.setMonitor rfl
  | annotate _ same => exact h.linked.setMonitor same.object
  | inflateFree _ | inflateOwn _ _ | inflateOther _ _ => exact h.linked.inflate rfl
  | _ => exact h.linked

/-- After a change no monitor without an owner counts further enters. -/
lemma Change.idle (c : Change t op v e w) (h : Coherent v) {id : MonitorId}
    (free : (w.monitor id).owner = .nobody) : (w.monitor id).recursions = 0 := by
  have update {x : Monitor} {id'} (idle : x.owner = .nobody → x.recursions = 0)
      (free : ((v.setMonitor id' x).monitor id).owner = .nobody) :
      ((v.setMonitor id' x).monitor id).recursions = 0 := by
    rw [LockView.setMonitor_monitor, Function.update_apply] at free ⊢
    split at free <;> rename_i eq
    · rw [if_pos eq]
      exact idle free
    · rw [if_neg eq]
      exact h.idle id free
  cases c with
  | enterMonitor _ enter =>
    refine update (fun free => ?_) free
    cases (Monitor.tryEnter_owner enter).symm.trans free
  | exitMonitor _ exit =>
    -- An exit that gives the monitor up takes back no further enter, so there was none left.
    refine update (fun free => ?_) free
    obtain ⟨own, ⟨zero, rfl⟩ | ⟨-, rfl⟩⟩ := Monitor.exit?_eq_some exit
    · simpa using zero
    · cases own.symm.trans free
  | wait _ _ _ => exact update (h.idle _) free
  | annotate _ same =>
    exact update (fun free => same.recursions ▸ h.idle _ (same.owner ▸ free)) free
  | claim _ _ _ | inflateOwn _ _ | inflateOther _ _ => exact update nofun free
  | inflateFree _ => exact update (fun _ => rfl) free
  | _ => exact h.idle id free

/-- After a change every cached monitor is the one of its object. -/
lemma Change.cached (c : Change t op v e w) (h : Coherent v) {r : RecordId} {id : MonitorId}
    (cache : (w.record r).cache = some id) :
    id < w.monitorCount ∧ w.form (w.monitor id).object = .inflated id := by
  have before (cache : (v.record r).cache = some id) :
      id < w.monitorCount ∧ w.form (w.monitor id).object = .inflated id := by
    obtain ⟨lt, hp⟩ := h.cached r id cache
    obtain ⟨lt', eq⟩ := c.monitor_object lt
    exact ⟨lt', eq ▸ c.inflated h hp⟩
  cases c with
  | @cache o r' _ c hc =>
    rw [LockView.setRecord_record, Function.update_apply] at cache
    split at cache
    next =>
      have ho := hc id cache
      obtain ⟨lt, eq⟩ := h.linked o id ho
      exact ⟨lt, eq.symm ▸ ho⟩
    next => exact before cache
  | _ => exact before cache

/-- Every change keeps the invariant. -/
lemma Change.coherent (c : Change t op v e w) (h : Coherent v) (attached : t < v.nextThread) :
    Coherent w := by
  obtain ⟨l, hl, shrunk⟩ := c.lockStack h
  have good : Runs l ∧ l.length ≤ 8 := by
    rcases shrunk with sub | good
    · exact ⟨(h.runs t).sublist sub, Nat.le_trans sub.length_le (h.room t)⟩
    · exact good
  have entries := update_cases hl
  refine ⟨c.mode.trans h.mode, fun p => ?_, c.linked h, fun _ => c.idle h, fun u => ?_,
    fun u => ?_, fun _ _ => c.cached h, fun u le => ?_⟩
  · by_cases eq : p = op.object
    · exact eq ▸ c.placed h
    · exact (h.placed p).elsewhere (c.elsewhere h) eq (c.count eq)
  · rcases entries u with ⟨eq, -⟩ | ⟨eq, -⟩ <;> rw [eq]
    exacts [good.1, h.runs u]
  · rcases entries u with ⟨eq, -⟩ | ⟨eq, -⟩ <;> rw [eq]
    exacts [good.2, h.room u]
  · rw [c.nextThread] at le
    rcases entries u with ⟨-, rfl⟩ | ⟨eq, -⟩
    · exact absurd attached (Nat.not_lt.2 le)
    · rw [eq, h.fresh u le]

/-- Every operation of an attached thread keeps the invariant. -/
lemma Coherent.steps (h : Coherent v) (s : Steps (Change t op) v e w)
    (attached : t < v.nextThread) : Coherent w := by
  have keeps := s.keeps (P := fun v => Coherent v ∧ t < v.nextThread) ⟨h, attached⟩
    fun ⟨h, attached⟩ c => ⟨c.coherent h attached, c.nextThread ▸ attached⟩
  exact keeps.1

end ObjectLocks.FastLocking
