import ObjectLocks.Proofs.Moves

/-!
# Runs of a system

A run starts with an empty system and makes moves, each of them allowed by a rule. The rule may look
at the history of the run, which is the list of its events, the latest first. What every step of a
view keeps holds after every run.
-/

namespace ObjectLocks

/-- The event of a step. -/
def Label.event? : Label → Option Event
  | lock _ _ _ e => e
  | detach _ t => some (.detached t)
  | other => none

/-- Which moves are allowed in a world with a history. -/
abbrev Rule := World → List Event → Move → Prop

/-- The worlds that a run leads to, with its history. -/
inductive Run (rule : Rule) (options : Options) : World → List Event → Prop where
  | new : Run rule options (.new options) []
  | move {s h x} :
    Run rule options s h →
    rule s h x →
    Run rule options (s.move x).1 ((s.label x).event?.toList ++ h)

/-- What a sequence of moves leads to, with its history. -/
def World.follow (s : World) (h : List Event) : List Move → World × List Event
  | [] => (s, h)
  | x :: l => (s.move x).1.follow ((s.label x).event?.toList ++ h) l

/-- Each move of a sequence is allowed when it is made. -/
def Rule.Allows (rule : Rule) (s : World) (h : List Event) : List Move → Prop
  | [] => True
  | x :: l => rule s h x ∧ rule.Allows (s.move x).1 ((s.label x).event?.toList ++ h) l

/-- A run may go on with moves that are allowed. -/
lemma Run.follow {rule : Rule} {options : Options} {s : World} {h : List Event}
    (run : Run rule options s h) (l : List Move) (allowed : rule.Allows s h l) :
    Run rule options (s.follow h l).1 (s.follow h l).2 := by
  induction l generalizing s h with
  | nil => exact run
  | cons x l ih => exact ih (run.move allowed.1) allowed.2

instance Rule.decidableAllows (rule : Rule) [∀ s h x, Decidable (rule s h x)] :
    (s : World) → (h : List Event) → (l : List Move) → Decidable (rule.Allows s h l)
  | _, _, [] => isTrue trivial
  | _, _, _ :: l => @instDecidableAnd _ _ _ (decidableAllows rule _ _ l)

instance {P : WorkerId → Action → Prop} [∀ w a, Decidable (P w a)] (x : Move) :
    Decidable (∀ w a, x = .act w a → P w a) :=
  match x with
  | .act w a => decidable_of_iff (P w a) ⟨fun h _ _ eq => by cases eq; exact h, fun h => h w a rfl⟩
  | .wake _ | .grant _ | .reach _ | .addWorker | .addRecord _ => isTrue nofun

instance {P : ObjectId → RecordId → Prop} [∀ o r, Decidable (P o r)] (op : Option Operation) :
    Decidable (∀ o r, op = some (.enter o r) → P o r) :=
  match op with
  | some (.enter o r) =>
    decidable_of_iff (P o r) ⟨fun h _ _ eq => by cases eq; exact h, fun h => h o r rfl⟩
  | some (.exit _ _) | some (.visit _) | none => isTrue nofun

namespace SystemView

/-- A sequence of steps that a rule for views allows. -/
inductive Path (allowed : SystemView → Label → Prop) (s : SystemView) : SystemView → Prop where
  | refl : Path allowed s s
  | tail {u l v} :
    Path allowed s u →
    allowed u l →
    Step u l v →
    Path allowed s v

variable {allowed : SystemView → Label → Prop} {s u v : SystemView} {l : Label}

/-- One step is a path. -/
lemma Path.single (a : allowed s l) (c : Step s l v) : Path allowed s v := .tail .refl a c

/-- A path leads from a sound system to a sound one. -/
lemma Path.sound (p : Path allowed s v) (h : s.Sound) : v.Sound := by
  induction p with
  | refl => exact h
  | tail _ _ c ih => exact c.sound ih

/-- What every step keeps is kept by a sequence of them. -/
lemma Path.keeps {P : SystemView → Prop} (p : Path allowed s v) (h : s.Sound) (hs : P s)
    (step : ∀ {u l v}, u.Sound → P u → allowed u l → Step u l v → P v) : P v := by
  induction p with
  | refl => exact hs
  | tail q a c ih => exact step (q.sound h) ih a c

end SystemView

namespace World

open SystemView (Step Sound Path)

variable {s : World} {w : WorkerId} {t : ThreadId} {o : ObjectId} {r : RecordId}

/-- All objects of a new system are unlocked. -/
lemma form_new (options : Options) (o : ObjectId) :
    (World.new options).view.locks.form o = .unlocked := by
  show Form.ofMark options (MonitorTable.empty.get? o) (.word .fresh) = _
  have bits : LockWord.fresh.bits = .unlocked := by decide
  simp only [Form.ofMark, bits, MonitorTable.empty, MonitorTable.get?, List.lookup_nil, if_true,
    ite_self]

/-- A new system is sound. -/
lemma sound_new (options : Options) : (World.new options).view.Sound := by
  have form := form_new options
  refine ⟨⟨fun mode => ?_, fun mode => ?_⟩, fun t => ?_, fun w w' t hw => (nomatch hw),
    List.nodup_nil, fun t mem => nomatch mem⟩
  · refine ⟨mode, fun o => ?_, fun o id ho => (nomatch (form o).symm.trans ho), fun _ _ => rfl,
      fun t o x sub => (nomatch sub.length_le), fun t => Nat.zero_le _,
      fun r id cache => (nomatch cache), fun t _ => rfl⟩
    unfold FastLocking.Placed
    rw [form]
    exact fun t mem => nomatch mem
  · refine ⟨mode, fun o ho => (nomatch (form o).symm.trans ho),
      fun o ho => (nomatch (form o).symm.trans ho), fun o id ho => (nomatch (form o).symm.trans ho),
      fun r => ?_, fun o r ho => (nomatch (form o).symm.trans ho), fun t r mem => (nomatch mem),
      fun _ o r ho => (nomatch (form o).symm.trans ho), fun _ r => ?_, fun t _ => rfl⟩
    · exact .inr (.inr (by decide : LockWord.fresh.bits = .unlocked))
    · exact (by decide : LockWord.fresh ≠ LockRecord.recursiveMark)
  · constructor
    · exact nofun
    · rintro ⟨w, hw⟩
      cases hw

/-- A label that is no enter, or an enter with a record of the worker. -/
def OwnRecord (v : SystemView) : Label → Prop
  | .lock w _ (.enter _ r) _ => r < v.locks.recordCount ∧ (v.locks.record r).worker = w
  | _ => True

/-- What happens at the begin and the end of a region. -/
def InRegion (v : SystemView) (l : Label) : Prop := OwnRecord v l ∧ ∀ w t, l ≠ .detach w t

/-- A move whose enters use records of their own workers is a step that does. -/
lemma ownRecord_label {x : Move}
    (own : ∀ w a, x = .act w a → ∀ o r, a.operation? = some (.enter o r) →
      r < s.machine.records.size ∧ (s.machine.record r).worker = w) :
    OwnRecord s.view (s.label x) := by
  cases x with
  | act w a =>
    unfold label
    dsimp only
    split
    next t _ _ =>
      unfold Action.label
      split
      next op lock =>
        cases op with
        | enter o r => exact own w a rfl o r lock
        | _ => trivial
      next =>
        split
        · trivial
        · trivial
    next => trivial
  | _ => trivial

/-- The event at the begin of a region, that of an enter with a new record. -/
def beginEvent? (s : World) (w : WorkerId) (t : ThreadId) (o : ObjectId) : Option Event :=
  (Action.enter o s.machine.records.size false).event? t (s.beginSynchronized w t o).2

/-- With a new record of the worker, a region begins with a quick enter and, if it is in vain, an
enter. -/
lemma beginSynchronized_enters (h : s.view.Sound) (ht : s.view.thread w = some t)
    (free : s.view.waitsFor w = none) :
    let n := (s.addRecord w).2.view
    let op := Operation.enter o s.machine.records.size
    Step n (.lock w t op (s.beginEvent? w t o)) (s.beginSynchronized w t o).1.view ∨
      ∃ v, Step n (.lock w t op none) v ∧
        Step v (.lock w t op (s.beginEvent? w t o)) (s.beginSynchronized w t o).1.view := by
  let r := s.machine.records.size
  let n := (s.addRecord w).2
  have hn : n.view = { s.view with
      locks := s.view.locks.setRecord s.view.locks.recordCount (.fresh w) } := view_addRecord s w
  have first : Step s.view .other n.view := hn ▸ .newRecord
  have sound := first.sound h
  have ht' : n.view.thread w = some t := ht
  have free' : n.view.waitsFor w = none := free
  have quick := Machine.quickEnter_follows (m := n.machine) (t := t) (o := o) (r := r)
    sound.coherent (sound.lt ht')
  have parts : s.beginSynchronized w t o = n.operate (·.quickEnter t (some o) r) fun s entered =>
      if entered then (s.openRegion w (.synchronized o r), .answered .begun)
      else s.enter w (·.enter t o r) (.synchronized o r) fun s =>
        (s.openRegion w (.synchronized o r), .answered .begun) := rfl
  unfold beginEvent?
  rw [parts]
  -- A quick enter in vain is a step without an event, and the enter is the next one.
  match eq : n.machine.quickEnter t (some o) r with
  | .fault f m =>
    rw [eq] at quick
    rw [operate_fault eq]
    exact .inl (.lock ht' free' quick nofun)
  | .ok true m =>
    rw [eq] at quick
    rw [operate_ok eq]
    simp only [if_true, view_openRegion]
    exact .inl (.lock ht' free' quick nofun)
  | .ok false m =>
    rw [eq] at quick
    rw [operate_ok eq]
    have vain : Step n.view (.lock w t (.enter o r) none) { n.view with locks := m.view } :=
      .lock ht' free' quick nofun
    have sound' := vain.sound sound
    exact .inr ⟨_, vain, enter_step (s := { n with machine := m }) ht' free' false _
      (Machine.enter_enters sound'.coherent (sound'.lt ht')) (fun _ => view_openRegion _)
      fun _ => ⟨_, rfl⟩⟩

/-- The begin of a region is a path of steps of its worker. -/
lemma beginSynchronized_path (h : s.view.Sound) (ht : s.view.thread w = some t)
    (free : s.view.waitsFor w = none) :
    Path InRegion s.view (s.beginSynchronized w t o).1.view := by
  let r := s.machine.records.size
  let n := (s.addRecord w).2
  have hn : n.view = { s.view with
      locks := s.view.locks.setRecord s.view.locks.recordCount (.fresh w) } := view_addRecord s w
  -- The record is the worker's, also after a quick enter in vain.
  have own {v : SystemView} (count : n.view.locks.recordCount ≤ v.locks.recordCount)
      (worker : (v.locks.record r).worker = (n.view.locks.record r).worker) (e : Option Event) :
      InRegion v (.lock w t (.enter o r) e) := by
    refine ⟨⟨Nat.lt_of_lt_of_le ?_ count, worker.trans ?_⟩, nofun⟩
    · rw [hn]
      exact Nat.lt_of_lt_of_le (Nat.lt_succ_self _) (Nat.le_max_right ..)
    · rw [hn]
      have same : (s.view.locks.setRecord s.view.locks.recordCount (.fresh w)).record r = .fresh w :=
        Function.update_self ..
      exact congrArg LockRecord.worker same
  have path : Path InRegion s.view n.view :=
    .single (l := .other) ⟨trivial, nofun⟩ (hn ▸ .newRecord)
  rcases beginSynchronized_enters h ht free with c | ⟨v, vain, c⟩
  · exact path.tail (own (Nat.le_refl _) rfl _) c
  · obtain ⟨count, worker⟩ := vain.records
    exact (path.tail (own (Nat.le_refl _) rfl _) vain).tail (own count (worker r) _) c

/-- A region ends with the exit of its object. -/
lemma endSynchronized_exits (h : s.view.Sound) (ht : s.view.thread w = some t)
    (free : s.view.waitsFor w = none) {regions : List Region}
    (inside : (s.worker w).regions = .synchronized o r :: regions) (result : Progress) :
    ∃ e : Event, (e = .exited t o r ∨ e = .rejected t o r) ∧
      Step s.view (.lock w t (.exit o r) (some e)) (s.endSynchronized w t result).1.view := by
  let n := s.closeRegion w
  have closed : n.view = s.view := view_closeRegion
  have follows := Machine.exit_follows (m := n.machine) (t := t) (o := o) (r := r) h.coherent
  have step {e} {m : Machine} (c : Steps (Locking.Change n.machine.options.mode t (.exit o r))
      n.machine.view e m.view) (calm : ∀ o r, e ≠ some (.waits t o r)) :
      Step s.view (.lock w t (.exit o r) e) { n with machine := m }.view := by
    have view : { n with machine := m }.view = { s.view with locks := m.view } := by
      rw [← closed]
      rfl
    rw [view]
    exact .lock ht free c calm
  have parts : s.endSynchronized w t result = n.operate (·.exit t o r) fun s _ => (s, result) := by
    unfold endSynchronized
    rw [inside]
  rw [parts]
  match eq : n.machine.exit t o r with
  | .ok _ m =>
    rw [eq] at follows
    rw [operate_ok eq]
    exact ⟨_, .inl rfl, step follows nofun⟩
  | .fault f m =>
    rw [eq] at follows
    rw [operate_fault eq]
    exact ⟨_, .inr rfl, step follows nofun⟩

/-- The end of a region is a path of steps of its worker. -/
lemma endSynchronized_path (h : s.view.Sound) (ht : s.view.thread w = some t)
    (free : s.view.waitsFor w = none) (result : Progress) :
    Path InRegion s.view (s.endSynchronized w t result).1.view := by
  by_cases inside : ∃ o r regions, (s.worker w).regions = .synchronized o r :: regions
  · obtain ⟨o, r, regions, inside⟩ := inside
    obtain ⟨e, -, c⟩ := endSynchronized_exits h ht free inside result
    exact .single (l := .lock w t (.exit o r) (some e)) ⟨trivial, nofun⟩ c
  · have refused : s.endSynchronized w t result = (s, .refused) := by
      unfold endSynchronized
      split
      next o r regions eq => exact absurd ⟨o, r, regions, eq⟩ inside
      next => rfl
    rw [refused]
    exact .refl

/-- The begin or the end of a region is a sequence of steps. -/
lemma region_path (h : s.view.Sound) (wait : (s.worker w).wait = none) {a : Action}
    (region : a.isRegion = true) : Path InRegion s.view (s.begin w a).1.view := by
  have free := waitsFor_of_wait wait
  cases ht : (s.worker w).thread with
  | none =>
    cases a with
    | beginSynchronized _ | endSynchronized | failSynchronized =>
      simp only [World.begin, ht]
      exact .refl
    | _ => cases region
  | some t =>
    cases a with
    | beginSynchronized _ =>
      rw [begin_attached ht]
      exact beginSynchronized_path h ht free
    | endSynchronized | failSynchronized =>
      rw [begin_attached ht]
      exact endSynchronized_path h ht free _
    | _ => cases region

/-- Every move is a sequence of steps; all but the regions are a single one. -/
theorem move_path {allowed : SystemView → Label → Prop} (h : s.view.Sound) {x : Move}
    (direct : ∀ w a, x = .act w a → a.isDirect = false) (plain : allowed s.view (s.label x))
    (own : ∀ v l, InRegion v l → allowed v l) : Path allowed s.view (s.move x).1.view := by
  have weaken {v : SystemView} (p : Path InRegion s.view v) : Path allowed s.view v := by
    induction p with
    | refl => exact .refl
    | tail _ a c ih => exact ih.tail (own _ _ a) c
  by_cases region : ∃ w a, x = .act w a ∧ a.isRegion = true
  · obtain ⟨w, a, rfl, region⟩ := region
    unfold move
    dsimp only
    split
    next => exact .refl
    next wait => exact weaken (region_path h (by simpa using wait) region)
  · refine .single plain (move_step h fun w a eq => ⟨direct w a eq, ?_⟩)
    rw [Bool.eq_false_iff]
    exact fun isRegion => region ⟨w, a, eq, isRegion⟩

end World

namespace Run

variable {rule : Rule} {options : Options} {s : World} {h : List Event} {w : WorkerId} {a : Action}

/-- The end of the waits of some workers is a sequence of moves. -/
lemma sweep (resume : WorkerId → Move) (allowed : ∀ s h w, rule s h (resume w))
    (run : Run rule options s h) (l : List WorkerId) :
    ∃ h', Run rule options (World.sweep (fun s w => s.move (resume w)) s l).1 h' := by
  induction l generalizing s h with
  | nil => exact ⟨h, run⟩
  | cons w l ih => exact ih (run.move (allowed s h w))

/-- So an operation together with all the waits that it ends is a sequence of moves. -/
theorem step (run : Run rule options s h) (begins : rule s h (.act w a))
    (wakes : ∀ s h w, rule s h (.wake w)) (grants : ∀ s h w, rule s h (.grant w))
    (reaches : ∀ s h w, rule s h (.reach w)) : ∃ h', Run rule options (s.step w a).1 h' := by
  unfold World.step
  split
  next => exact ⟨h, run⟩
  next wait =>
    have begun := run.move begins
    simp only [World.move, wait] at begun
    obtain ⟨h₁, woken⟩ := sweep .wake wakes begun (List.range (s.begin w a).1.workers.size)
    obtain ⟨h₂, granted⟩ := sweep .grant grants woken (List.range (s.begin w a).1.workers.size)
    exact sweep .reach reaches granted (List.range (s.begin w a).1.workers.size)

end Run

end ObjectLocks
