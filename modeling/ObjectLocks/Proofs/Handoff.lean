import ObjectLocks.Proofs.Scene

/-!
# Hand-off in order of arrival

The threads that wait for a monitor stand in its queue in the order in which they began to wait, and
an exit hands the monitor to the first of them. Nobody else gets a monitor for which a thread waits,
and no waiting thread is lost.

What happens to one monitor and to the threads that wait for it is described first, then it is read
off the steps of a scene. A run keeps a log of one monitor: the threads that have begun to wait for
it and those that were handed it while they waited.
-/

namespace ObjectLocks

namespace Monitor

/-- The ways in which a monitor gets another owner. -/
inductive Passes (x y : Monitor) : Prop where
  /-- It is acquired without waiting. -/
  | acquired :
    x.owner = .nobody →
    x.queue = [] →
    Passes x y
  /-- Its anonymous owner makes itself known. -/
  | claimed {t} :
    x.owner = .anonymous →
    y.owner = .thread t →
    y.queue = x.queue →
    Passes x y
  /-- Its owner exits and hands it to the first thread of the queue. -/
  | handsOver {t u} :
    (x.owner = .thread t ∧ x.recursions = 0) ∨ x.owner = .anonymous →
    x.queue = u :: y.queue →
    y.owner = .thread u →
    y.recursions = 0 →
    y.previousOwner = some t →
    Passes x y
  /-- Its owner exits, and no thread waits. -/
  | frees {t} :
    (x.owner = .thread t ∧ x.recursions = 0) ∨ x.owner = .anonymous →
    x.queue = [] →
    y.queue = [] →
    y.owner = .nobody →
    y.recursions = 0 →
    y.previousOwner = some t →
    Passes x y

/-- The invariant of a monitor and the threads of the workers that wait for it. -/
structure LinedUp (x : Monitor) (waits : WorkerId → Option ThreadId) : Prop where
  counted : x.queued = x.queue.length
  nodup : x.queue.Nodup
  waiting : ∀ t, t ∈ x.queue ↔ (∃ w, waits w = some t) ∧ x.owner ≠ .thread t
  owned : x.queue ≠ [] → x.owner ≠ .nobody
  idle : x.owner = .nobody → x.recursions = 0

/-- What changes for a monitor: some threads join the queue, and others, which come first in it,
leave it as owners. -/
structure Turns (x : Monitor) (f : WorkerId → Option ThreadId) (y : Monitor)
    (g : WorkerId → Option ThreadId) (joined left : List ThreadId) : Prop where
  order : x.queue ++ joined = left ++ y.queue
  joins : ∀ t, t ∈ joined ↔ (∃ w, g w = some t) ∧ ¬ ∃ w, f w = some t
  leaves : ∀ t, t ∈ left ↔ (∃ w, f w = some t) ∧ x.owner ≠ .thread t ∧ y.owner = .thread t
  joinedOne : joined.length ≤ 1
  leftOne : left.length ≤ 1
  passes : y.owner ≠ x.owner → Passes x y

namespace LinedUp

variable {x y z : Monitor} {f g : WorkerId → Option ThreadId} {w : WorkerId} {t u : ThreadId}

/-- Whoever waits for a monitor is in its queue, unless it has been handed the monitor already. -/
lemma of_waits (h : x.LinedUp f) (waits : f w = some u) : u ∈ x.queue ∨ x.owner = .thread u := by
  by_cases own : x.owner = .thread u
  · exact .inr own
  · exact .inl ((h.waiting u).2 ⟨⟨w, waits⟩, own⟩)

/-- A monitor that counts no waiting thread has an empty queue. -/
lemma empty (h : x.LinedUp f) (none : x.queued = 0) : x.queue = [] :=
  List.eq_nil_of_length_eq_zero (h.counted.symm.trans none)

/-- The monitor stays as it is, and at most its owner stops waiting for it. -/
lemma still (h : x.LinedUp f) (waits : ∀ t, (∃ w, g w = some t) → ∃ w, f w = some t)
    (stops : ∀ t, (∃ w, f w = some t) → (∃ w, g w = some t) ∨ x.owner = .thread t) :
    x.LinedUp g ∧ Turns x f x g [] [] := by
  refine ⟨⟨h.counted, h.nodup, fun t => ?_, h.owned, h.idle⟩, List.append_nil _, fun t => ?_,
    fun t => ?_, Nat.zero_le _, Nat.zero_le _, fun ne => absurd rfl ne⟩
  · rw [h.waiting]
    constructor
    · exact fun ⟨old, other⟩ => ⟨(stops t old).resolve_right other, other⟩
    · exact fun ⟨new, other⟩ => ⟨waits t new, other⟩
  · exact iff_of_false nofun fun ⟨new, old⟩ => old (waits t new)
  · exact iff_of_false nofun fun ⟨_, other, own⟩ => other own

/-- Who becomes the owner without waiting gets past nobody. -/
lemma passes (h : x.LinedUp f) (k : x.Keeps t y) (owner : z.owner = y.owner)
    (queue : z.queue = y.queue) (passed : z.owner ≠ x.owner) : Passes x z := by
  rcases k.owner with same | ⟨free, none⟩ | ⟨anonymous, claimed⟩
  · exact absurd (owner.trans same) passed
  · exact .acquired free (h.empty none)
  · exact .claimed anonymous (owner.trans claimed) (queue.trans k.queue)

/-- Whoever waits for the monitor of an awake thread is in its queue. -/
lemma behind (h : x.LinedUp f) (awake : ∀ w, f w ≠ some t) (own : x.owner = .thread t)
    (waits : f w = some u) : u ∈ x.queue := by
  refine (h.of_waits waits).resolve_right fun own' => ?_
  obtain rfl := Owner.thread.inj (own.symm.trans own')
  exact awake w waits

/-- A thread that does not wait leaves those that do where they are. -/
lemma keeps (h : x.LinedUp f) (awake : ∀ w, f w ≠ some t) (k : x.Keeps t y) :
    y.LinedUp f ∧ Turns x f y f [] [] := by
  have kept {w u} (waits : f w = some u) (other : x.owner ≠ .thread u) : y.owner ≠ .thread u := by
    intro own
    rcases k.owner with same | ⟨_, none⟩ | ⟨_, claimed⟩
    · exact other (same.symm.trans own)
    · have mem := (h.waiting u).2 ⟨⟨w, waits⟩, other⟩
      rw [h.empty none] at mem
      cases mem
    · obtain rfl := Owner.thread.inj (claimed.symm.trans own)
      exact awake w waits
  refine ⟨⟨?_, ?_, fun u => ?_, fun some => ?_, k.idle h.idle⟩, ?_, fun u => ?_, fun u => ?_,
    Nat.zero_le _, Nat.zero_le _, h.passes k rfl rfl⟩
  · rw [k.queued, k.queue, h.counted]
  · rw [k.queue]
    exact h.nodup
  · rw [k.queue, h.waiting]
    refine and_congr_right fun ⟨w, waits⟩ => ⟨fun other => kept waits other, fun other own => ?_⟩
    exact other (k.owned own)
  · rw [k.queue] at some
    rcases k.owner with same | ⟨_, none⟩ | ⟨_, claimed⟩
    · exact same ▸ h.owned some
    · exact absurd (h.empty none) some
    · rw [claimed]
      exact nofun
  · rw [k.queue, List.append_nil, List.nil_append]
  · exact iff_of_false nofun fun ⟨new, old⟩ => old new
  · exact iff_of_false nofun fun ⟨⟨w, waits⟩, other, own⟩ => kept waits other own

/-- A thread begins to wait. -/
lemma block (h : x.LinedUp f) (awake : ∀ w, f w ≠ some t) (free : f w = none)
    (k : x.Keeps t y) (other : y.owner ≠ .thread t) (busy : y.owner = .nobody → y.queued ≠ 0) :
    (y.enqueue t).LinedUp (Function.update f w (some t)) ∧
      Turns x f (y.enqueue t) (Function.update f w (some t)) [t] [] := by
  obtain ⟨hy, turns⟩ := h.keeps awake k
  have queue : y.queue = x.queue := k.queue
  have waits (u : ThreadId) :
      (∃ w', Function.update f w (some t) w' = some u) ↔ u = t ∨ ∃ w', f w' = some u := by
    constructor
    · rintro ⟨w', eq⟩
      rw [Function.update_apply] at eq
      split at eq
      · exact .inl (Option.some.inj eq).symm
      · exact .inr ⟨w', eq⟩
    · rintro (rfl | ⟨w', eq⟩)
      · exact ⟨w, Function.update_self ..⟩
      · refine ⟨w', ?_⟩
        rw [Function.update_of_ne, eq]
        rintro rfl
        cases free.symm.trans eq
  have new : t ∉ y.queue := fun mem => by
    obtain ⟨⟨w', eq⟩, -⟩ := (hy.waiting t).1 mem
    exact awake w' eq
  refine ⟨⟨?_, ?_, fun u => ?_, fun _ => ?_, hy.idle⟩, ?_, fun u => ?_, fun u => ?_, Nat.le_refl _,
    Nat.zero_le _, fun passed => ?_⟩
  · show y.queued + 1 = (y.queue ++ [t]).length
    rw [hy.counted, List.length_append]
    rfl
  · exact List.nodup_append.2 ⟨hy.nodup, List.nodup_singleton t, by
      simp only [List.mem_singleton, forall_eq]
      exact fun u mem eq => new (eq ▸ mem)⟩
  · show u ∈ y.queue ++ [t] ↔ _ ∧ y.owner ≠ .thread u
    rw [List.mem_append, List.mem_singleton, hy.waiting, waits]
    constructor
    · rintro (⟨old, ne⟩ | rfl)
      · exact ⟨.inr old, ne⟩
      · exact ⟨.inl rfl, other⟩
    · rintro ⟨rfl | old, ne⟩
      · exact .inr rfl
      · exact .inl ⟨old, ne⟩
  · -- The thread waits only because somebody has the monitor, or waits already.
    intro nobody
    have none : y.queue = [] := by
      by_contra some
      exact hy.owned some nobody
    exact busy nobody (hy.counted.trans (by rw [none]; rfl))
  · show x.queue ++ [t] = [] ++ (y.queue ++ [t])
    rw [queue, List.nil_append]
  · rw [List.mem_singleton, waits]
    constructor
    · rintro rfl
      exact ⟨.inl rfl, fun ⟨w', eq⟩ => awake w' eq⟩
    · rintro ⟨rfl | old, none⟩
      · rfl
      · exact absurd old none
  · exact turns.leaves u
  · rcases k.owner with same | ⟨free, none⟩ | ⟨_, claimed⟩
    · exact absurd same passed
    · exact .acquired free (h.empty none)
    · exact absurd claimed other

/-- An awake thread leaves the monitor, and nobody waits for it. -/
lemma frees (h : y.LinedUp f) (awake : ∀ w, f w ≠ some t) (own : y.owner = .thread t)
    (zero : y.recursions = 0) (same : y.queue = x.queue) (none : y.queue = [])
    (before : (x.owner = .thread t ∧ x.recursions = 0) ∨ x.owner = .anonymous) :
    let z := { y with previousOwner := some t }.handOff
    z.LinedUp f ∧ Turns x f z f [] [] := by
  have idle {w u} (waits : f w = some u) : False := by
    have mem := h.behind awake own waits
    rw [none] at mem
    cases mem
  have empty (u : ThreadId) : u ∉ y.queue := by
    rw [none]
    exact List.not_mem_nil
  rw [handOff_nil (by exact none)]
  refine ⟨⟨h.counted, h.nodup, fun u => ?_, fun some => absurd none some, fun _ => zero⟩,
    ?_, fun u => ?_, fun u => ?_, Nat.zero_le _, Nat.zero_le _, fun _ => ?_⟩
  · exact iff_of_false (empty u) fun ⟨⟨w, waits⟩, _⟩ => idle waits
  · rw [List.append_nil, ← same]
    rfl
  · exact iff_of_false nofun fun ⟨new, old⟩ => old new
  · exact iff_of_false nofun fun ⟨⟨w, waits⟩, _⟩ => idle waits
  · exact .frees before (same.symm.trans none) none rfl zero rfl

/-- An awake thread leaves the monitor to the first one that waits for it. -/
lemma handsOver (h : y.LinedUp f) (awake : ∀ w, f w ≠ some t) (own : y.owner = .thread t)
    (zero : y.recursions = 0) (same : y.queue = x.queue)
    (waiting : ∀ v, v ∈ x.queue ↔ (∃ w, f w = some v) ∧ x.owner ≠ .thread v)
    {rest : List ThreadId} (queue : y.queue = u :: rest)
    (before : (x.owner = .thread t ∧ x.recursions = 0) ∨ x.owner = .anonymous) :
    let z := { y with previousOwner := some t }.handOff
    z.LinedUp f ∧ Turns x f z f [] [u] := by
  have nodup : (u :: rest).Nodup := queue ▸ h.nodup
  rw [← same, queue] at waiting
  rw [handOff_cons (by exact queue) (by exact h.counted)]
  refine ⟨⟨rfl, nodup.of_cons, fun v => ?_, fun _ => nofun, nofun⟩, ?_, fun v => ?_, fun v => ?_,
    Nat.zero_le _, Nat.le_refl _, fun _ => ?_⟩
  · show v ∈ rest ↔ _ ∧ Owner.thread u ≠ .thread v
    constructor
    · intro mem
      refine ⟨((waiting v).1 (.tail u mem)).1, fun eq => ?_⟩
      obtain rfl := Owner.thread.inj eq
      exact nodup.notMem mem
    · rintro ⟨⟨w, waits⟩, ne⟩
      have mem := h.behind awake own waits
      rw [queue] at mem
      exact (List.mem_cons.1 mem).resolve_left fun eq => ne (congrArg Owner.thread eq.symm)
  · rw [List.append_nil, ← same, queue]
    rfl
  · exact iff_of_false nofun fun ⟨new, old⟩ => old new
  · rw [List.mem_singleton]
    constructor
    · rintro rfl
      obtain ⟨waits, ne⟩ := (waiting v).1 (.head rest)
      exact ⟨waits, ne, rfl⟩
    · exact fun ⟨_, _, eq⟩ => (Owner.thread.inj eq).symm
  · exact .handsOver before (same.symm.trans queue) rfl zero rfl

/-- An exit takes back one further enter, or gives the monitor to the head of the queue. -/
lemma exit (h : x.LinedUp f) (awake : ∀ w, f w ≠ some t) (k : x.Keeps t y)
    (owned : y = x ∨ ∃ n, x.claim? t n = some y) (exits : y.exit? t = some z) :
    z.LinedUp f ∧ ∃ left, Turns x f z f [] left := by
  obtain ⟨hy, turns⟩ := h.keeps awake k
  obtain ⟨own, ⟨zero, rfl⟩ | ⟨-, rfl⟩⟩ := exit?_eq_some exits
  · have before : (x.owner = .thread t ∧ x.recursions = 0) ∨ x.owner = .anonymous := by
      rcases owned with rfl | ⟨n, claim⟩
      · exact .inl ⟨own, zero⟩
      · exact .inr (claim?_eq_some claim).1
    by_cases queue : y.queue = []
    · obtain ⟨linedUp, turns⟩ := hy.frees awake own zero k.queue queue before
      exact ⟨linedUp, [], turns⟩
    · obtain ⟨u, rest, queue⟩ := List.exists_cons_of_ne_nil queue
      obtain ⟨linedUp, turns⟩ := hy.handsOver awake own zero k.queue h.waiting queue before
      exact ⟨linedUp, [u], turns⟩
  · -- The owner keeps the monitor.
    refine ⟨⟨hy.counted, hy.nodup, hy.waiting, hy.owned, fun free => nomatch own.symm.trans free⟩,
      [], turns.order, turns.joins, turns.leaves, turns.joinedOne, turns.leftOne, ?_⟩
    exact h.passes k rfl rfl

end LinedUp

end Monitor

namespace Scene

/-- The thread that waits for a monitor as worker `w`. -/
def waiter? (v : Scene) (id : MonitorId) (w : WorkerId) : Option ThreadId :=
  if (v.wait w).bind Wait.monitor? = some id then v.thread w else none

/-- The invariant of all monitors. -/
def LinedUp (v : Scene) : Prop := ∀ id, (v.monitor id).LinedUp (v.waiter? id)

/-- Every monitor stays in order, whoever joins its queue or leaves it. -/
def Advances (v v' : Scene) : Prop := ∀ id, (v'.monitor id).LinedUp (v'.waiter? id) ∧
  ∃ joined left, Monitor.Turns (v.monitor id) (v.waiter? id) (v'.monitor id) (v'.waiter? id)
    joined left

variable {v v' : Scene} {p : Scene × Bool} {w : WorkerId} {t : ThreadId} {id : MonitorId}
  {x : Option Wait} {resume : ThreadState} {goal : Goal}

/-- A worker waits with its thread or not at all. -/
lemma waiter?_eq_some : v.waiter? id w = some t ↔
    (v.wait w).bind Wait.monitor? = some id ∧ v.thread w = some t := by
  unfold waiter?
  split
  next waits => exact ⟨fun ht => ⟨waits, ht⟩, And.right⟩
  next waits => exact ⟨nofun, fun h => absurd h.1 waits⟩

/-- A worker that does not wait for a monitor waits with no thread. -/
lemma waiter?_eq_none (h : (v.wait w).bind Wait.monitor? = none) (id : MonitorId) :
    v.waiter? id w = none := by
  unfold waiter?
  rw [h, if_neg nofun]

/-- A thread that waits for nothing waits for no monitor. -/
lemma Distinct.awake (d : v.Distinct) (ht : v.thread w = some t) (free : v.wait w = none)
    (id : MonitorId) (w' : WorkerId) : v.waiter? id w' ≠ some t := by
  intro waits
  obtain ⟨waits, ht'⟩ := waiter?_eq_some.1 waits
  obtain rfl := d.unique w' w t ht' ht
  rw [free] at waits
  cases waits

/-- A worker begins or stops to wait, and all others wait as before. -/
lemma waiter?_update (thread : v'.thread = v.thread) (wait : v'.wait = Function.update v.wait w x)
    (id : MonitorId) : v'.waiter? id = Function.update (v.waiter? id) w
      (if x.bind Wait.monitor? = some id then v.thread w else none) := by
  funext w'
  unfold waiter?
  rw [thread, wait, Function.update_apply, Function.update_apply]
  split
  next eq => rw [eq]
  next => rfl

/-- A new thread does not wait yet. -/
lemma waiter?_attach (free : v.wait w = none) (id : MonitorId) :
    (v.attach w).waiter? id = v.waiter? id := by
  funext w'
  show (if (v.wait w').bind _ = some id then Function.update v.thread w _ w' else none) = _
  rw [Function.update_apply]
  split
  next waits =>
    split
    next eq =>
      rw [eq, free] at waits
      cases waits
    next => exact (if_pos waits).symm
  next waits => exact (if_neg waits).symm

namespace LinedUp

/-- What changes no monitor and not who waits for one. -/
lemma same (h : v.LinedUp) (monitor : v'.monitor = v.monitor)
    (waits : ∀ id, v'.waiter? id = v.waiter? id) : v.Advances v' := by
  intro id
  rw [monitor, waits]
  obtain ⟨linedUp, turns⟩ := (h id).still (fun _ waiting => waiting) fun _ => .inl
  exact ⟨linedUp, [], [], turns⟩

/-- A worker waits for no monitor from now on. If it did before, its thread has the monitor. -/
lemma leaves (h : v.LinedUp) (monitor : v'.monitor = v.monitor) (thread : v'.thread = v.thread)
    (wait : v'.wait = Function.update v.wait w x) (other : x.bind Wait.monitor? = none)
    (stops : ∀ id u, v.waiter? id w = some u → (v.monitor id).owner = .thread u) :
    v.Advances v' := by
  intro id
  rw [monitor, waiter?_update thread wait, other, if_neg nofun]
  refine (fun ⟨linedUp, turns⟩ => ⟨linedUp, [], [], turns⟩) ((h id).still ?_ ?_)
  · rintro u ⟨w', waits⟩
    rw [Function.update_apply] at waits
    split at waits
    · cases waits
    · exact ⟨w', waits⟩
  · rintro u ⟨w', waits⟩
    by_cases eq : w' = w
    · exact .inr (stops id u (eq ▸ waits))
    · exact .inl ⟨w', (Function.update_of_ne eq ..).trans waits⟩

/-- A thread leaves a safe state in order, if it was handed the monitor that it has waited for. -/
lemma leave (h : v.LinedUp)
    (stops : ∀ id u, v.waiter? id w = some u → (v.monitor id).owner = .thread u) :
    v.Advances (v.leave w t resume goal).1 := by
  obtain ⟨y, x, q, eq, hx⟩ := leave_eq v w t resume goal
  rw [eq]
  refine h.leaves rfl rfl rfl ?_ stops
  rcases hx with rfl | rfl | ⟨rfl, -⟩ <;> rfl

/-- A thread changes monitors while it waits for nothing. -/
lemma keeps (h : v.LinedUp) (d : v.Distinct) (ht : v.thread w = some t) (free : v.wait w = none)
    {y : Monitor} (k : (v.monitor id).Keeps t y) (waits : v'.waiter? id = v.waiter? id)
    (monitor : v'.monitor id = y) : (v'.monitor id).LinedUp (v'.waiter? id) ∧
      ∃ joined left, Monitor.Turns (v.monitor id) (v.waiter? id) (v'.monitor id) (v'.waiter? id)
        joined left := by
  rw [monitor, waits]
  obtain ⟨linedUp, turns⟩ := (h id).keeps (d.awake ht free id) k
  exact ⟨linedUp, [], [], turns⟩

end LinedUp

/-- Every step keeps the waiting threads lined up. -/
theorem LinedUp.step (h : v.LinedUp) (d : v.Distinct) (c : Step v p) : v.Advances p.1 := by
  -- Only who waits for a monitor has to own it by the time it goes on.
  have waitless {w} {x : Option Wait} (hw : v.wait w = x) (other : x.bind Wait.monitor? = none)
      (id : MonitorId) (u : ThreadId) (waits : v.waiter? id w = some u) :
      (v.monitor id).owner = .thread u := by
    rw [waiter?_eq_none (by rw [hw, other])] at waits
    cases waits
  cases c with
  | idle | guard _ _ | enterRegion _ _ _ _ | skip => exact h.same rfl fun _ => rfl
  | operate ht free k => exact fun id => h.keeps d ht free (k id) rfl rfl
  | @exit w t f id y ht free k owned exits =>
    intro i
    by_cases eq : i = id
    · subst eq
      obtain ⟨linedUp, left, turns⟩ := (h i).exit (d.awake ht free i) (k i) owned exits
      show (Function.update f i y i).LinedUp (v.waiter? i) ∧ ∃ joined left, Monitor.Turns _ _
        (Function.update f i y i) _ joined left
      rw [Function.update_self]
      exact ⟨linedUp, [], left, turns⟩
    · exact h.keeps d ht free (k i) rfl (Function.update_of_ne eq ..)
  | @block w t f id goal ht free _ k other busy _ =>
    intro i
    generalize hv : setWait _ w _ = v'
    have monitor : v'.monitor = Function.update f id ((f id).enqueue t) := by rw [← hv]; rfl
    have waits : v'.waiter? i = Function.update (v.waiter? i) w
        (if some id = some i then v.thread w else none) :=
      waiter?_update (x := some (.monitor id (v.state t) goal)) (by rw [← hv]; rfl)
        (by rw [← hv]; rfl) i
    have none : v.waiter? i w = none := waiter?_eq_none (by rw [free]; rfl) i
    by_cases eq : i = id
    · subst eq
      obtain ⟨linedUp, turns⟩ := (h i).block (d.awake ht free i) none (k i) other busy
      rw [waits, if_pos rfl, ht, monitor, Function.update_self]
      exact ⟨linedUp, [t], [], turns⟩
    · rw [if_neg fun same => eq (Option.some.inj same).symm, ← none,
        Function.update_eq_self] at waits
      exact h.keeps d ht free (k i) waits (by rw [monitor, Function.update_of_ne eq])
  | leaveRegion _ free | poll _ free _ _ => exact h.leave (waitless free rfl)
  | @attach w _ free _ =>
    have same : v.Advances (v.attach w) := h.same rfl (waiter?_attach free)
    -- The new thread has no wait to end yet, so it leaves its first state in order.
    have linedUp : (v.attach w).LinedUp := fun id => (same id).1
    have stays : (v.attach w).Advances
        ((v.attach w).leave w v.nextThread .inManaged (.attach v.nextThread)).1 :=
      linedUp.leave fun id u waits => by
        rw [waiter?_attach free] at waits
        exact waitless free rfl id u waits
    intro id
    rw [← waiter?_attach free id]
    exact stays id
  | @detach w t ht free _ =>
    refine h.same rfl fun id => funext fun w' => ?_
    show (if (v.wait w').bind _ = some id then Function.update v.thread w none w' else none) = _
    rw [Function.update_apply]
    by_cases eq : w' = w
    · rw [eq, free, Option.bind_none, if_neg nofun, waiter?_eq_none (by rw [free]; rfl)]
    · rw [if_neg eq]
      rfl
  | handed ht waits own =>
    refine h.leave fun id u hu => ?_
    -- The monitor that the worker waits for is the one that its thread was handed.
    obtain ⟨eq, hu'⟩ := waiter?_eq_some.1 hu
    rw [waits] at eq
    obtain rfl := Option.some.inj eq
    obtain rfl := Option.some.inj (ht.symm.trans hu')
    exact own
  | unpark _ waits _ => exact h.leave (waitless waits rfl)
  | queueUp _ free _ _ | queueUpDetached _ free _ =>
    exact h.leaves rfl rfl rfl rfl (waitless free rfl)
  | turn _ waits _ _ => exact leave (v := v.give _ _) h (waitless waits rfl)
  | @turnDetached w _ rest _ waits _ _ =>
    obtain ⟨x, q, eq, hx⟩ := request_eq (v.give w rest) w
    rw [eq]
    refine h.leaves rfl rfl rfl ?_ (waitless waits rfl)
    rcases hx with rfl | rfl
    · exact congrArg (·.bind Wait.monitor?) waits
    · rfl
  | reach waits _ => exact h.leaves rfl rfl rfl rfl (waitless waits rfl)
  | release _ _ =>
    unfold release
    split <;> exact h.same rfl fun _ => rfl

end Scene

namespace World

/-- The threads that wait for a monitor, with those that were handed it and have yet to go on. -/
def waiters (s : World) (id : MonitorId) : List ThreadId :=
  (List.range s.workers.size).filterMap (s.scene.waiter? id)

/-- The threads that begin to wait for a monitor in a move. -/
def joining (s : World) (id : MonitorId) (x : Move) : List ThreadId :=
  ((s.move x).1.waiters id).filter (· ∉ s.waiters id)

/-- The waiting threads that a move makes the owner of a monitor. -/
def handed (s : World) (id : MonitorId) (x : Move) : List ThreadId :=
  (s.waiters id).filter fun t => (s.machine.monitor id).owner ≠ .thread t ∧
    ((s.move x).1.machine.monitor id).owner = .thread t

/-- What a sequence of moves leads to. -/
def after (s : World) : List Move → World
  | [] => s
  | x :: l => (s.move x).1.after l

/-- The threads that begin to wait for a monitor in a sequence of moves, the first one first. -/
def arrivals (s : World) (id : MonitorId) : List Move → List ThreadId
  | [] => []
  | x :: l => s.joining id x ++ (s.move x).1.arrivals id l

/-- The waiting threads that become the owner of a monitor in a sequence of moves, the first one
first. -/
def handovers (s : World) (id : MonitorId) : List Move → List ThreadId
  | [] => []
  | x :: l => s.handed id x ++ (s.move x).1.handovers id l

variable {s : World} {id : MonitorId} {t : ThreadId} {w : WorkerId}

/-- The list of waiting threads has those of all workers. -/
lemma mem_waiters : t ∈ s.waiters id ↔ ∃ w, s.scene.waiter? id w = some t := by
  refine List.mem_filterMap.trans ⟨fun ⟨w, _, hw⟩ => ⟨w, hw⟩, fun ⟨w, hw⟩ => ⟨w, ?_, hw⟩⟩
  -- A worker that is not among the numbered ones is not attached.
  refine List.mem_range.2 (Nat.lt_of_not_le fun unwritten => ?_)
  have ht : (s.worker w).thread = some t := (Scene.waiter?_eq_some.1 hw).2
  have unused : s.worker w = default := by
    simp [worker, Store.get, Store.size, Array.getD_eq_getD_getElem?] at unwritten ⊢
    simp [Array.getElem?_eq_none unwritten]
  rw [unused] at ht
  cases ht

/-- No thread waits twice. -/
lemma nodup_waiters (d : s.scene.Distinct) (id : MonitorId) : (s.waiters id).Nodup := by
  refine List.nodup_range.filterMap fun w w' t hw hw' => ?_
  exact d.unique w w' t (Scene.waiter?_eq_some.1 hw).2 (Scene.waiter?_eq_some.1 hw').2

/-- A list without duplicates is known from its members, if there is at most one. -/
lemma eq_of_mem_iff {l l' : List ThreadId} (nodup : l.Nodup) (one : l'.length ≤ 1)
    (same : ∀ t, t ∈ l ↔ t ∈ l') : l = l' := by
  match l', one with
  | [], _ => exact List.eq_nil_iff_forall_not_mem.2 fun t mem => List.not_mem_nil ((same t).1 mem)
  | [a], _ =>
    refine List.perm_singleton.1 ((List.perm_ext_iff_of_nodup nodup ?_).2 same)
    exact List.nodup_singleton a

/-- The invariant of a system with monitors. -/
structure Ordered (s : World) : Prop where
  marked : s.machine.WellMarked
  distinct : s.scene.Distinct
  linedUp : s.scene.LinedUp

namespace Ordered

/-- A new system is in order, since nobody waits in it. -/
lemma new (options : Options) : (World.new options).Ordered := by
  refine ⟨Run.wellMarked_new options, .new options, fun id => ?_⟩
  have empty : (World.new options).scene.monitor id = default := rfl
  rw [empty]
  refine ⟨rfl, List.nodup_nil, fun t => iff_of_false nofun fun ⟨⟨w, waits⟩, _⟩ => ?_,
    fun some => absurd rfl some, fun _ => rfl⟩
  cases (Scene.waiter?_eq_some.1 waits).2

/-- Every monitor stays in order over a move. -/
lemma advances (h : s.Ordered) (x : Move) : s.scene.Advances (s.move x).1.scene :=
  h.linedUp.step h.distinct (move_moved h.marked x).step

/-- Every move keeps the waiting threads in order. -/
lemma move (h : s.Ordered) (x : Move) : (s.move x).1.Ordered :=
  ⟨(move_moved h.marked x).marked, h.distinct.step (move_moved h.marked x).step,
    fun id => (h.advances x id).1⟩

/-- What a move does to a monitor. -/
lemma turns (h : s.Ordered) (id : MonitorId) (x : Move) :
    Monitor.Turns (s.machine.monitor id) (s.scene.waiter? id) ((s.move x).1.machine.monitor id)
      ((s.move x).1.scene.waiter? id) (s.joining id x) (s.handed id x) := by
  obtain ⟨-, joined, left, turns⟩ := h.advances x id
  have joining : s.joining id x = joined := by
    refine eq_of_mem_iff ((nodup_waiters (h.move x).distinct id).filter _) turns.joinedOne ?_
    intro t
    rw [turns.joins, joining, List.mem_filter, mem_waiters, decide_eq_true_iff, mem_waiters]
  have handed : s.handed id x = left := by
    refine eq_of_mem_iff ((nodup_waiters h.distinct id).filter _) turns.leftOne ?_
    intro t
    rw [turns.leaves, handed, List.mem_filter, mem_waiters, decide_eq_true_iff]
    rfl
  rw [joining, handed]
  exact turns

/-- Whoever joins the queue of a monitor leaves it after those that joined before. -/
theorem inOrder (h : s.Ordered) (id : MonitorId) (l : List Move) :
    (s.machine.monitor id).queue ++ s.arrivals id l =
      s.handovers id l ++ ((s.after l).machine.monitor id).queue := by
  induction l generalizing s with
  | nil => exact List.append_nil _
  | cons x l ih =>
    calc (s.machine.monitor id).queue ++ (s.joining id x ++ (s.move x).1.arrivals id l)
      _ = s.handed id x ++ (((s.move x).1.machine.monitor id).queue ++
            (s.move x).1.arrivals id l) := by
        rw [← List.append_assoc, (h.turns id x).order, List.append_assoc]
      _ = (s.handed id x ++ (s.move x).1.handovers id l) ++
            (((s.move x).1.after l).machine.monitor id).queue := by
        rw [ih (h.move x), List.append_assoc]

end Ordered

/-- What holds of a monitor at any time, what its owner does to it, and what happens to it from then
on. -/
structure LinesUp (s : World) (id : MonitorId) : Prop where
  counted : (s.machine.monitor id).queued = (s.machine.monitor id).queue.length
  nodup : (s.machine.monitor id).queue.Nodup
  /-- In the queue are the waiting threads that have not been handed the monitor. -/
  waiting : ∀ t, t ∈ (s.machine.monitor id).queue ↔
    t ∈ s.waiters id ∧ (s.machine.monitor id).owner ≠ .thread t
  owned : (s.machine.monitor id).queue ≠ [] → (s.machine.monitor id).owner ≠ .nobody
  idle : (s.machine.monitor id).owner = .nobody → (s.machine.monitor id).recursions = 0
  passes : ∀ x, ((s.move x).1.machine.monitor id).owner ≠ (s.machine.monitor id).owner →
    Monitor.Passes (s.machine.monitor id) ((s.move x).1.machine.monitor id)
  /-- A thread that does not wait acquires the monitor of nobody past an empty queue, or claims it
  from an anonymous owner. -/
  unbarged : ∀ x t, t ∉ s.waiters id → (s.machine.monitor id).owner ≠ .thread t →
    ((s.move x).1.machine.monitor id).owner = .thread t →
      ((s.machine.monitor id).owner = .nobody ∧ (s.machine.monitor id).queue = []) ∨
        (s.machine.monitor id).owner = .anonymous
  exits : ∀ w t, (s.worker w).thread = some t → (s.worker w).wait = none →
    (s.machine.monitor id).owner = .thread t → (s.machine.monitor id).recursions = 0 →
      ∃ y, s.move (.act w (.exitMonitor id)) =
          ({ s with machine := s.machine.setMonitor id y }, .answered .done) ∧
        y.previousOwner = some t ∧ y.recursions = 0 ∧
        ((s.machine.monitor id).queue = [] → y.owner = .nobody ∧ y.queue = []) ∧
        ∀ u rest, (s.machine.monitor id).queue = u :: rest → y.owner = .thread u ∧ y.queue = rest
  inOrder : ∀ l, (s.machine.monitor id).queue ++ s.arrivals id l =
    s.handovers id l ++ ((s.after l).machine.monitor id).queue

namespace Ordered

/-- A thread that gets a monitor without having waited for it finds it free with nobody in its
queue, or owned anonymously. -/
lemma unbarged (h : s.Ordered) {x : Move} (free : t ∉ s.waiters id)
    (other : (s.machine.monitor id).owner ≠ .thread t)
    (own : ((s.move x).1.machine.monitor id).owner = .thread t) :
    ((s.machine.monitor id).owner = .nobody ∧ (s.machine.monitor id).queue = []) ∨
      (s.machine.monitor id).owner = .anonymous := by
  cases (h.turns id x).passes (own ▸ other.symm) with
  | acquired nobody none => exact .inl ⟨nobody, none⟩
  | claimed anonymous _ _ => exact .inr anonymous
  | handsOver _ queue owner _ _ =>
    obtain rfl := Owner.thread.inj (owner.symm.trans own)
    have waits := ((h.linedUp id).waiting _).1 (show _ ∈ (s.machine.monitor id).queue from
      queue ▸ List.mem_cons_self)
    exact absurd (mem_waiters.2 waits.1) free
  | frees _ _ _ owner _ _ => cases owner.symm.trans own

/-- The last exit of an owner ends without a fault, and the monitor is handed off. -/
lemma exits (h : s.Ordered) (ht : (s.worker w).thread = some t) (free : (s.worker w).wait = none)
    (own : (s.machine.monitor id).owner = .thread t)
    (zero : (s.machine.monitor id).recursions = 0) :
    ∃ y, s.move (.act w (.exitMonitor id)) =
        ({ s with machine := s.machine.setMonitor id y }, .answered .done) ∧
      y.previousOwner = some t ∧ y.recursions = 0 ∧
      ((s.machine.monitor id).queue = [] → y.owner = .nobody ∧ y.queue = []) ∧
      ∀ u rest, (s.machine.monitor id).queue = u :: rest →
        y.owner = .thread u ∧ y.queue = rest := by
  let x : Monitor := { s.machine.monitor id with previousOwner := some t }
  have exits : s.machine.exitMonitor t id = .ok () (s.machine.setMonitor id x.handOff) := by
    unfold Machine.exitMonitor Monitor.exit?
    rw [if_pos own, if_pos zero]
  refine ⟨x.handOff, ?_, ?_⟩
  · rw [move_act free, begin_attached ht]
    exact conclude_ok exits _
  · by_cases none : x.queue = []
    · rw [Monitor.handOff_nil none]
      exact ⟨rfl, zero, fun _ => ⟨rfl, none⟩, fun _ _ queue => nomatch queue.symm.trans none⟩
    · obtain ⟨u, rest, queue⟩ := List.exists_cons_of_ne_nil none
      rw [Monitor.handOff_cons queue (h.linedUp id).counted]
      refine ⟨rfl, zero, fun none => (nomatch queue.symm.trans none), fun u' rest' queue' => ?_⟩
      obtain ⟨rfl, rfl⟩ := List.cons.inj (queue.symm.trans queue')
      exact ⟨rfl, rfl⟩

end Ordered

end World

namespace Run

variable {rule : Rule} {options : Options} {s : World} {h : List Event}

/-- The waiting threads are in order at any time of any run. -/
lemma ordered (run : Run rule options s h) : s.Ordered := by
  induction run with
  | new => exact .new options
  | move _ _ ih => exact ih.move _

/-- At any time of any run, the threads that wait for a monitor are handed it in the order in which
they began to wait, and nobody gets past them. -/
theorem handoff_in_order (run : Run rule options s h) (id : MonitorId) : s.LinesUp id where
  counted := (run.ordered.linedUp id).counted
  nodup := (run.ordered.linedUp id).nodup
  waiting t := ((run.ordered.linedUp id).waiting t).trans
    (and_congr_left fun _ => World.mem_waiters.symm)
  owned := (run.ordered.linedUp id).owned
  idle := (run.ordered.linedUp id).idle
  passes x := (run.ordered.turns id x).passes
  unbarged _ _ := run.ordered.unbarged
  exits _ _ := run.ordered.exits
  inOrder := run.ordered.inOrder id

/-- Two threads wait for an object that a third one has fast-locked. -/
def overtaking : World × List Event :=
  (World.new (.ofMode .lightweight)).follow []
    [.addWorker, .addWorker, .addWorker, .act 0 .attach, .act 1 .attach, .act 2 .attach,
      .addRecord 0, .addRecord 1, .addRecord 2, .act 0 (.enter 0 0 false),
      .act 2 (.enter 0 2 false), .act 1 (.enter 0 1 false)]

/-- The fast lock has become a monitor with an anonymous owner, and the threads wait in the order of
their enters. -/
theorem handoff_in_order_overtaking : (overtaking.1.machine.monitor 0).owner = .anonymous ∧
    (overtaking.1.machine.monitor 0).queue = [4, 3] ∧ overtaking.1.LinesUp 0 :=
  ⟨by decide +kernel, by decide +kernel,
    handoff_in_order (.follow .new _ (anything.allows _ _ _)) 0⟩

end Run

end ObjectLocks
