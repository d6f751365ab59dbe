import ObjectLocks.Proofs.Scene

/-!
# Safepoint exclusion

While a worker holds a safepoint, no other attached thread is outside of a safe state. A thread that
comes to leave one, on whatever way, finds the request and parks. The request, the armed barrier and
the turn that a worker has go together, so the barrier is never armed twice, and a thread stays
parked only while there is a request.
-/

namespace ObjectLocks

/-- The invariant of safepoints. -/
structure Scene.Exclusive (v : Scene) : Prop where
  armed : v.safepoint.barrier.armed = v.safepoint.requested
  requested : v.safepoint.requested = v.safepoint.holder.isSome
  holder : ∀ w, v.safepoint.holder = some w ↔ v.wait w = some .others ∨ v.inScope w = true
  /-- No thread that waits is about to request a safepoint. -/
  queued : ∀ w id resume goal, v.wait w = some (.monitor id resume goal) → goal ≠ .safepoint
  parked : ∀ w resume goal, v.wait w = some (.barrier resume goal) →
    goal ≠ .safepoint ∧ v.thread w ≠ none
  safe : ∀ w, v.inScope w = true → ∀ t ∈ v.registry, v.thread w ≠ some t →
    (v.state t).isSafe = true

namespace Scene.Exclusive

variable {v : Scene} {p : Scene × Bool} {w : WorkerId} {t : ThreadId} {x : ThreadState}

/-- Nobody waits for others or holds a safepoint unless a worker has the turn. -/
lemma unscoped (h : v.Exclusive) (idle : v.safepoint.holder = none) (w : WorkerId) :
    v.wait w ≠ some .others ∧ v.inScope w = false := by
  refine ⟨fun others => ?_, Bool.eq_false_iff.2 fun holds => ?_⟩
  · cases idle.symm.trans ((h.holder w).2 (.inl others))
  · cases idle.symm.trans ((h.holder w).2 (.inr holds))

/-- No worker has the turn unless a safepoint is requested. -/
lemma idle (h : v.Exclusive) (free : v.safepoint.requested = false) : v.safepoint.holder = none := by
  rw [h.requested] at free
  simpa using free

/-- A thread may change to a safe state at any time, and to any state without a safepoint. -/
lemma setState (h : v.Exclusive) (t : ThreadId)
    (safe : x.isSafe = true ∨ v.safepoint.holder = none) : (v.setState t x).Exclusive := by
  refine ⟨h.armed, h.requested, h.holder, h.queued, h.parked, fun w holds u mem other => ?_⟩
  show (Function.update v.state t x u).isSafe = true
  rcases safe with safe | idle
  · rw [Function.update_apply]
    split
    next => exact safe
    next => exact h.safe w holds u mem other
  · cases holds.symm.trans (h.unscoped idle w).2

/-- A worker may wait for anything but the other threads, as long as no request is left to it. -/
lemma setWait (h : v.Exclusive) {y : Option Wait} (before : v.wait w ≠ some .others)
    (after : y ≠ some .others)
    (queued : ∀ id resume goal, y = some (.monitor id resume goal) → goal ≠ .safepoint)
    (parked : ∀ resume goal, y = some (.barrier resume goal) →
      goal ≠ .safepoint ∧ v.thread w ≠ none) : (v.setWait w y).Exclusive := by
  refine ⟨h.armed, h.requested, fun w' => (h.holder w').trans (or_congr_left ?_),
    fun w' id resume goal hw => ?_, fun w' resume goal hw => ?_, h.safe⟩
  · show _ ↔ Function.update v.wait w y w' = _
    rw [Function.update_apply]
    split
    next eq => exact iff_of_false (eq ▸ before) after
    next => rfl
  · replace hw : Function.update v.wait w y w' = _ := hw
    rw [Function.update_apply] at hw
    split at hw
    next => exact queued id resume goal hw
    next => exact h.queued w' id resume goal hw
  · replace hw : Function.update v.wait w y w' = _ := hw
    rw [Function.update_apply] at hw
    split at hw
    next eq => exact eq ▸ parked resume goal hw
    next => exact h.parked w' resume goal hw

/-- A thread that leaves a safe state parks, or there is no safepoint. -/
lemma leave (h : v.Exclusive) {resume : ThreadState} {goal : Goal} (ht : v.thread w = some t)
    (before : v.wait w ≠ some .others) (other : goal ≠ .safepoint) :
    (v.leave w t resume goal).2 = false ∧ (v.leave w t resume goal).1.Exclusive := by
  unfold Scene.leave
  split
  next =>
    refine ⟨rfl, (h.setState t (.inl rfl)).setWait before nofun (fun _ _ _ => nofun)
      fun resume' goal' eq => ?_⟩
    cases eq
    exact ⟨other, fun none => nomatch ht.symm.trans none⟩
  next free =>
    exact ⟨rfl, (h.setState t (.inr (h.idle (Bool.eq_false_iff.2 free)))).setWait before nofun
      (fun _ _ _ => nofun) fun _ _ => nofun⟩

/-- The worker whose turn it is finds the barrier released, and arms it. -/
lemma request (h : v.Exclusive) (idle : v.safepoint.holder = none) (rest : List WorkerId) :
    ((v.give w rest).request w).2 = false ∧ ((v.give w rest).request w).1.Exclusive ∧
      ((v.give w rest).request w).1.safepoint.requested = true := by
  have released : (v.give w rest).safepoint.barrier.armed = false := by
    show v.safepoint.barrier.armed = false
    rw [h.armed, h.requested, idle]
    rfl
  unfold Scene.request
  rw [if_neg (by rw [released]; exact nofun)]
  refine ⟨rfl, ⟨rfl, rfl, fun w' => ?_, fun w' id resume goal hw => ?_,
    fun w' resume goal hw => ?_, fun w' holds => ?_⟩, rfl⟩
  · obtain ⟨before, unscoped⟩ := h.unscoped idle w'
    show some w = some w' ↔ Function.update v.wait w (some .others) w' = _ ∨ v.inScope w' = true
    rw [Function.update_apply, unscoped]
    split
    next eq => simp [eq]
    next ne => simp [before, Ne.symm ne]
  · replace hw : Function.update v.wait w (some .others) w' = _ := hw
    rw [Function.update_apply] at hw
    split at hw
    next => cases hw
    next => exact h.queued w' id resume goal hw
  · replace hw : Function.update v.wait w (some .others) w' = _ := hw
    rw [Function.update_apply] at hw
    split at hw
    next => cases hw
    next => exact h.parked w' resume goal hw
  · cases holds.symm.trans (h.unscoped idle w').2

/-- The worker whose turn it is parks or requests a safepoint, and the barrier is not armed for the
second time. -/
lemma turn (h : v.Exclusive) (idle : v.safepoint.holder = none) (t : ThreadId)
    (resume : ThreadState) (rest : List WorkerId) :
    ((v.give w rest).leave w t resume .safepoint).2 = false ∧
      ((v.give w rest).leave w t resume .safepoint).1.Exclusive ∧
      ((v.give w rest).leave w t resume .safepoint).1.safepoint.requested = true := by
  have free : (v.give w rest).safepoint.requested = false := by
    show v.safepoint.requested = false
    rw [h.requested, idle]
    rfl
  have same : (v.give w rest).leave w t resume .safepoint =
      (((v.setState t resume).setWait w none).give w rest).request w := by
    unfold Scene.leave
    rw [if_neg (by rw [free]; exact nofun), if_pos rfl]
    rfl
  have resumed : ((v.setState t resume).setWait w none).Exclusive :=
    (h.setState t (.inr idle)).setWait (h.unscoped idle w).1 nofun (fun _ _ _ => nofun)
      fun _ _ => nofun
  rw [same]
  exact resumed.request idle rest

/-- A worker may wait for its turn. -/
lemma queueUp (h : v.Exclusive) (before : v.wait w ≠ some .others) (resume : ThreadState) :
    (v.queueUp w resume).Exclusive := by
  have longer : Scene.Exclusive { v with
      safepoint := { v.safepoint with queue := v.safepoint.queue ++ [w] } } :=
    ⟨h.armed, h.requested, h.holder, h.queued, h.parked, h.safe⟩
  exact longer.setWait before nofun (fun _ _ _ => nofun) fun _ _ => nofun

/-- A worker may attach without a safepoint of its own. -/
lemma attach (h : v.Exclusive) (unscoped : v.inScope w = false) : (v.attach w).Exclusive := by
  have manned (w' : WorkerId) (ht : v.thread w' ≠ none) : (v.attach w).thread w' ≠ none := by
    show Function.update v.thread w (some v.nextThread) w' ≠ none
    rw [Function.update_apply]
    split
    · exact nofun
    · exact ht
  refine ⟨h.armed, h.requested, h.holder, h.queued,
    fun w' resume goal hw => (h.parked w' resume goal hw).imp_right (manned w'),
    fun w' holds t mem other => ?_⟩
  -- The new thread has not left the state in which it comes.
  have ne : w' ≠ w := by
    rintro rfl
    cases unscoped.symm.trans holds
  show (Function.update v.state v.nextThread .new t).isSafe = true
  rw [Function.update_apply]
  split
  next => rfl
  next old =>
    have mem' : t ∈ v.registry := by
      rcases List.mem_append.1 mem with mem | mem
      · exact mem
      · exact absurd (List.mem_singleton.1 mem) old
    exact h.safe w' holds t mem' ((Function.update_of_ne ne _ _).symm.trans_ne other)

/-- A worker may detach without a safepoint of its own. -/
lemma detach (h : v.Exclusive) (free : v.wait w = none) (unscoped : v.inScope w = false) :
    Scene.Exclusive { v.setState t .terminated with
      registry := World.unregister v.registry t
      thread := Function.update v.thread w none } := by
  have h' := h.setState (x := .terminated) t (.inl rfl)
  refine ⟨h.armed, h.requested, h.holder, h.queued, fun w' resume goal hw => ?_,
    fun w' holds u mem other => ?_⟩
  · have ne : w' ≠ w := by
      rintro rfl
      cases free.symm.trans hw
    exact ⟨(h.parked w' resume goal hw).1,
      (Function.update_of_ne ne _ _).trans_ne (h.parked w' resume goal hw).2⟩
  · have ne : w' ≠ w := by
      rintro rfl
      cases unscoped.symm.trans holds
    have mem' : u ∈ v.registry :=
      List.mem_of_mem_erase ((SystemView.unregister_perm v.registry t).mem_iff.1 mem)
    exact h'.safe w' holds u mem' ((Function.update_of_ne ne _ _).symm.trans_ne other)

/-- The worker that waits for the others holds the safepoint once they are all in safe states. -/
lemma reach (h : v.Exclusive) (others : v.wait w = some .others)
    (safe : ∀ t ∈ v.registry, some t = v.thread w ∨ (v.state t).isSafe = true) :
    Scene.Exclusive { v.setWait w none with inScope := Function.update v.inScope w true } := by
  have turn := (h.holder w).2 (.inl others)
  refine ⟨h.armed, h.requested, fun w' => ?_, fun w' id resume goal hw => ?_,
    fun w' resume goal hw => ?_, fun w' holds t mem other => ?_⟩
  · show v.safepoint.holder = some w' ↔
      Function.update v.wait w none w' = _ ∨ Function.update v.inScope w true w' = true
    simp only [Function.update_apply]
    split
    next eq => simp [eq, turn]
    next => exact h.holder w'
  · replace hw : Function.update v.wait w none w' = _ := hw
    rw [Function.update_apply] at hw
    split at hw
    next => cases hw
    next => exact h.queued w' id resume goal hw
  · replace hw : Function.update v.wait w none w' = _ := hw
    rw [Function.update_apply] at hw
    split at hw
    next => cases hw
    next => exact h.parked w' resume goal hw
  · replace holds : Function.update v.inScope w true w' = true := holds
    rw [Function.update_apply] at holds
    split at holds
    next eq => exact (safe t mem).resolve_left fun own => other (eq ▸ own.symm)
    next => exact h.safe w' holds t mem other

/-- Only the worker that has the turn ends a safepoint, so the barrier is armed then. -/
lemma release (h : v.Exclusive) (holds : v.inScope w = true) (free : v.wait w = none) :
    (v.release w).2 = false ∧ (v.release w).1.Exclusive := by
  have turn := (h.holder w).2 (.inr holds)
  have only {w'} (h' : v.wait w' = some .others ∨ v.inScope w' = true) : w' = w :=
    Option.some.inj (((h.holder w').2 h').symm.trans turn)
  have armed : v.safepoint.barrier.armed = true := by
    rw [h.armed, h.requested, turn]
    rfl
  unfold Scene.release
  rw [if_pos armed]
  have unscoped (w' : WorkerId) : Function.update v.inScope w false w' = false := by
    rw [Function.update_apply]
    split
    next => rfl
    next ne => exact Bool.eq_false_iff.2 fun holds' => ne (only (.inr holds'))
  refine ⟨rfl, rfl, rfl, fun w' => ?_, h.queued, h.parked, fun w' holds' => ?_⟩
  · refine iff_of_false nofun ?_
    rintro (others | holds')
    · cases free.symm.trans (only (.inl others) ▸ others)
    · cases holds'.symm.trans (unscoped w')
  · cases holds'.symm.trans (unscoped w')

/-- Every step keeps the invariant, and no assertion of the barrier fails in it. -/
theorem step (h : v.Exclusive) (c : Step v p) : p.2 = false ∧ p.1.Exclusive := by
  have awake {w : WorkerId} (free : v.wait w = none) : v.wait w ≠ some .others :=
    fun others => nomatch free.symm.trans others
  cases c with
  | idle => exact ⟨rfl, h⟩
  | operate _ _ _ | exit _ _ _ _ _ | guard _ _ | skip =>
    exact ⟨rfl, h.armed, h.requested, h.holder, h.queued, h.parked, h.safe⟩
  | @block w t f id goal ht free _ _ _ _ other =>
    have queued : Scene.Exclusive
        { v with monitor := Function.update f id ((f id).enqueue t) } :=
      ⟨h.armed, h.requested, h.holder, h.queued, h.parked, h.safe⟩
    have blocked := queued.setState (x := .blocked) t (.inl rfl)
    refine ⟨rfl, blocked.setWait (awake free) nofun (fun _ _ _ eq => ?_) fun _ _ => nofun⟩
    cases eq
    exact other
  | enterRegion _ _ _ safe => exact ⟨rfl, h.setState _ (.inl safe)⟩
  | leaveRegion ht free => exact h.leave ht (awake free) nofun
  | poll ht free _ other => exact h.leave ht (awake free) other
  | attach detached free unscoped =>
    exact (h.attach unscoped).leave (Function.update_self ..) (awake free) nofun
  | detach _ free unscoped => exact ⟨rfl, h.detach free unscoped⟩
  | handed ht waits _ =>
    exact h.leave ht (fun others => nomatch waits.symm.trans others) (h.queued _ _ _ _ waits)
  | unpark ht waits _ =>
    exact h.leave ht (fun others => nomatch waits.symm.trans others) (h.parked _ _ _ waits).1
  | @queueUp w t _ free _ _ =>
    exact ⟨rfl, (h.setState (x := .blocked) t (.inl rfl)).queueUp (awake free) _⟩
  | queueUpDetached _ free _ => exact ⟨rfl, h.queueUp (awake free) _⟩
  | turn _ _ idle _ => exact (h.turn idle _ _ _).imp_right And.left
  | turnDetached _ _ idle _ => exact (h.request idle _).imp_right And.left
  | reach others safe => exact ⟨rfl, h.reach others safe⟩
  | release holds free => exact h.release holds free

/-- There is no safepoint in a new system. -/
lemma new (options : Options) : (World.new options).scene.Exclusive :=
  ⟨rfl, rfl, fun _ => ⟨nofun, fun | .inl others => nomatch others | .inr holds => nomatch holds⟩,
    fun _ _ _ _ => nofun, fun _ _ _ => nofun, fun _ => nofun⟩

end Scene.Exclusive

namespace Scene

variable {v : Scene} {w : WorkerId} {t : ThreadId}

/-- The worker waits at the barrier. -/
def Parked (v : Scene) (w : WorkerId) : Prop :=
  ∃ resume goal, v.wait w = some (.barrier resume goal)

/-- A new wait parks its own worker at most. -/
lemma parked_setWait {x : Option Wait} (w' : WorkerId) (parked : (v.setWait w x).Parked w') :
    (w' = w ∧ ∃ resume goal, x = some (.barrier resume goal)) ∨ w' ≠ w ∧ v.Parked w' := by
  obtain ⟨resume, goal, hw⟩ := parked
  replace hw : Function.update v.wait w x w' = _ := hw
  rw [Function.update_apply] at hw
  split at hw
  next eq => exact .inl ⟨eq, resume, goal, hw⟩
  next ne => exact .inr ⟨ne, resume, goal, hw⟩

/-- A thread that leaves a safe state is parked then only for a request. -/
lemma leave_parked {resume : ThreadState} {goal : Goal} (other : goal ≠ .safepoint) :
    (v.leave w t resume goal).1.safepoint = v.safepoint ∧
      ∀ w', (v.leave w t resume goal).1.Parked w' →
        v.safepoint.requested = true ∨ w' ≠ w ∧ v.Parked w' := by
  unfold leave
  split
  next requested => exact ⟨rfl, fun _ _ => .inl requested⟩
  next =>
    refine ⟨rfl, fun w' parked => .inr ?_⟩
    rcases parked_setWait w' parked with ⟨-, _, _, eq⟩ | old
    · cases eq
    · exact old

end Scene

namespace World

variable {s : World} {w : WorkerId}

/-- The scene after leaving a safe state. -/
lemma scene_leave (t : ThreadId) (resume : ThreadState) (goal : Goal) :
    (s.leave w t resume goal).1.scene = (s.scene.leave w t resume goal).1 :=
  congrArg Prod.fst (shown_leave ..)

/-- A wake leaves its worker parked only for a request. -/
lemma wake_parked (h : s.scene.Exclusive) :
    (s.wake w).1.safepoint = s.safepoint ∧ ∀ w', (s.wake w).1.scene.Parked w' →
      s.safepoint.requested = true ∨ w' ≠ w ∧ s.scene.Parked w' := by
  have left {t resume goal} (other : goal ≠ Goal.safepoint) :
      (s.leave w t resume goal).1.safepoint = s.safepoint ∧
        ∀ w', (s.leave w t resume goal).1.scene.Parked w' →
          s.safepoint.requested = true ∨ w' ≠ w ∧ s.scene.Parked w' := by
    have same : (s.leave w t resume goal).1.scene = _ := scene_leave t resume goal
    have parked : (s.leave w t resume goal).1.scene.safepoint = s.safepoint ∧ _ :=
      same ▸ Scene.leave_parked other
    exact parked
  have still (elsewhere : ¬ s.scene.Parked w) : s.safepoint = s.safepoint ∧
      ∀ w', s.scene.Parked w' → s.safepoint.requested = true ∨ w' ≠ w ∧ s.scene.Parked w' :=
    ⟨rfl, fun w' parked => .inr ⟨fun eq => elsewhere (eq ▸ parked), parked⟩⟩
  unfold wake
  split
  next t id resume goal ht hw =>
    split
    next => exact left (h.queued w id resume goal hw)
    next => exact still fun ⟨_, _, hw'⟩ => nomatch hw.symm.trans hw'
  next t resume goal ht hw =>
    split
    next armed => exact ⟨rfl, fun _ _ => .inl (h.armed.symm.trans armed)⟩
    next => exact left (h.parked w resume goal hw).1
  next none =>
    refine still fun ⟨resume, goal, hw⟩ => ?_
    obtain ⟨t, ht⟩ := Option.ne_none_iff_exists'.1 (h.parked w resume goal hw).2
    exact none t resume goal ht hw

/-- A turn changes nothing or ends with a request. -/
lemma grant_parked (h : s.scene.Exclusive) :
    (s.grant w).1 = s ∨ (s.grant w).1.safepoint.requested = true := by
  unfold grant
  split
  next next rest resume idle queue hw =>
    split
    next eq =>
      refine .inr ?_
      let turned : World :=
        { s with safepoint := { s.safepoint with holder := some w, queue := rest } }
      have e : turned.scene = s.scene.give w rest := rfl
      dsimp only
      split
      next t _ =>
        show (turned.leave w t resume .safepoint).1.scene.safepoint.requested = true
        rw [scene_leave, e]
        exact (h.turn idle t resume rest).2.2
      next =>
        show (shown (turned.request w)).1.safepoint.requested = true
        rw [shown_request, e]
        exact (h.request idle rest).2.2
    next => exact .inl rfl
  next => exact .inl rfl

/-- A safepoint that is reached parks nobody. -/
lemma reach_parked : (s.reach w).1.safepoint = s.safepoint ∧
    ∀ w', (s.reach w).1.scene.Parked w' → s.scene.Parked w' := by
  unfold reach
  split
  next =>
    split
    next =>
      refine ⟨rfl, fun w' parked => ?_⟩
      rw [scene_setScope] at parked
      have parked' : (s.scene.setWait w none).Parked w' := by
        rw [← scene_setWait]
        exact parked
      rcases Scene.parked_setWait w' parked' with ⟨-, _, _, eq⟩ | old
      · cases eq
      · exact old.2
    next => exact ⟨rfl, fun _ => id⟩
  next => exact ⟨rfl, fun _ => id⟩

/-- What the end of each wait keeps is kept by the end of all of them. -/
lemma sweep_keeps {P : World → Prop} {resumed : World → WorkerId → World × Progress}
    (step : ∀ s w, P s → P (resumed s w).1) (h : P s) (l : List WorkerId) :
    P (sweep resumed s l).1 := by
  induction l generalizing s with
  | nil => exact h
  | cons w l ih => exact ih (step s w h)

/-- The invariant that a world keeps while its waits come to an end. -/
def Orderly (s : World) : Prop := s.machine.WellMarked ∧ s.scene.Exclusive

/-- Every move keeps a world orderly. -/
lemma Orderly.move (h : s.Orderly) (x : Move) : (s.move x).1.Orderly := by
  have moved := move_moved h.1 x
  exact ⟨moved.marked, (h.2.step moved.step).2⟩

/-- Every worker of the list is woken, so it is parked then only for a request. -/
lemma sweep_wake (h : s.Orderly) (l : List WorkerId) :
    (sweep wake s l).1.safepoint = s.safepoint ∧ ∀ w', (sweep wake s l).1.scene.Parked w' →
      s.safepoint.requested = true ∨ w' ∉ l ∧ s.scene.Parked w' := by
  induction l generalizing s with
  | nil => exact ⟨rfl, fun _ parked => .inr ⟨nofun, parked⟩⟩
  | cons w l ih =>
    obtain ⟨same, rest⟩ := ih (h.move (.wake w))
    obtain ⟨same', first⟩ := wake_parked (w := w) h.2
    refine ⟨same.trans same', fun w' parked => ?_⟩
    rcases rest w' parked with requested | ⟨out, parked⟩
    · exact .inl (same' ▸ requested)
    · refine (first w' parked).imp_right fun ⟨ne, parked⟩ => ⟨fun mem => ?_, parked⟩
      rcases List.mem_cons.1 mem with eq | mem
      · exact ne eq
      · exact out mem

/-- Once every wait that is over has ended, a worker is parked only for a request. -/
lemma settle_parked (h : s.Orderly) (w : WorkerId) (parked : s.settle.1.scene.Parked w) :
    s.settle.1.safepoint.requested = true := by
  let P (s : World) : Prop :=
    s.Orderly ∧ ∀ w, s.scene.Parked w → s.safepoint.requested = true
  let all := List.range s.workers.size
  have woken : P (sweep wake s all).1 := by
    obtain ⟨same, parked⟩ := sweep_wake h all
    refine ⟨sweep_keeps (fun s w h => h.move (.wake w)) h _, fun w' parked' => ?_⟩
    rcases parked w' parked' with requested | ⟨out, resume, goal, hw⟩
    · exact same ▸ requested
    · -- There is no such worker.
      have beyond : s.workers.cells.size ≤ w' := by simpa [all, Store.size] using out
      have none : s.scene.wait w' = none := by
        show (s.workers.cells.getD w' default).wait = none
        rw [Array.getD_eq_getD_getElem?, Array.getElem?_eq_none beyond]
        rfl
      cases none.symm.trans hw
  have granted : P (sweep grant (sweep wake s all).1 all).1 := by
    refine sweep_keeps (fun s w h => ⟨h.1.move (.grant w), fun w' parked' => ?_⟩) woken _
    rcases grant_parked (w := w) h.1.2 with same | requested
    · rw [same] at parked' ⊢
      exact h.2 w' parked'
    · exact requested
  have reached : P (sweep reach (sweep grant (sweep wake s all).1 all).1 all).1 := by
    refine sweep_keeps (fun s w h => ⟨h.1.move (.reach w), fun w' parked' => ?_⟩) granted _
    obtain ⟨same, before⟩ := reach_parked (s := s) (w := w)
    rw [same]
    exact h.2 w' (before w' parked')
  exact reached.2 w parked

/-- What holds of safepoints at any time. -/
structure Excludes (s : World) : Prop where
  /-- At most one worker holds a safepoint. -/
  single : ∀ w w', (s.worker w).inScope = true → (s.worker w').inScope = true → w = w'
  armed : s.safepoint.barrier.armed = true ↔ s.safepoint.requested = true
  requested : s.safepoint.requested = true ↔ ∃ w, s.safepoint.holder = some w
  /-- The worker that has the turn has begun a safepoint: it waits for the others, or holds it. -/
  holder : ∀ w, s.safepoint.holder = some w ↔
    (s.worker w).wait = some .others ∨ (s.worker w).inScope = true
  /-- Whatever comes next, the barrier is armed and disarmed in turns. -/
  asserted : ∀ x, (s.move x).2 ≠ .failed .barrierArmed ∧ (s.move x).2 ≠ .failed .barrierNotArmed
  /-- After an operation and the waits that it ends, a worker is parked only for a request. -/
  parked : ∀ w a, (s.worker w).wait = none → ∀ w' resume goal,
    ((s.step w a).1.worker w').wait = some (.barrier resume goal) →
      (s.step w a).1.safepoint.requested = true
  /-- A worker that is still parked when there is none goes on as soon as it is woken. -/
  released : ∀ w resume goal, (s.worker w).wait = some (.barrier resume goal) →
    s.safepoint.requested = false → ∀ resume' goal',
      ((s.wake w).1.worker w).wait ≠ some (.barrier resume' goal')
  /-- From when a safepoint is reached to its end, all other threads are in safe states. -/
  safe : ∀ w, (s.worker w).inScope = true → ∀ t ∈ s.machine.registry,
    (s.worker w).thread ≠ some t → (s.stateOf t).isSafe = true

/-- An orderly world excludes all other threads from a safepoint. -/
lemma Orderly.excludes (h : s.Orderly) : s.Excludes := by
  have ex := h.2
  refine ⟨fun w w' holds holds' => ?_, ?_, ?_, ex.holder, fun x => ?_,
    fun w a free w' resume goal hw => ?_, fun w resume goal _ free resume' goal' hw => ?_, ex.safe⟩
  · have turn := (ex.holder w).2 (.inr holds)
    exact Option.some.inj (turn.symm.trans ((ex.holder w').2 (.inr holds')))
  · exact Bool.eq_iff_iff.1 ex.armed
  · have requested : s.safepoint.requested = s.safepoint.holder.isSome := ex.requested
    rw [requested, Option.isSome_iff_exists]
  · have calm : (s.move x).2.alarm = false := (ex.step (move_moved h.1 x).step).1
    constructor <;> intro failed <;> rw [failed] at calm <;> cases calm
  · have begun : (s.begin w a).1.Orderly := by
      rw [← move_act free]
      exact h.move (.act w a)
    have stepped : (s.step w a).1 = (s.begin w a).1.settle.1 := by
      simp only [World.step, free]
      rfl
    rw [stepped] at hw ⊢
    exact settle_parked begun w' ⟨resume, goal, hw⟩
  · rcases (wake_parked (w := w) ex).2 w ⟨resume', goal', hw⟩ with requested | ⟨ne, -⟩
    · cases free.symm.trans requested
    · exact ne rfl

end World

namespace Run

variable {rule : Rule} {options : Options} {s : World} {h : List Event}

/-- The world is orderly in every run. -/
lemma orderly (run : Run rule options s h) : s.Orderly :=
  ⟨run.wellMarked, run.keeps (P := Scene.Exclusive) (.new options) fun h c => (h.step c).2⟩

/-- Safepoints exclude all other threads, whatever a run does. -/
theorem safepoint_exclusion (run : Run rule options s h) : s.Excludes := run.orderly.excludes

/-- During a safepoint a thread is handed the lock that it waits for, another one ends its native
region, and a third one attaches. -/
def stopped : World × List Event :=
  (World.new (.ofMode .lightweight)).follow []
    [.addWorker, .addWorker, .addWorker, .addWorker, .act 0 .attach, .act 1 .attach, .addRecord 0,
      .addRecord 1, .act 0 (.allocate "shared" ⟨"Counter", 1, false⟩), .act 0 (.enter 0 0 false),
      .act 1 (.enter 0 1 false), .act 0 .beginNative, .act 2 .beginSafepoint, .grant 2, .reach 2,
      .act 0 (.exit 0 0 false), .wake 1, .act 0 .endNative, .act 3 .attach]

/-- The safepoint is held all the while, and no thread leaves its safe state. -/
theorem safepoint_exclusion_stopped : (stopped.1.worker 2).inScope = true ∧ stopped.1.Excludes :=
  ⟨by decide +kernel, safepoint_exclusion (.follow .new _ (anything.allows _ _ _))⟩

end Run

end ObjectLocks
