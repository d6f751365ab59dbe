import ObjectLocks.Proofs.FlagParsing
import ObjectLocks.Proofs.ParseOutcome
import ObjectLocks.SyncFlags

/-!
# Failed parses

A parse that comes across an unknown flag fails, but what it has done by then is not undone: the
assignments of the environment stay made, and so do those of the arguments that are read before the
unknown one. The group can still be parsed. A later parse ends as it would have ended without the
failed one. What is left of the failed one are the flags that only it assigned.
-/

namespace ObjectLocks

/-- A flag that takes a value has forgotten the earlier ones. -/
lemma Flag.takes_append {values' : List FlagValue} (some : values' ≠ []) (f : Flag)
    (values : List FlagValue) : f.takes (values ++ values') = f.takes values' := by
  obtain ⟨v, values', rfl⟩ := List.exists_cons_of_ne_nil some
  unfold takes
  rw [List.getLast?_append_of_ne_nil _ some]
  simp

/-- Assignments that were made before leave their mark on the flags that get no value. -/
lemma getElem?_assigned_assigned (flags : List Flag) (l l' : List Assignment) (i : ℕ) :
    (assigned (assigned flags l) l')[i]? =
      if l'.any fun a => (a.valueFor? flags i).isSome then (assigned flags l')[i]?
      else (assigned flags l)[i]? := by
  have none_iff : l'.filterMap (Assignment.valueFor? flags i) = [] ↔
      ¬ (l'.any fun a => (a.valueFor? flags i).isSome) = true := by
    simp [List.filterMap_eq_nil_iff]
  rw [assigned_append, getElem?_assigned, getElem?_assigned, getElem?_assigned,
    List.filterMap_append]
  split
  next some =>
    have some' : l'.filterMap (Assignment.valueFor? flags i) ≠ [] :=
      fun none => none_iff.1 none some
    simp only [Flag.takes_append some']
  next none => rw [none_iff.2 none, List.append_nil]

/-- A flag that gets no value stays as it is. -/
lemma getElem?_assigned_of_none {flags : List Flag} {l : List Assignment} {i : ℕ}
    (none : ¬ (l.any fun a => (a.valueFor? flags i).isSome) = true) :
    (assigned flags l)[i]? = flags[i]? := by
  have same : assigned flags [] = flags := assigned_of_none flags [] fun _ _ => nofun
  conv_lhs => rw [← same]
  rw [getElem?_assigned_assigned, if_neg none, same]

namespace FlagGroup

open Assignment (ofArguments ofVariable? isKnown)
open FlagParsing (sorted)

/-- Whether a parse gives the flag in place `i` a value. -/
def assigns (g : FlagGroup) (leader : Option String) (arguments : List String)
    (environment : List (String × String)) (i : ℕ) : Bool :=
  (g.made leader arguments environment).any fun a => (a.valueFor? g.flags i).isSome

/-- How a parse of the group `h`, which a failed parse of `g` left, compares with the same parse of
`g`. -/
structure Retried (g h : FlagGroup) (leader : Option String) (arguments : List String)
    (environment : List (String × String)) : Prop where
  result : (h.parse leader arguments environment).2 = (g.parse leader arguments environment).2
  handled : (h.parse leader arguments environment).1.handled =
    (g.parse leader arguments environment).1.handled
  notices : (h.parse leader arguments environment).1.notices =
    (g.parse leader arguments environment).1.notices
  group : (h.parse leader arguments environment).1.group =
    { (g.parse leader arguments environment).1.group with
      flags := (h.parse leader arguments environment).1.group.flags }
  /-- The flags that get a value are the same, and all others are as the failed parse left them. -/
  flags : ∀ i, (h.parse leader arguments environment).1.group.flags[i]? =
    if g.assigns leader arguments environment i then
      (g.parse leader arguments environment).1.group.flags[i]?
    else h.flags[i]?
  /-- Nothing is left of the failed parse if all the flags that it changed get a value again. -/
  undone : (∀ i, h.flags[i]? = g.flags[i]? ∨ g.assigns leader arguments environment i = true) →
    (h.parse leader arguments environment).1.group = (g.parse leader arguments environment).1.group

/-- What a parse `p` of a group that failed with the error `e` has done. -/
structure Failed (g : FlagGroup) (leader : Option String) (arguments : List String)
    (environment : List (String × String)) (p : FlagParsing) (e : FlagError) : Prop where
  /-- Nothing, unless an option names no flag. -/
  refused : (∀ name, e ≠ .unknown name) → p = .start g ∧
    (g.used = false ∧ e = .noFlags g.name ∨
      g.used = true ∧ g.parsed = true ∧ e = .alreadyParsed g.name)
  /-- If one does, the assignments of the environment are made, and those of the options before the
  first such one. -/
  stopped : ∀ name, e = .unknown name → (g.used = true ∧ g.parsed = false) ∧
    ∃ l a l', ofArguments leader arguments = l ++ a :: l' ∧
      (∀ b ∈ l, b.isKnown g.flags = true) ∧ a.isKnown g.flags = false ∧ a.name = name ∧
      p = (FlagParsing.start g).after (environment.filterMap (ofVariable? leader) ++ l)
  /-- Nothing about the group has changed but its flags. -/
  group : p.group = { g with flags := p.group.flags }
  retried : ∀ leader arguments environment, g.Retried p.group leader arguments environment
  /-- A system that is built fails in the same way, and keeps the last locking mode that was handed
  over. -/
  build : ∀ mode, leader = some SyncFlags.leader → (∀ name, e ≠ .alreadyParsed name) →
    (SyncFlags.mk g mode).build arguments environment =
      (⟨p.group, (p.handled.getLast?.map Prod.snd).or mode⟩, p.notices, .error (.flags e))

variable {g : FlagGroup} {leader : Option String} {arguments : List String}
  {environment : List (String × String)} {p : FlagParsing} {e : FlagError}

/-- A parse of a group to which assignments were made makes the same ones after them. -/
lemma retried (g : FlagGroup) (l : List Assignment) (leader : Option String)
    (arguments : List String) (environment : List (String × String)) :
    g.Retried (g.assign l) leader arguments environment := by
  have flags (i : ℕ) : ((g.assign l).parse leader arguments environment).1.group.flags[i]? =
      if g.assigns leader arguments environment i then
        (g.parse leader arguments environment).1.group.flags[i]?
      else (g.assign l).flags[i]? := by
    rw [flags_parse, flags_parse, made_assign]
    exact getElem?_assigned_assigned ..
  -- But for its flags the group does not remember the earlier assignments.
  have group : ((g.assign l).parse leader arguments environment).1.group =
      { (g.parse leader arguments environment).1.group with
        flags := ((g.assign l).parse leader arguments environment).1.group.flags } := by
    rw [parse_eq, parse_eq, verdict_assign]
    cases g.verdict leader arguments <;> rfl
  constructor
  case result => rw [parse_eq, parse_eq, verdict_assign]
  case handled =>
    rw [handled_parse, handled_parse, made_assign]
    exact List.filterMap_congr fun a _ => handed?_assigned g.flags l a
  case notices =>
    rw [notices_parse, notices_parse, made_assign]
    exact List.filterMap_congr fun a _ => warning?_assigned g.flags l a
  case group => exact group
  case flags => exact flags
  case undone =>
    -- A flag that an earlier assignment changed is assigned again.
    intro changed
    have same : ((g.assign l).parse leader arguments environment).1.group.flags =
        (g.parse leader arguments environment).1.group.flags := by
      ext1 i
      rw [flags]
      split
      next => rfl
      next none =>
        rw [(changed i).resolve_right none, flags_parse]
        exact (getElem?_assigned_of_none none).symm
    rw [group, same]

/-- A system is not built if its flags cannot be parsed. -/
lemma build_eq (mode : Option String)
    (failed : g.parse (some SyncFlags.leader) arguments environment = (p, .error e))
    (first : ∀ name, e ≠ .alreadyParsed name) :
    (SyncFlags.mk g mode).build arguments environment =
      (⟨p.group, (p.handled.getLast?.map Prod.snd).or mode⟩, p.notices, .error (.flags e)) := by
  have parse : (SyncFlags.mk g mode).parse (some SyncFlags.leader) arguments environment =
      (⟨p.group, (p.handled.getLast?.map Prod.snd).or mode⟩, p.notices, .error e) := by
    unfold SyncFlags.parse
    simp only [failed]
    cases p.handled.getLast? <;> rfl
  unfold SyncFlags.build SyncFlags.readOptions
  rw [parse]
  cases e with
  | unknown name => rfl
  | alreadyParsed name => exact absurd rfl (first name)
  | noFlags name => rfl

/-- A parse that fails is not undone. It has made the assignments before the unknown flag, and a
later parse goes on from there. -/
theorem failed_parse (failed : g.parse leader arguments environment = (p, .error e)) :
    g.Failed leader arguments environment p e := by
  have parse := g.parse_eq leader arguments environment
  rw [failed, Prod.mk.injEq] at parse
  obtain ⟨eq, verdict⟩ := parse
  rw [← verdict] at eq
  have group : p.group = g.assign (g.made leader arguments environment) := congrArg _ eq
  have error := verdict_eq_error verdict.symm
  constructor
  case refused =>
    intro known
    -- No option is unknown, so the parse was refused before it made any assignment.
    have none : g.made leader arguments environment = [] := by
      refine if_neg ?_
      rcases error with ⟨unused, -⟩ | ⟨-, parsed, -⟩ | ⟨-, a, -, -, unknown⟩
      · simp [unused]
      · simp [parsed]
      · exact absurd unknown (known a.name)
    rw [none] at eq
    refine ⟨eq.trans (FlagParsing.after_nil _), ?_⟩
    rcases error with unused | parsed | ⟨-, a, -, -, unknown⟩
    · exact .inl unused
    · exact .inr parsed
    · exact absurd unknown (known a.name)
  case stopped =>
    rintro name rfl
    rcases error with ⟨-, none⟩ | ⟨-, -, none⟩ | ⟨first, a, l', split, unknown⟩
    · cases none
    · cases none
    · -- The known options come first, and the first unknown one stops the parse.
      refine ⟨first, (ofArguments leader arguments).takeWhile (isKnown g.flags), a, l', ?_, ?_, ?_,
        (FlagError.unknown.inj unknown).symm, ?_⟩
      · rw [← split, List.takeWhile_append_dropWhile]
      · exact fun b hb => List.mem_takeWhile_imp hb
      · have head := List.find?_not_eq_head?_dropWhile (isKnown g.flags)
          (ofArguments leader arguments)
        rw [split] at head
        simpa using List.find?_some head
      · rw [eq, made, if_pos first]
        rfl
  case group => rw [group]; rfl
  case retried =>
    intro leader' arguments' environment'
    rw [group]
    exact retried ..
  case build =>
    rintro mode rfl first
    exact build_eq mode failed first

/-- A parse of given arguments that comes across an unknown flag. -/
lemma parse_unknown (named known rest : List Assignment) (a : Assignment) {order : List String}
    (first : g.used = true ∧ g.parsed = false) (inOrder : sorted arguments = order)
    (assigning : environment.filterMap (ofVariable? leader) = named)
    (options : order.filterMap (Assignment.ofArgument? leader) = known ++ a :: rest)
    (all : ∀ b ∈ known, b.isKnown g.flags = true) (unknown : a.isKnown g.flags = false) :
    g.parse leader arguments environment =
      ((FlagParsing.start g).after (named ++ known), .error (.unknown a.name)) := by
  have drop : (ofArguments leader arguments).dropWhile (isKnown g.flags) = a :: rest := by
    rw [ofArguments, inOrder, options, List.dropWhile_append_of_pos all]
    exact List.dropWhile_cons_of_neg (by simp [unknown])
  have take : (ofArguments leader arguments).takeWhile (isKnown g.flags) = known := by
    rw [ofArguments, inOrder, options, List.takeWhile_append_of_pos all,
      List.takeWhile_cons_of_neg (by simp [unknown]), List.append_nil]
  rw [parse_eq, made, if_pos first, take, assigning, verdict, drop]
  simp [first.1, first.2, FlagParsing.ended]

/-- The color, the verbosity and the number of spins are changed before the unknown flag turns up.
Nothing is left of that if a later parse gives them all a value. -/
theorem failed_parse_halfway : ∃ p,
    painter.parse none ["--verbose", "--zzz", "--color=blue"] [("SPINS", "3")] =
      (p, .error (.unknown "zzz")) ∧
    p.handled = [("color", "blue")] ∧ p.group.flags ≠ painter.flags ∧
    (p.group.parse none ["--no-verbose", "--color=red", "--spins=5"] []).1.group =
      (painter.parse none ["--no-verbose", "--color=red", "--spins=5"] []).1.group := by
  have order : sorted ["--verbose", "--zzz", "--color=blue"] =
      ["--color=blue", "--verbose", "--zzz"] :=
    (FlagParsing.eq_sorted (by decide +kernel) (by decide +kernel)).symm
  have again : sorted ["--no-verbose", "--color=red", "--spins=5"] =
      ["--color=red", "--no-verbose", "--spins=5"] :=
    (FlagParsing.eq_sorted (by decide +kernel) (by decide +kernel)).symm
  have failed : painter.parse none ["--verbose", "--zzz", "--color=blue"] [("SPINS", "3")] =
      (_, .error (.unknown "zzz")) :=
    parse_unknown [⟨false, "spins", "3"⟩]
      [⟨false, "color", "blue"⟩, ⟨false, "verbose", "true"⟩] [] ⟨false, "zzz", "true"⟩
      ⟨rfl, rfl⟩ order (by decide +kernel) (by decide +kernel) (by decide +kernel)
      (by decide +kernel)
  refine ⟨_, failed, by decide +kernel, by decide +kernel,
    ((failed_parse failed).retried _ _ _).undone fun i => ?_⟩
  rw [assigns, made, ofArguments, again]
  rcases Nat.lt_or_ge i 4 with small | large
  · decide +kernel +revert
  · exact .inl (by rw [List.getElem?_eq_none large, List.getElem?_eq_none large])

/-- A system cannot be built because of an unknown flag, but the locking mode and two other options
are those that it was to have. Built again with nothing asked for, it has them still. -/
theorem failed_parse_not_undone : ∃ flags flags' notices,
    flags = SyncFlags.initial "SyncFlags" ∧
    flags.build ["--objsync:monitor_spins=7", "--objsync:locking_mode=legacy", "--objsync:zzz"]
      [("OBJSYNC_FAST_LOCK_SPINS", "3")] = (flags', notices, .error (.flags (.unknown "zzz"))) ∧
    (flags.mode = none ∧ flags'.mode = some "legacy") ∧
    (flags.group.isSet "monitor_spins" = false ∧ flags'.group.isSet "monitor_spins" = true) ∧
    (flags.number "monitor_spins" = 64 ∧ flags'.number "monitor_spins" = 7) ∧
    (flags.readOptions [] []).2.2 = .ok (.ofMode .lightweight) ∧
    (flags'.readOptions [] []).2.2 = .ok ⟨.legacy, false, 7, 3⟩ := by
  have order : sorted ["--objsync:monitor_spins=7", "--objsync:locking_mode=legacy",
      "--objsync:zzz"] = ["--objsync:locking_mode=legacy", "--objsync:monitor_spins=7",
        "--objsync:zzz"] :=
    (FlagParsing.eq_sorted (by decide +kernel) (by decide +kernel)).symm
  have alone : sorted [] = [] := (FlagParsing.eq_sorted (.refl _) .nil).symm
  have failed : (SyncFlags.initial "SyncFlags").group.parse (some SyncFlags.leader)
      ["--objsync:monitor_spins=7", "--objsync:locking_mode=legacy", "--objsync:zzz"]
      [("OBJSYNC_FAST_LOCK_SPINS", "3")] = (_, .error (.unknown "zzz")) :=
    parse_unknown [⟨false, "fast_lock_spins", "3"⟩]
      [⟨false, "locking_mode", "legacy"⟩, ⟨false, "monitor_spins", "7"⟩] []
      ⟨false, "zzz", "true"⟩ ⟨rfl, rfl⟩ order (by decide +kernel) (by decide +kernel)
      (by decide +kernel) (by decide +kernel)
  refine ⟨_, _, _, rfl, build_eq none failed nofun, ?_, ?_, ?_, ?_, ?_⟩
  · decide +kernel
  · decide +kernel
  · decide +kernel
  · rw [SyncFlags.readOptions, SyncFlags.parse, parse, alone]
    decide +kernel
  · rw [SyncFlags.readOptions, SyncFlags.parse, parse, alone]
    decide +kernel

end FlagGroup

end ObjectLocks
