import ObjectLocks.Proofs.FlagParsing
import ObjectLocks.Proofs.ParseOutcome

/-!
# Questions about flags

A question about a group of flags changes nothing that other calls can see, with one exception: it
brings the group into being. A group without flags can be parsed, but one that was never used
cannot. So of two sequences of calls that differ in questions only, all other calls have the same
reports and effects, unless a parse is made before the group exists in one of them but not in the
other.
-/

namespace ObjectLocks

namespace FlagCall

/-- Whether a call only asks. -/
def isQuery : FlagCall → Bool
  | areSet _ | describe => true
  | register _ | parse .. => false

/-- Whether a call parses the group. -/
def isParse : FlagCall → Bool
  | parse .. => true
  | register _ | areSet _ | describe => false

/-- Whether a call brings the group into being. -/
def creates : FlagCall → Bool
  | register _ | describe => true
  | areSet names => !names.isEmpty
  | parse .. => false

/-- The calls that do more than to ask. -/
def commands (l : List FlagCall) : List FlagCall := l.filter fun c => !c.isQuery

/-- The parses that are made before a call brings the group into being. -/
def early (l : List FlagCall) : List FlagCall := (l.takeWhile fun c => !c.creates).filter isParse

/-- How many parses are made before a call brings the group into being. -/
def earlyParses (l : List FlagCall) : ℕ := (early l).length

/-- The calls from the one on that brings the group into being. -/
def created (l : List FlagCall) : List FlagCall := l.dropWhile fun c => !c.creates

end FlagCall

/-- Whether a report tells that nothing was ever registered. -/
def FlagReport.isRefusal (r : FlagReport) : Bool :=
  match r.answer with
  | .rejected (.noFlags _) => true
  | _ => false

namespace FlagGroup

open FlagCall (commands early earlyParses created)

/-- Every call with its report and what it leaves of the group. -/
def history (g : FlagGroup) : List FlagCall → List (FlagCall × FlagReport × FlagGroup)
  | [] => []
  | c :: l => (c, (g.call c).2, (g.call c).1) :: (g.call c).1.history l

/-- The history of the calls that do more than to ask. -/
def effects (g : FlagGroup) (l : List FlagCall) : List (FlagCall × FlagReport × FlagGroup) :=
  (g.history l).filter fun entry => !entry.1.isQuery

variable {g : FlagGroup} {c : FlagCall} {l l' : List FlagCall}

/-- A question leaves no entry. -/
lemma effects_query (query : c.isQuery = true) : g.effects (c :: l) = (g.call c).1.effects l :=
  List.filter_cons_of_neg (by simpa using query)

/-- Every other call leaves one. -/
lemma effects_command (command : ¬ c.isQuery = true) :
    g.effects (c :: l) = (c, (g.call c).2, (g.call c).1) :: (g.call c).1.effects l :=
  List.filter_cons_of_pos (by simpa using command)

/-- A question about a group in use changes nothing. -/
lemma call_query (used : g.used = true) (query : c.isQuery = true) : (g.call c).1 = g := by
  have touched : g.touch = g := by
    unfold touch
    rw [← used]
  cases c with
  | register f => cases query
  | parse leader arguments environment => cases query
  | areSet names =>
    show (if names = [] then g else g.touch) = g
    rw [touched, ite_self]
  | describe => exact touched

/-- A call leaves a group in use. -/
lemma used_call (used : g.used = true) (c : FlagCall) : (g.call c).1.used = true := by
  cases c with
  | register f =>
    show (g.register f).used = true
    unfold register
    dsimp only
    split <;> rfl
  | parse leader arguments environment => exact (g.used_parse ..).trans used
  | areSet names => exact (congrArg FlagGroup.used (call_query used rfl)).trans used
  | describe => rfl

/-- Questions about a group in use can be left out. -/
lemma effects_of_used (used : g.used = true) (l : List FlagCall) :
    g.effects l = g.effects (commands l) := by
  induction l generalizing g with
  | nil => rfl
  | cons c l ih =>
    by_cases query : c.isQuery = true
    · rw [effects_query query, call_query used query, ih used, commands, commands,
        List.filter_cons_of_neg (by simpa using query)]
    · rw [effects_command query, ih (used_call used c), commands, commands,
        List.filter_cons_of_pos (by simpa using query), effects_command query]

/-- No call on a group in use is refused because nothing was registered. -/
lemma call_not_refused (used : g.used = true) (c : FlagCall) :
    (g.call c).2.isRefusal = false := by
  cases c with
  | register f => rfl
  | parse leader arguments environment =>
    have parse := g.parse_eq leader arguments environment
    unfold call
    cases verdict : g.verdict leader arguments with
    | ok => simp [parse, verdict, FlagReport.isRefusal]
    | error e =>
      rcases verdict_eq_error verdict with ⟨unused, -⟩ | ⟨-, -, rfl⟩ | ⟨-, a, l', -, rfl⟩
      · rw [used] at unused
        cases unused
      · simp [parse, verdict, FlagReport.isRefusal]
      · simp [parse, verdict, FlagReport.isRefusal]
  | areSet names => rfl
  | describe => rfl

/-- So none of the calls that do more than to ask is. -/
lemma effects_not_refused (used : g.used = true) (l : List FlagCall) :
    ∀ entry ∈ g.effects l, entry.2.1.isRefusal = false := by
  induction l generalizing g with
  | nil => exact fun _ => nofun
  | cons c l ih =>
    by_cases query : c.isQuery = true
    · rw [effects_query query, call_query used query]
      exact ih used
    · rw [effects_command query]
      intro entry he
      rcases List.mem_cons.1 he with rfl | he
      · exact call_not_refused used c
      · exact ih (used_call used c) entry he

/-- A parse of a group that nobody has used yet is refused. -/
lemma call_unused (unused : g.used = false) (leader : Option String) (arguments : List String)
    (environment : List (String × String)) : g.call (.parse leader arguments environment) =
      (g, ⟨.rejected (.noFlags g.name), [], []⟩) := by
  simp [call, parse, unused, FlagParsing.start]

/-- The parses that are made before the group is brought into being are refused. All that follows is
as if the group had been in use. -/
lemma effects_of_unused (unused : g.used = false) (l : List FlagCall) :
    g.effects l = (early l).map (fun c => (c, ⟨.rejected (.noFlags g.name), [], []⟩, g)) ++
      g.touch.effects (created l) := by
  induction l with
  | nil => rfl
  | cons c l ih =>
    cases c with
    | register f => rfl
    | parse leader arguments environment =>
      rw [early, List.takeWhile_cons_of_pos rfl, List.filter_cons_of_pos rfl, created,
        List.dropWhile_cons_of_pos rfl, List.map_cons, List.cons_append, ← early, ← created, ← ih,
        effects_command (by simp [FlagCall.isQuery]), call_unused unused]
    | areSet names =>
      cases names with
      | nil => exact (effects_query rfl).trans ih
      | cons name names => rfl
    | describe => rfl

/-- No other parse is refused for that reason. -/
lemma countP_effects (unused : g.used = false) (l : List FlagCall) :
    (g.effects l).countP (fun entry => entry.2.1.isRefusal) = earlyParses l := by
  have none : (g.touch.effects (created l)).countP (fun entry => entry.2.1.isRefusal) = 0 :=
    List.countP_eq_zero.2 fun entry he => by simp [effects_not_refused rfl _ entry he]
  rw [effects_of_unused unused, List.countP_append, none, List.countP_map]
  exact List.countP_eq_length.2 fun c _ => rfl

/-- The calls that do more than to ask are the early parses and what follows of such calls. -/
lemma commands_eq (l : List FlagCall) : commands l = early l ++ commands (created l) := by
  have parses : commands (l.takeWhile fun c => !c.creates) = early l := by
    refine List.filter_congr fun c hc => ?_
    have absent := List.mem_takeWhile_imp hc
    cases c with
    | register f => cases absent
    | parse leader arguments environment => rfl
    | areSet names => rfl
    | describe => cases absent
  rw [← parses, created, commands, commands, commands, ← List.filter_append,
    List.takeWhile_append_dropWhile]

/-- Questions that are put in or left out change nothing else about a sequence of calls if and only
if as many parses are made as before while nobody has used the group yet. -/
theorem queries_read_only (g : FlagGroup) (same : commands l = commands l') :
    g.effects l = g.effects l' ↔ g.used = true ∨ earlyParses l = earlyParses l' := by
  constructor
  · intro equal
    cases used : g.used with
    | true => exact .inl rfl
    | false =>
      right
      rw [← countP_effects used, ← countP_effects used, equal]
  · intro h
    cases used : g.used with
    | true => rw [effects_of_used used, same, ← effects_of_used used]
    | false =>
      have early : earlyParses l = earlyParses l' := h.resolve_left (by simp [used])
      rw [commands_eq l, commands_eq l'] at same
      obtain ⟨parses, rest⟩ := List.append_inj same early
      rw [effects_of_unused used, effects_of_unused used, parses, effects_of_used rfl, rest,
        ← effects_of_used rfl]

/-- A group that nobody has used yet is described before a flag is registered. That makes no
difference to a parse after the registration, but it does to one that comes first. -/
theorem queries_read_only_created :
    let verbose : Flag := ⟨"verbose", none, "Print more", .bool false, false⟩
    let g := unused "Painter"
    g.effects [.parse none [] [], .describe, .register verbose, .parse none ["--verbose"] []] =
      g.effects [.parse none [] [], .register verbose, .areSet ["verbose"],
        .parse none ["--verbose"] []] ∧
    g.effects [.describe, .parse none [] []] ≠ g.effects [.parse none [] []] := by
  intro verbose g
  have asked : commands [.describe, .parse none [] []] = commands [.parse none [] []] := rfl
  refine ⟨(g.queries_read_only rfl).2 (.inr rfl), fun equal => ?_⟩
  rcases (g.queries_read_only asked).1 equal with used | early
  · cases used
  · cases early

end FlagGroup

end ObjectLocks
