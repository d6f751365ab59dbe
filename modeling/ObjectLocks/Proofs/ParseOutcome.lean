import Mathlib.Data.List.TakeWhile
import ObjectLocks.Proofs.Assignments

/-!
# What a parse comes to

A parse is told by two things: the assignments that it makes, in turn, and how it ends. Both depend
on how the flags are addressed, but not on what they hold, so they are the same whatever was
assigned before.
-/

namespace ObjectLocks

namespace Assignment

/-- The assignments of arguments, in the order in which they are read. -/
def ofArguments (leader : Option String) (arguments : List String) : List Assignment :=
  (FlagParsing.sorted arguments).filterMap (ofArgument? leader)

end Assignment

/-- A parse that ends with a result. -/
def FlagParsing.ended (p : FlagParsing) : Except FlagError Unit → FlagParsing
  | .ok () => p.finish
  | .error _ => p

namespace FlagGroup

open Assignment (ofArguments ofVariable? isKnown)

/-- How a parse ends. -/
def verdict (g : FlagGroup) (leader : Option String) (arguments : List String) :
    Except FlagError Unit :=
  if g.used = false then .error (.noFlags g.name)
  else if g.parsed = true then .error (.alreadyParsed g.name)
  else
    match (ofArguments leader arguments).dropWhile (isKnown g.flags) with
    | [] => .ok ()
    | a :: _ => .error (.unknown a.name)

/-- The assignments that a parse makes before it ends. -/
def made (g : FlagGroup) (leader : Option String) (arguments : List String)
    (environment : List (String × String)) : List Assignment :=
  if g.used = true ∧ g.parsed = false then
    environment.filterMap (ofVariable? leader) ++
      (ofArguments leader arguments).takeWhile (isKnown g.flags)
  else []

/-- A group after a list of assignments. -/
def assign (g : FlagGroup) (l : List Assignment) : FlagGroup :=
  { g with flags := assigned g.flags l }

/-- A parse makes its assignments and ends. -/
lemma parse_eq (g : FlagGroup) (leader : Option String) (arguments : List String)
    (environment : List (String × String)) :
    g.parse leader arguments environment =
      (((FlagParsing.start g).after (g.made leader arguments environment)).ended
        (g.verdict leader arguments), g.verdict leader arguments) := by
  have same : isKnown ((FlagParsing.start g).after
      (environment.filterMap (ofVariable? leader))).group.flags = isKnown g.flags :=
    funext (isKnown_assigned g.flags _)
  unfold parse verdict made
  cases used : g.used with
  | false => simp [FlagParsing.after_nil, FlagParsing.ended]
  | true =>
    cases parsed : g.parsed with
    | true => simp [FlagParsing.after_nil, FlagParsing.ended]
    | false =>
      simp only [FlagParsing.readVariables_eq, FlagParsing.readArguments_eq, same,
        FlagParsing.after_after]
      show (match (ofArguments leader arguments).dropWhile (isKnown g.flags) with
        | [] => _
        | a :: _ => _) = _
      cases unknown : (ofArguments leader arguments).dropWhile (isKnown g.flags) with
      | nil =>
        rw [List.takeWhile_eq_self_iff.2 (List.dropWhile_eq_nil_iff.1 unknown)]
        rfl
      | cons a rest => rfl

/-- Earlier assignments leave alone which assignments a parse makes. -/
lemma made_assign (g : FlagGroup) (l : List Assignment) (leader : Option String)
    (arguments : List String) (environment : List (String × String)) :
    (g.assign l).made leader arguments environment = g.made leader arguments environment := by
  have same : isKnown (g.assign l).flags = isKnown g.flags := funext (isKnown_assigned g.flags l)
  unfold made
  rw [same]
  rfl

/-- Earlier assignments leave alone how a parse ends. -/
lemma verdict_assign (g : FlagGroup) (l : List Assignment) (leader : Option String)
    (arguments : List String) :
    (g.assign l).verdict leader arguments = g.verdict leader arguments := by
  have same : isKnown (g.assign l).flags = isKnown g.flags := funext (isKnown_assigned g.flags l)
  unfold verdict
  rw [same]
  rfl

section

variable (g : FlagGroup) (l : List Assignment) (leader : Option String) (arguments : List String)
  (environment : List (String × String))

/-- The handlers get the arguments of the assignments that a parse makes. -/
lemma handled_parse : (g.parse leader arguments environment).1.handled =
    (g.made leader arguments environment).filterMap (Assignment.handed? g.flags) := by
  rw [parse_eq]
  cases g.verdict leader arguments <;> rfl

/-- A parse warns of the assignments that it makes. -/
lemma notices_parse : (g.parse leader arguments environment).1.notices =
    (g.made leader arguments environment).filterMap (Assignment.warning? g.flags) := by
  rw [parse_eq]
  cases g.verdict leader arguments <;> rfl

/-- A parse does not bring a group into being. -/
lemma used_parse : (g.parse leader arguments environment).1.group.used = g.used := by
  rw [parse_eq]
  cases g.verdict leader arguments <;> rfl

/-- The flags take the assignments that a parse makes. -/
lemma flags_parse : (g.parse leader arguments environment).1.group.flags =
    assigned g.flags (g.made leader arguments environment) := by
  rw [parse_eq]
  cases g.verdict leader arguments <;> rfl

end

variable {g : FlagGroup} {leader : Option String} {arguments : List String} {e : FlagError}

/-- The first parse of a group is successful unless an option names no flag. -/
lemma verdict_eq_ok : g.verdict leader arguments = .ok () ↔
    (g.used = true ∧ g.parsed = false) ∧
      ∀ a ∈ ofArguments leader arguments, a.isKnown g.flags = true := by
  rw [← List.dropWhile_eq_nil_iff]
  unfold verdict
  split
  next unused => simp [unused]
  next used =>
    split
    next parsed => simp [parsed]
    next unparsed =>
      rw [and_iff_right ⟨Bool.not_eq_false _ ▸ used, Bool.eq_false_iff.2 unparsed⟩]
      split
      next known => simp [known]
      next a rest unknown => simp [unknown]

/-- Why a parse fails. -/
lemma verdict_eq_error (h : g.verdict leader arguments = .error e) :
    (g.used = false ∧ e = .noFlags g.name) ∨
      (g.used = true ∧ g.parsed = true ∧ e = .alreadyParsed g.name) ∨
      (g.used = true ∧ g.parsed = false) ∧ ∃ a l',
        (ofArguments leader arguments).dropWhile (isKnown g.flags) = a :: l' ∧
          e = .unknown a.name := by
  unfold verdict at h
  cases used : g.used with
  | false =>
    rw [if_pos used] at h
    cases h
    exact .inl ⟨rfl, rfl⟩
  | true =>
    rw [if_neg (by simp [used])] at h
    cases parsed : g.parsed with
    | true =>
      rw [if_pos parsed] at h
      cases h
      exact .inr (.inl ⟨rfl, rfl, rfl⟩)
    | false =>
      rw [if_neg (by simp [parsed])] at h
      split at h
      next => cases h
      next a l' unknown =>
        cases h
        exact .inr (.inr ⟨⟨rfl, rfl⟩, a, l', unknown, rfl⟩)

end FlagGroup

end ObjectLocks
