import ObjectLocks.Flag.Parsing

/-!
# Calls on a group of flags

A group is used by four calls: a flag is registered, the group is parsed, and two questions are
asked. Every call but parsing brings the group into being, unless it asks about no flag.
-/

namespace ObjectLocks

/-- A call on a group of flags. -/
inductive FlagCall where
  | register (f : Flag)
  /-- Parses the group, with a prefix to its names or without one. -/
  | parse (leader : Option String) (arguments : List String) (environment : List (String × String))
  /-- Asks of each of the names whether a flag of that name was ever given a value. -/
  | areSet (names : List String)
  /-- Asks for name and comment of every flag. -/
  | describe
deriving DecidableEq, Repr

inductive FlagAnswer where
  | done
  | rejected (cause : FlagError)
  | areSet (l : List Bool)
  | description (l : List (String × String))
deriving DecidableEq, Repr

structure FlagReport where
  answer : FlagAnswer
  /-- The arguments that were handed to the owners of flags. -/
  handled : List String
  notices : List Notice
deriving DecidableEq, Repr

namespace FlagGroup

def call (g : FlagGroup) : FlagCall → FlagGroup × FlagReport
  | .register f => (g.register f, ⟨.done, [], []⟩)
  | .parse leader arguments environment =>
    let (p, result) := g.parse leader arguments environment
    let answer := match result with
      | .ok () => .done
      | .error e => .rejected e
    (p.group, ⟨answer, p.handled.map Prod.snd, p.notices⟩)
  -- Without a name nothing is asked.
  | .areSet names => (if names = [] then g else g.touch, ⟨.areSet (names.map g.isSet), [], []⟩)
  | .describe => (g.touch, ⟨.description g.describe, [], []⟩)

end FlagGroup

end ObjectLocks
