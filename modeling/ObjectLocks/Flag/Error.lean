/-!
# Flag errors

Why a group of flags could not be parsed.
-/

namespace ObjectLocks

/-- Why parsing a group of flags fails. -/
inductive FlagError where
  /-- An argument names no flag of the group. -/
  | unknown (name : String)
  /-- The group was parsed before. -/
  | alreadyParsed (group : String)
  /-- Nothing was ever registered in the group. -/
  | noFlags (group : String)
deriving DecidableEq, Repr

def FlagError.message : FlagError → String
  | unknown name => s!"unknown flag: {name}"
  | alreadyParsed group => s!"flags of {group} were already parsed"
  | noFlags group => s!"no flags registered for {group}"

end ObjectLocks
