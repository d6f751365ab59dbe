import ObjectLocks.Flag.Error
import ObjectLocks.Flag.Numeral

/-!
# Groups of flags

A group keeps its flags in the order of their registration, one flag for each long name. It exists
as soon as it is first used, and it can be parsed once.
-/

namespace ObjectLocks

/-- What a flag holds. -/
inductive FlagValue where
  | bool (b : Bool)
  | number (n : UInt64)
  /-- Nothing: every argument is handed to the owner of the flag. -/
  | handler
deriving DecidableEq, Repr

/-- What a flag holds after an argument that it takes. -/
def FlagValue.assign? (v : FlagValue) (argument : String) : Option FlagValue :=
  match v with
  | bool _ =>
    if argument = "true" then some (bool true)
    else if argument = "false" then some (bool false)
    else none
  | number _ => (Numeral.read? argument).map number
  | handler => some handler

structure Flag where
  name : String
  short : Option String
  comment : String
  value : FlagValue
  /-- Whether an argument was ever taken. -/
  isSet : Bool
deriving DecidableEq, Repr

structure FlagGroup where
  name : String
  /-- Whether the group was ever used, be it only for a question. -/
  used : Bool
  flags : List Flag
  parsed : Bool
deriving Repr

namespace FlagGroup

/-- A group that nobody has used yet. -/
def unused (name : String) : FlagGroup := ⟨name, false, [], false⟩

/-- The group after a question about it. -/
def touch (g : FlagGroup) : FlagGroup := { g with used := true }

/-- Adds a flag. A flag whose name is taken is ignored. -/
def register (g : FlagGroup) (f : Flag) : FlagGroup :=
  let g := g.touch
  if g.flags.any fun h => h.name == f.name then g else { g with flags := g.flags ++ [f] }

def find? (g : FlagGroup) (name : String) : Option Flag := g.flags.find? fun f => f.name == name

def isSet (g : FlagGroup) (name : String) : Bool :=
  g.flags.any fun f => f.name == name && f.isSet

def describe (g : FlagGroup) : List (String × String) := g.flags.map fun f => (f.name, f.comment)

/-- Gives the flag with a long name a value without marking it. -/
def write (g : FlagGroup) (name : String) (v : FlagValue) : FlagGroup :=
  { g with flags := g.flags.map fun f => if f.name = name then { f with value := v } else f }

end FlagGroup

end ObjectLocks
