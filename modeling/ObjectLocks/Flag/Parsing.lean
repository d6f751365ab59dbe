import ObjectLocks.Flag.Group
import ObjectLocks.Notice
import ObjectLocks.Text.Case

/-!
# Parsing flags

Flags are read from the environment first and from the command line second, so the command line
wins. Environment variables carry the name of a flag in upper case, after the prefix of the group if
there is one. Arguments are taken in sorted order: `--name=value` for a long name, `-name=value` for
a short one, with the prefix and a colon before the name if there is one. Without a value a flag is
set to `true`, and to `false` after `no-` or `no_`. Dashes in a name stand for underscores.

An unknown flag on the command line ends the parsing; what was assigned before it stays assigned.
-/

namespace ObjectLocks

/-- An argument for a flag that is addressed by its long or short name. -/
structure Assignment where
  short : Bool
  name : String
  argument : String
deriving DecidableEq, Repr

namespace Assignment

def addresses (a : Assignment) (f : Flag) : Bool :=
  if a.short then f.short == some a.name else f.name == a.name

/-- What follows `start` in a text, if the text starts so. -/
def after? (start text : String) : Option String :=
  if start.toList.isPrefixOf text.toList then
    some (String.ofList (text.toList.drop start.length))
  else none

/-- What follows `start` in a text, if the text starts so and goes on. -/
def beyond? (start text : String) : Option String :=
  (after? start text).filter fun rest => !rest.isEmpty

/-- A name with every dash written as an underscore. -/
def underscored (name : List Char) : String :=
  String.ofList (name.map fun c => if c = '-' then '_' else c)

/-- The assignment of an option without the dashes and the prefix before it. -/
def ofOption (short : Bool) (option : String) : Assignment :=
  match option.toList.span (· ≠ '=') with
  | (name, '=' :: value) => ⟨short, underscored name, String.ofList value⟩
  | (name, _) =>
    match name with
    | 'n' :: 'o' :: '_' :: rest | 'n' :: 'o' :: '-' :: rest => ⟨short, underscored rest, "false"⟩
    | _ => ⟨short, underscored name, "true"⟩

/-- What an argument for the group begins with, after one dash or two. -/
def lead : Option String → String
  | some p => p ++ ":"
  | none => ""

/-- The assignment of a command-line argument, if it is one for the group. -/
def ofArgument? (leader : Option String) (argument : String) : Option Assignment :=
  match beyond? ("--" ++ lead leader) argument with
  | some option => some (ofOption false option)
  | none => (beyond? ("-" ++ lead leader) argument).map (ofOption true)

/-- The assignment of an environment variable, if it is one for the group. -/
def ofVariable? (leader : Option String) (entry : String × String) : Option Assignment :=
  let lead := match leader with
    | some p => Text.upper p ++ "_"
    | none => ""
  (after? lead entry.1).map fun name => ⟨false, Text.lower name, entry.2⟩

end Assignment

/-- A group of flags while it is parsed. -/
structure FlagParsing where
  group : FlagGroup
  /-- Names of handlers and the arguments handed to them, in order. -/
  handled : List (String × String)
  notices : List Notice

namespace FlagParsing

def start (g : FlagGroup) : FlagParsing := ⟨g, [], []⟩

/-- Gives the first flag of `flags` that is addressed its new value. -/
def assignFirst (a : Assignment) (v : FlagValue) : List Flag → List Flag
  | [] => []
  | f :: rest =>
    if a.addresses f then { f with value := v, isSet := true } :: rest
    else f :: assignFirst a v rest

/-- Carries out an assignment, unless no flag is addressed. A value that the flag does not take
changes nothing and is noted. -/
def assign? (p : FlagParsing) (a : Assignment) : Option FlagParsing :=
  (p.group.flags.find? a.addresses).map fun f =>
    match f.value.assign? a.argument with
    | some v =>
      { p with
        group := { p.group with flags := assignFirst a v p.group.flags }
        handled := if v = .handler then p.handled ++ [(f.name, a.argument)] else p.handled }
    | none => { p with notices := p.notices ++ [.invalidFlag a.argument a.name] }

/-- Reads one environment variable. Variables that are not for the group are passed over. -/
def readVariable (leader : Option String) (p : FlagParsing) (entry : String × String) :
    FlagParsing :=
  ((Assignment.ofVariable? leader entry).bind p.assign?).getD p

/-- Reads arguments in turn until one names no flag. -/
def readArguments (leader : Option String) (p : FlagParsing) :
    List String → FlagParsing × Except FlagError Unit
  | [] => ({ p with group := { p.group with parsed := true } }, .ok ())
  | argument :: rest =>
    match Assignment.ofArgument? leader argument with
    | none => p.readArguments leader rest
    | some a =>
      match p.assign? a with
      | none => (p, .error (.unknown a.name))
      | some p => p.readArguments leader rest

/-- Arguments in the order in which they are read. -/
def sorted (arguments : List String) : List String := arguments.mergeSort fun a b => !decide (b < a)

end FlagParsing

/-- Parses a group, with a prefix to its names or without one. -/
def FlagGroup.parse (g : FlagGroup) (leader : Option String) (arguments : List String)
    (environment : List (String × String)) : FlagParsing × Except FlagError Unit :=
  let p := FlagParsing.start g
  if ¬ g.used then (p, .error (.noFlags g.name))
  else if g.parsed then (p, .error (.alreadyParsed g.name))
  else
    (environment.foldl (FlagParsing.readVariable leader) p).readArguments leader
      (FlagParsing.sorted arguments)

end ObjectLocks
