import ObjectLocks.Flag.Parsing
import ObjectLocks.World

/-!
# The flags of a system

The options of a system as a group of flags. The name of the locking mode is kept as it was given
and only read when options are made from the flags.
-/

namespace ObjectLocks

/-- The flags from which options are made. -/
structure SyncFlags where
  group : FlagGroup
  /-- The last name given for the locking mode. -/
  mode : Option String

namespace SyncFlags

def leader : String := "objsync"

def modeFlag : String := "locking_mode"

def tableFlag : String := "use_object_monitor_table"

def monitorSpinsFlag : String := "monitor_spins"

def fastLockSpinsFlag : String := "fast_lock_spins"

def flags : List Flag :=
  [⟨modeFlag, none,
      "Locking algorithm: legacy, lightweight or monitor (default: lightweight)", .handler, false⟩,
    ⟨tableFlag, none,
      "Keep monitors in a side table instead of the object header. Lightweight mode only. " ++
        "(default: false)", .bool false, false⟩,
    ⟨monitorSpinsFlag, none,
      "Spin iterations on a contended monitor before blocking. (default: 64)", .number 64, false⟩,
    ⟨fastLockSpinsFlag, none,
      "CAS attempts on a fast-lockable header before inflating. (default: 16)", .number 16, false⟩]

/-- The flags before they are parsed, the group known as `name`. -/
def initial (name : String) : SyncFlags := ⟨flags.foldl .register (.unused name), none⟩

/-- Whether monitors go into the table. -/
def useTable (s : SyncFlags) : Bool :=
  match (s.group.find? tableFlag).map Flag.value with
  | some (.bool b) => b
  | _ => false

def number (s : SyncFlags) (name : String) : UInt64 :=
  match (s.group.find? name).map Flag.value with
  | some (.number n) => n
  | _ => 0

def parse (s : SyncFlags) (leader : Option String) (arguments : List String)
    (environment : List (String × String)) :
    SyncFlags × List Notice × Except FlagError Unit :=
  let (p, result) := s.group.parse leader arguments environment
  let mode := match p.handled.getLast? with
    | some (_, argument) => some argument
    | none => s.mode
  (⟨p.group, mode⟩, p.notices, result)

/-- The options that the flags stand for. -/
def options (s : SyncFlags) : Except OptionsError Options := do
  let mode ← match s.mode with
    | some text => LockingMode.parse text
    | none => .ok .lightweight
  let options : Options :=
    ⟨mode, s.useTable, s.number monitorSpinsFlag, s.number fastLockSpinsFlag⟩
  options.validate
  return options

/-- Parses the flags unless they were parsed before, and makes options from them. -/
def readOptions (s : SyncFlags) (arguments : List String) (environment : List (String × String)) :
    SyncFlags × List Notice × Except OptionsError Options :=
  match s.parse (some leader) arguments environment with
  | (s, notices, .ok ()) | (s, notices, .error (.alreadyParsed _)) => (s, notices, s.options)
  | (s, notices, .error e) => (s, notices, .error (.flags e))

/-- Builds a world with the options that the flags ask for. -/
def build (s : SyncFlags) (arguments : List String) (environment : List (String × String)) :
    SyncFlags × List Notice × Except OptionsError World :=
  let (s, notices, options) := s.readOptions arguments environment
  match options.bind World.build with
  | .ok world => (s, notices ++ world.machine.notices.toList, .ok world)
  | .error e => (s, notices, .error e)

end SyncFlags

end ObjectLocks
