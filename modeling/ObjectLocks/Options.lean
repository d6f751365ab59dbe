import ObjectLocks.Flag.Error
import ObjectLocks.Text.Case

/-!
# Options

The locking mode and its tuning are chosen once, before a system is built. Only fast-locking can
keep its monitors in a table, and it needs at least one attempt at a header before it inflates.
-/

namespace ObjectLocks

/-- The locking algorithm of a system. -/
inductive LockingMode where
  /-- Stack-locking: the header points to a lock record. -/
  | legacy
  /-- Fast-locking: the owner has the object on its lock stack. -/
  | lightweight
  /-- Every lock goes through a monitor. -/
  | monitor
deriving DecidableEq, Repr, Inhabited

namespace LockingMode

def text : LockingMode → String
  | legacy => "legacy"
  | lightweight => "lightweight"
  | monitor => "monitor"

def name : LockingMode → String
  | legacy => "Legacy"
  | lightweight => "Lightweight"
  | monitor => "Monitor"

/-- The locking mode that a text in lower case names. -/
def ofLower? (s : String) : Option LockingMode :=
  if s = "legacy" ∨ s = "stack" then some legacy
  else if s = "lightweight" ∨ s = "lw" then some lightweight
  else if s = "monitor" ∨ s = "heavy" then some monitor
  else none

end LockingMode

/-- How a system locks its objects. -/
structure Options where
  mode : LockingMode
  /-- Keeps monitors in a table instead of the headers. -/
  useTable : Bool
  /-- How often an enter looks at a contended monitor before it waits. -/
  monitorSpins : UInt64
  /-- How often an enter tries a header before it inflates. -/
  fastLockSpins : UInt64
deriving DecidableEq, Repr

/-- Why options are rejected. -/
inductive OptionsError where
  | unknownMode (text : String)
  | tableRequiresLightweight (mode : LockingMode)
  | zeroFastLockSpins
  | flags (cause : FlagError)
deriving DecidableEq, Repr

namespace OptionsError

def message : OptionsError → String
  | unknownMode text => s!"unknown locking mode: {text}"
  | tableRequiresLightweight mode =>
    s!"use_object_monitor_table requires lightweight locking, got {mode.text}"
  | zeroFastLockSpins => "fast_lock_spins cannot be zero"
  | flags cause => cause.message

def source? : OptionsError → Option FlagError
  | flags cause => some cause
  | unknownMode _ | tableRequiresLightweight _ | zeroFastLockSpins => none

end OptionsError

/-- Reads the name of a locking mode in any case. -/
def LockingMode.parse (s : String) : Except OptionsError LockingMode :=
  match ofLower? (Text.lower s) with
  | some mode => .ok mode
  | none => .error (.unknownMode s)

namespace Options

/-- The options of a mode when nothing else is chosen. -/
def ofMode (mode : LockingMode) : Options := ⟨mode, false, 64, 16⟩

instance : Inhabited Options := ⟨ofMode .lightweight⟩

/-- The first fault of the options. -/
def validate (o : Options) : Except OptionsError Unit :=
  if o.useTable ∧ o.mode ≠ .lightweight then .error (.tableRequiresLightweight o.mode)
  else if o.fastLockSpins = 0 then .error .zeroFastLockSpins
  else .ok ()

/-- The options as they are shown to a programmer. -/
def describe (o : Options) : String :=
  "SyncOptions \x7b locking_mode: " ++ o.mode.name ++ ", use_object_monitor_table: " ++
    toString o.useTable ++ ", monitor_spins: " ++ toString o.monitorSpins ++
    ", fast_lock_spins: " ++ toString o.fastLockSpins ++ " \x7d"

end Options

end ObjectLocks
