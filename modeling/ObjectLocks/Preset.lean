import ObjectLocks.World

/-!
# Presets

Ready options, one set for each way of locking, and a trial of the world that is built from them.
-/

namespace ObjectLocks

namespace Options

def legacy : Options := ofMode .legacy

def monitor : Options := ofMode .monitor

/-- Fast-locking with the monitors in the headers. -/
def lightweight : Options := ofMode .lightweight

/-- Fast-locking with the monitors in a table. -/
def table : Options := { lightweight with useTable := true }

/-- One set of options for each way of locking. -/
def presets : List Options := [legacy, monitor, lightweight, table]

/-- The way of locking in words. -/
def title (o : Options) : String :=
  if o.useTable then o.mode.text ++ " (table)" else o.mode.text

end Options

/-- What a trial of a world shows. -/
structure Trial where
  title : String
  mode : LockingMode
  /-- The thread as which a worker was attached. -/
  thread : ThreadId
  threadsLeft : Nat
deriving DecidableEq, Repr

/-- Builds a world and attaches one worker for a moment. Invalid options are a fault. -/
def Trial.run (options : Options) : Except Fault Trial :=
  match World.build options with
  | .error e => .error (.invalidPreset options e)
  | .ok s =>
    let (w, s) := s.addWorker
    let (s, progress, _) := s.step w .attach
    let thread := match progress with
      | .answered (.thread t) => t
      | _ => firstThread
    let (s, _) := s.step w .detach
    .ok ⟨options.title, options.mode, thread, s.machine.registry.length⟩

end ObjectLocks
