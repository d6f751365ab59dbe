import ObjectLocks.SyncFlags
import ObjectLocks.Workload

/-!
# The command line

The program reads its options from flags, runs the counting workload and prints what it shows. Asked
for help, it lists the flags instead.
-/

namespace ObjectLocks.CommandLine

/-- How a run of the program ends. -/
inductive Ending where
  | help
  | rejected (cause : OptionsError)
  /-- A worker of the workload failed. -/
  | broken
  | finished (report : Workload.Report)
deriving DecidableEq, Repr

/-- Whether help is asked for, be it among other arguments. -/
def asksForHelp (arguments : List String) : Bool :=
  arguments.any fun a => a == "--help" || a == "-h"

/-- The flags before they are parsed. -/
def flags : SyncFlags := .initial "SyncFlags"

/-- Runs the program with its arguments, and the flags that the environment sets before them. -/
def run (arguments : List String) (environment : List (String × String)) : Ending :=
  if asksForHelp arguments then .help
  else
    match flags.build arguments environment with
    | (_, _, .error e) => .rejected e
    | (_, _, .ok s) =>
      match Workload.run s with
      | some report => .finished report
      | none => .broken

/-- A text with blanks behind it, up to a width. -/
def padded (width : Nat) (text : String) : String :=
  text ++ String.ofList (List.replicate (width - text.length) ' ')

/-- The help: a usage line, and a line for every flag in the order of their names. -/
def helpLines : List String :=
  let sorted := flags.group.describe.mergeSort fun a b => !decide (b.1 < a.1)
  ["usage: objsync [--objsync:<flag>=<value>]...", ""] ++
    sorted.map fun f => "  --objsync:" ++ padded 26 f.1 ++ " " ++ f.2

/-- What the workload shows, and how long it took. -/
def reportLines (r : Workload.Report) (elapsed : String) : List String :=
  let stable := r.hashAfter == r.hash
  [ s!"locking mode:      {r.options.mode.text}",
    s!"monitor table:     {r.options.useTable}",
    s!"threads:           {Workload.workers}",
    s!"final count:       {r.count} (expected {Workload.expected})",
    s!"monitors inflated: {r.monitors}",
    "identity hash:     " ++ hexText r.hash.toNat ++ s!" (stable: {stable})",
    s!"elapsed:           {elapsed}" ]

namespace Ending

/-- What the program prints, once the workload has taken the time `elapsed`. -/
def output (elapsed : String) : Ending → List String
  | help => helpLines
  | finished r => reportLines r elapsed
  | rejected _ | broken => []

/-- What the program prints as errors. -/
def errors : Ending → List String
  | rejected cause => [s!"objsync: {cause.message}"]
  | broken => ["objsync: a worker thread panicked"]
  | help | finished _ => []

/-- The exit code. A workload that loses a bump fails. -/
def code : Ending → UInt32
  | help => 0
  | finished r => if r.count = Workload.expected then 0 else 1
  | rejected _ | broken => 1

end Ending

end ObjectLocks.CommandLine
