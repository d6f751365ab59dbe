import ObjectLocks.CommandLine

/-!
# The program

Runs the command line on the arguments and the environment of the process.
-/

namespace ObjectLocks

/-- The environment variables under which the flags can be given. -/
def flagVariables : List String :=
  SyncFlags.flags.map fun f => Text.upper (SyncFlags.leader ++ "_" ++ f.name)

/-- Those of the variables that are set. -/
def readVariables : List String → IO (List (String × String))
  | [] => return []
  | name :: rest => do
    let others ← readVariables rest
    match ← IO.getEnv name with
    | some value => return (name, value) :: others
    | none => return others

/-- Runs the program on arguments and prints what the run shows. Answers the exit code. -/
def runProgram (arguments : List String) : IO UInt32 := do
  let environment ← readVariables flagVariables
  let start ← IO.monoMsNow
  let ending ← IO.lazyPure fun _ => CommandLine.run arguments environment
  let stop ← IO.monoMsNow
  for line in ending.output s!"{stop - start}ms" do
    IO.println line
  for line in ending.errors do
    IO.eprintln line
  return ending.code

end ObjectLocks

/-- The program. -/
def main (arguments : List String) : IO UInt32 := ObjectLocks.runProgram arguments
