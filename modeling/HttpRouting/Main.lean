/-
The program.

It carries out the plan for its arguments on the files of the system, and prints the report.
-/
import HttpRouting.CommandLine.Plan

namespace HttpRouting

/-- Whether there is something with a name. -/
def isThere (path : String) : IO Bool := do
  try
    discard <| IO.FS.Handle.mk path .read
    return true
  catch
    | .noFileOrDirectory .. | .inappropriateType .. | .invalidArgument .. => return false
    | _ => return true

/-- The reason of a failed step on a file. -/
def failureReason : IO.Error → String
  | .noFileOrDirectory .. => StepFault.missing.message
  | .inappropriateType _ code _ =>
    if code = 20 then StepFault.notFolder.message else StepFault.isFolder.message
  | .invalidArgument _ 36 _ => StepFault.tooLong.message
  | .permissionDenied .. => "Permission denied (os error 13)"
  | e => toString e

/-- The result of a step on a file, or the reason of its failure. -/
def attempt {α : Type} (step : IO α) : IO (Except String α) := do
  try return .ok (← step)
  catch e => return .error (failureReason e)

/-- Carries out a plan. -/
def Plan.carryOut : Plan → IO Report
  | finish r => return r
  | inspect path next => do (next (← isThere path)).carryOut
  | read path next => do (next (← attempt (IO.FS.readFile path))).carryOut
  | write path text next => do (next (← attempt (IO.FS.writeFile path text))).carryOut

/-- Whether a setting of the environment has a value other than zero. -/
def isSwitchedOn (value : Option String) : Bool :=
  value.any (· != "0")

/-- Whether colours are used: forced, forbidden, or by default on a terminal. -/
def usesColours : IO Bool := do
  if isSwitchedOn (← IO.getEnv "CLICOLOR_FORCE") then return true
  if (← IO.getEnv "NO_COLOR").isSome then return false
  if (← IO.getEnv "CLICOLOR") == some "0" then return false
  (← IO.getStdout).isTty

end HttpRouting

open HttpRouting in
/-- Runs the program. -/
def main (args : List String) : IO UInt32 := do
  let report ← (Plan.ofArguments args).carryOut
  let colours ← usesColours
  (← IO.getStdout).putStr (report.output colours)
  (← IO.getStderr).putStr (report.errors colours)
  return report.exitCode.toUInt32
