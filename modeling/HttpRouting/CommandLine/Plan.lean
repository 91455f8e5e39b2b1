/-
Runs of the program as plans, which say what happens to files.

* `Plan`: a report, or a step on a file and how the run goes on after it;
* `Plan.ofInvocation`: the plan for what the arguments ask for;
* `Plan.runIn`: the report of a plan that is carried out in a directory, and the directory after
  it.
-/
import HttpRouting.CommandLine.Directory
import HttpRouting.CommandLine.Report

namespace HttpRouting

/-! ### Plans -/

/-- A run of the program. A step on a file that fails gives the reason. -/
inductive Plan where
  | finish (r : Report)
  /-- Whether there is something with a name. -/
  | inspect (path : String) (next : Bool → Plan)
  | read (path : String) (next : Except String String → Plan)
  | write (path text : String) (next : Except String Unit → Plan)

namespace Plan

/-- Writes a file to begin with. A file that is there stays unless this is forced. -/
def starter (path : String) (force : Bool) : Plan :=
  inspect path fun isThere =>
    if isThere && !force then finish (.failed (.existingFile path))
    else
      write path TableFile.starter fun
        | .error reason => finish (.failed (.unreadableFile path reason))
        | .ok () =>
          finish (.printed [[Line.styled Style.green "Created", { text := " " ++ path }]])

/-- Reads a file and reports on it. -/
def onFile (options : Options) (lines : TableFile → Except CommandError (List Line)) : Plan :=
  let path := options.file.getD TableFile.fileName
  inspect path fun isThere =>
    if isThere then
      read path fun
        | .error reason => finish (.failed (.unreadableFile path reason))
        | .ok text =>
          match TableFile.parse? text with
          | some f => finish (.ofExcept (lines (f.override options.overrides)))
          | none => finish (.failed (.malformedFile path))
    else finish (.failed (.missingFile path))

/-- The plan of a command. -/
def ofCommand (options : Options) : Command → Plan
  | .init output force => starter output force
  | .check => onFile options (·.checkLines)
  | .tree => onFile options (·.treeLines)
  | .request method uri => onFile options (·.requestLines method uri)
  | .url name assignments => onFile options (·.urlLines name assignments)
  | .pattern => onFile options (·.patternLines)

/-- The plan for what the arguments ask for. -/
def ofInvocation : Invocation → Plan
  | .run command options => ofCommand options command
  | .version => finish (.printed [Report.version])
  | .help => finish (.printed Report.usage)
  | .misuse => finish .misused

/-- The plan for arguments. -/
def ofArguments (args : List String) : Plan :=
  ofInvocation (Invocation.ofArguments args)

end Plan

/-! ### In a directory -/

/-- The report of a plan that is carried out in a directory, and the directory after it. -/
def Plan.runIn (d : Directory) : Plan → Report × Directory
  | finish r => (r, d)
  | inspect path next => (next (d.contains path)).runIn d
  | read path next => (next ((d.read path).mapError StepFault.message)).runIn d
  | write path text next =>
    match d.write path text with
    | .ok changed => (next (.ok ())).runIn changed
    | .error f => (next (.error f.message)).runIn d

end HttpRouting
