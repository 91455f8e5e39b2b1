/-
What a run of the program reports.

* `Report`: lines that were printed, a failure, or a misuse of the command line;
* `Report.exitCode`, `Report.output`, `Report.errors`: what the caller sees of it;
* `TableFile.report`: the report of a command on a file.
-/
import HttpRouting.CommandLine.Arguments
import HttpRouting.CommandLine.Assignment

namespace HttpRouting

/-! ### Reports -/

/-- What a run of the program reports. -/
inductive Report where
  | printed (lines : List Line)
  | failed (cause : CommandError)
  | misused
deriving DecidableEq, Repr

namespace Report

/-- How the program is used. -/
def usage : List Line :=
  ["Usage: routekit [OPTIONS] <COMMAND>",
    "",
    "Commands:",
    "  init     Write a commented default routekit.toml",
    "  check    Compile every route and report all errors",
    "  tree     Print the shared prefix tree",
    "  match    Match a request against the table",
    "  url      Generate a URI for a named route",
    "  pattern  Print the compiled regex of a pattern strategy",
    "",
    "Options:",
    "  -c, --config <FILE>      Route table file",
    "  -s, --strategy <NAME>    Matching strategy, overrides the file",
    "      --uri-prefix <P>     URI prefix, overrides the file",
    "  -h, --help               Print help",
    "  -V, --version            Print version"].map Line.plain

/-- The name and the version of the program. -/
def version : Line := Line.plain "routekit 0.1.0"

/-- The exit code. -/
def exitCode : Report → Nat
  | printed _ => 0
  | failed cause => cause.exitCode
  | misused => 2

/-- The text on the standard output. -/
def output (colours : Bool) : Report → String
  | printed lines => Line.renderAll colours lines
  | failed _ | misused => ""

/-- The text on the standard error output. -/
def errors (colours : Bool) : Report → String
  | printed _ => ""
  | failed cause => Line.renderAll colours cause.lines
  | misused => Line.renderAll colours usage

/-- The report of lines or a failure. -/
def ofExcept : Except CommandError (List Line) → Report
  | .ok lines => printed lines
  | .error cause => failed cause

end Report

/-! ### Commands on a file -/

namespace TableFile

/-- The line that reports that every route is sound. -/
def checkLines (f : TableFile) : Except CommandError (List Line) := do
  let r ← f.check.mapError .load
  return [[Line.styled Style.green.bold "OK",
    { text := " " ++ toString r.table.size ++ " route(s) compiled with " },
    Line.styled Style.cyan r.matcher.strategy.name]]

/-- The forest of the routes, and the routes with their indices. -/
def treeLines (f : TableFile) : Except CommandError (List Line) := do
  let r ← f.router.mapError .load
  let routes := r.table.routes.zipIdx.map fun (route, index) =>
    [{ text := "  " }, Line.styled Style.dimmed ("#" ++ toString index),
      { text := " " ++ route.describe }]
  return ((Forest.ofTable r.table).lines 0).map Line.plain ++ [Line.plain ""] ++ routes

/-- The route that a request matches, with the handler and the attributes. -/
def requestLines (f : TableFile) (method uri : String) : Except CommandError (List Line) := do
  let r ← f.router.mapError .load
  match r.matchUri method uri with
  | .ok m =>
    let attributes := m.request.attributes.map fun (name, value) =>
      [{ text := "  " }, Line.styled Style.yellow name, { text := " = " ++ value }]
    return [Line.styled Style.green.bold "200", { text := " " ++ m.route.describe }] ::
      [{ text := "  handler: " }, Line.styled Style.cyan m.route.handler] :: attributes
  | .error e =>
    if e.isNotFound then throw (.notFound method e.request.path)
    else throw (.notAllowed e.allowHeader)

/-- The URI of a named route. -/
def urlLines (f : TableFile) (name : String) (assignments : List String) :
    Except CommandError (List Line) := do
  let values ← Assignment.readAll assignments
  let r ← f.router.mapError .load
  return [Line.plain (← (r.uri name values).mapError .uri)]

/-- The regular expressions behind the routes. -/
def patternLines (f : TableFile) : Except CommandError (List Line) := do
  let r ← f.router.mapError .load
  let strategy := r.matcher.strategy
  if !strategy.isPattern then
    throw (.argument strategy.name
      "only multi_pattern, single_pattern and tree_pattern compile to regular expressions")
  if r.matcher.texts.isEmpty then return [[Line.styled Style.yellow "No routes."]]
  if strategy = .multiPattern then
    return (r.table.routes.zip r.matcher.texts).flatMap fun (route, text) =>
      [[Line.styled Style.dimmed route.describe], Line.plain ("  " ++ text)]
  return r.matcher.texts.map Line.plain

end TableFile

end HttpRouting
