/-
Failures of commands.

* `CommandError`: why a command fails;
* `CommandError.message`, `CommandError.lines`: the wording, and the lines that report it;
* `CommandError.exitCode`: the exit code of a failure.
-/
import HttpRouting.CommandLine.Style
import HttpRouting.TableFile.Loading

namespace HttpRouting

/-- Why a command fails. -/
inductive CommandError where
  | missingFile (path : String)
  | unreadableFile (path reason : String)
  | malformedFile (path : String)
  | existingFile (path : String)
  | load (cause : LoadError)
  | uri (cause : UriError)
  | argument (text reason : String)
  /-- No route matches the path of a request. -/
  | notFound (method path : String)
  /-- Routes match the path of a request, but for other methods. -/
  | notAllowed (allow : String)
deriving DecidableEq, Repr

namespace CommandError

/-- The wording. -/
def message : CommandError → String
  | missingFile path =>
    "Failed to load configuration: Configuration file not found: " ++ path ++
      " (run `routekit init` to create one)"
  | unreadableFile path reason =>
    "Failed to load configuration: Failed to read " ++ path ++ ": " ++ reason
  | malformedFile path => "Failed to load configuration: Invalid TOML in " ++ path
  | existingFile path =>
    "Failed to load configuration: " ++ path ++ " already exists (use --force to overwrite)"
  | load cause => cause.message
  | uri cause => "Cannot build URI: " ++ cause.message
  | argument text reason => "Invalid argument '" ++ text ++ "': " ++ reason
  | notFound method path => "404 Not Found: " ++ method ++ " " ++ path
  | notAllowed allow => "405 Method Not Allowed (Allow: " ++ allow ++ ")"

/-- The exit code: a request without a route has one of its own. -/
def exitCode : CommandError → Nat
  | notFound .. | notAllowed _ => 2
  | _ => 1

/-- The line that reports an error. -/
def errorLine (text : String) : Line :=
  [Line.styled Style.red.bold "error:", { text := " " ++ text }]

/-- The lines that report a failure. Entries at fault have a line each. -/
def lines (e : CommandError) : List Line :=
  match e with
  | notFound .. | notAllowed _ => [[Line.styled Style.yellow.bold e.message]]
  | load (.entries faults) => faults.map (errorLine ·.message) ++ [errorLine e.message]
  | _ => [errorLine e.message]

end CommandError

end HttpRouting
