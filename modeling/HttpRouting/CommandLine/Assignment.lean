/-
Values of attributes as arguments give them.

* `Assignment.ofText?`: the name and value of `name=value`;
* `Assignment.readAll`: those of several arguments, up to the first that is none.
-/
import HttpRouting.CommandLine.Fault

namespace HttpRouting.Assignment

/-- The name before the first equals sign, which is not empty, and the value after it. -/
def ofText? (text : String) : Option (String × String) :=
  match text.toList.takeWhile (· != '='), text.toList.dropWhile (· != '=') with
  | c :: name, '=' :: value => some (String.ofList (c :: name), String.ofList value)
  | _, _ => none

/-- The names and values of arguments. -/
def readAll : List String → Except CommandError (List (String × String))
  | [] => .ok []
  | text :: rest =>
    match ofText? text with
    | none => .error (.argument text "expected key=value")
    | some a => (readAll rest).map (a :: ·)

end HttpRouting.Assignment
