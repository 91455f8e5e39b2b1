/-
Arguments of the command line.

    arguments = option* ("init" | "check" | "tree" | "match" method uri
                        | "url" name (key "=" value)* | "pattern")

* `Flag`: the options, with their spellings;
* `Command`, `Options`: what to do, and the settings for it;
* `Invocation`: a command with its options, a question about the program, or a misuse;
* `Given.read`: the options and words of one level, before or after the command's name;
* `Invocation.ofArguments`: what arguments ask for.

Options that concern every command may stand on both levels. The inner one counts.
-/
import HttpRouting.Matching.Strategy
import HttpRouting.TableFile.Source

namespace HttpRouting

/-! ### Options -/

/-- An option. -/
inductive Flag where
  | file
  | strategy
  | uriPrefix
  | output
  | force
  | version
  | help
deriving DecidableEq, Repr

namespace Flag

/-- The spelling after two dashes. -/
def long : Flag → String
  | file => "config"
  | strategy => "strategy"
  | uriPrefix => "uri-prefix"
  | output => "output"
  | force => "force"
  | version => "version"
  | help => "help"

/-- The letter after one dash. -/
def short? : Flag → Option Char
  | file => some 'c'
  | strategy => some 's'
  | output => some 'o'
  | version => some 'V'
  | help => some 'h'
  | uriPrefix | force => none

/-- Whether an option has a value. -/
def hasValue : Flag → Bool
  | file | strategy | uriPrefix | output => true
  | force | version | help => false

/-- Whether an option may have a value. -/
def accepts : Flag → String → Bool
  | strategy, value => (Strategy.ofName? value).isSome
  | file, value | output, value => !value.isEmpty
  | _, _ => true

/-- The options of every command. -/
def shared : List Flag := [file, strategy, uriPrefix, help]

end Flag

/-! ### One argument -/

/-- What an argument is. -/
inductive Argument where
  | word (text : String)
  /-- Two dashes: what follows are words. -/
  | separator
  /-- An option, unless it is unknown, with the value that is attached to it. -/
  | option (flag : Option Flag) (value : Option String)
deriving DecidableEq, Repr

namespace Argument

/-- The value after an equals sign. -/
def valueAfterEquals : List Char → Option String
  | '=' :: cs => some (String.ofList cs)
  | _ => none

/-- The value that follows the letter of an option. -/
def valueAfterLetter (flag : Option Flag) (cs : List Char) : Option String :=
  if cs.isEmpty || !flag.any (·.hasValue) then none
  else (valueAfterEquals cs).or (some (String.ofList cs))

/-- What an argument is where some options are known. -/
def ofText (known : List Flag) (text : String) : Argument :=
  match text.toList with
  | ['-', '-'] => separator
  | '-' :: '-' :: cs =>
    let name := String.ofList (cs.takeWhile (· != '='))
    option (known.find? (·.long == name)) (valueAfterEquals (cs.dropWhile (· != '=')))
  | '-' :: c :: cs =>
    let flag := known.find? (·.short? == some c)
    option flag (valueAfterLetter flag cs)
  | _ => word text

/-- Whether a text can be a value in an argument of its own: a dash starts an option. -/
def isValue (text : String) : Bool :=
  text == "-" || text.toList.head? != some '-'

end Argument

/-! ### One level -/

/-- What a level does with words: its first word ends it, or it takes a number of them, or any. -/
inductive WordRule where
  | ends
  | atMost (n : Nat)
  | any
deriving DecidableEq, Repr

/-- Whether a level that has some words takes no more. -/
def WordRule.isFull : WordRule → List String → Bool
  | atMost n, words => n ≤ words.length
  | ends, _ | any, _ => false

/-- Why reading ends early. -/
inductive Stop where
  | misuse
  | version
  | help
deriving DecidableEq, Repr

/-- The options and words of a level. -/
structure Given where
  values : List (Flag × String) := []
  words : List String := []
  /-- The last option, if its value was an argument of its own. It is judged with what follows. -/
  pending : Option (Flag × String) := none
deriving DecidableEq, Repr

namespace Given

/-- The value of an option. -/
def get? (g : Given) (flag : Flag) : Option String :=
  (g.values.find? (·.1 == flag)).map (·.2)

/-- The level with one more option. None comes twice. -/
def add (g : Given) (flag : Flag) (value : String) : Except Stop Given :=
  if (g.get? flag).isSome || !flag.accepts value then .error .misuse
  else .ok { g with values := g.values ++ [(flag, value)] }

/-- The level with its last option judged. -/
def settle (g : Given) : Except Stop Given :=
  match g.pending with
  | none => .ok g
  | some (flag, value) => { g with pending := none }.add flag value

/-- The options and words of a level where some options are known, after those in `g`. If the
level ends at its first word, that word and what follows it are left, and its last option is not
judged yet. -/
def read (known : List Flag) (rule : WordRule) (g : Given) :
    List String → Except Stop (Given × List String)
  | [] => return (← g.settle, [])
  | text :: rest =>
    match Argument.ofText known text with
    | .word w =>
      if rule = .ends then .ok (g, w :: rest)
      else do
        let g ← g.settle
        if rule.isFull g.words then .error .misuse
        else read known rule { g with words := g.words ++ [w] } rest
    | .separator => do
      let g ← g.settle
      if rule = .ends then .error .misuse else return ({ g with words := g.words ++ rest }, [])
    | .option none _ => .error .misuse
    | .option (some flag) (some value) => do
      let g ← g.settle
      if flag.hasValue then read known rule (← g.add flag value) rest else .error .misuse
    | .option (some flag) none => do
      let g ← g.settle
      if flag.hasValue then
        match rest with
        | value :: rest =>
          if Argument.isValue value then read known rule { g with pending := some (flag, value) } rest
          else .error .misuse
        | [] => .error .misuse
      else
        match flag with
        | .version => .error .version
        | .help => .error .help
        | flag => read known rule (← g.add flag "") rest

end Given

/-! ### Commands -/

/-- What to do. -/
inductive Command where
  /-- Write a file to begin with. -/
  | init (output : String) (force : Bool)
  /-- Register every route and report what is at fault. -/
  | check
  /-- Show the forest of the routes. -/
  | tree
  /-- Match a request. -/
  | request (method uri : String)
  /-- Write the URI of a named route. -/
  | url (name : String) (assignments : List String)
  /-- Show the regular expressions. -/
  | pattern
deriving DecidableEq, Repr

/-- The settings of a command. -/
structure Options where
  file : Option String := none
  overrides : Overrides := {}
deriving DecidableEq, Repr

namespace Command

/-- The names of the commands. -/
def names : List String :=
  ["init", "check", "tree", "match", "url", "pattern"]

/-- The options that a command has. -/
def flags (name : String) : List Flag :=
  if name == "init" then Flag.shared ++ [.output, .force] else Flag.shared

/-- What a command does with words. -/
def wordRule (name : String) : WordRule :=
  match name with
  | "match" => .atMost 2
  | "url" => .any
  | _ => .atMost 0

/-- The command with a name, given its options and words. -/
def ofGiven? (name : String) (g : Given) : Option Command :=
  match name, g.words with
  | "init", [] =>
    some (init ((g.get? .output).getD TableFile.fileName) (g.get? .force).isSome)
  | "check", [] => some check
  | "tree", [] => some tree
  | "match", [method, uri] => some (request method uri)
  | "url", routeName :: assignments => some (url routeName assignments)
  | "pattern", [] => some pattern
  | _, _ => none

end Command

/-- The settings that two levels give. The inner one counts. -/
def Options.ofGiven (outer inner : Given) : Options :=
  let get? := fun flag => (inner.get? flag).or (outer.get? flag)
  { file := get? .file
    overrides :=
      { strategy := (get? .strategy).bind Strategy.ofName?
        uriPrefix := get? .uriPrefix } }

/-! ### Invocations -/

/-- What arguments ask for. -/
inductive Invocation where
  | run (command : Command) (options : Options)
  | version
  | help
  | misuse
deriving DecidableEq, Repr

namespace Invocation

/-- The invocation that reading ended with. -/
def ofStop : Stop → Invocation
  | .misuse => misuse
  | .version => version
  | .help => help

/-- The invocation of the command with a name, after the options of the outer level. The last of
these is judged after the options of the command. -/
def ofCommand (outer : Given) (name : String) (rest : List String) : Invocation :=
  if name == "help" then
    if rest.all Command.names.contains && rest.length ≤ 1 then help else misuse
  else if Command.names.contains name then
    match Given.read (Command.flags name) (Command.wordRule name) {} rest, outer.settle with
    | .error s, _ => ofStop s
    | .ok _, .error _ => misuse
    | .ok (inner, _), .ok outer =>
      match Command.ofGiven? name inner with
      | some command => run command (Options.ofGiven outer inner)
      | none => misuse
  else misuse

/-- What arguments ask for. -/
def ofArguments (args : List String) : Invocation :=
  match Given.read (.version :: Flag.shared) .ends {} args with
  | .error s => ofStop s
  | .ok (_, []) => misuse
  | .ok (outer, name :: rest) => ofCommand outer name rest

end Invocation

end HttpRouting
