/-
Settings of a router.

* `RouterConfig`: the strategy and the prefix of generated URIs;
* `ConfigError`: a prefix that cannot be one, and the wording;
* `RouterConfig.validate`: checks the prefix, which is empty, or begins but does not end with a
  slash.
-/
import HttpRouting.Matching.Strategy

namespace HttpRouting

/-- Settings of a router. -/
structure RouterConfig where
  strategy : Strategy := .default
  uriPrefix : String := ""
deriving DecidableEq, Repr

/-- A prefix that cannot be one. -/
structure ConfigError where
  uriPrefix : String
deriving DecidableEq, Repr

/-- The wording. -/
def ConfigError.message (e : ConfigError) : String :=
  "invalid URI prefix '" ++ e.uriPrefix ++
    "': must be empty or start with '/' and not end with '/'"

namespace RouterConfig

/-- Whether a text can be a prefix: it is empty, or begins but does not end with a slash. -/
def isPrefix (s : String) : Bool :=
  s.toList.isEmpty || s.toList.head? == some '/' && s.toList.getLast? != some '/'

/-- Checks the prefix. -/
def validate (c : RouterConfig) : Except ConfigError Unit :=
  if isPrefix c.uriPrefix then .ok () else .error ⟨c.uriPrefix⟩

end RouterConfig

end HttpRouting
