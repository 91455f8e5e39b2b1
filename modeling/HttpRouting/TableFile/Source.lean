/-
Text of files that describe a table of routes.

* `TableFile.parse?`: the file that a text in TOML describes;
* `TableFile.fileName`: the name of the file that is read where none is given;
* `TableFile.starter`: a file to begin with.
-/
import HttpRouting.TableFile.Basic
import HttpRouting.Toml.Document

namespace HttpRouting.TableFile

/-- The file that a text describes. -/
def parse? (text : String) : Option TableFile := do
  ofData? .toml (← Toml.parse? text)

/-- The name of the file that is read where none is given. -/
def fileName : String := "routekit.toml"

/-- A file to begin with. -/
def starter : String :=
  "# routekit route table

[router]
# Matching strategy: multi_pattern, single_pattern, tree_pattern, linear or tree
strategy = \"tree_pattern\"

# Prepended to every generated URI (\"\" or \"/mount\", no trailing slash)
uri_prefix = \"\"

# Extra or overriding attribute types, name = \"regex\"
# Built in: any (implicit), alnum, alpha, date, digit, number, word
[types]
slug = \"[a-z0-9]+(?:-[a-z0-9]+)*\"

# Routes are tried in the order they appear here; the first match wins.
[[routes]]
name = \"home\"
method = \"GET\"
path = \"/\"
handler = \"pages::home\"

[[routes]]
name = \"users.list\"
method = \"GET\"
path = \"/users[/page/\x7bpage:number\x7d]\"
handler = \"users::list\"

[[routes]]
name = \"users.show\"
method = \"GET\"
path = \"/users/\x7bid:number\x7d\"
handler = \"users::show\"

[[routes]]
method = \"PUT\"
path = \"/users/\x7bid:number\x7d\"
handler = \"users::update\"

[[routes]]
name = \"posts.show\"
method = \"GET\"
path = \"/posts/\x7bslug:slug\x7d\"
handler = \"posts::show\"
"

end HttpRouting.TableFile
