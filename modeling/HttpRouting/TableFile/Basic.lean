/-
Files that describe a table of routes.

* `TableEntry`: a route as a file describes it;
* `TableFile`: settings, types and entries;
* `TableEntry.label`: the label that serves as the handler of an entry's route;
* `Overrides`, `TableFile.override`: settings that take precedence over those of a file;
* `TableFile.ofData?`: the file that data describe.

A file may leave out every part but the paths of its routes, and parts that mean nothing here do
not count.
-/
import HttpRouting.Data
import HttpRouting.Router.Config

namespace HttpRouting

/-! ### Entries and files -/

/-- The method of an entry that names none. -/
def defaultMethod : String := "GET"

/-- A route as a file describes it. -/
structure TableEntry where
  name : Option String := none
  method : String := defaultMethod
  path : String
  handler : Option String := none
deriving DecidableEq, Repr

/-- The label of an entry: its handler, or else its name, or else its method and path. -/
def TableEntry.label (e : TableEntry) : String :=
  (e.handler.or e.name).getD (e.method ++ " " ++ e.path)

/-- A file that describes a table of routes. Types come in the order of their names. -/
structure TableFile where
  config : RouterConfig := {}
  types : List (String × String) := []
  entries : List TableEntry := []
deriving DecidableEq, Repr

/-! ### Overrides -/

/-- Settings that take precedence over those of a file. -/
structure Overrides where
  strategy : Option Strategy := none
  uriPrefix : Option String := none
deriving DecidableEq, Repr

/-- The file with some settings replaced. -/
def TableFile.override (f : TableFile) (o : Overrides) : TableFile :=
  { f with
    config :=
      { strategy := o.strategy.getD f.config.strategy
        uriPrefix := o.uriPrefix.getD f.config.uriPrefix } }

/-! ### Reading -/

/-- The strategy that data name. -/
def Strategy.ofData? (n : DataNotation) (d : Data) : Option Strategy := do
  Strategy.ofName? (← d.tag? n)

/-- The settings that data describe. -/
def RouterConfig.ofData? (n : DataNotation) (d : Data) : Option RouterConfig := do
  let field ← d.fields? n ["strategy", "uri_prefix"]
  let strategy ← Data.orDefault Strategy.default (Strategy.ofData? n) (field "strategy")
  let uriPrefix ← Data.orDefault "" Data.text? (field "uri_prefix")
  return { strategy, uriPrefix }

/-- The entry that data describe. -/
def TableEntry.ofData? (n : DataNotation) (d : Data) : Option TableEntry := do
  let field ← d.fields? n ["name", "method", "path", "handler"]
  let name ← Data.orDefault none Data.nullableText? (field "name")
  let method ← Data.orDefault defaultMethod Data.text? (field "method")
  let path ← (← field "path").text?
  let handler ← Data.orDefault none Data.nullableText? (field "handler")
  return { name, method, path, handler }

/-- The entries that data list. -/
def TableEntry.listOfData? (n : DataNotation) : Data → Option (List TableEntry)
  | .list items => items.mapM (TableEntry.ofData? n)
  | _ => none

/-- The types that data describe, in the order of their names. -/
def typesOfData? (d : Data) : Option (List (String × String)) :=
  d.texts?.map fun types => types.mergeSort fun s t => !(t.1 < s.1)

/-- The file that data describe. -/
def TableFile.ofData? (n : DataNotation) (d : Data) : Option TableFile := do
  let field ← d.fields? n ["router", "types", "routes"]
  let config ← Data.orDefault {} (RouterConfig.ofData? n) (field "router")
  let types ← Data.orDefault [] typesOfData? (field "types")
  let entries ← Data.orDefault [] (TableEntry.listOfData? n) (field "routes")
  return { config, types, entries }

end HttpRouting
