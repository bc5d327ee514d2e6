import AccessModel.Standard.Arguments
import AccessModel.Standard.Document
import AccessModel.Standard.Filter
import AccessModel.Standard.Library
import AccessModel.Standard.Line

/-!
# The standard tools

The command and the loaders of settings with the tools of this directory: `run` is a run on a host,
`ofFile` and `ofEnvironment` load settings and `ofJson?` reads them off a JSON text.
-/

namespace AccessModel

namespace Settings

open Standard

/-- The settings of the file at a path, where there is this, and an environment. -/
def ofFile (path : String) (state : FileState) (env : List (String × String)) :
    Except LoadError Settings :=
  let look (p : String) : Id FileState := if p = path then state else .absent
  (load (library look) look path env).run

/-- The settings of an environment alone. -/
def ofEnvironment (env : List (String × String)) : Except LoadError Settings :=
  fromEnvironment (library fun _ => (pure .absent : Id FileState)) env

/-- The settings of a JSON text. -/
def ofJson? (text : String) : Option Settings := ofText jsonReader text

end Settings

namespace Command

open Standard

/-- The log as lines that pass a filter. -/
def subscriber : Subscriber Filter where
  parse? := Filter.parse?
  ofLevel := Filter.ofLevel
  lines json filter rs := (filter.apply rs).map (recordLine json)

/-- The tools of a run on a host. -/
def standardTools {m : Type → Type} [Monad m] (host : Host m) : Tools m Value Filter where
  parse := parseArguments
  library := library host.state
  subscriber := subscriber

/-- The command. -/
def run {m : Type → Type} [Monad m] (host : Host m) (args : List String)
    (env : List (String × String)) : m Report :=
  runWith (standardTools host) host args env

end Command

end AccessModel
