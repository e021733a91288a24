import ScopeGen.Source.Model
import ScopeGen.Text.Blank
import ScopeGen.Trace
import ScopeGen.Yaml.Source

/-!
# Presentation/File — presentations kept in YAML files

A file holds a header and modifiers; what it leaves out, and all when it is empty or missing, is as
in the default presentation.
-/

namespace ScopeGen

/-- What is found under a path. -/
inductive FileState where
  | missing
  | directory
  | file (bytes : ByteArray)

namespace Presentation

/-- Why no presentation is read from a file. -/
inductive LoadError where
  | directory
  | notText
  | notPresentation
deriving DecidableEq, Repr

namespace LoadError

def reason : LoadError → String
  | .directory => "is a directory"
  | .notText => "holds bytes that are no text"
  | .notPresentation => "holds no presentation in YAML"

/-- The wording of an error. -/
def message (e : LoadError) : String := "Config load error: " ++ e.reason

end LoadError

/-- The presentation that a YAML text holds. -/
def ofYaml (text : String) : Except LoadError Presentation :=
  if isBlankText text then
    .ok {}
  else
    (Yaml.decode? Presentation.read text).elim (.error .notPresentation) .ok

/-- The presentation that is found under a path. -/
def ofFile (path : String) : FileState → Except LoadError (Traced Presentation)
  | .missing => .ok do
    Traced.report (.noPresentation path)
    return {}
  | .directory => .error .directory
  | .file bytes => do
    match String.fromUTF8? bytes with
    | some text => return pure (← ofYaml text)
    | none => .error .notText

end Presentation

end ScopeGen
