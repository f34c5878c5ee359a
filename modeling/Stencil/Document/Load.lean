import Stencil.Document.Json
import Stencil.Document.Toml
import Stencil.Document.Yaml
import Stencil.Template.Compile
import Stencil.Text.Utf8

/-! Loading the values for a template, or a template itself, from documents of several formats. -/
namespace Stencil.Document

inductive Format where
  | json | toml | yaml
deriving DecidableEq, Repr

inductive LoadError where
  | malformed (format : Format)
  | invalidUtf8 (fault : Text.Malformed)
  | notAMap (format : Format) (found : Kind)
deriving DecidableEq, Repr

namespace Format

def mapName : Format → String
  | .json => "JSON object"
  | .toml => "TOML table"
  | .yaml => "YAML mapping"

def value? (format : Format) (text : List Char) : Option Value :=
  match format with
  | .json => Json.parse? text
  | .toml => (Toml.parse? text).map .map
  | .yaml => Yaml.parse? text

def text? (format : Format) (text : List Char) : Option String :=
  match format with
  | .json =>
    match Json.parse? text with
    | some (.str content) => some content
    | _ => none
  | .toml => none
  | .yaml => Yaml.parseText? text

def template? (format : Format) (text : List Char) : Option Template := do
  (Template.compile (← format.text? text).toList).toOption

def load (format : Format) (text : List Char) : Except LoadError Entries :=
  match format.value? text with
  | some (.map entries) => .ok entries
  | some other => .error (.notAMap format other.kind)
  | none => .error (.malformed format)

/-- The entries of a document that is given as bytes. Only for TOML it is told apart whether the
bytes are no text or the text is no document. -/
def loadBytes (format : Format) (bytes : List UInt8) : Except LoadError Entries :=
  match Text.decode bytes with
  | .ok text => format.load text
  | .error fault =>
    .error (if format = .toml then .invalidUtf8 fault else .malformed format)

end Format

def LoadError.message? : LoadError → Option String
  | .malformed _ => none
  | .invalidUtf8 fault => some fault.message
  | .notAMap format found => some s!"expected a {format.mapName}, found a {found.name}"

end Stencil.Document
