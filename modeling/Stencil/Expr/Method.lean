import Stencil.Expr.Builtin
import Stencil.Text.Blank
import Stencil.Text.Case
import Stencil.Text.Letter
import Stencil.Text.Search

/-! The methods of strings, sequences and maps. -/
namespace Stencil

inductive TextMethod where
  | upper | lower | strip | lstrip | rstrip | title | capitalize | replace | split | join
  | startswith | endswith
deriving DecidableEq, Repr

def TextMethod.name : TextMethod → String
  | .upper => "upper"
  | .lower => "lower"
  | .strip => "strip"
  | .lstrip => "lstrip"
  | .rstrip => "rstrip"
  | .title => "title"
  | .capitalize => "capitalize"
  | .replace => "replace"
  | .split => "split"
  | .join => "join"
  | .startswith => "startswith"
  | .endswith => "endswith"

def TextMethod.all : List TextMethod :=
  [.upper, .lower, .strip, .lstrip, .rstrip, .title, .capitalize, .replace, .split, .join,
    .startswith, .endswith]

def TextMethod.ofName? (name : String) : Option TextMethod := TextMethod.all.find? (·.name == name)

def textValue (text : List Char) : Value := .str (String.ofList text)

def noArguments (function : String) : List Value → Except RunError Unit
  | [] => .ok ()
  | arguments => wrongArity function 0 0 arguments

/-- Which characters a strip takes away: those of the argument, or white space. -/
def stripped (function : String) (arguments : List Value) : Except RunError (Char → Bool) := do
  match ← optionalArgument function arguments with
  | none => return Text.isBlank
  | some .null => return Text.isBlank
  | some other =>
    let chars ← textArgument function other
    return fun c => chars.toList.contains c

def dropEnd (drops : Char → Bool) (text : List Char) : List Char :=
  (text.reverse.dropWhile drops).reverse

def capitalized : List Char → List Char
  | [] => []
  | c :: rest => Text.upperChar c ++ Text.lower rest

def splitText (text : List Char) (arguments : List Value) : Outcome := do
  match ← optionalArgument "split" arguments with
  | none => return .list ((Text.words text).map textValue)
  | some .null => return .list ((Text.words text).map textValue)
  | some other =>
    let separator ← textArgument "split" other
    if separator.isEmpty then .error (.value .emptySeparator)
    else return .list ((Text.split separator.toList text).map textValue)

def joinParts (position : Nat) : List Value → Except RunError (List String)
  | [] => .ok []
  | .str part :: rest => do return part :: (← joinParts (position + 1) rest)
  | other :: _ => .error (.type (.joinItem position other.kind))

def joinText (separator : String) (arguments : List Value) : Outcome := do
  let items ← (← oneArgument "join" arguments).items
  return .str (separator.intercalate (← joinParts 0 items))

def replaceText (text : List Char) (arguments : List Value) : Outcome :=
  match arguments with
  | [old, new] => do
    let old ← textArgument "replace" old
    let new ← textArgument "replace" new
    return textValue (Text.replaceAll old.toList new.toList text)
  | arguments => wrongArity "replace" 2 2 arguments

def candidates (function : String) (arguments : List Value) : Except RunError (List String) := do
  match ← oneArgument function arguments with
  | .tuple items => items.mapM (textArgument function)
  | other => return [← textArgument function other]

def TextMethod.call (method : TextMethod) (text : String) (arguments : List Value) : Outcome :=
  let chars := text.toList
  match method with
  | .upper => do noArguments "upper" arguments; return textValue (Text.upper chars)
  | .lower => do noArguments "lower" arguments; return textValue (Text.lower chars)
  | .strip => do
    let drops ← stripped "strip" arguments
    return textValue (dropEnd drops (chars.dropWhile drops))
  | .lstrip => do return textValue (chars.dropWhile (← stripped "lstrip" arguments))
  | .rstrip => do return textValue (dropEnd (← stripped "rstrip" arguments) chars)
  | .title => do
    noArguments "title" arguments
    return textValue (Text.titleFrom Text.isLetter false chars)
  | .capitalize => do noArguments "capitalize" arguments; return textValue (capitalized chars)
  | .replace => replaceText chars arguments
  | .split => splitText chars arguments
  | .join => joinText text arguments
  | .startswith => do
    return .bool ((← candidates "startswith" arguments).any fun c => c.toList.isPrefixOf chars)
  | .endswith => do
    return .bool ((← candidates "endswith" arguments).any fun c => c.toList.isSuffixOf chars)

def attributeError {α : Type} (value : Value) (name : String) : Except RunError α :=
  .error (.attribute value.kind name)

def mapGet (entries : Entries) (arguments : List Value) : Outcome :=
  let found (key default : Value) : Value :=
    match key with
    | .str key => (entries.lookup key).getD default
    | _ => default
  match arguments with
  | [key] => .ok (found key .null)
  | [key, default] => .ok (found key default)
  | arguments => wrongArity "get" 1 2 arguments

def mapMethod (entries : Entries) (name : String) (arguments : List Value) : Outcome :=
  if name = "keys" then do
    noArguments name arguments
    return .list (entries.map fun entry => .str entry.1)
  else if name = "values" then do
    noArguments name arguments
    return .list (entries.map (·.2))
  else if name = "items" then do
    noArguments name arguments
    return .list (entries.map entryValue)
  else if name = "get" then mapGet entries arguments
  else attributeError (.map entries) name

def sequenceMethod (value : Value) (items : List Value) (name : String) (arguments : List Value) :
    Outcome :=
  if name = "count" then do
    let wanted ← oneArgument name arguments
    return .ofNat (items.countP (·.equals wanted))
  else if name = "index" then do
    let wanted ← oneArgument name arguments
    match items.findIdx? (·.equals wanted) with
    | some position => return .ofNat position
    | none => .error (.value (.notFound wanted))
  else attributeError value name

def Value.callMethod (value : Value) (name : String) (arguments : List Value) : Outcome :=
  match value with
  | .str text =>
    match TextMethod.ofName? name with
    | some method => method.call text arguments
    | none => attributeError value name
  | .map entries => mapMethod entries name arguments
  | .list items => sequenceMethod value items name arguments
  | .tuple items => sequenceMethod value items name arguments
  | other => attributeError other name

end Stencil
