import Stencil.Document.Yaml.Token

/-! The nodes of a YAML document, from its tokens. The tokens that are left where a list of items
starts bound its length. -/
namespace Stencil.Document.Yaml

/-- What may stand before a node. A tag is the full one that its handle makes of it. -/
structure Marks where
  anchor : Option Nat
  tag : Option String
deriving DecidableEq

def Marks.empty : Marks := ⟨none, none⟩

inductive Node where
  | reference (number : Nat)
  | scalar (marks : Marks) (isPlain : Bool) (text : String)
  | sequence (marks : Marks) (items : List Node)
  | mapping (marks : Marks) (entries : List (Node × Node))

def Node.empty (marks : Marks) : Node := .scalar marks true ""

abbrev TokenReader (α : Type) := List Token → Option (α × List Token)

abbrev Handles := List (String × String)

def standardHandles : Handles := [("!", "!"), ("!!", "tag:yaml.org,2002:")]

def Tag.full? (handles : Handles) (tag : Tag) : Option String :=
  if tag.handle.isEmpty then some tag.suffix
  else (handles.lookup tag.handle).map (· ++ tag.suffix)

def marks (handles : Handles) : TokenReader Marks
  | .anchor number :: .tag tag :: rest => (tag.full? handles).map (⟨some number, some ·⟩, rest)
  | .tag tag :: .anchor number :: rest => (tag.full? handles).map (⟨some number, some ·⟩, rest)
  | .anchor number :: rest => some (⟨some number, none⟩, rest)
  | .tag tag :: rest => (tag.full? handles).map (⟨none, some ·⟩, rest)
  | tokens => some (Marks.empty, tokens)

/-- Where a node stands. As a key or a value of a block mapping it may be a sequence that is not
indented. -/
inductive Place where
  | flow | block | entry
deriving DecidableEq

def Place.opens (place : Place) : Token → Bool
  | .flowSequence | .flowMapping => true
  | .blockSequence | .blockMapping => place ≠ .flow
  | .blockEntry => place = .entry
  | _ => false

def nodeBefore (ends : List Token) (node : TokenReader Node) : TokenReader Node := fun tokens =>
  if tokens.head?.any ends.contains then some (Node.empty Marks.empty, tokens) else node tokens

def valueBefore (ends : List Token) (node : TokenReader Node) : TokenReader Node
  | .value :: rest => nodeBefore ends node rest
  | tokens => some (Node.empty Marks.empty, tokens)

/-- The items of a sequence whose first one its mark starts, up to a token of another kind. -/
def blockItems (ends : List Token) (node : TokenReader Node) :
    List Token → TokenReader (List Node)
  | _ :: fuel, .blockEntry :: rest => do
    let (item, rest) ← nodeBefore ends node rest
    let (others, rest) ← blockItems ends node fuel rest
    return (item :: others, rest)
  | _, tokens => some ([], tokens)

/-- What may stand in place of a key or a value that is missing in a block mapping. -/
def entryEnds : List Token := [.key, .value, .blockEnd]

/-- The entries of a block mapping, up to a token other than the mark of a key. -/
def blockEntries (node : TokenReader Node) : List Token → TokenReader (List (Node × Node))
  | _ :: fuel, .key :: rest => do
    let (key, rest) ← nodeBefore entryEnds node rest
    let (item, rest) ← valueBefore entryEnds node rest
    let (others, rest) ← blockEntries node fuel rest
    return ((key, item) :: others, rest)
  | _, tokens => some ([], tokens)

def blockEnd : List Token → Option (List Token)
  | .blockEnd :: rest => some rest
  | _ => none

/-- The key of a pair in a flow sequence. Where it is missing the token in its place is lost. -/
def pairKey (node : TokenReader Node) : TokenReader Node := fun tokens =>
  if tokens.head?.any [Token.value, .flowEntry, .flowSequenceEnd].contains then
    some (Node.empty Marks.empty, tokens.drop 1)
  else node tokens

def flowItem (node : TokenReader Node) : TokenReader Node
  | .key :: rest => do
    let (key, rest) ← pairKey node rest
    let (item, rest) ← valueBefore [.flowEntry, .flowSequenceEnd] node rest
    return (.mapping Marks.empty [(key, item)], rest)
  | tokens => node tokens

/-- An entry of a flow mapping. Its value, and a key with a mark, may be missing. -/
def flowPair (node : TokenReader Node) : TokenReader (Node × Node)
  | .key :: rest => do
    let (key, rest) ← nodeBefore [.value, .flowEntry, .flowMappingEnd] node rest
    let (item, rest) ← valueBefore [.flowEntry, .flowMappingEnd] node rest
    return ((key, item), rest)
  | tokens => (node tokens).map fun (key, rest) => ((key, Node.empty Marks.empty), rest)

/-- What a flow collection holds, and its end. A comma may stand before the end. -/
def flowList {α : Type} (ending : Token) (item : TokenReader α) :
    List Token → TokenReader (List α)
  | [], _ => none
  | _ :: fuel, tokens =>
    if tokens.head? = some ending then some ([], tokens.drop 1)
    else do
      let (first, rest) ← item tokens
      match rest with
      | .flowEntry :: rest =>
        let (others, rest) ← flowList ending item fuel rest
        return (first :: others, rest)
      | _ => if rest.head? = some ending then return ([first], rest.drop 1) else none

def collection (marks : Marks) (node : Place → TokenReader Node) : TokenReader Node
  | .flowSequence :: rest => do
    let (items, rest) ← flowList .flowSequenceEnd (flowItem (node .flow)) rest rest
    return (.sequence marks items, rest)
  | .flowMapping :: rest => do
    let (entries, rest) ← flowList .flowMappingEnd (flowPair (node .flow)) rest rest
    return (.mapping marks entries, rest)
  | .blockSequence :: rest => do
    let (items, rest) ← blockItems [.blockEntry, .blockEnd] (node .block) rest rest
    return (.sequence marks items, ← blockEnd rest)
  | .blockMapping :: rest => do
    let (entries, rest) ← blockEntries (node .entry) rest rest
    return (.mapping marks entries, ← blockEnd rest)
  | tokens => do
    let (items, rest) ← blockItems (.blockEntry :: entryEnds) (node .block) tokens tokens
    return (.sequence marks items, rest)

def nodeWithin (handles : Handles) : Nat → Place → TokenReader Node
  | _, _, .reference number :: rest => some (.reference number, rest)
  | depth, place, tokens => do
    let (found, tokens) ← marks handles tokens
    match tokens with
    | .scalar isPlain text :: rest => return (.scalar found isPlain text, rest)
    | _ =>
      if tokens.head?.any place.opens then
        match depth with
        | 0 => none
        | depth + 1 => collection found (nodeWithin handles depth) tokens
      else if found = Marks.empty then none
      else return (Node.empty found, tokens)

def depthLimit : Nat := 128

/-- Reads directives: at most one of the version, which has to be known, and one for every handle. -/
def directives (versioned : Bool) (handles : Handles) : TokenReader Handles
  | .version major minor :: rest =>
    if versioned || major ≠ 1 || (minor ≠ 1 && minor ≠ 2) then none
    else directives true handles rest
  | .tagHandle handle expansion :: rest =>
    if (handles.lookup handle).isSome then none
    else directives versioned (handles ++ [(handle, expansion)]) rest
  | tokens => some (handles ++ standardHandles, tokens)

def Token.isOutside : Token → Bool
  | .version .. | .tagHandle .. | .documentStart | .documentEnd => true
  | _ => false

/-- The node of a document. It may be empty behind a mark of its start, which has to stand behind
directives. -/
def document (tokens : List Token) : Option (Node × List Token) := do
  let (handles, rest) ← directives false [] tokens
  match rest with
  | .documentStart :: rest =>
    if rest.head?.all Token.isOutside then return (Node.empty Marks.empty, rest)
    else nodeWithin handles depthLimit .block rest
  | _ => if tokens.head?.any Token.isOutside then none else nodeWithin handles depthLimit .block rest

def stream? (tokens : List Token) : Option (Option Node) := do
  if tokens.isEmpty then return none
  let (node, rest) ← document tokens
  if (rest.dropWhile (· = .documentEnd)).isEmpty then return some node else none

end Stencil.Document.Yaml
