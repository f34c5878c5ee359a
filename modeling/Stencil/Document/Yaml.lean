import Stencil.Document.Yaml.Node
import Stencil.Document.Yaml.Resolve

/-! Values from YAML text. An alias stands for the whole node that its anchor marks. -/
namespace Stencil.Document.Yaml

/-! Anchors, and the size of a document. -/

mutual

def Node.anchored : Node → List (Nat × Node)
  | .reference _ => []
  | .scalar marks isPlain text => marks.anchor.toList.map (·, .scalar marks isPlain text)
  | .sequence marks items =>
    marks.anchor.toList.map (·, .sequence marks items) ++ anchoredItems items
  | .mapping marks entries =>
    marks.anchor.toList.map (·, .mapping marks entries) ++ anchoredEntries entries

def anchoredItems : List Node → List (Nat × Node)
  | [] => []
  | item :: rest => item.anchored ++ anchoredItems rest

def anchoredEntries : List (Node × Node) → List (Nat × Node)
  | [] => []
  | (key, item) :: rest => key.anchored ++ item.anchored ++ anchoredEntries rest

end

mutual

/-- The size of a node: collections count at their start and at their end. -/
def Node.size : Node → Nat
  | .reference _ => 1
  | .scalar .. => 1
  | .sequence _ items => 2 + sizeOfItems items
  | .mapping _ entries => 2 + sizeOfEntries entries

def sizeOfItems : List Node → Nat
  | [] => 0
  | item :: rest => item.size + sizeOfItems rest

def sizeOfEntries : List (Node × Node) → Nat
  | [] => 0
  | (key, item) :: rest => key.size + item.size + sizeOfEntries rest

end

/-- What aliases stand for: of several nodes with one number it is the last. -/
abbrev Targets := List (Nat × Node)

def Node.targets (node : Node) : Targets := node.anchored.reverse

/-- How often aliases may be followed for every unit of the size of a document. -/
def aliasesPerSize : Nat := 100

/-- A computation that follows at most so many aliases, and tells how many more it may. -/
abbrev Following (α : Type) := Nat → Option (α × Nat)

def Node.follow (targets : Targets) : Node → Following Node
  | .reference number, budget =>
    match budget with
    | 0 => none
    | budget + 1 => (targets.lookup number).map (·, budget)
  | node, budget => some (node, budget)

def Node.text (targets : Targets) (node : Node) : Following String := fun budget => do
  match ← node.follow targets budget with
  | (.scalar _ _ text, budget) => return (text, budget)
  | _ => none

def Node.tag? : Node → Option String
  | .reference _ => none
  | .scalar marks .. => marks.tag
  | .sequence marks _ => marks.tag
  | .mapping marks _ => marks.tag

/-- Whether a tag is of no common kind. Nothing has such a tag as a value. -/
def isPrivate (tag : String) : Bool := tag.startsWith "!"

def valuesOf (value : Node → Following Value) : List Node → Following (List Value)
  | [], budget => some ([], budget)
  | item :: rest, budget => do
    let (item, budget) ← value item budget
    let (others, budget) ← valuesOf value rest budget
    return (item :: others, budget)

def entriesOf (key : Node → Following String) (value : Node → Following Value) :
    List (Node × Node) → Following Entries
  | [], budget => some ([], budget)
  | (first, item) :: rest, budget => do
    let (name, budget) ← key first budget
    let (item, budget) ← value item budget
    let (others, budget) ← entriesOf key value rest budget
    return ((name, item) :: others, budget)

/-- The value of a node in which collections nest at most so deep, those of aliases included. -/
def Node.valueWithin (targets : Targets) : Nat → Node → Following Value
  | depth, node, budget => do
    let (node, budget) ← node.follow targets budget
    if node.tag?.any isPrivate then none
    match node, depth with
    | .scalar marks isPlain text, _ => return (← scalarValue? marks.tag isPlain text, budget)
    | .sequence _ items, depth + 1 =>
      let (items, budget) ← valuesOf (Node.valueWithin targets depth) items budget
      return (.list items, budget)
    | .mapping _ entries, depth + 1 =>
      let (pairs, budget) ← entriesOf (Node.text targets) (Node.valueWithin targets depth) entries budget
      return (.ofPairs pairs, budget)
    | _, _ => none

def Node.value? (node : Node) : Option Value :=
  (node.valueWithin node.targets depthLimit (aliasesPerSize * node.size)).map (·.1)

def node? (text : List Char) : Option (Option Node) := do stream? (← tokens? text)

def parse? (text : List Char) : Option Value := do
  match ← node? text with
  | some node => node.value?
  | none => return .null

def parseText? (text : List Char) : Option String := do
  let node ← (← node? text)
  return (← node.text node.targets (aliasesPerSize * node.size)).1

end Stencil.Document.Yaml
