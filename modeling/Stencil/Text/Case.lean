import Stencil.Text.CaseTable

/-! Upper and lower case of characters and of texts, and title case. -/
namespace Stencil.Text

def shiftBy (runs : List CaseRun) (c : Char) : Option Char :=
  let n := c.toNat
  (runs.find? fun run => run.first ≤ n && n ≤ run.last && (n - run.first) % run.step == 0).map
    fun run => Char.ofNat (Int.toNat (n + run.shift))

def expansion (table : List (Nat × List Nat)) (c : Char) : Option (List Char) :=
  (table.lookup c.toNat).map (·.map Char.ofNat)

def upperChar (c : Char) : List Char :=
  if c.toNat < 0x80 then [c.toUpper]
  else (expansion upperExpansions c).getD [(shiftBy upperRuns c).getD c]

def lowerChar (c : Char) : List Char :=
  if c.toNat < 0x80 then [c.toLower]
  else (expansion lowerExpansions c).getD [(shiftBy lowerRuns c).getD c]

def upper (text : List Char) : List Char := text.flatMap upperChar

def isCased (c : Char) : Bool := inRanges casedRanges c.toNat

def isCaseIgnorable (c : Char) : Bool := inRanges caseIgnorableRanges c.toNat

def meetsCased (text : List Char) : Bool :=
  match text.dropWhile isCaseIgnorable with
  | [] => false
  | c :: _ => isCased c

/-- Lower case behind the characters of `before`, last character first. A capital sigma that ends
a word becomes a final one. -/
def lowerFrom (before : List Char) : List Char → List Char
  | [] => []
  | c :: rest =>
    let here :=
      if c.toNat = 0x3A3 then
        if meetsCased before && !meetsCased rest then [Char.ofNat 0x3C2] else [Char.ofNat 0x3C3]
      else lowerChar c
    here ++ lowerFrom (c :: before) rest

def lower (text : List Char) : List Char := lowerFrom [] text

def titleFrom (isLetter : Char → Bool) : Bool → List Char → List Char
  | _, [] => []
  | inWord, c :: rest =>
    if isLetter c then
      (if inWord then lowerChar c else upperChar c) ++ titleFrom isLetter true rest
    else c :: titleFrom isLetter false rest

end Stencil.Text
