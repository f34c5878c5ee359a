import Stencil.Decimal.Read
import Stencil.Text.Blank
import Stencil.Text.Place
import Stencil.Text.Search

/-! Artifacts: compiled modules written to a file. Header lines start with a number sign; the last
of them gives the length in bytes of the source that follows, and the listing comes after it. -/
namespace Stencil

/-- What an artifact records: the fingerprint of a source file, and the source that was compiled,
unless the artifact is damaged. -/
structure Artifact where
  fingerprint : List Char
  source : Option (List Char)
deriving DecidableEq

namespace Artifact

def fingerprintLabel : List Char := "# fingerprint: ".toList

def lengthLabel : List Char := "# source bytes: ".toList

def text (path : String) (fingerprint source listing : List Char) : List Char :=
  "# Generated from ".toList ++ path.toList ++ " by prep. Do not edit.\n".toList ++
    fingerprintLabel ++ fingerprint ++ ['\n'] ++
    lengthLabel ++ Nat.toDigits 10 (Text.byteLength source) ++ ['\n'] ++
    source ++ ['\n'] ++ listing

/-- What follows a label at the start of a line, without white space around it. -/
def labelled? (label line : List Char) : Option (List Char) :=
  if label.isPrefixOf line then some (Text.trim (line.drop label.length)) else none

def readCount? (text : List Char) : Option Nat :=
  let digits := match text with
    | '+' :: rest => rest
    | _ => text
  if digits.isEmpty || !digits.all Char.isDigit then none else some (Decimal.digitsValue digits)

/-- Reads header lines behind those that gave a fingerprint, if one did. -/
def fromLines : Option (List Char) → List (List Char) → Option Artifact
  | fingerprint, [] => fingerprint.map (⟨·, none⟩)
  | fingerprint, line :: rest =>
    if line.head? = some '#' then
      let line := Text.trimEnd line
      match labelled? fingerprintLabel line with
      | some found => fromLines (some found) rest
      | none =>
        match labelled? lengthLabel line with
        | some count =>
          let source := (readCount? count).bind fun length =>
            Text.takeBytes? length (Text.join ['\n'] rest)
          fingerprint.map (⟨·, source⟩)
        | none => fromLines fingerprint rest
    else fingerprint.map (⟨·, none⟩)

/-- What a text records as an artifact, unless it has no fingerprint in its header. -/
def parse? (text : List Char) : Option Artifact := fromLines none (Text.splitLines text)

end Artifact

end Stencil
