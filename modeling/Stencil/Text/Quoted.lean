import Stencil.Text.Invisible

/-! Texts and characters quoted for a message. What can not be seen is written by an escape, so
that the message is one line and shows every character. -/
namespace Stencil.Text

def apostrophe : Char := '\x27'

def quotationMark : Char := '\x22'

def backslash : Char := '\x5c'

def hexDigits (n : Nat) : List Char := Nat.toDigits 16 n

def escapeIn (quote c : Char) : List Char :=
  if c = '\x00' then [backslash, '0']
  else if c = '\t' then [backslash, 't']
  else if c = '\r' then [backslash, 'r']
  else if c = '\n' then [backslash, 'n']
  else if c = backslash || c = quote then [backslash, c]
  else if isCombining c || !isPrintable c then
    [backslash, 'u', '{'] ++ hexDigits c.toNat ++ ['}']
  else [c]

def quotedText (text : String) : String :=
  String.ofList (quotationMark :: text.toList.flatMap (escapeIn quotationMark) ++ [quotationMark])

def quotedChar (c : Char) : String :=
  String.ofList (apostrophe :: escapeIn apostrophe c ++ [apostrophe])

end Stencil.Text
