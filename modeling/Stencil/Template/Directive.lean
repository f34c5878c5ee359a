import Stencil.Expr.Parser
import Stencil.Template.Keyword
import Stencil.Template.ParseError
import Stencil.Text.Blank
import Stencil.Text.Escape

/-! Directives: what stands between an opening delimiter and the first closing one behind it. -/
namespace Stencil

/-- A directive with the place of its opening delimiter and the text between the delimiters. -/
structure Directive where
  start : Text.Place
  raw : List Char

def withoutColon (text : List Char) : List Char :=
  if text.getLast? = some ':' then text.dropLast else text

namespace Directive

def source (directive : Directive) : List Char := Text.opening ++ directive.raw ++ Text.closing

/-- The length of the source of a directive in bytes, with its delimiters. -/
def length (directive : Directive) : Nat := Text.byteLength directive.source

def next (directive : Directive) : Text.Place := directive.start.advance directive.source

/-- What a directive says: its text without white space around it, and with escapes replaced. -/
def text (directive : Directive) : List Char := Text.unescape (Text.trim directive.raw)

/-- The first word of a directive. A colon at the end of the directive is no part of it. -/
def word (directive : Directive) : List Char := Text.firstWord (withoutColon directive.text)

def keyword? (directive : Directive) : Option Keyword :=
  Keyword.ofWord? (String.ofList directive.word)

/-- What follows the first word of a directive, without a colon at the end. -/
def argument (directive : Directive) : List Char :=
  Text.trim ((withoutColon directive.text).drop directive.word.length)

def fails (directive : Directive) (fault : ParseFault) : ParseError := ⟨directive.start, fault⟩

def badCode (directive : Directive) (context : CodeContext) (code : List Char) (e : SyntaxError) :
    ParseError :=
  directive.fails (.badCode directive.length context (String.ofList code) e.message)

def unterminated (directive : Directive) : ParseError :=
  directive.fails (.unterminatedBlock directive.length (String.ofList directive.word))

def mismatched (directive : Directive) (expected : String) : ParseError :=
  directive.fails (.mismatchedClose directive.length expected (String.ofList directive.word))

def unknown (directive : Directive) : ParseError :=
  directive.fails (.unknownDirective directive.length (String.ofList directive.word))

def expectBare (directive : Directive) : Except ParseError Unit :=
  if directive.argument = [] then .ok ()
  else
    let word := String.ofList directive.word
    let said := Text.quotedText (String.ofList directive.text)
    .error (directive.fails
      (.malformedDirective directive.length s!"'{word}' does not take an argument: {said}"))

/-- The directive at a place, read from the text behind its opening delimiter, and what follows
its closing delimiter. -/
def read? (start : Text.Place) (text : List Char) : Option (Directive × List Char) :=
  (Text.cut? Text.closing text).map fun (raw, after) => (⟨start, raw⟩, after)

end Directive

end Stencil
