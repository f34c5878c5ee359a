/-! The bytes of a text in UTF-8, and reading bytes as text. -/
namespace Stencil.Text

def bytes (text : List Char) : List UInt8 := text.flatMap String.utf8EncodeChar

/-- Where reading bytes as text fails: the offset of the first bytes that are no character, and how
many of them are to blame. Bytes that end too early have no such number. -/
structure Malformed where
  offset : Nat
  length : Option Nat
deriving DecidableEq, Repr

def isContinuation (byte : UInt8) : Bool := 0x80 ≤ byte && byte ≤ 0xBF

/-- The bounds of the byte behind a first byte of several, and how many more bytes follow that one.
They leave out overlong forms, surrogates and what is above the last code point. -/
def sequenceShape? (first : UInt8) : Option (UInt8 × UInt8 × Nat) :=
  if 0xC2 ≤ first && first ≤ 0xDF then some (0x80, 0xBF, 0)
  else if first = 0xE0 then some (0xA0, 0xBF, 1)
  else if first = 0xED then some (0x80, 0x9F, 1)
  else if 0xE1 ≤ first && first ≤ 0xEF then some (0x80, 0xBF, 1)
  else if first = 0xF0 then some (0x90, 0xBF, 2)
  else if first = 0xF4 then some (0x80, 0x8F, 2)
  else if 0xF1 ≤ first && first ≤ 0xF3 then some (0x80, 0xBF, 2)
  else none

def leadBits (first : UInt8) : Nat :=
  if first < 0xE0 then first.toNat % 32 else if first < 0xF0 then first.toNat % 16
  else first.toNat % 8

/-- What is still to be read of a character. -/
structure Pending where
  start : Nat
  point : Nat
  lower : UInt8
  upper : UInt8
  more : Nat

/-- Reads bytes from an offset on, with a character that has begun, if any. -/
def decodeFrom (offset : Nat) (pending : Option Pending) : List UInt8 → Except Malformed (List Char)
  | [] =>
    match pending with
    | none => .ok []
    | some pending => .error ⟨pending.start, none⟩
  | byte :: rest =>
    match pending with
    | none =>
      if byte < 0x80 then do
        return Char.ofNat byte.toNat :: (← decodeFrom (offset + 1) none rest)
      else match sequenceShape? byte with
        | none => .error ⟨offset, some 1⟩
        | some (lower, upper, more) =>
          decodeFrom (offset + 1) (some ⟨offset, leadBits byte, lower, upper, more⟩) rest
    | some pending =>
      if pending.lower ≤ byte && byte ≤ pending.upper then
        let point := 64 * pending.point + byte.toNat % 64
        match pending.more with
        | 0 => do return Char.ofNat point :: (← decodeFrom (offset + 1) none rest)
        | more + 1 => decodeFrom (offset + 1) (some ⟨pending.start, point, 0x80, 0xBF, more⟩) rest
      else .error ⟨pending.start, some (offset - pending.start)⟩

def decode (bytes : List UInt8) : Except Malformed (List Char) := decodeFrom 0 none bytes

def Malformed.message (malformed : Malformed) : String :=
  match malformed.length with
  | some length => s!"invalid utf-8 sequence of {length} bytes from index {malformed.offset}"
  | none => s!"incomplete utf-8 byte sequence from index {malformed.offset}"

end Stencil.Text
