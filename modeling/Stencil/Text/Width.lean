import Stencil.Text.CharWidth
import Stencil.Text.Emoji

/-! Columns that a line of text takes on a terminal. They are counted from the end, since what follows a
character can change its width: letters that join take the room of one, and the characters of an
emoji sequence take the room of one emoji. -/
namespace Stencil.Text

/-- What a text begins with, as far as it matters to the character before it. A text that begins
with the joiner U+200D is named for what the joiner joins. -/
inductive Opening where
  | plain
  /-- An Arabic alef, which joins a lam. -/
  | alef
  /-- A Hebrew lamed, which joins an alef over a joiner. -/
  | lamed
  | joinedLamed
  /-- A Khmer letter with a form below the line. -/
  | khmerLetter
  /-- A Buginese ya, which joins an i and an a over a joiner. -/
  | bugineseYa
  | joinedBugineseYa
  | bugineseIYa
  /-- A Tifinagh letter, which joins another over a joiner of either kind. -/
  | tifinagh
  | joinedTifinagh
  | tifinaghJoiner
  /-- A Lisu tone letter that ends a pair of them. -/
  | lisuTone
  /-- An Orkhon i, which joins a letter over a joiner. -/
  | orkhonI
  | joinedOrkhonI
  | emoji
  | skinTone
  | flagLetter
  | flagLetters
  | joinedEmoji
  /-- A keycap mark before a joined emoji. -/
  | joinedKeycap
  /-- One flag letter before a joined emoji. -/
  | joinedFlagLetter
  /-- An even number of flag letters before a joined emoji. -/
  | joinedFlags
  /-- An odd number of flag letters before a joined emoji, three of them at least. -/
  | joinedFlagsLetter
  /-- The end of a tag sequence. -/
  | tagEnd
  /-- Tag letters before the end of a tag sequence. -/
  | tagLetters (count : Nat)
  /-- Tag digits before the rest of a tag sequence. -/
  | tagDigits (count : Nat)
  deriving DecidableEq, Repr

/-- What a text begins with, together with the style that a variation selector at its start asks
of the character before it. -/
structure Following where
  opening : Opening
  emojiStyle : Bool
  textStyle : Bool
  deriving DecidableEq, Repr

namespace Opening

def unstyled (opening : Opening) : Following := ⟨opening, false, false⟩

/-- Letters that join the letter before them, or take no room of their own there. -/
def isJoining : Opening → Bool
  | alef | lamed | joinedLamed | khmerLetter | bugineseYa | joinedBugineseYa | bugineseIYa
  | tifinagh | joinedTifinagh | tifinaghJoiner | lisuTone | orkhonI | joinedOrkhonI => true
  | _ => false

/-- Joining letters that ignorable marks before them do not part from the letter they join. -/
def seesThroughMarks (opening : Opening) : Bool := opening.isJoining && opening != alef

def isJoinedEmoji : Opening → Bool
  | joinedEmoji | joinedKeycap => true
  | _ => false

def joined : Opening → Opening
  | lamed => joinedLamed
  | bugineseYa => joinedBugineseYa
  | tifinagh => joinedTifinagh
  | orkhonI => joinedOrkhonI
  | opening => opening

end Opening

namespace Following

def plain : Following := Opening.plain.unstyled

def askEmojiStyle (next : Following) : Following :=
  if next.opening.isJoining || next.opening.isJoinedEmoji then
    { next with emojiStyle := true }
  else ⟨.plain, true, false⟩

def askTextStyle (next : Following) : Following :=
  if next.opening.isJoining then { next with textStyle := true } else ⟨.plain, false, true⟩

def refuseEmojiStyle (next : Following) : Following :=
  if !next.emojiStyle then next
  else if next.opening.isJoining then { next with emojiStyle := false }
  else plain

def refuseTextStyle (next : Following) : Following :=
  if !next.textStyle then next
  else if next.opening.isJoining then { next with textStyle := false }
  else plain

end Following

def isLam (c : Char) : Bool :=
  let n := c.toNat
  n = 0x644 || (0x6B5 ≤ n && n ≤ 0x6B8) || n = 0x76A || n = 0x8A6 || n = 0x8C7

def isAlef (c : Char) : Bool :=
  inRanges [(0x622, 0x623), (0x625, 0x625), (0x627, 0x627), (0x671, 0x673), (0x675, 0x675),
    (0x773, 0x774), (0x870, 0x882)] c.toNat

def isKhmerLetter (c : Char) : Bool :=
  inRanges [(0x1780, 0x1782), (0x1784, 0x1787), (0x1789, 0x178C), (0x178E, 0x1793),
    (0x1795, 0x1798), (0x179B, 0x179D), (0x17A0, 0x17A0), (0x17A2, 0x17A2), (0x17A7, 0x17A7),
    (0x17AB, 0x17AC), (0x17AF, 0x17AF)] c.toNat

def isTifinagh (c : Char) : Bool :=
  (0x2D31 ≤ c.toNat && c.toNat ≤ 0x2D65) || c.toNat = 0x2D6F

/-- Characters without a width that part Arabic letters, unlike marks. -/
def partingRanges : List (Nat × Nat) := [
  (0x605, 0x605), (0x890, 0x891), (0x8E2, 0x8E2), (0x9BE, 0x9BE), (0x9D7, 0x9D7), (0xB3E, 0xB3E),
  (0xB57, 0xB57), (0xBBE, 0xBBE), (0xBD7, 0xBD7), (0xCC0, 0xCC0), (0xCC2, 0xCC2), (0xCC7, 0xCC8),
  (0xCCA, 0xCCB), (0xCD5, 0xCD6), (0xD3E, 0xD3E), (0xD4E, 0xD4E), (0xD57, 0xD57), (0xDCF, 0xDCF),
  (0xDDF, 0xDDF), (0x1160, 0x11FF), (0x180E, 0x180E), (0x1B35, 0x1B35), (0x1B3B, 0x1B3B),
  (0x1B3D, 0x1B3D), (0x1B43, 0x1B43), (0x200C, 0x200D), (0x2065, 0x2069), (0x302E, 0x302F),
  (0x3164, 0x3164), (0xA8FA, 0xA8FA), (0xD7B0, 0xD7C6), (0xD7CB, 0xD7FB), (0xFF9E, 0xFFA0),
  (0xFFF0, 0xFFF8), (0x111C2, 0x111C3), (0x1133E, 0x1133E), (0x11357, 0x11357),
  (0x114B0, 0x114B0), (0x114BD, 0x114BD), (0x115AF, 0x115AF), (0x11930, 0x11930),
  (0x1193F, 0x1193F), (0x11941, 0x11941), (0x11A3A, 0x11A3A), (0x11A84, 0x11A89),
  (0x11D46, 0x11D46), (0x11F02, 0x11F02), (0x1D165, 0x1D165), (0x1D16E, 0x1D172),
  (0xE0000, 0xE0000), (0xE0002, 0xE001F), (0xE0080, 0xE00FF), (0xE01F0, 0xE0FFF)]

/-- Whether a mark stands on an Arabic letter without parting it from the next one. -/
def isArabicMark (c : Char) : Bool := charWidth c = 0 && !inRanges partingRanges c.toNat

def isIgnorableMark (c : Char) : Bool :=
  inRanges [(0x34F, 0x34F), (0x17B4, 0x17B5), (0x180B, 0x180D), (0x180F, 0x180F),
    (0x200D, 0x200D), (0xFE00, 0xFE0F), (0xE0100, 0xE01EF)] c.toNat

def openingOf (c : Char) : Opening :=
  let n := c.toNat
  if isAlef c then .alef
  else if n = 0x5DC then .lamed
  else if isKhmerLetter c then .khmerLetter
  else if n = 0x1A10 then .bugineseYa
  else if isTifinagh c then .tifinagh
  else if n = 0xA4FC || n = 0xA4FD then .lisuTone
  else if n = 0x10C03 then .orkhonI
  else if isFlagLetter c then .flagLetter
  else if isSkinTone c then .skinTone
  else if isEmoji c then .emoji
  else .plain

/-- A character that nothing after it changes. -/
def standAlone (c : Char) : Int × Following :=
  if c.toNat = 0xFE0F then (0, ⟨.plain, true, false⟩)
  else if c.toNat = 0xFE0E then (0, ⟨.plain, false, true⟩)
  else (charWidth c, (openingOf c).unstyled)

/-- The change of width as a character joins what follows it, if it does. -/
def Opening.join? (next : Opening) (c : Char) : Option (Int × Opening) :=
  let n := c.toNat
  match next with
  | .plain | .lamed | .bugineseYa | .orkhonI => none
  | .alef =>
    if isLam c then some (0, .plain) else if isArabicMark c then some (0, .alef) else none
  | .joinedLamed => if n = 0x5D0 then some (0, .plain) else none
  | .khmerLetter => if n = 0x17D2 then some (-1, .plain) else none
  | .joinedBugineseYa => if n = 0x1A17 then some (0, .bugineseIYa) else none
  | .bugineseIYa => if n = 0x1A15 then some (0, .plain) else none
  | .tifinagh => if n = 0x2D7F then some (1, .tifinaghJoiner) else none
  | .joinedTifinagh =>
    if n = 0x2D7F then some (1, .tifinaghJoiner)
    else if isTifinagh c then some (0, .plain)
    else none
  | .tifinaghJoiner => if isTifinagh c then some (-1, .plain) else none
  | .lisuTone => if 0xA4F8 ≤ n && n ≤ 0xA4FB then some (0, .plain) else none
  | .joinedOrkhonI => if n = 0x10C32 then some (0, .plain) else none
  | .emoji => if n = 0x200D then some (0, .joinedEmoji) else none
  | .skinTone =>
    if takesSkinTone c then some (0, .emoji)
    else if n = 0x200D then some (0, .joinedEmoji)
    else none
  | .flagLetter => if isFlagLetter c then some (1, .flagLetters) else none
  | .flagLetters =>
    if isFlagLetter c then some (1, .flagLetters)
    else if n = 0x200D then some (0, .joinedEmoji)
    else none
  | .joinedEmoji =>
    if n = 0x20E3 then some (0, .joinedKeycap)
    else if isFlagLetter c then some (1, .joinedFlagLetter)
    else if isSkinTone c then some (0, .skinTone)
    else if n = 0xE007F then some (0, .tagEnd)
    else if isEmoji c then some (0, .emoji)
    else none
  | .joinedKeycap => none
  | .joinedFlagLetter => if isFlagLetter c then some (-1, .joinedFlags) else none
  | .joinedFlags =>
    if isFlagLetter c then some (3, .joinedFlagsLetter)
    else if n = 0x200D then some (0, .joinedEmoji)
    else none
  | .joinedFlagsLetter =>
    if isFlagLetter c then some (-1, .joinedFlags)
    else if n = 0x200D then some (0, .joinedEmoji)
    else none
  | .tagEnd =>
    if isTagLetter c then some (0, .tagLetters 1)
    else if isTagDigit c then some (0, .tagDigits 1)
    else none
  | .tagLetters count =>
    if isTagLetter c && count < 6 then some (0, .tagLetters (count + 1))
    else if isTagDigit c && count < 5 then some (0, .tagDigits 1)
    else if isBlackFlag c && 3 ≤ count then some (0, .emoji)
    else none
  | .tagDigits count =>
    if isTagDigit c && count < 3 then some (0, .tagDigits (count + 1))
    else if isBlackFlag c && count = 3 then some (0, .emoji)
    else none

/-- Puts a character before a text: the change of width, and what the longer text begins with. -/
def Following.extend (next : Following) (c : Char) : Int × Following :=
  let n := c.toNat
  if next.emojiStyle && takesEmojiStyle c then
    (if next.opening.isJoinedEmoji then 0 else 2, Opening.unstyled .emoji)
  else
    let next := next.refuseEmojiStyle
    if n ≤ 0xA0 then (1, .plain)
    else if next = .plain then standAlone c
    else if n = 0xFE0F then (0, next.askEmojiStyle)
    else if n = 0xFE0E then (0, next.askTextStyle)
    else if next.textStyle && takesTextStyle c then (1, .plain)
    else
      let next := next.refuseTextStyle
      if next.opening.seesThroughMarks && n = 0x200D then (0, next.opening.joined.unstyled)
      else if next.opening.seesThroughMarks && isIgnorableMark c then (0, next)
      else
        match next.opening.join? c with
        | some (columns, opening) => (columns, opening.unstyled)
        | none => standAlone c

def measure (text : List Char) : Int × Following :=
  text.foldr (fun c (columns, next) =>
    let (change, next) := next.extend c
    (columns + change, next)) (0, .plain)

def width (text : List Char) : Nat := (measure text).1.toNat

theorem extend_plain {c : Char} (basic : c.toNat ≤ 0xA0) :
    Following.plain.extend c = (1, .plain) := by
  simp [Following.extend, Following.plain, Opening.unstyled, basic]

theorem measure_basic {text : List Char} (basic : ∀ c ∈ text, c.toNat ≤ 0xA0) :
    measure text = ((text.length : Int), .plain) := by
  induction text with
  | nil => rfl
  | cons c rest ih =>
    have tail := ih fun d member => basic d (List.mem_cons_of_mem c member)
    have head := basic c List.mem_cons_self
    simp only [measure, List.foldr_cons] at tail ⊢
    rw [tail]
    simp [extend_plain head]

/-- Each basic character takes one column, so that a text of them is as wide as it is long. -/
theorem width_basic {text : List Char} (basic : ∀ c ∈ text, c.toNat ≤ 0xA0) :
    width text = text.length := by
  simp [width, measure_basic basic]

end Stencil.Text
