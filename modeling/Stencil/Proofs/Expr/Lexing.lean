import Stencil.Proofs.Expr.Print
import Stencil.Proofs.Outcome
import Stencil.Proofs.Text.Parts
import Mathlib.Data.List.TakeWhile

/-! Tokens written with spaces between them are read back, and nothing but such tokens is read.
Main statements: `tokensFrom_spaced` and `tokens_plain`. -/
namespace Stencil

/-- Tokens of a source without line breaks and floating point literals. -/
def Token.Plain : Token → Prop
  | .name word => isAsciiWord word = true
  | .int n => 0 ≤ n.toInt
  | .str _ | .mark _ => True
  | .float _ | .newline => False

def Ends (back : List Char) : Prop := ∀ c ∈ back.head?, c = ' '

theorem Ends.cases {back : List Char} (ends : Ends back) : back = [] ∨ ∃ rest, back = ' ' :: rest := by
  cases back with
  | nil => exact .inl rfl
  | cons c rest => exact .inr ⟨rest, by rw [ends c rfl]⟩

/-- Characters that end a word or a number. -/
def separators : List Char := [' ', ',', ':', ')', ']', '\x7d']

def Detached (back : List Char) : Prop := ∀ c ∈ back.head?, c ∈ separators

theorem Ends.detached {back : List Char} (ends : Ends back) : Detached back := by
  intro c head
  rw [ends c head]
  exact List.mem_cons_self

theorem Detached.cases {back : List Char} (detached : Detached back) :
    back = [] ∨ ∃ c ∈ separators, ∃ rest, back = c :: rest := by
  cases back with
  | nil => exact .inl rfl
  | cons c rest => exact .inr ⟨c, detached c rfl, rest, rfl⟩

theorem Detached.takeWhile_append {p : Char → Bool} {front back : List Char} (detached : Detached back)
    (all : ∀ c ∈ front, p c = true) (other : separators.any p = false) :
    (front ++ back).takeWhile p = front := by
  have none : back.takeWhile p = [] := by
    rcases detached.cases with rfl | ⟨c, member, rest, rfl⟩
    · rfl
    · exact List.takeWhile_cons_of_neg (List.any_eq_false.mp other c member)
  rw [List.takeWhile_append_of_pos all, none, List.append_nil]

/-- Characters that neither are layout nor start a comment or a line break. -/
def Solid (c : Char) : Prop := c ∉ [' ', '\t', '\r', '\x0c', '\n', '\\', '#']

theorem lexeme_of_solid {c : Char} (solid : Solid c) (rest : List Char) : lexeme c rest =
    if isWordStart c then lexWord (c :: rest)
    else if c.isDigit || (c = '.' && rest.head?.any Char.isDigit) then lexNumber (c :: rest)
    else if c = '\x27' || c = '\x22' then lexString c rest
    else lexMark c rest := by
  simp only [Solid, List.mem_cons, List.not_mem_nil, or_false, not_or] at solid
  obtain ⟨space, tab, carriage, feed, newline, escape, comment⟩ := solid
  simp [lexeme, space, tab, carriage, feed, newline, escape, comment]

theorem solid_of {p : Char → Bool} (apart : [' ', '\t', '\r', '\x0c', '\n', '\\', '#'].any p = false)
    {c : Char} (holds : p c = true) : Solid c :=
  fun member => List.any_eq_false.mp apart c member holds

theorem wordChar_of_wordStart {c : Char} (start : isWordStart c = true) : isWordChar c = true := by
  simp only [isWordStart, isWordChar, Char.isAlphanum, Bool.or_eq_true] at start ⊢
  rcases start with alpha | underscore
  · exact .inl (.inl alpha)
  · exact .inr underscore

theorem isAsciiWord_ofList {c : Char} {rest : List Char} :
    isAsciiWord (String.ofList (c :: rest)) = true ↔
      isWordStart c = true ∧ ∀ d ∈ rest, isWordChar d = true := by
  simp [isAsciiWord]

theorem not_wordStart_of_digit {c : Char} (digit : c.isDigit = true) : isWordStart c = false := by
  rw [Char.isDigit, Bool.and_eq_true, decide_eq_true_eq, decide_eq_true_eq] at digit
  have low : c.val ≤ 57 := digit.2
  have underscore : c ≠ '_' := by
    rintro rfl
    exact absurd low (by decide)
  have upper : ¬ 65 ≤ c.val := by
    intro high
    exact absurd (UInt32.le_trans high low) (by decide)
  have lower : ¬ 97 ≤ c.val := by
    intro high
    exact absurd (UInt32.le_trans high low) (by decide)
  have notUpper : c.isUpper = false := decide_eq_false fun both => upper both.1
  have notLower : c.isLower = false := Bool.and_eq_false_iff.mpr (.inl (decide_eq_false lower))
  have notAlpha : c.isAlpha = (c.isUpper || c.isLower) := rfl
  simp [isWordStart, notAlpha, notUpper, notLower, underscore]

theorem lexeme_word {c : Char} {rest back : List Char} (start : isWordStart c = true)
    (word : ∀ d ∈ rest, isWordChar d = true) (detached : Detached back) :
    lexeme c (rest ++ back) = .ok ⟨some (.name (String.ofList (c :: rest))), rest.length⟩ := by
  have all : ∀ d ∈ c :: rest, isWordChar d = true :=
    List.forall_mem_cons.mpr ⟨wordChar_of_wordStart start, word⟩
  have taken : (c :: (rest ++ back)).takeWhile isWordChar = c :: rest :=
    detached.takeWhile_append all (by decide)
  rw [lexeme_of_solid (solid_of rfl start), if_pos start, lexWord, taken]
  rfl

theorem intToken_toDigits {n : Int64} (natural : 0 ≤ n.toInt) :
    intToken (Nat.toDigits 10 n.toInt.natAbs) = .ok (.int n) := by
  have whole : (n.toInt.natAbs : Int) = n.toInt := Int.natAbs_of_nonneg natural
  have bound : n.toInt.natAbs ≤ Int64.maxValue.toInt.toNat := by
    have := n.toInt_le
    omega
  have same : Int64.ofNat n.toInt.natAbs = n := by
    rw [← Int64.ofInt_eq_ofNat, whole, Int64.ofInt_toInt]
  rw [intToken, Decimal.digitsValue_toDigits, if_pos bound, same]

theorem lexeme_int {n : Int64} (natural : 0 ≤ n.toInt) {c : Char} {rest back : List Char}
    (text : Nat.toDigits 10 n.toInt.natAbs = c :: rest) (detached : Detached back) :
    lexeme c (rest ++ back) = .ok ⟨some (.int n), rest.length⟩ := by
  have digits : ∀ d ∈ c :: rest, d.isDigit = true := by
    intro d member
    rw [← text] at member
    exact Nat.isDigit_of_mem_toDigits (by decide) (by decide) member
  have digit : c.isDigit = true := digits c List.mem_cons_self
  have whole : (c :: (rest ++ back)).takeWhile Char.isDigit = c :: rest :=
    detached.takeWhile_append digits (by decide)
  have behind : (c :: (rest ++ back)).drop (c :: rest).length = back := List.drop_left
  obtain ⟨fraction, exponent, clear⟩ : fractionPart back = [] ∧ exponentPart back = [] ∧
      (back.head?.any fun d => d.isAlpha || d = '_') = false := by
    rcases detached.cases with rfl | ⟨d, member, others, rfl⟩
    · exact ⟨rfl, rfl, rfl⟩
    · simp only [separators, List.mem_cons, List.not_mem_nil, or_false] at member
      rcases member with rfl | rfl | rfl | rfl | rfl | rfl <;> exact ⟨rfl, rfl, rfl⟩
  have token : intToken (c :: rest) = .ok (.int n) := by
    rw [← text]
    exact intToken_toDigits natural
  rw [lexeme_of_solid (solid_of rfl digit), not_wordStart_of_digit digit, if_neg (by decide), digit,
    Bool.true_or, if_pos rfl, lexNumber]
  simp only [whole, behind, fraction, List.drop_zero, List.length_nil, exponent, List.append_nil, clear,
    token, List.isEmpty_nil, Bool.and_self]
  rfl

theorem stringBody_quote (quote : Char) (back : List Char) :
    stringBody quote (quote :: back) = some ([], 1) := by
  cases back <;> simp [stringBody]

theorem stringBody_plain {quote c : Char} (differs : c ≠ quote) (newline : c ≠ '\n') (backslash : c ≠ '\\')
    (rest : List Char) : stringBody quote (c :: rest) =
      (stringBody quote rest).map fun (body, n) => (c :: body, n + 1) := by
  cases rest <;> simp [stringBody, differs, newline, backslash]

theorem stringBody_escaped {quote : Char} (isQuote : quote = '\x27' ∨ quote = '\x22') (text back : List Char) :
    stringBody quote (text.flatMap (literalChar quote) ++ quote :: back) =
      some (text, (text.flatMap (literalChar quote)).length + 1) := by
  induction text with
  | nil => exact stringBody_quote quote back
  | cons c text ih =>
    have plainQuote : quote ≠ '\\' := by rcases isQuote with rfl | rfl <;> decide
    rw [List.flatMap_cons, List.append_assoc]
    -- An escaped character takes two characters of the source, any other one stands for itself.
    by_cases escaped : c = '\\' ∨ c = '\n' ∨ c = '\r' ∨ c = '\t' ∨ c = quote
    · obtain ⟨e, spelled, meant⟩ : ∃ e, literalChar quote c = ['\\', e] ∧ unescaped e = [c] := by
        rcases escaped with rfl | rfl | rfl | rfl | rfl
        · exact ⟨_, rfl, rfl⟩
        · exact ⟨_, rfl, rfl⟩
        · exact ⟨_, rfl, rfl⟩
        · exact ⟨_, rfl, rfl⟩
        · rcases isQuote with rfl | rfl
          · exact ⟨_, rfl, rfl⟩
          · exact ⟨_, rfl, rfl⟩
      rw [spelled]
      simp [stringBody, plainQuote.symm, ih, meant]
    · simp only [not_or] at escaped
      obtain ⟨backslash, newline, carriage, tab, differs⟩ := escaped
      have spelled : literalChar quote c = [c] := by
        simp [literalChar, backslash, newline, carriage, tab, differs]
      rw [spelled, List.singleton_append, stringBody_plain differs newline backslash, ih]
      simp

theorem literalQuote_cases (text : List Char) :
    literalQuote text = '\x27' ∨ literalQuote text = '\x22' := by
  rw [literalQuote]
  split
  · exact .inr rfl
  · exact .inl rfl

theorem lexeme_string (text back : List Char) :
    lexeme (literalQuote text)
        (text.flatMap (literalChar (literalQuote text)) ++ [literalQuote text] ++ back) =
      .ok ⟨some (.str (String.ofList text)),
        (text.flatMap (literalChar (literalQuote text)) ++ [literalQuote text]).length⟩ := by
  have isQuote := literalQuote_cases text
  generalize literalQuote text = quote at isQuote
  have opens (rest : List Char) : lexeme quote rest = lexString quote rest := by
    rcases isQuote with rfl | rfl <;> rfl
  rw [opens, List.append_assoc, List.singleton_append, lexString, stringBody_escaped isQuote]
  simp

theorem lexeme_mark (mark : Mark) : ∃ c rest, mark.symbol = c :: rest ∧ ∀ back, Ends back →
    lexeme c (rest ++ back) = .ok ⟨some (.mark mark), rest.length⟩ := by
  cases mark <;> refine ⟨_, _, rfl, fun back ends => ?_⟩ <;> rcases ends.cases with rfl | ⟨_, rfl⟩ <;> rfl

theorem lexeme_text {token : Token} (plain : token.Plain) : ∃ c rest, token.text = c :: rest ∧
    ∀ back, Ends back → lexeme c (rest ++ back) = .ok ⟨some token, rest.length⟩ := by
  cases token with
  | name word =>
    obtain ⟨letters, rfl⟩ : ∃ letters, word = String.ofList letters := ⟨word.toList, by simp⟩
    cases letters with
    | nil => cases plain
    | cons c rest =>
      obtain ⟨start, word⟩ := isAsciiWord_ofList.mp plain
      exact ⟨c, rest, String.toList_ofList, fun back ends => lexeme_word start word ends.detached⟩
  | int n =>
    have text : intText n.toInt = Nat.toDigits 10 n.toInt.natAbs := if_neg (by exact Int.not_lt.mpr plain)
    have any : Nat.toDigits 10 n.toInt.natAbs ≠ [] := Nat.toDigits_ne_nil
    obtain ⟨c, rest, digits⟩ := List.exists_cons_of_ne_nil any
    exact ⟨c, rest, text.trans digits, fun back ends => lexeme_int plain digits ends.detached⟩
  | str text =>
    refine ⟨_, _, rfl, fun back _ => ?_⟩
    have read := lexeme_string text.toList back
    rwa [String.ofList_toList] at read
  | mark mark => exact lexeme_mark mark
  | float _ => cases plain
  | newline => cases plain

theorem tokensFrom_append_length (newlines : Bool) (front back : List Char) (depth position : Nat) :
    tokensFrom newlines depth position front.length (front ++ back) =
      tokensFrom newlines depth position 0 back := by
  induction front with
  | nil => rfl
  | cons c front ih => rw [List.cons_append, List.length_cons, tokensFrom, ih]

theorem tokensFrom_text {token : Token} (plain : token.Plain) {back : List Char} (ends : Ends back)
    (depth position : Nat) : ∃ next, ∀ others,
      tokensFrom false (depthBehind depth token) next 0 back = .ok others →
      tokensFrom false depth position 0 (token.text ++ back) = .ok (⟨token, position⟩ :: others) := by
  obtain ⟨c, rest, text, lexed⟩ := lexeme_text plain
  have kept : isKept false depth token = true := by
    cases token with
    | newline => cases plain
    | _ => rfl
  refine ⟨position + Text.byteLength (c :: (rest ++ back).take rest.length), fun others read => ?_⟩
  rw [text, List.cons_append, tokensFrom]
  simp only [lexed back ends, tokensFrom_append_length, kept, if_true, read]
  rfl

theorem tokensFrom_space (newlines : Bool) (depth position : Nat) (rest : List Char) :
    tokensFrom newlines depth position 0 (' ' :: rest) = tokensFrom newlines depth (position + 1) 0 rest := rfl

/-- Tokens are read back from their texts with a space between any two of them. -/
theorem tokensFrom_spaced {tokens : List Token} (plain : ∀ token ∈ tokens, token.Plain)
    (depth position : Nat) : ∃ read,
      tokensFrom false depth position 0 (Text.join [' '] (tokens.map Token.text)) = .ok read ∧
        read.map Spanned.token = tokens := by
  induction tokens generalizing depth position with
  | nil => exact ⟨[], rfl, rfl⟩
  | cons token rest ih =>
    have first := plain token List.mem_cons_self
    have later := fun other member => plain other (List.mem_cons_of_mem token member)
    cases rest with
    | nil =>
      have ends : Ends [] := by simp [Ends]
      obtain ⟨next, read⟩ := tokensFrom_text first ends depth position
      refine ⟨[⟨token, position⟩], ?_, rfl⟩
      have whole := read [] rfl
      rwa [List.append_nil] at whole
    | cons second rest =>
      have ends : Ends (' ' :: Text.join [' '] ((second :: rest).map Token.text)) := by simp [Ends]
      obtain ⟨next, read⟩ := tokensFrom_text first ends depth position
      obtain ⟨spanned, others, spelled⟩ := ih later (depthBehind depth token) (next + 1)
      refine ⟨⟨token, position⟩ :: spanned, ?_, by rw [List.map_cons, spelled]⟩
      have whole := read spanned ((tokensFrom_space _ _ _ _).trans others)
      rw [List.map_cons, List.map_cons, Text.join_cons _ _ (List.cons_ne_nil _ _), ← List.map_cons, List.append_assoc]
      exact whole

/-- A lexeme is layout, a plain token, a floating point literal or a line break. -/
def Lexeme.Plain (found : Lexeme) : Prop :=
  ∀ token ∈ found.token, token.Plain ∨ (∃ x, token = .float x) ∨ token = .newline

theorem Lexeme.plain_of_token {token : Token} (plain : token.Plain) (extra : Nat) :
    Lexeme.Plain ⟨some token, extra⟩ := by
  rintro _ ⟨⟩
  exact .inl plain

theorem lexWord_plain {c : Char} {rest : List Char} (start : isWordStart c = true) {found : Lexeme}
    (lexed : lexWord (c :: rest) = .ok found) : found.Plain := by
  rw [lexWord, List.takeWhile_cons_of_pos (wordChar_of_wordStart start)] at lexed
  cases lexed
  have word : ∀ d ∈ rest.takeWhile isWordChar, isWordChar d = true := fun d => List.mem_takeWhile_imp
  apply Lexeme.plain_of_token
  exact isAsciiWord_ofList.mpr ⟨start, word⟩

theorem intToken_plain {digits : List Char} {token : Token} (read : intToken digits = .ok token) :
    token.Plain := by
  rw [intToken] at read
  split at read
  next bound =>
    cases read
    have small : Decimal.digitsValue digits < 2 ^ 63 := by
      rw [Int64.toInt_maxValue] at bound
      omega
    rw [Token.Plain, Int64.toInt_ofNat_of_lt small]
    exact Int.natCast_nonneg _
  next => cases read

theorem lexNumber_plain {text : List Char} {found : Lexeme} (lexed : lexNumber text = .ok found) :
    found.Plain := by
  unfold lexNumber at lexed
  dsimp only at lexed
  split at lexed
  next => cases lexed
  next =>
    split at lexed
    next =>
      obtain ⟨token, read, rfl⟩ := map_eq_ok lexed
      exact Lexeme.plain_of_token (intToken_plain read) _
    next =>
      split at lexed
      next x _ =>
        cases lexed
        rintro _ ⟨⟩
        exact .inr (.inl ⟨x, rfl⟩)
      next => cases lexed

theorem lexString_plain {quote : Char} {rest : List Char} {found : Lexeme}
    (lexed : lexString quote rest = .ok found) : found.Plain := by
  rw [lexString] at lexed
  split at lexed
  next =>
    cases lexed
    apply Lexeme.plain_of_token
    trivial
  next => cases lexed

theorem lexMark_plain {c : Char} {rest : List Char} {found : Lexeme}
    (lexed : lexMark c rest = .ok found) : found.Plain := by
  rw [lexMark] at lexed
  split at lexed
  next =>
    cases lexed
    apply Lexeme.plain_of_token
    trivial
  next =>
    split at lexed
    next =>
      cases lexed
      apply Lexeme.plain_of_token
      trivial
    next => cases lexed

theorem lexeme_plain {c : Char} {rest : List Char} {found : Lexeme} (lexed : lexeme c rest = .ok found) :
    found.Plain := by
  have noToken {extra : Nat} (same : layout extra = .ok found) : found.Plain := by
    cases same
    rintro _ ⟨⟩
  unfold lexeme at lexed
  split at lexed
  next => exact noToken lexed
  split at lexed
  next =>
    cases lexed
    rintro _ ⟨⟩
    exact .inr (.inr rfl)
  split at lexed
  next => exact noToken lexed
  split at lexed
  next => exact noToken lexed
  split at lexed
  next start => exact lexWord_plain start lexed
  split at lexed
  next => exact lexNumber_plain lexed
  split at lexed
  next => exact lexString_plain lexed
  next => exact lexMark_plain lexed

theorem tokensFrom_plain {text : List Char} {depth position skip : Nat} {read : Tokens}
    (ok : tokensFrom false depth position skip text = .ok read) {t : Spanned} (member : t ∈ read) :
    t.token.Plain ∨ ∃ x, t.token = .float x := by
  induction text generalizing depth position skip read with
  | nil =>
    rw [tokensFrom] at ok
    cases ok
    cases member
  | cons c rest ih =>
    cases skip with
    | succ skip => exact ih ok member
    | zero =>
      rw [tokensFrom] at ok
      cases lexed : lexeme c rest with
      | error fault => simp [lexed] at ok
      | ok found =>
        obtain ⟨token?, extra⟩ := found
        simp only [lexed] at ok
        cases token? with
        | none => exact ih ok member
        | some token =>
          obtain ⟨others, later, kept⟩ := bind_eq_ok ok
          cases kept
          by_cases counts : isKept false depth token = true
          · rw [if_pos counts] at member
            rcases List.mem_cons.mp member with rfl | member
            · rcases lexeme_plain lexed token rfl with plain | float | rfl
              · exact .inl plain
              · exact .inr float
              · cases counts
            · exact ih later member
          · rw [if_neg counts] at member
            exact ih later member

/-- The tokens of an expression without floating point literals are names, natural numbers, strings and
marks. -/
theorem tokens_plain {text : List Char} {read : Tokens} (ok : tokens false text = .ok read)
    (noFloat : ∀ t ∈ read, ∀ x, t.token ≠ .float x) : ∀ t ∈ read, t.token.Plain := by
  intro t member
  rcases tokensFrom_plain ok member with plain | ⟨x, float⟩
  · exact plain
  · exact absurd float (noFloat t member x)

end Stencil
