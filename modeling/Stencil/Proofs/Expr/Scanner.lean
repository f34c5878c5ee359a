import Stencil.Proofs.Expr.Fork
import Stencil.Proofs.Text.Bytes

/-! A scanner that walks over the bytes of a text and cuts its tokens out by byte offsets. Main statement: it never
cuts inside a character, and gives the tokens of the text with the end of the input behind them. -/
namespace Stencil

/-- A token with the byte offset where it starts. The end of the input has no token. -/
structure Spot where
  token? : Option Token
  position : Nat

/-- What is scanned at an offset: a token or layout, and the offset behind it. It is missing where the text is cut
inside a character. -/
abbrev Scanned := Option (Except SyntaxError (Option Token × Nat))

section Scanner

/-- The offset behind the bytes that pass a test. -/
def behindAll (p : Char → Bool) (bytes : List Char) (start : Nat) : Nat :=
  start + ((bytes.drop start).takeWhile p).length

def behindFraction (bytes : List Char) (start : Nat) : Nat :=
  if bytes[start]?.any (· = '.') && bytes[start + 1]?.any Char.isDigit then behindAll Char.isDigit bytes (start + 1)
  else start

def behindExponent (bytes : List Char) (start : Nat) : Nat :=
  if bytes[start]?.any (fun c => c = 'e' || c = 'E') then
    let digits := if bytes[start + 1]?.any (fun c => c = '+' || c = '-') then start + 2 else start + 1
    if bytes[digits]?.any Char.isDigit then behindAll Char.isDigit bytes digits else start
  else start

/-- The content of a string literal and the offset behind its quote, for characters from an offset on. -/
def closing? (quote : Char) (offset : Nat) : List Char → Option (List Char × Nat)
  | [] => none
  | c :: rest =>
    if c = quote then some ([], offset + 1)
    else if c = '\n' then none
    else if c = '\\' then
      match rest with
      | [] => none
      | e :: rest =>
        (closing? quote (offset + c.utf8Size + e.utf8Size) rest).map fun (body, stop) => (unescaped e ++ body, stop)
    else (closing? quote (offset + c.utf8Size) rest).map fun (body, stop) => (c :: body, stop)

variable (text bytes : List Char) (start : Nat)

def scanWord : Scanned := do
  let stop := behindAll isWordChar bytes start
  let word ← Text.slice? start stop text
  return .ok (some (.name (String.ofList word)), stop)

def scanNumber : Scanned :=
  let whole := behindAll Char.isDigit bytes start
  let stop := behindExponent bytes (behindFraction bytes whole)
  if bytes[stop]?.any (fun c => c.isAlpha || c = '_') then some (.error ⟨stop, .invalidNumber⟩)
  else do
    let number ← Text.slice? start stop text
    if stop = whole then
      match intToken number with
      | .ok token => return .ok (some token, stop)
      | .error (fault, behind) => return .error ⟨start + behind, fault⟩
    else
      match Decimal.readFloat Decimal.double number with
      | some x => return .ok (some (.float x), stop)
      | none => return .error ⟨start, .invalidNumber⟩

def scanString (quote : Char) : Scanned := do
  let rest ← Text.dropBytes? (start + 1) text
  match closing? quote (start + 1) rest with
  | some (body, stop) => return .ok (some (.str (String.ofList body)), stop)
  | none => return .error ⟨start, .unterminatedString⟩

def scanMark (byte : Char) : Scanned :=
  match bytes[start + 1]?.bind (doubleMark? byte) with
  | some mark => some (.ok (some (.mark mark), start + 2))
  | none =>
    match singleMark? byte with
    | some mark => some (.ok (some (.mark mark), start + 1))
    | none => do
      let rest ← Text.dropBytes? start text
      return .error ⟨start, .unexpectedCharacter (rest.headD '\x00')⟩

def scanAt (byte : Char) : Scanned :=
  if byte = ' ' || byte = '\t' || byte = '\r' || byte = '\x0c' then some (.ok (none, start + 1))
  else if byte = '\n' then some (.ok (some .newline, start + 1))
  else if byte = '\\' && bytes[start + 1]?.any (· = '\n') then some (.ok (none, start + 2))
  else if byte = '#' then some (.ok (none, behindAll (· ≠ '\n') bytes start))
  else if isWordStart byte then scanWord text bytes start
  else if byte.isDigit || (byte = '.' && bytes[start + 1]?.any Char.isDigit) then scanNumber text bytes start
  else if byte = '\x27' || byte = '\x22' then scanString text start byte
  else scanMark text bytes start byte

/-- The tokens from an offset on, inside of `depth` brackets. The rounds bound the number of lexemes. -/
def scanFrom (newlines : Bool) : Nat → Nat → Nat → Option (Except SyntaxError (List Spot))
  | 0, _, _ => none
  | rounds + 1, depth, finger =>
    match bytes[finger]? with
    | none => some (.ok [⟨none, bytes.length⟩])
    | some byte => do
      match ← scanAt text bytes finger byte with
      | .error e => return .error e
      | .ok (none, next) => scanFrom newlines rounds depth next
      | .ok (some token, next) =>
        let rest ← scanFrom newlines rounds (depthBehind depth token) next
        return rest.map fun spots => if isKept newlines depth token then ⟨some token, finger⟩ :: spots else spots

end Scanner

def scan (newlines : Bool) (text : List Char) : Option (Except SyntaxError (List Spot)) :=
  scanFrom text (Text.byteChars text) newlines (Text.byteLength text + 1) 0 0

section Classes

theorem ascii_of_le {c : Char} (le : c.toNat ≤ 'z'.toNat) : Text.Ascii c := Nat.lt_of_le_of_lt le (by decide)

theorem wide_of_any {p : Char → Bool} (inside : ∀ c, p c = true → c.toNat ≤ 'z'.toNat) (c : Char)
    (wide : ¬ Text.Ascii c) : p c = false := by
  cases holds : p c with
  | false => rfl
  | true => exact absurd (ascii_of_le (inside c holds)) wide

theorem le_of_isWordChar (c : Char) (word : isWordChar c = true) : c.toNat ≤ 'z'.toNat := by
  unfold isWordChar Char.isAlphanum Char.isAlpha Char.isUpper Char.isLower Char.isDigit at word
  simp only [Bool.or_eq_true, Bool.and_eq_true, decide_eq_true_eq] at word
  rcases word with ((⟨_, upper⟩ | ⟨_, lower⟩) | ⟨_, digit⟩) | rfl
  · exact Nat.le_trans upper (by decide)
  · exact lower
  · exact Nat.le_trans digit (by decide)
  · decide

theorem le_of_isDigit (c : Char) (digit : c.isDigit = true) : c.toNat ≤ 'z'.toNat := by
  apply le_of_isWordChar
  simp [isWordChar, Char.isAlphanum, digit]

theorem le_of_isWordStart (c : Char) (start : isWordStart c = true) : c.toNat ≤ 'z'.toNat :=
  le_of_isWordChar c (wordChar_of_wordStart start)

theorem singleMark?_wide (c : Char) (wide : ¬ Text.Ascii c) : singleMark? c = none := by
  apply List.lookup_eq_none_iff.mpr
  intro entry member
  have ascii : Text.Ascii entry.1 := by
    revert entry
    decide
  apply bne_iff_ne.mpr
  rintro rfl
  exact wide ascii

theorem doubleMark?_wide {first c : Char} (wide : ¬ (Text.Ascii first ∧ Text.Ascii c)) :
    doubleMark? first c = none := by
  apply List.lookup_eq_none_iff.mpr
  intro entry member
  have ascii : Text.Ascii entry.1.1 ∧ Text.Ascii entry.1.2 := by
    revert entry
    decide
  apply bne_iff_ne.mpr
  intro same
  rw [← same] at ascii
  exact wide ascii

theorem ascii_of_isDigit {c : Char} (digit : c.isDigit = true) : Text.Ascii c := ascii_of_le (le_of_isDigit c digit)

theorem ascii_of_letter {c : Char} (letter : (c = 'e' || c = 'E') = true) : Text.Ascii c := by
  rcases Bool.or_eq_true_iff.mp letter with lower | upper
  · rw [of_decide_eq_true lower]
    decide
  · rw [of_decide_eq_true upper]
    decide

theorem isWordChar_coarse : Text.Coarse isWordChar := ⟨false, wide_of_any le_of_isWordChar⟩

theorem isDigit_coarse : Text.Coarse Char.isDigit := ⟨false, wide_of_any le_of_isDigit⟩

theorem comment_coarse : Text.Coarse (· ≠ '\n') := by
  refine ⟨true, fun c wide => ?_⟩
  have other := wide_of_any (p := (· = '\n')) (by simp) c wide
  simpa using other

end Classes

section Offsets
variable (front back : List Char)

theorem behindAll_eq {p : Char → Bool} (coarse : Text.Coarse p) :
    behindAll p (Text.byteChars (front ++ back)) (Text.byteLength front) =
      Text.byteLength (front ++ back.takeWhile p) := by
  rw [behindAll, Text.drop_byteChars, Text.length_takeWhile_byteChars coarse, Text.byteLength_append]

theorem byteAt_eq {p : Char → Bool} (inside : ∀ c, p c = true → c.toNat ≤ 'z'.toNat) :
    (Text.byteChars (front ++ back))[Text.byteLength front]?.any p = back.head?.any p := by
  have here := Text.getElem?_byteChars front back 0
  rw [Nat.add_zero] at here
  rw [here, ← List.head?_eq_getElem?, Text.head?_any_byteChars (wide_of_any inside)]

theorem byteBehind_eq {α : Type} (find : Char → Option α) (nothing : ∀ c, ¬ Text.Ascii c → find c = none) :
    (Text.byteChars (front ++ back))[Text.byteLength front]?.bind find = back.head?.bind find := by
  have here := Text.getElem?_byteChars front back 0
  rw [Nat.add_zero] at here
  rw [here, ← List.head?_eq_getElem?, Text.head?_bind_byteChars nothing]

theorem nextByte_eq {c : Char} (ascii : Text.Ascii c) (rest : List Char) {p : Char → Bool}
    (inside : ∀ c, p c = true → c.toNat ≤ 'z'.toNat) :
    (Text.byteChars (front ++ c :: rest))[Text.byteLength front + 1]?.any p = rest.head?.any p := by
  have next := byteAt_eq (front ++ [c]) rest inside
  rwa [List.append_assoc, List.singleton_append, Text.byteLength_concat_ascii front ascii] at next

theorem isEmpty_takeWhile (p : Char → Bool) (text : List Char) :
    (text.takeWhile p).isEmpty = !text.head?.any p := by
  cases text with
  | nil => rfl
  | cons c rest => cases holds : p c <;> simp [holds]

theorem behindFraction_eq : behindFraction (Text.byteChars (front ++ back)) (Text.byteLength front) =
    Text.byteLength (front ++ fractionPart back) := by
  have dot := byteAt_eq front back (p := (· = '.')) (by simp)
  rw [behindFraction, dot]
  cases back with
  | nil => simp [fractionPart]
  | cons c rest =>
    by_cases isDot : c = '.'
    · subst isDot
      have ascii : Text.Ascii '.' := by decide
      have digits := behindAll_eq (front ++ ['.']) rest isDigit_coarse
      rw [List.append_assoc, List.singleton_append, Text.byteLength_concat_ascii front ascii] at digits
      rw [nextByte_eq front ascii rest le_of_isDigit, digits, fractionPart, isEmpty_takeWhile]
      cases rest.head?.any Char.isDigit <;> simp
    · simp [fractionPart, isDot]

/-- The sign of an exponent and what follows it, in bytes behind the letter. -/
theorem behindSign_eq (letter : Char) (ascii : Text.Ascii letter) (rest : List Char) :
    (if (Text.byteChars (front ++ letter :: rest))[Text.byteLength front + 1]?.any (fun c => c = '+' || c = '-') then
      Text.byteLength front + 2 else Text.byteLength front + 1) =
      Text.byteLength (front ++ letter :: exponentSign rest) := by
  have sign := nextByte_eq front ascii rest (p := fun c => c = '+' || c = '-') (by simp)
  rw [sign, List.append_cons front letter, Text.byteLength_append, Text.byteLength_concat_ascii front ascii]
  cases rest with
  | nil => simp [exponentSign, Text.byteLength]
  | cons d others =>
    by_cases plus : d = '+'
    · subst plus
      rfl
    by_cases minus : d = '-'
    · subst minus
      rfl
    simp [exponentSign, plus, minus, Text.byteLength]

theorem behindExponent_eq : behindExponent (Text.byteChars (front ++ back)) (Text.byteLength front) =
    Text.byteLength (front ++ exponentPart back) := by
  have letter := byteAt_eq front back (p := fun c => c = 'e' || c = 'E') (by simp)
  rw [behindExponent, letter]
  cases back with
  | nil => simp [exponentPart]
  | cons e rest =>
    by_cases isLetter : (e = 'e' || e = 'E') = true
    · have ascii := ascii_of_letter isLetter
      obtain ⟨others, same⟩ := prefix_exponentSign rest
      have behind : (exponentSign rest ++ others).drop (exponentSign rest).length = others := List.drop_left
      rw [same] at behind
      have digit := byteAt_eq (front ++ e :: exponentSign rest) others le_of_isDigit
      have digits := behindAll_eq (front ++ e :: exponentSign rest) others isDigit_coarse
      rw [List.append_assoc, List.cons_append, same] at digit digits
      rw [behindSign_eq front e ascii rest]
      simp only [digit, digits, exponentPart, behind, isEmpty_takeWhile]
      cases others.head?.any Char.isDigit <;> simp [isLetter]
    · simp [exponentPart, isLetter]

/-- The offset behind the quote is that behind the characters which the literal takes. -/
theorem closing?_eq {quote : Char} (ascii : Text.Ascii quote) (offset : Nat) (text : List Char) :
    closing? quote offset text =
      (stringBody quote text).map fun (body, n) => (body, offset + Text.byteLength (text.take n)) := by
  fun_induction closing? quote offset text with
  | case1 offset => simp [stringBody]
  | case2 offset rest => simp [stringBody_quote, Text.byteLength, Text.utf8Size_of_ascii ascii]
  | case3 offset rest differs => cases rest <;> simp [stringBody, differs]
  | case4 offset differs _ => simp [stringBody, differs]
  | case5 offset e rest differs _ ih =>
    rw [ih]
    cases read : stringBody quote rest with
    | none => simp [stringBody, differs, read]
    | some found => simp [stringBody, differs, read, Text.byteLength, Nat.add_assoc]
  | case6 offset c rest differs newline backslash ih =>
    rw [ih, stringBody_plain differs newline backslash]
    cases read : stringBody quote rest with
    | none => simp
    | some found => simp [Text.byteLength, Nat.add_assoc]

end Offsets

section Numbers

/-- The digits, the fraction and the exponent that a text starts with, as far as it has them. -/
structure NumberParts (text whole fraction exponent behind : List Char) : Prop where
  split : text = whole ++ fraction ++ exponent ++ behind
  whole : text.takeWhile Char.isDigit = whole
  fraction : fractionPart (fraction ++ (exponent ++ behind)) = fraction
  exponent : exponentPart (exponent ++ behind) = exponent

theorem exists_numberParts (text : List Char) :
    ∃ whole fraction exponent behind, NumberParts text whole fraction exponent behind := by
  obtain ⟨first, split⟩ : text.takeWhile Char.isDigit <+: text := List.takeWhile_prefix _
  obtain ⟨second, split'⟩ := prefix_fractionPart first
  obtain ⟨behind, split''⟩ := prefix_exponentPart second
  refine ⟨text.takeWhile Char.isDigit, fractionPart first, exponentPart second, behind, ?_, rfl, ?_, ?_⟩
  · rw [List.append_assoc, split'', List.append_assoc, split', split]
  · rw [split'', split']
  · rw [split'']

variable {text whole fraction exponent behind : List Char}

theorem ascii_fractionPart (text : List Char) : ∀ c ∈ fractionPart text, Text.Ascii c := by
  intro c member
  unfold fractionPart at member
  split at member
  next rest =>
    dsimp only at member
    split at member
    · cases member
    · rcases List.mem_cons.mp member with rfl | digit
      · decide
      · exact ascii_of_isDigit (List.mem_takeWhile_imp digit)
  next => cases member

theorem ascii_exponentSign (text : List Char) : ∀ c ∈ exponentSign text, Text.Ascii c := by
  intro c member
  unfold exponentSign at member
  split at member
  · rw [List.mem_singleton.mp member]
    decide
  · rw [List.mem_singleton.mp member]
    decide
  · cases member

theorem ascii_exponentPart (text : List Char) : ∀ c ∈ exponentPart text, Text.Ascii c := by
  intro c member
  cases text with
  | nil => cases member
  | cons e rest =>
    rw [exponentPart] at member
    split at member
    next letter =>
      dsimp only at member
      split at member
      · cases member
      · rcases List.mem_append.mp member with front | digit
        · rcases List.mem_cons.mp front with rfl | sign
          · exact ascii_of_letter letter
          · exact ascii_exponentSign rest c sign
        · exact ascii_of_isDigit (List.mem_takeWhile_imp digit)
    next => cases member

theorem NumberParts.length (parts : NumberParts text whole fraction exponent behind) :
    Text.byteLength (whole ++ fraction ++ exponent) = (whole ++ fraction ++ exponent).length := by
  have digits : ∀ c ∈ whole, Text.Ascii c := by
    rw [← parts.whole]
    exact fun c member => ascii_of_isDigit (List.mem_takeWhile_imp member)
  have second := ascii_fractionPart (fraction ++ (exponent ++ behind))
  have third := ascii_exponentPart (exponent ++ behind)
  rw [parts.fraction] at second
  rw [parts.exponent] at third
  apply Text.byteLength_of_ascii
  simp only [List.forall_mem_append]
  exact ⟨⟨digits, second⟩, third⟩

theorem NumberParts.ne_nil {c : Char} {rest : List Char}
    (parts : NumberParts (c :: rest) whole fraction exponent behind)
    (starts : (c.isDigit || (c = '.' && rest.head?.any Char.isDigit)) = true) :
    whole ++ fraction ++ exponent ≠ [] := by
  intro empty
  simp only [List.append_eq_nil_iff] at empty
  obtain ⟨⟨rfl, rfl⟩, rfl⟩ := empty
  have split : c :: rest = behind := parts.split
  have noDigit : c.isDigit = false := by
    have none := parts.whole
    cases digit : c.isDigit with
    | false => rfl
    | true => simp [digit] at none
  have noFraction := parts.fraction
  rw [List.nil_append, List.nil_append, ← split] at noFraction
  simp only [noDigit, Bool.false_or, Bool.and_eq_true, decide_eq_true_eq] at starts
  obtain ⟨rfl, digit⟩ := starts
  simp [fractionPart, isEmpty_takeWhile, digit] at noFraction

theorem lexNumber_of_parts (parts : NumberParts text whole fraction exponent behind) : lexNumber text =
    if behind.head?.any fun c => c.isAlpha || c = '_' then
      .error (.invalidNumber, (whole ++ fraction ++ exponent).length)
    else if fraction.isEmpty && exponent.isEmpty then do
      return ⟨some (← intToken whole), (whole ++ fraction ++ exponent).length - 1⟩
    else
      match Decimal.readFloat Decimal.double (whole ++ fraction ++ exponent) with
      | some x => .ok ⟨some (.float x), (whole ++ fraction ++ exponent).length - 1⟩
      | none => .error (.invalidNumber, 0) := by
  have first : text.drop whole.length = fraction ++ (exponent ++ behind) := by
    rw [parts.split, List.append_assoc, List.append_assoc, List.drop_left]
  have last : text.drop (whole ++ fraction ++ exponent).length = behind := by
    rw [parts.split, List.drop_left]
  rw [lexNumber]
  cases read : Decimal.readFloat Decimal.double (whole ++ fraction ++ exponent) with
  | none => simp only [parts.whole, first, parts.fraction, List.drop_left, parts.exponent, last, read]
  | some x => simp only [parts.whole, first, parts.fraction, List.drop_left, parts.exponent, last, read]

theorem behindNumber_eq (before : List Char) (parts : NumberParts text whole fraction exponent behind) :
    behindExponent (Text.byteChars (before ++ text))
        (behindFraction (Text.byteChars (before ++ text)) (Text.byteLength (before ++ whole))) =
      Text.byteLength (before ++ (whole ++ fraction ++ exponent)) := by
  have second := behindFraction_eq (before ++ whole) (fraction ++ (exponent ++ behind))
  have third := behindExponent_eq (before ++ whole ++ fraction) (exponent ++ behind)
  have split : before ++ text = before ++ whole ++ (fraction ++ (exponent ++ behind)) := by
    simp [parts.split]
  have split' : before ++ text = before ++ whole ++ fraction ++ (exponent ++ behind) := by
    simp [parts.split]
  rw [← split, parts.fraction] at second
  rw [← split', parts.exponent] at third
  rw [second, third]
  simp

/-- A number is an integer exactly if it ends where its digits do. -/
theorem byteLength_eq_whole (before whole fraction exponent : List Char) :
    Text.byteLength (before ++ (whole ++ fraction ++ exponent)) = Text.byteLength (before ++ whole) ↔
      (fraction.isEmpty && exponent.isEmpty) = true := by
  constructor
  · intro same
    simp only [Text.byteLength_append] at same
    cases fraction with
    | cons c fraction =>
      have := Text.byteLength_pos (List.cons_ne_nil c fraction)
      omega
    | nil =>
      cases exponent with
      | cons c exponent =>
        have := Text.byteLength_pos (List.cons_ne_nil c exponent)
        omega
      | nil => rfl
  · intro none
    simp only [Bool.and_eq_true, List.isEmpty_iff] at none
    obtain ⟨rfl, rfl⟩ := none
    simp

end Numbers

section Lexemes
variable {before rest : List Char} {c : Char}

/-- What a lexeme is to a scanner that stands at its first byte. -/
def scannedAt (start : Nat) (c : Char) (rest : List Char) : Scan → Except SyntaxError (Option Token × Nat)
  | .error (fault, behind) => .error ⟨start + behind, fault⟩
  | .ok ⟨token?, extra⟩ => .ok (token?, start + Text.byteLength (c :: rest.take extra))

theorem take_of_prefix {own : List Char} (first : own <+: c :: rest) (any : own ≠ []) :
    c :: rest.take (own.length - 1) = own := by
  obtain ⟨d, others, rfl⟩ := List.exists_cons_of_ne_nil any
  obtain ⟨rfl, inside⟩ := List.cons_prefix_cons.mp first
  rw [List.length_cons, Nat.add_sub_cancel, List.prefix_iff_eq_take.mp inside]
  simp

variable (before : List Char)

/-- A word or a number is cut out where its characters end. -/
theorem cut_own {own : List Char} (first : own <+: c :: rest) :
    Text.slice? (Text.byteLength before) (Text.byteLength (before ++ own)) (before ++ c :: rest) = some own := by
  obtain ⟨behind, split⟩ := first
  rw [← split]
  exact Text.slice?_middle before own behind

theorem scanWord_eq (start : isWordStart c = true) :
    scanWord (before ++ c :: rest) (Text.byteChars (before ++ c :: rest)) (Text.byteLength before) =
      some (scannedAt (Text.byteLength before) c rest (lexWord (c :: rest))) := by
  have word : (c :: rest).takeWhile isWordChar <+: c :: rest := List.takeWhile_prefix _
  have any : (c :: rest).takeWhile isWordChar ≠ [] := by
    simp [wordChar_of_wordStart start]
  rw [scanWord, behindAll_eq before _ isWordChar_coarse, cut_own before word, lexWord, scannedAt,
    take_of_prefix word any, Text.byteLength_append]
  rfl

theorem scanNumber_eq (starts : (c.isDigit || (c = '.' && rest.head?.any Char.isDigit)) = true) :
    scanNumber (before ++ c :: rest) (Text.byteChars (before ++ c :: rest)) (Text.byteLength before) =
      some (scannedAt (Text.byteLength before) c rest (lexNumber (c :: rest))) := by
  obtain ⟨whole, fraction, exponent, behind, parts⟩ := exists_numberParts (c :: rest)
  have first : whole ++ fraction ++ exponent <+: c :: rest := ⟨behind, parts.split.symm⟩
  have own := take_of_prefix first (parts.ne_nil starts)
  have digits := behindAll_eq before (c :: rest) isDigit_coarse
  rw [parts.whole] at digits
  have stop := behindNumber_eq before parts
  have next := byteAt_eq (before ++ (whole ++ fraction ++ exponent)) behind
    (p := fun c => c.isAlpha || c = '_') le_of_isWordStart
  rw [List.append_assoc before, ← parts.split] at next
  simp only [scanNumber, digits, stop, next, cut_own before first, lexNumber_of_parts parts]
  cases behind.head?.any fun c => c.isAlpha || c = '_' with
  | true => rw [if_pos rfl, if_pos rfl, scannedAt, Text.byteLength_append, parts.length]
  | false =>
    rw [if_neg Bool.false_ne_true, if_neg Bool.false_ne_true, Option.bind_eq_bind, Option.bind_some]
    simp only [byteLength_eq_whole]
    by_cases integer : (fraction.isEmpty && exponent.isEmpty) = true
    · have same : whole ++ fraction ++ exponent = whole := by
        simp only [Bool.and_eq_true, List.isEmpty_iff] at integer
        simp [integer]
      rw [if_pos integer, if_pos integer, same]
      rw [same] at own
      cases intToken whole with
      | error e => rfl
      | ok token => simp [scannedAt, own, Text.byteLength_append]
    · rw [if_neg integer, if_neg integer]
      cases Decimal.readFloat Decimal.double (whole ++ fraction ++ exponent) with
      | none => rfl
      | some x => simp only [scannedAt, own, Text.byteLength_append before]; rfl

theorem scanString_eq {quote : Char} (ascii : Text.Ascii quote) :
    scanString (before ++ quote :: rest) (Text.byteLength before) quote =
      some (scannedAt (Text.byteLength before) quote rest (lexString quote rest)) := by
  have cut := Text.dropBytes?_append (before ++ [quote]) rest
  rw [List.append_assoc, List.singleton_append, Text.byteLength_concat_ascii before ascii] at cut
  rw [scanString, cut, Option.bind_eq_bind, Option.bind_some, closing?_eq ascii, lexString]
  cases stringBody quote rest with
  | none => rfl
  | some found =>
    obtain ⟨body, n⟩ := found
    simp [scannedAt, Text.byteLength, Text.utf8Size_of_ascii ascii, Nat.add_assoc]

theorem scanMark_eq (ascii : Text.Ascii c) :
    scanMark (before ++ c :: rest) (Text.byteChars (before ++ c :: rest)) (Text.byteLength before) c =
      some (scannedAt (Text.byteLength before) c rest (lexMark c rest)) := by
  have next := byteBehind_eq (before ++ [c]) rest (doubleMark? c)
    fun d wide => doubleMark?_wide fun both => wide both.2
  rw [List.append_assoc, List.singleton_append, Text.byteLength_concat_ascii before ascii] at next
  rw [scanMark, next, lexMark]
  cases doubled : rest.head?.bind (doubleMark? c) with
  | some mark =>
    cases rest with
    | nil => cases doubled
    | cons d rest =>
      have asciiNext : Text.Ascii d := by
        by_contra wide
        have none : doubleMark? c d = none := doubleMark?_wide fun both => wide both.2
        simp [none] at doubled
      simp [scannedAt, Text.byteLength, Text.utf8Size_of_ascii ascii, Text.utf8Size_of_ascii asciiNext]
  | none =>
    cases singleMark? c with
    | some mark => simp [scannedAt, Text.byteLength, Text.utf8Size_of_ascii ascii]
    | none => simp [scannedAt, Text.dropBytes?_append]

theorem scanned_ite {p : Prop} [Decidable p] {start : Nat} {first second : Scanned} {first' second' : Scan}
    (yes : p → first = some (scannedAt start c rest first'))
    (no : ¬ p → second = some (scannedAt start c rest second')) :
    (if p then first else second) = some (scannedAt start c rest (if p then first' else second')) := by
  split
  next holds => exact yes holds
  next fails => exact no fails

theorem scanAt_ascii (ascii : Text.Ascii c) :
    scanAt (before ++ c :: rest) (Text.byteChars (before ++ c :: rest)) (Text.byteLength before) c =
      some (scannedAt (Text.byteLength before) c rest (lexeme c rest)) := by
  have feed := nextByte_eq before ascii rest (p := (· = '\n')) (by simp)
  have digit := nextByte_eq before ascii rest le_of_isDigit
  have isFeed : rest.head?.any (· = '\n') = decide (rest.head? = some '\n') := by cases rest <;> simp
  rw [scanAt, lexeme, feed, digit, isFeed]
  refine scanned_ite (fun _ => ?_) fun _ => scanned_ite (fun _ => ?_) fun _ => scanned_ite (fun escaped => ?_) fun _ =>
    scanned_ite (fun comment => ?_) fun _ => scanned_ite (fun start => scanWord_eq before start) fun _ =>
    scanned_ite (fun starts => scanNumber_eq before starts) fun _ =>
    scanned_ite (fun _ => scanString_eq before ascii) fun _ => scanMark_eq before ascii
  · simp [layout, scannedAt, Text.byteLength, Text.utf8Size_of_ascii ascii]
  · simp [scannedAt, Text.byteLength, Text.utf8Size_of_ascii ascii]
  · simp only [Bool.and_eq_true, decide_eq_true_eq] at escaped
    obtain ⟨others, rfl⟩ : ∃ others, rest = '\n' :: others := List.head?_eq_some_iff.mp escaped.2
    simp [layout, scannedAt, Text.byteLength, Text.utf8Size_of_ascii ascii]
    rfl
  · have line := behindAll_eq before (c :: rest) comment_coarse
    have own : (c :: rest).takeWhile (· ≠ '\n') = c :: rest.takeWhile (· ≠ '\n') := by simp [comment]
    have front : rest.takeWhile (· ≠ '\n') <+: rest := List.takeWhile_prefix _
    rw [line, own, layout, scannedAt, ← List.prefix_iff_eq_take.mp front, Text.byteLength_append]

theorem ne_of_wide (wide : ¬ Text.Ascii c) {d : Char} (ascii : Text.Ascii d) : c ≠ d := by
  rintro rfl
  exact wide ascii

/-- Beyond ASCII there are no tokens. -/
theorem lexeme_wide (wide : ¬ Text.Ascii c) : lexeme c rest = .error (.unexpectedCharacter c, 0) := by
  have word := wide_of_any le_of_isWordStart c wide
  have digit := wide_of_any le_of_isDigit c wide
  have double : rest.head?.bind (doubleMark? c) = none := by
    cases rest with
    | nil => rfl
    | cons d rest => exact doubleMark?_wide fun both => wide both.1
  simp (disch := decide) only [lexeme, ne_of_wide wide, word, digit, lexMark, double, singleMark?_wide c wide,
    decide_false, Bool.or_self, Bool.false_and, Bool.false_eq_true, if_false]

theorem scanAt_wide (wide : ¬ Text.Ascii c) {byte : Char} (wideByte : ¬ Text.Ascii byte) (bytes : List Char) :
    scanAt (before ++ c :: rest) bytes (Text.byteLength before) byte =
      some (scannedAt (Text.byteLength before) c rest (lexeme c rest)) := by
  have word := wide_of_any le_of_isWordStart byte wideByte
  have digit := wide_of_any le_of_isDigit byte wideByte
  have double : bytes[Text.byteLength before + 1]?.bind (doubleMark? byte) = none := by
    cases bytes[Text.byteLength before + 1]? with
    | none => rfl
    | some d => exact doubleMark?_wide fun both => wideByte both.1
  simp (disch := decide) only [scanAt, ne_of_wide wideByte, word, digit, scanMark, double,
    singleMark?_wide byte wideByte, decide_false, Bool.or_self, Bool.false_and, Bool.false_eq_true, if_false,
    Text.dropBytes?_append, lexeme_wide wide]
  rfl

theorem exists_scanAt : ∃ byte,
    (Text.byteChars (before ++ c :: rest))[Text.byteLength before]? = some byte ∧
      scanAt (before ++ c :: rest) (Text.byteChars (before ++ c :: rest)) (Text.byteLength before) byte =
        some (scannedAt (Text.byteLength before) c rest (lexeme c rest)) := by
  have here := Text.getElem?_byteChars before (c :: rest) 0
  rw [Nat.add_zero, ← List.head?_eq_getElem?] at here
  by_cases ascii : Text.Ascii c
  · refine ⟨c, ?_, scanAt_ascii before ascii⟩
    rw [here, Text.byteChars_ascii ascii, List.head?_cons]
  · obtain ⟨first, others, whole, wide, _⟩ := Text.byteChars_wide ascii rest
    refine ⟨first, ?_, scanAt_wide before ascii (wide first List.mem_cons_self) _⟩
    rw [here, whole, List.cons_append, List.head?_cons]

end Lexemes

/-- Behind a lexeme the tokens are those of the characters that it leaves. -/
theorem tokensFrom_behind {c : Char} {rest : List Char} {token? : Option Token} {extra : Nat}
    (lexed : lexeme c rest = .ok ⟨token?, extra⟩) (newlines : Bool) (depth position : Nat) :
    tokensFrom newlines depth position extra rest = tokensFrom newlines depth position 0 (rest.drop extra) := by
  have bound := (@lexeme_break [] c rest _ lexed).2
  have front : (rest.take extra).length = extra := List.length_take_of_le bound
  have same := tokensFrom_append_length newlines (rest.take extra) (rest.drop extra) depth position
  rwa [front, List.take_append_drop] at same

/-- Tokens with the end of the input behind them. -/
def withEnd (text : List Char) (read : Tokens) : List Spot :=
  read.map (fun t => ⟨some t.token, t.position⟩) ++ [⟨none, Text.byteLength text⟩]

theorem scanFrom_eq (newlines : Bool) {text before rest : List Char} (split : text = before ++ rest) {rounds : Nat}
    (enough : Text.byteLength rest < rounds) (depth : Nat) :
    scanFrom text (Text.byteChars text) newlines rounds depth (Text.byteLength before) =
      some ((tokensFrom newlines depth (Text.byteLength before) 0 rest).map (withEnd text)) := by
  induction rounds generalizing before rest depth with
  | zero => exact absurd enough (Nat.not_lt_zero _)
  | succ rounds ih =>
    rw [scanFrom]
    cases rest with
    | nil =>
      have ended := Text.getElem?_byteChars before [] 0
      rw [Nat.add_zero, ← split] at ended
      rw [ended, Text.length_byteChars, tokensFrom]
      rfl
    | cons c tail =>
      obtain ⟨byte, here, scanned⟩ := @exists_scanAt tail c before
      rw [← split] at here scanned
      rw [here]
      dsimp only
      rw [scanned]
      cases lexed : lexeme c tail with
      | error fault =>
        rw [tokensFrom, lexed]
        rfl
      | ok found =>
        obtain ⟨token?, extra⟩ := found
        have split' : text = before ++ c :: tail.take extra ++ tail.drop extra := by simp [split]
        have position : Text.byteLength before + Text.byteLength (c :: tail.take extra) =
            Text.byteLength (before ++ c :: tail.take extra) := (Text.byteLength_append _ _).symm
        have enough' : Text.byteLength (tail.drop extra) < rounds := by
          have whole : c :: tail = c :: tail.take extra ++ tail.drop extra := by simp
          have any := Text.byteLength_pos (List.cons_ne_nil c (tail.take extra))
          rw [whole, Text.byteLength_append] at enough
          omega
        simp only [Option.bind_eq_bind, Option.bind_some, scannedAt, position]
        cases token? with
        | none =>
          rw [tokensFrom_layout lexed, tokensFrom_behind lexed, position]
          exact ih split' enough' depth
        | some token =>
          dsimp only
          rw [tokensFrom_token lexed, tokensFrom_behind lexed, position, ih split' enough' (depthBehind depth token)]
          generalize tokensFrom newlines (depthBehind depth token) _ 0 (tail.drop extra) = read
          cases read with
          | error e => rfl
          | ok tokens => cases kept : isKept newlines depth token <;> rfl

/-- A text is scanned without a cut inside a character, and its tokens are found with the end of the input behind
them. -/
theorem scan_eq (newlines : Bool) (text : List Char) :
    scan newlines text = some ((tokens newlines text).map (withEnd text)) :=
  scanFrom_eq newlines (List.nil_append text).symm (Nat.lt_succ_self _) 0

end Stencil
