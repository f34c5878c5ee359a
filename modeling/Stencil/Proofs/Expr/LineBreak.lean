import Stencil.Proofs.Expr.Lexing

/-! Texts with more text behind a line break. Main statements: no lexeme reaches over the end of a text into the
line behind it, and the tokens of both texts follow each other. -/
namespace Stencil

/-- Characters that end words, numbers and marks, but not string literals. -/
def gaps : List Char := ['\n', ' ']

section Scanners
variable {gap : Char} {back : List Char}

theorem not_of_gap {p : Char → Bool} (apart : gaps.any p = false) (isGap : gap ∈ gaps) : p gap = false := by
  simpa using List.any_eq_false.mp apart gap isGap

theorem takeWhile_break {p : Char → Bool} (stops : p gap = false) (text : List Char) :
    (text ++ gap :: back).takeWhile p = text.takeWhile p := by
  induction text with
  | nil => exact List.takeWhile_cons_of_neg (by rw [stops]; exact Bool.false_ne_true)
  | cons c text ih =>
    cases holds : p c with
    | false => simp [holds]
    | true => simp [holds, ih]

theorem head?_any_break {p : Char → Bool} (stops : p gap = false) (text : List Char) :
    (text ++ gap :: back).head?.any p = text.head?.any p := by
  cases text with
  | nil => exact stops
  | cons c text => rfl

theorem prefix_fractionPart (text : List Char) : fractionPart text <+: text := by
  unfold fractionPart
  split
  next rest =>
    dsimp only
    split
    next => exact List.nil_prefix
    next => exact List.cons_prefix_cons.mpr ⟨rfl, List.takeWhile_prefix _⟩
  next => exact List.nil_prefix

theorem fractionPart_break (isGap : gap ∈ gaps) (text : List Char) :
    fractionPart (text ++ gap :: back) = fractionPart text := by
  cases text with
  | nil =>
    have dot : gap ≠ '.' := by
      rintro rfl
      exact absurd isGap (by decide)
    simp [fractionPart, dot]
  | cons c rest =>
    by_cases dot : c = '.'
    · subst dot
      rw [List.cons_append, fractionPart, fractionPart, takeWhile_break (not_of_gap (by decide) isGap)]
    · simp [fractionPart, dot]

theorem prefix_exponentSign (text : List Char) : exponentSign text <+: text := by
  unfold exponentSign
  split
  next => exact List.cons_prefix_cons.mpr ⟨rfl, List.nil_prefix⟩
  next => exact List.cons_prefix_cons.mpr ⟨rfl, List.nil_prefix⟩
  next => exact List.nil_prefix

theorem exponentSign_break (isGap : gap ∈ gaps) (text : List Char) :
    exponentSign (text ++ gap :: back) = exponentSign text := by
  cases text with
  | nil =>
    have plus : gap ≠ '+' := by
      rintro rfl
      exact absurd isGap (by decide)
    have minus : gap ≠ '-' := by
      rintro rfl
      exact absurd isGap (by decide)
    simp [exponentSign, plus, minus]
  | cons c rest =>
    by_cases plus : c = '+'
    · subst plus; rfl
    by_cases minus : c = '-'
    · subst minus; rfl
    simp [exponentSign, plus, minus]

theorem prefix_exponentPart (text : List Char) : exponentPart text <+: text := by
  cases text with
  | nil => exact List.nil_prefix
  | cons e rest =>
    rw [exponentPart]
    split
    next =>
      dsimp only
      split
      next => exact List.nil_prefix
      next =>
        obtain ⟨others, same⟩ := prefix_exponentSign rest
        generalize exponentSign rest = sign at same
        subst same
        rw [List.drop_left, List.cons_append]
        have digits : others.takeWhile Char.isDigit <+: others := List.takeWhile_prefix _
        exact List.cons_prefix_cons.mpr ⟨rfl, (List.prefix_append_right_inj sign).mpr digits⟩
    next => exact List.nil_prefix

theorem exponentPart_break (isGap : gap ∈ gaps) (text : List Char) :
    exponentPart (text ++ gap :: back) = exponentPart text := by
  cases text with
  | nil =>
    have letter : (gap = 'e' || gap = 'E') = false := not_of_gap (p := fun c => c = 'e' || c = 'E') (by decide) isGap
    simp only [List.nil_append, exponentPart, letter, Bool.false_eq_true, if_false]
  | cons e rest =>
    have within : (exponentSign rest).length ≤ rest.length := (prefix_exponentSign rest).length_le
    rw [List.cons_append, exponentPart, exponentPart, exponentSign_break isGap]
    dsimp only
    rw [List.drop_append_of_le_length within, takeWhile_break (not_of_gap (by decide) isGap)]

theorem stringBody_append {quote : Char} {text body : List Char} {n : Nat}
    (closed : stringBody quote text = some (body, n)) (back : List Char) :
    stringBody quote (text ++ back) = some (body, n) ∧ n ≤ text.length := by
  fun_induction stringBody quote text generalizing body n with
  | case1 => cases closed
  | case2 rest =>
    cases closed
    exact ⟨stringBody_quote quote _, by simp⟩
  | case3 => cases closed
  | case4 => cases closed
  | case5 e rest differs _ ih =>
    obtain ⟨⟨others, count⟩, inner, same⟩ := Option.map_eq_some_iff.mp closed
    cases same
    obtain ⟨longer, bound⟩ := ih inner
    refine ⟨?_, by simpa using bound⟩
    simp [stringBody, differs, longer]
  | case6 c rest differs newline backslash ih =>
    obtain ⟨⟨others, count⟩, inner, same⟩ := Option.map_eq_some_iff.mp closed
    cases same
    obtain ⟨longer, bound⟩ := ih inner
    refine ⟨?_, by simpa using bound⟩
    rw [List.cons_append, stringBody_plain differs newline backslash, longer]
    rfl

theorem lexWord_break (isGap : gap ∈ gaps) (c : Char) (rest : List Char) :
    lexWord (c :: (rest ++ gap :: back)) = lexWord (c :: rest) := by
  rw [lexWord, ← List.cons_append, takeWhile_break (not_of_gap (by decide) isGap)]
  rfl

theorem prefix_append_of_drop {front middle text : List Char} (first : front <+: text)
    (second : middle <+: text.drop front.length) : front ++ middle <+: text := by
  obtain ⟨rest, rfl⟩ := first
  rw [List.drop_left] at second
  exact (List.prefix_append_right_inj front).mpr second

theorem prefix_number (text : List Char) : text.takeWhile Char.isDigit ++
    fractionPart (text.drop (text.takeWhile Char.isDigit).length) ++
      exponentPart ((text.drop (text.takeWhile Char.isDigit).length).drop
        (fractionPart (text.drop (text.takeWhile Char.isDigit).length)).length) <+: text := by
  refine prefix_append_of_drop (prefix_append_of_drop (List.takeWhile_prefix _) (prefix_fractionPart _)) ?_
  rw [List.length_append, ← List.drop_drop]
  exact prefix_exponentPart _

theorem lexNumber_break (isGap : gap ∈ gaps) (c : Char) (rest : List Char) :
    lexNumber (c :: (rest ++ gap :: back)) = lexNumber (c :: rest) := by
  have front : (c :: rest).takeWhile Char.isDigit <+: c :: rest := List.takeWhile_prefix _
  have middle := prefix_fractionPart ((c :: rest).drop ((c :: rest).takeWhile Char.isDigit).length)
  have number := prefix_number (c :: rest)
  have noLetter : (gap.isAlpha || gap = '_') = false :=
    not_of_gap (p := fun c => c.isAlpha || c = '_') (by decide) isGap
  rw [← List.cons_append, lexNumber, lexNumber, takeWhile_break (not_of_gap (by decide) isGap),
    List.drop_append_of_le_length front.length_le, fractionPart_break isGap,
    List.drop_append_of_le_length middle.length_le, exponentPart_break isGap,
    List.drop_append_of_le_length number.length_le, head?_any_break noLetter]

theorem doubleMark?_gap (isGap : gap ∈ gaps) (c : Char) : doubleMark? c gap = none := by
  simp only [gaps, List.mem_cons, List.not_mem_nil, or_false] at isGap
  rcases isGap with rfl | rfl <;> simp [doubleMark?, List.lookup_eq_none_iff]

theorem lexMark_break (isGap : gap ∈ gaps) (c : Char) (rest : List Char) :
    lexMark c (rest ++ gap :: back) = lexMark c rest := by
  cases rest with
  | nil =>
    rw [lexMark, lexMark, List.nil_append, List.head?_cons, Option.bind_some, doubleMark?_gap isGap]
    rfl
  | cons next rest => rfl

/-- A lexeme lies in the text behind its first character and is not a line break. -/
def Within (text : List Char) (scanned : Scan) : Prop :=
  ∀ found, scanned = .ok found → found.extra ≤ text.length ∧ found.token ≠ some .newline

theorem Within.token {text : List Char} {token : Token} {extra : Nat} (bound : extra ≤ text.length)
    (solid : token ≠ .newline) : Within text (.ok ⟨some token, extra⟩) := by
  rintro _ ⟨⟩
  exact ⟨bound, fun same => solid (Option.some.inj same)⟩

theorem Within.error {text : List Char} {e : SyntaxFault × Nat} : Within text (.error e) := by
  rintro _ ⟨⟩

theorem lexWord_within (c : Char) (rest : List Char) : Within rest (lexWord (c :: rest)) := by
  have word : (c :: rest).takeWhile isWordChar <+: c :: rest := List.takeWhile_prefix _
  exact .token (Nat.sub_le_of_le_add word.length_le) (by simp)

theorem lexNumber_within (c : Char) (rest : List Char) : Within rest (lexNumber (c :: rest)) := by
  have bound := Nat.sub_le_of_le_add (prefix_number (c :: rest)).length_le
  rw [lexNumber]
  split
  next => exact .error
  next =>
    split
    next =>
      rw [intToken]
      split
      next => exact .token bound (by simp)
      next => exact .error
    next =>
      split
      next => exact .token bound (by simp)
      next => exact .error

theorem lexMark_within (c : Char) (rest : List Char) : Within rest (lexMark c rest) := by
  rw [lexMark]
  split
  next doubled =>
    cases rest with
    | nil => cases doubled
    | cons next rest => exact .token (Nat.succ_le_succ (Nat.zero_le _)) (by simp)
  next =>
    split
    next => exact .token (Nat.zero_le _) (by simp)
    next => exact .error

/-- A lexeme is the same with a line break behind the text, and lies in the text. -/
def Settled (text : List Char) (scanned longer : Scan) : Prop :=
  ∀ found, scanned = .ok found → longer = .ok found ∧ found.extra ≤ text.length

theorem Settled.ok {text : List Char} {found : Lexeme} (bound : found.extra ≤ text.length) :
    Settled text (.ok found) (.ok found) := by
  rintro _ ⟨⟩
  exact ⟨rfl, bound⟩

theorem Settled.of_eq {text : List Char} {scanned longer : Scan} (same : longer = scanned)
    (within : Within text scanned) : Settled text scanned longer := by
  rintro found rfl
  exact ⟨same, (within found rfl).1⟩

theorem Settled.ite {p : Prop} [Decidable p] {text : List Char} {first second first' second' : Scan}
    (yes : p → Settled text first first') (no : ¬ p → Settled text second second') :
    Settled text (if p then first else second) (if p then first' else second') := by
  split
  next holds => exact yes holds
  next fails => exact no fails

theorem lexString_break (quote : Char) (rest : List Char) :
    Settled rest (lexString quote rest) (lexString quote (rest ++ '\n' :: back)) := by
  intro found lexed
  rw [lexString] at lexed
  cases read : stringBody quote rest with
  | none => simp [read] at lexed
  | some body =>
    obtain ⟨longer, bound⟩ := stringBody_append read ('\n' :: back)
    simp only [read] at lexed
    cases lexed
    rw [lexString, longer]
    exact ⟨rfl, bound⟩

theorem lexeme_break (c : Char) (rest : List Char) :
    Settled rest (lexeme c rest) (lexeme c (rest ++ '\n' :: back)) := by
  -- The line break behind it would continue a line that ends in a backslash, but alone that is no lexeme.
  by_cases alone : c = '\\' ∧ rest = []
  · obtain ⟨rfl, rfl⟩ := alone
    rintro _ ⟨⟩
  have continues : (c = '\\' && (rest ++ '\n' :: back).head? = some '\n') =
      (c = '\\' && rest.head? = some '\n') := by
    cases rest with
    | nil => simp [show c ≠ '\\' from fun same => alone ⟨same, rfl⟩]
    | cons next rest => rfl
  have isGap : '\n' ∈ gaps := List.mem_cons_self
  rw [lexeme, lexeme, continues, head?_any_break rfl, takeWhile_break rfl]
  refine .ite (fun _ => .ok (Nat.zero_le _)) fun _ => .ite (fun _ => .ok (Nat.zero_le _)) fun _ =>
    .ite (fun escaped => .ok ?_) fun _ => .ite (fun _ => .ok ?_) fun _ =>
    .ite (fun _ => .of_eq (lexWord_break isGap c rest) (lexWord_within c rest)) fun _ =>
    .ite (fun _ => .of_eq (lexNumber_break isGap c rest) (lexNumber_within c rest)) fun _ =>
    .ite (fun _ => lexString_break c rest) fun _ => .of_eq (lexMark_break isGap c rest) (lexMark_within c rest)
  · cases rest with
    | nil => simp at escaped
    | cons next rest => simp
  · have comment : rest.takeWhile (· ≠ '\n') <+: rest := List.takeWhile_prefix _
    exact comment.length_le

end Scanners

/-- The number of open brackets behind tokens. -/
def depthAfter (depth : Nat) (tokens : Tokens) : Nat :=
  tokens.foldl (fun depth t => depthBehind depth t.token) depth

theorem depthAfter_append (depth : Nat) (front back : Tokens) :
    depthAfter depth (front ++ back) = depthAfter (depthAfter depth front) back := List.foldl_append

theorem depthBehind_of_not_kept {newlines : Bool} {depth : Nat} {token : Token}
    (dropped : isKept newlines depth token = false) : depthBehind depth token = depth := by
  cases token with
  | newline => rfl
  | _ => cases dropped

section Heads
variable {newlines : Bool} {c : Char} {rest : List Char} {extra : Nat}

theorem tokensFrom_layout (lexed : lexeme c rest = .ok ⟨none, extra⟩) (depth position : Nat) :
    tokensFrom newlines depth position 0 (c :: rest) =
      tokensFrom newlines depth (position + Text.byteLength (c :: rest.take extra)) extra rest := by
  rw [tokensFrom, lexed]

theorem tokensFrom_token {token : Token} (lexed : lexeme c rest = .ok ⟨some token, extra⟩) (depth position : Nat) :
    tokensFrom newlines depth position 0 (c :: rest) =
      (tokensFrom newlines (depthBehind depth token) (position + Text.byteLength (c :: rest.take extra)) extra rest
        >>= fun tokens => .ok (if isKept newlines depth token then ⟨token, position⟩ :: tokens else tokens)) := by
  rw [tokensFrom, lexed]
  rfl

end Heads

/-- Behind a text that is read, the text behind a line break is read from the depth to which its tokens lead. -/
theorem tokensFrom_break {newlines : Bool} {front : List Char} {depth position skip : Nat} {read : Tokens}
    (ok : tokensFrom newlines depth position skip front = .ok read) (within : skip ≤ front.length) (back : List Char) :
    ∃ next, ∀ others, tokensFrom newlines (depthAfter depth read) next 0 ('\n' :: back) = .ok others →
      tokensFrom newlines depth position skip (front ++ '\n' :: back) = .ok (read ++ others) := by
  induction front generalizing depth position skip read with
  | nil =>
    obtain rfl : skip = 0 := Nat.le_zero.mp within
    cases ok
    exact ⟨position, fun others later => later⟩
  | cons c rest ih =>
    cases skip with
    | succ skip => exact ih ok (Nat.le_of_succ_le_succ within)
    | zero =>
      cases lexed : lexeme c rest with
      | error fault => simp [tokensFrom, lexed] at ok
      | ok found =>
        obtain ⟨longer, bound⟩ := @lexeme_break back c rest found lexed
        obtain ⟨_ | token, extra⟩ := found
        · rw [tokensFrom_layout lexed] at ok
          rw [List.cons_append, tokensFrom_layout longer, List.take_append_of_le_length bound]
          exact ih ok bound
        · rw [tokensFrom_token lexed] at ok
          rw [List.cons_append, tokensFrom_token longer, List.take_append_of_le_length bound]
          obtain ⟨tokens, behind, kept⟩ := bind_eq_ok ok
          obtain ⟨next, joined⟩ := ih behind bound
          refine ⟨next, fun others later => ?_⟩
          cases kept
          cases counts : isKept newlines depth token with
          | true =>
            rw [counts, if_pos rfl] at later
            rw [joined others later, ok_bind, if_pos rfl, if_pos rfl, List.cons_append]
          | false =>
            rw [counts, if_neg Bool.false_ne_true, ← depthBehind_of_not_kept counts] at later
            rw [joined others later, ok_bind, if_neg Bool.false_ne_true, if_neg Bool.false_ne_true]

/-- The tokens of a text are the same wherever it starts. -/
theorem tokensFrom_moved {newlines : Bool} {text : List Char} {depth position skip : Nat} {read : Tokens}
    (ok : tokensFrom newlines depth position skip text = .ok read) (other : Nat) :
    ∃ moved, tokensFrom newlines depth other skip text = .ok moved ∧
      moved.map Spanned.token = read.map Spanned.token := by
  induction text generalizing depth position skip other read with
  | nil =>
    cases ok
    exact ⟨[], by rw [tokensFrom], rfl⟩
  | cons c rest ih =>
    cases skip with
    | succ skip => exact ih ok other
    | zero =>
      cases lexed : lexeme c rest with
      | error fault => simp [tokensFrom, lexed] at ok
      | ok found =>
        obtain ⟨_ | token, extra⟩ := found
        · rw [tokensFrom_layout lexed] at ok ⊢
          exact ih ok _
        · rw [tokensFrom_token lexed] at ok ⊢
          obtain ⟨tokens, behind, kept⟩ := bind_eq_ok ok
          obtain ⟨moved, later, same⟩ := ih behind (other + Text.byteLength (c :: rest.take extra))
          cases kept
          refine ⟨_, by rw [later, ok_bind], ?_⟩
          split
          next => rw [List.map_cons, List.map_cons, same]
          next => exact same

end Stencil
