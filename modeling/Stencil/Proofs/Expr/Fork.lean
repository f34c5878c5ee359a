import Stencil.Proofs.Expr.LineBreak

/-! Lines that start with the same text and go on differently behind a space. Main statement: `tokensFrom_fork`, that
they start with the same tokens, behind which each goes on with the tokens behind its space, unless the text ends in
a comment or in a string literal that is not closed. -/
namespace Stencil

/-- The lexeme is the same with a space and any text behind the text that it is in. -/
def Kept (text : List Char) (scanned : Scan) (longer : List Char → Scan) : Prop :=
  ∃ found, scanned = .ok found ∧ found.extra ≤ text.length ∧ found.token ≠ some .newline ∧
    ∀ back, longer back = .ok found

/-- With a space and more behind it the text is a comment, starts with a string literal, or cannot be read. -/
def Spilt (text : List Char) (longer : List Char → Scan) : Prop :=
  ∀ back, '\n' ∉ back → ∀ found, longer back = .ok found →
    found = ⟨none, (text ++ ' ' :: back).length⟩ ∨ ∃ s, found.token = some (.str s)

def Forked (text : List Char) (scanned : Scan) (longer : List Char → Scan) : Prop :=
  Kept text scanned longer ∨ Spilt text longer

section Lexemes
variable {text : List Char} {scanned : Scan} {longer : List Char → Scan}

theorem Forked.layout {extra : Nat} (bound : extra ≤ text.length) :
    Forked text (layout extra) (fun _ => Stencil.layout extra) :=
  .inl ⟨⟨none, extra⟩, rfl, bound, by simp, fun _ => rfl⟩

theorem Forked.of_eq (same : ∀ back, longer back = scanned) (within : Within text scanned) :
    Forked text scanned longer := by
  cases scanned with
  | error e =>
    refine .inr fun back _ found lexed => ?_
    rw [same back] at lexed
    cases lexed
  | ok found =>
    obtain ⟨bound, solid⟩ := within found rfl
    exact .inl ⟨found, rfl, bound, solid, same⟩

theorem Forked.ite {p : Prop} [Decidable p] {first second : Scan} {first' second' : List Char → Scan}
    (yes : p → Forked text first first') (no : ¬ p → Forked text second second') :
    Forked text (if p then first else second) (fun back => if p then first' back else second' back) := by
  by_cases holds : p
  · simpa only [if_pos holds] using yes holds
  · simpa only [if_neg holds] using no holds

theorem lexString_forked (quote : Char) (rest : List Char) :
    Forked rest (lexString quote rest) (fun back => lexString quote (rest ++ ' ' :: back)) := by
  cases read : stringBody quote rest with
  | some body =>
    obtain ⟨body, n⟩ := body
    have longer (back : List Char) := (stringBody_append read (' ' :: back)).1
    have bound := (stringBody_append read []).2
    refine .inl ⟨⟨some (.str (String.ofList body)), n⟩, ?_, bound, by simp, fun back => ?_⟩
    · simp only [lexString, read]
    · simp only [lexString, longer back]
  | none =>
    refine .inr fun back _ found (lexed : lexString quote (rest ++ ' ' :: back) = .ok found) => .inr ?_
    rw [lexString] at lexed
    split at lexed
    next => cases lexed; exact ⟨_, rfl⟩
    next => cases lexed

theorem comment_forked (plain : '\n' ∉ text) : Forked text (layout (text.takeWhile (· ≠ '\n')).length)
    (fun back => Stencil.layout ((text ++ ' ' :: back).takeWhile (· ≠ '\n')).length) := by
  refine .inr fun back clear found lexed => .inl ?_
  have whole : (text ++ ' ' :: back).takeWhile (· ≠ '\n') = text ++ ' ' :: back := by
    have later : '\n' ∉ ' ' :: back := List.not_mem_cons_of_ne_of_not_mem (by decide) clear
    have feed : '\n' ∉ text ++ ' ' :: back := Text.not_mem_append plain later
    refine List.takeWhile_eq_self_iff.mpr fun c member => decide_eq_true fun same => feed (same ▸ member)
  dsimp only at lexed
  rw [whole] at lexed
  cases lexed
  rfl

theorem lexeme_forked {c : Char} {rest : List Char} (plain : '\n' ∉ c :: rest) :
    Forked rest (lexeme c rest) (fun back => lexeme c (rest ++ ' ' :: back)) := by
  have feed : c ≠ '\n' := fun same => plain (by simp [same])
  have inside : '\n' ∉ rest := List.not_mem_of_not_mem_cons plain
  have isGap : ' ' ∈ gaps := by decide
  have joined : (c = '\\' && rest.head? = some '\n') = false :=
    Bool.and_eq_false_iff.mpr (.inr (decide_eq_false fun head => inside (List.mem_of_mem_head? head)))
  have joined' (back : List Char) : (c = '\\' && (rest ++ ' ' :: back).head? = some '\n') = false := by
    refine Bool.and_eq_false_iff.mpr (.inr (decide_eq_false fun head => ?_))
    cases rest with
    | nil => cases head
    | cons next rest => exact inside (List.mem_of_mem_head? head)
  simp only [lexeme, if_neg feed, joined, joined', Bool.false_eq_true, if_false,
    head?_any_break (rfl : Char.isDigit ' ' = false)]
  refine .ite (fun _ => .layout (Nat.zero_le _)) fun _ => .ite (fun _ => comment_forked inside) fun _ =>
    .ite (fun _ => .of_eq (fun _ => lexWord_break isGap c rest) (lexWord_within c rest)) fun _ =>
    .ite (fun _ => .of_eq (fun _ => lexNumber_break isGap c rest) (lexNumber_within c rest)) fun _ =>
    .ite (fun _ => lexString_forked c rest) fun _ =>
      .of_eq (fun _ => lexMark_break isGap c rest) (lexMark_within c rest)

end Lexemes

theorem isKept_of_ne {token : Token} (solid : token ≠ .newline) (newlines : Bool) (depth : Nat) :
    isKept newlines depth token = true := by
  cases token with
  | newline => exact absurd rfl solid
  | _ => rfl

theorem tokensFrom_skip (newlines : Bool) (depth position : Nat) (text : List Char) :
    tokensFrom newlines depth position text.length text = .ok [] := by
  induction text with
  | nil => rw [List.length_nil, tokensFrom]
  | cons c rest ih => rw [List.length_cons, tokensFrom, ih]

/-- The tokens of a line are those of the text before a space, followed by those from the space on. -/
def Continues (depth position skip : Nat) (front : List Char) (read : Tokens) : Prop :=
  ∃ next, tokensFrom false depth position skip front = .ok read ∧ ∀ newlines back all,
    tokensFrom newlines depth position skip (front ++ ' ' :: back) = .ok all →
      ∃ rest, all = read ++ rest ∧ tokensFrom newlines (depthAfter depth read) next 0 (' ' :: back) = .ok rest

/-- Behind the tokens that all lines with the text have there is a string literal, or only a comment. -/
def Closes (depth position skip : Nat) (front : List Char) (read : Tokens) : Prop :=
  ∀ newlines back all, '\n' ∉ back → tokensFrom newlines depth position skip (front ++ ' ' :: back) = .ok all →
    ∃ rest, all = read ++ rest ∧ ∀ t ∈ rest.head?, ∃ s, t.token = .str s

section Heads
variable {depth position extra : Nat} {c : Char} {rest : List Char} {read : Tokens}

theorem Continues.layout (bound : extra ≤ rest.length) (lexed : lexeme c rest = .ok ⟨none, extra⟩)
    (longer : ∀ back, lexeme c (rest ++ ' ' :: back) = .ok ⟨none, extra⟩)
    (later : Continues depth (position + Text.byteLength (c :: rest.take extra)) extra rest read) :
    Continues depth position 0 (c :: rest) read := by
  obtain ⟨next, alone, joined⟩ := later
  refine ⟨next, (tokensFrom_layout lexed depth position).trans alone, fun newlines back all ok => ?_⟩
  rw [List.cons_append, tokensFrom_layout (longer back), List.take_append_of_le_length bound] at ok
  exact joined newlines back all ok

theorem Closes.layout (bound : extra ≤ rest.length)
    (longer : ∀ back, lexeme c (rest ++ ' ' :: back) = .ok ⟨none, extra⟩)
    (later : Closes depth (position + Text.byteLength (c :: rest.take extra)) extra rest read) :
    Closes depth position 0 (c :: rest) read := by
  intro newlines back all plain ok
  rw [List.cons_append, tokensFrom_layout (longer back), List.take_append_of_le_length bound] at ok
  exact later newlines back all plain ok

variable {token : Token} (solid : token ≠ .newline)
include solid

theorem Continues.cons (bound : extra ≤ rest.length) (lexed : lexeme c rest = .ok ⟨some token, extra⟩)
    (longer : ∀ back, lexeme c (rest ++ ' ' :: back) = .ok ⟨some token, extra⟩)
    (later : Continues (depthBehind depth token) (position + Text.byteLength (c :: rest.take extra)) extra rest read) :
    Continues depth position 0 (c :: rest) (⟨token, position⟩ :: read) := by
  obtain ⟨next, alone, joined⟩ := later
  refine ⟨next, ?_, fun newlines back all ok => ?_⟩
  · rw [tokensFrom_token lexed, alone, ok_bind, if_pos (isKept_of_ne solid false depth)]
  · rw [List.cons_append, tokensFrom_token (longer back), List.take_append_of_le_length bound] at ok
    obtain ⟨others, behind, same⟩ := bind_eq_ok ok
    rw [if_pos (isKept_of_ne solid newlines depth)] at same
    cases same
    obtain ⟨tail, rfl, follows⟩ := joined newlines back others behind
    exact ⟨tail, rfl, follows⟩

theorem Closes.cons (bound : extra ≤ rest.length)
    (longer : ∀ back, lexeme c (rest ++ ' ' :: back) = .ok ⟨some token, extra⟩)
    (later : Closes (depthBehind depth token) (position + Text.byteLength (c :: rest.take extra)) extra rest read) :
    Closes depth position 0 (c :: rest) (⟨token, position⟩ :: read) := by
  intro newlines back all plain ok
  rw [List.cons_append, tokensFrom_token (longer back), List.take_append_of_le_length bound] at ok
  obtain ⟨others, behind, same⟩ := bind_eq_ok ok
  rw [if_pos (isKept_of_ne solid newlines depth)] at same
  cases same
  obtain ⟨tail, rfl, head⟩ := later newlines back others plain behind
  exact ⟨tail, rfl, head⟩

end Heads

theorem closes_of_spilt {c : Char} {rest : List Char} (spilt : Spilt rest fun back => lexeme c (rest ++ ' ' :: back))
    (depth position : Nat) : Closes depth position 0 (c :: rest) [] := by
  intro newlines back all plain ok
  refine ⟨all, rfl, ?_⟩
  cases lexed : lexeme c (rest ++ ' ' :: back) with
  | error fault => simp [tokensFrom, lexed] at ok
  | ok found =>
    rcases spilt back plain found lexed with rfl | ⟨s, isString⟩
    · rw [List.cons_append, tokensFrom_layout lexed, tokensFrom_skip] at ok
      cases ok
      exact fun t head => by cases head
    · obtain ⟨token, extra⟩ := found
      cases isString
      rw [List.cons_append, tokensFrom_token lexed] at ok
      obtain ⟨others, _, same⟩ := bind_eq_ok ok
      cases same
      rintro t ⟨⟩
      exact ⟨s, rfl⟩

/-- Lines that start with the same text start with the same tokens. -/
theorem tokensFrom_fork {front : List Char} (plain : '\n' ∉ front) (depth position : Nat) {skip : Nat}
    (within : skip ≤ front.length) :
    ∃ read, Continues depth position skip front read ∨ Closes depth position skip front read := by
  induction front generalizing depth position skip with
  | nil =>
    obtain rfl : skip = 0 := Nat.le_zero.mp within
    exact ⟨[], .inl ⟨position, by rw [tokensFrom], fun newlines back all ok => ⟨all, rfl, ok⟩⟩⟩
  | cons c rest ih =>
    have inside : '\n' ∉ rest := List.not_mem_of_not_mem_cons plain
    cases skip with
    | succ skip => exact ih inside depth position (Nat.le_of_succ_le_succ within)
    | zero =>
      rcases lexeme_forked plain with ⟨⟨token?, extra⟩, lexed, bound, solid, longer⟩ | spilt
      · cases token? with
        | none =>
          obtain ⟨read, later⟩ := ih inside depth (position + Text.byteLength (c :: rest.take extra)) bound
          exact ⟨read, later.imp (.layout bound lexed longer) (.layout bound longer)⟩
        | some token =>
          have solid : token ≠ .newline := fun same => solid (congrArg some same)
          obtain ⟨read, later⟩ := ih inside (depthBehind depth token)
            (position + Text.byteLength (c :: rest.take extra)) bound
          exact ⟨⟨token, position⟩ :: read, later.imp (.cons solid bound lexed longer) (.cons solid bound longer)⟩
      · exact ⟨[], .inr (closes_of_spilt spilt depth position)⟩

end Stencil
