import Stencil.Proofs.Expr.Reading

/-! What stands inside of brackets, and the links of a comparison, are read as they are written, if the
expressions they are made of are. -/
namespace Stencil

theorem Expr.bareItems_eq_map (items : List Expr) : Expr.bareItems items = items.map Expr.bare := by
  induction items with
  | nil => rw [Expr.bareItems, List.map_nil]
  | cons item rest ih => rw [Expr.bareItems, List.map_cons, ih]

theorem Expr.bareEntries_eq_map (entries : List (Expr × Expr)) : Expr.bareEntries entries =
    entries.map fun entry => entry.1.bare ++ .mark .colon :: entry.2.bare := by
  induction entries with
  | nil => rw [Expr.bareEntries, List.map_nil]
  | cons entry rest ih => rw [Expr.bareEntries, ih, List.map_cons]

theorem Expr.tokens_zero (e : Expr) : e.tokens 0 = e.bare := by
  rw [Expr.tokens, enclosed, if_neg (Nat.not_lt_zero _)]

theorem commaSeparated_singleton (item : List Token) : commaSeparated [item] = item :=
  List.intercalate_singleton

theorem commaSeparated_cons_cons (first second : List Token) (rest : List (List Token)) :
    commaSeparated (first :: second :: rest) =
      first ++ .mark .comma :: commaSeparated (second :: rest) := by
  rw [commaSeparated, List.intercalate_cons_cons, List.append_assoc]
  rfl

theorem Expr.level_le (e : Expr) : e.level ≤ 8 := by
  cases e with
  | binary op => cases op <;> simp [Expr.level, BinaryOp.level]
  | _ => simp [Expr.level]

/-- An expression that stands without parentheses is read at its own level. -/
structure Readable (e : Expr) : Prop where
  leads : ∃ t rest, e.bare = t :: rest ∧ Leads e.level t
  own : ∀ fuel pre, Spells pre e.bare → pre.length ≤ fuel.length + 1 → Reads (expression fuel) e.level e pre

section Nested
variable {fuel pre rest : Tokens}

theorem Readable.below {e : Expr} (readable : Readable e) {place : Nat} (le : place ≤ e.level)
    (spells : Spells pre e.bare) (room : pre.length ≤ fuel.length + 1) :
    Reads (expression fuel) place e pre := by
  obtain ⟨t, others, bare, leads⟩ := readable.leads
  have own := readable.own fuel pre spells room
  rw [bare] at spells
  obtain ⟨position, behind, rfl, _⟩ := spells.cons
  exact own.below le e.level_le leads

/-- The parser for nested expressions reads it, with one token of fuel more than it takes. -/
theorem Readable.nested {e : Expr} (readable : Readable e) (spells : Spells pre e.bare)
    (room : pre.length < fuel.length) (clear : Clear 0 rest) :
    expression fuel (pre ++ rest) = .ok (e, rest) := by
  cases fuel with
  | nil => cases room
  | cons t fuel => exact (readable.below (Nat.zero_le _) spells (Nat.le_of_lt room)).whole clear

theorem Spells.not_behindMark {spelled : List Token} {level : Nat} (spells : Spells pre spelled)
    (leads : ∃ t others, spelled = t :: others ∧ Leads level t) {mark : Mark}
    (closes : mark ∈ [Mark.rightParen, .rightBracket, .rightBrace, .comma, .colon]) :
    behindMark? mark (pre ++ rest) = none := by
  obtain ⟨t, others, rfl, leads⟩ := leads
  obtain ⟨position, behind, rfl, _⟩ := spells.cons
  rw [List.cons_append, behindMark?, leads.not_mark closes]
  rfl

theorem Readable.not_behindMark {e : Expr} (readable : Readable e) (spells : Spells pre e.bare) {mark : Mark}
    (closes : mark ∈ [Mark.rightParen, .rightBracket, .rightBrace, .comma, .colon]) :
    behindMark? mark (pre ++ rest) = none := spells.not_behindMark readable.leads closes

theorem behindMark?_self (mark : Mark) (position : Nat) :
    behindMark? mark (⟨.mark mark, position⟩ :: rest) = some rest := by
  rw [behindMark?, Token.isMark, decide_eq_true rfl, if_pos rfl]

theorem expectMark_self (mark : Mark) (wanted : Wanted) (position : Nat) :
    expectMark mark wanted (⟨.mark mark, position⟩ :: rest) = .ok rest := by
  rw [expectMark, behindMark?_self]

theorem behindMark?_of_ne {mark other : Mark} (apart : other ≠ mark) (position : Nat) :
    behindMark? mark (⟨.mark other, position⟩ :: rest) = none := by
  rw [behindMark?, Token.isMark, decide_eq_false apart, if_neg Bool.false_ne_true]

theorem sequence_reads {items : List Expr} (readable : ∀ item ∈ items, Readable item)
    (spells : Spells pre (commaSeparated (items.map Expr.bare))) (room : pre.length < fuel.length)
    {bound : Tokens} (enough : pre.length < bound.length) {close : Mark}
    (closes : close ∈ [Mark.rightParen, .rightBracket]) (wanted : Wanted) (position : Nat) :
    sequence (expression fuel) close wanted bound (pre ++ ⟨.mark close, position⟩ :: rest) =
      .ok (items, rest) := by
  have isCloser : close ∈ [Mark.rightParen, .rightBracket, .rightBrace, .comma, .colon] := by
    simp only [List.mem_cons, List.not_mem_nil, or_false] at closes
    rcases closes with rfl | rfl <;> simp
  have clear : Clear 0 (⟨.mark close, position⟩ :: rest) := by
    refine clear_cons (Nat.le_of_eq ?_)
    simp only [List.mem_cons, List.not_mem_nil, or_false] at closes
    rcases closes with rfl | rfl <;> rfl
  have apart : close ≠ .comma := by
    rintro rfl
    simp at closes
  induction items generalizing pre bound with
  | nil =>
    cases spells.nil
    cases bound with
    | nil => cases enough
    | cons t bound => rw [List.nil_append, sequence, behindMark?_self]
  | cons item items ih =>
    have first := readable item List.mem_cons_self
    have later := fun other member => readable other (List.mem_cons_of_mem item member)
    cases bound with
    | nil => cases enough
    | cons t bound =>
      cases items with
      | nil =>
        rw [List.map_singleton, commaSeparated_singleton] at spells
        rw [sequence, first.not_behindMark spells isCloser]
        simp only [first.nested spells room clear, ok_bind, behindMark?_of_ne apart, expectMark_self]
        rfl
      | cons second items =>
        rw [List.map_cons, List.map_cons, commaSeparated_cons_cons] at spells
        obtain ⟨front, behind, rfl, spellsFirst, spellsRest⟩ := spells.append
        obtain ⟨comma, back, rfl, spellsLater⟩ := spellsRest.cons
        simp only [List.length_append, List.length_cons] at room enough
        have roomFirst : front.length < fuel.length := by omega
        have roomLater : back.length < fuel.length := by omega
        have enoughLater : back.length < bound.length := by omega
        have separates : Clear 0 (⟨.mark .comma, comma⟩ :: (back ++ ⟨.mark close, position⟩ :: rest)) :=
          clear_cons (Nat.le_refl 0)
        rw [sequence, List.append_assoc, first.not_behindMark spellsFirst isCloser]
        simp only [List.cons_append, first.nested spellsFirst roomFirst separates, ok_bind,
          behindMark?_self, ih later spellsLater roomLater enoughLater]
        rfl

theorem items_read {items : List Expr} (readable : ∀ item ∈ items, Readable item)
    (spells : Spells pre (commaSeparated (items.map Expr.bare))) (room : pre.length < fuel.length)
    {close : Mark} (closes : close ∈ [Mark.rightParen, .rightBracket]) (position : Nat) :
    sequence (expression fuel) close .expression (pre ++ ⟨.mark close, position⟩ :: rest)
      (pre ++ ⟨.mark close, position⟩ :: rest) = .ok (items, rest) := by
  have enough : pre.length < (pre ++ ⟨.mark close, position⟩ :: rest).length := by simp
  exact sequence_reads readable spells room enough closes .expression position

theorem parenthesized_reads_tuple {items : List Expr} (readable : ∀ item ∈ items, Readable item)
    (spells : Spells pre (tupleTokens (items.map Expr.bare))) (room : pre.length < fuel.length)
    (position : Nat) : parenthesized (expression fuel) (pre ++ ⟨.mark .rightParen, position⟩ :: rest) =
      .ok (.tuple items, rest) := by
  have apart : Mark.comma ≠ .rightParen := by decide
  match items with
  | [] =>
    have none : pre = [] := Spells.nil spells
    rw [none, List.nil_append, parenthesized, behindMark?_self]
  | [item] =>
    have first := readable item List.mem_cons_self
    rw [List.map_singleton, tupleTokens] at spells
    obtain ⟨front, back, rfl, spellsFirst, spellsRest⟩ := spells.append
    obtain ⟨comma, none, rfl, empty⟩ := spellsRest.cons
    cases empty.nil
    rw [List.length_append] at room
    have roomFirst : front.length < fuel.length := by omega
    have separates : Clear 0 (⟨.mark .comma, comma⟩ :: ⟨.mark .rightParen, position⟩ :: rest) :=
      clear_cons (Nat.le_refl 0)
    rw [List.append_assoc, parenthesized, first.not_behindMark spellsFirst (by decide)]
    simp only [List.singleton_append, first.nested spellsFirst roomFirst separates, ok_bind,
      behindMark?_of_ne apart, expectMark_self, sequence, behindMark?_self]
    rfl
  | item :: second :: items =>
    have first := readable item List.mem_cons_self
    have later := fun other member => readable other (List.mem_cons_of_mem item member)
    have closes : Mark.rightParen ∈ [Mark.rightParen, .rightBracket] := by decide
    rw [List.map_cons, List.map_cons, tupleTokens, commaSeparated_cons_cons] at spells
    · obtain ⟨front, behind, rfl, spellsFirst, spellsRest⟩ := spells.append
      obtain ⟨comma, back, rfl, spellsLater⟩ := spellsRest.cons
      simp only [List.length_append, List.length_cons] at room
      have roomFirst : front.length < fuel.length := by omega
      have roomLater : back.length < fuel.length := by omega
      have separates : Clear 0 (⟨.mark .comma, comma⟩ :: (back ++ ⟨.mark .rightParen, position⟩ :: rest)) :=
        clear_cons (Nat.le_refl 0)
      rw [List.append_assoc, parenthesized, first.not_behindMark spellsFirst (by decide)]
      simp only [List.cons_append, first.nested spellsFirst roomFirst separates, ok_bind,
        behindMark?_of_ne apart, expectMark_self, items_read later spellsLater roomLater closes]
      rfl
    · simp

theorem parenthesized_reads {e : Expr} (readable : Readable e) (spells : Spells pre e.bare)
    (room : pre.length < fuel.length) (position : Nat) :
    parenthesized (expression fuel) (pre ++ ⟨.mark .rightParen, position⟩ :: rest) = .ok (e, rest) := by
  have closes : Clear 0 (⟨.mark .rightParen, position⟩ :: rest) := clear_cons (Nat.le_refl 0)
  rw [parenthesized, readable.not_behindMark spells (by decide)]
  simp only [readable.nested spells room closes, ok_bind, behindMark?_self]
  rfl

theorem entry_reads {key value : Expr} (first : Readable key) (second : Readable value)
    (spells : Spells pre (key.bare ++ .mark .colon :: value.bare)) (room : pre.length < fuel.length)
    (clear : Clear 0 rest) : behindMark? .rightBrace (pre ++ rest) = none ∧
      ∃ behind, expression fuel (pre ++ rest) = .ok (key, behind) ∧
        ∃ last, expectMark .colon .colon behind = .ok last ∧ expression fuel last = .ok (value, rest) := by
  obtain ⟨front, behind, rfl, spellsKey, spellsRest⟩ := spells.append
  obtain ⟨colon, back, rfl, spellsValue⟩ := spellsRest.cons
  simp only [List.length_append, List.length_cons] at room
  have roomKey : front.length < fuel.length := by omega
  have roomValue : back.length < fuel.length := by omega
  have separates : Clear 0 (⟨.mark .colon, colon⟩ :: (back ++ rest)) := clear_cons (Nat.le_refl 0)
  rw [List.append_assoc, List.cons_append]
  exact ⟨first.not_behindMark spellsKey (by decide), _, first.nested spellsKey roomKey separates, _,
    expectMark_self _ _ _, second.nested spellsValue roomValue clear⟩

theorem dictEntries_reads {entries : List (Expr × Expr)} (keys : ∀ entry ∈ entries, Readable entry.1)
    (values : ∀ entry ∈ entries, Readable entry.2)
    (spells : Spells pre (commaSeparated (Expr.bareEntries entries))) (room : pre.length < fuel.length)
    {bound : Tokens} (enough : pre.length < bound.length) (position : Nat) :
    dictEntries (expression fuel) bound (pre ++ ⟨.mark .rightBrace, position⟩ :: rest) =
      .ok (entries, rest) := by
  have clear : Clear 0 (⟨.mark .rightBrace, position⟩ :: rest) := clear_cons (Nat.le_refl 0)
  have apart : Mark.rightBrace ≠ .comma := by decide
  induction entries generalizing pre bound with
  | nil =>
    rw [Expr.bareEntries] at spells
    cases spells.nil
    cases bound with
    | nil => cases enough
    | cons t bound => rw [List.nil_append, dictEntries, behindMark?_self]
  | cons entry entries ih =>
    obtain ⟨key, value⟩ := entry
    have first : Readable key := keys (key, value) List.mem_cons_self
    have second : Readable value := values (key, value) List.mem_cons_self
    cases bound with
    | nil => cases enough
    | cons t bound =>
      cases entries with
      | nil =>
        rw [Expr.bareEntries, Expr.bareEntries, commaSeparated_singleton] at spells
        obtain ⟨more, _, readKey, _, colon, readValue⟩ := entry_reads first second spells room clear
        rw [dictEntries, more]
        simp only [readKey, ok_bind, colon, readValue, behindMark?_of_ne apart, expectMark_self]
        rfl
      | cons next entries =>
        have laterKeys := fun other member => keys other (List.mem_cons_of_mem (key, value) member)
        have laterValues := fun other member => values other (List.mem_cons_of_mem (key, value) member)
        obtain ⟨nextKey, nextValue⟩ := next
        rw [Expr.bareEntries, Expr.bareEntries, commaSeparated_cons_cons, ← Expr.bareEntries] at spells
        obtain ⟨front, behind, rfl, spellsEntry, spellsRest⟩ := spells.append
        obtain ⟨comma, back, rfl, spellsLater⟩ := spellsRest.cons
        simp only [List.length_append, List.length_cons] at room enough
        have roomEntry : front.length < fuel.length := by omega
        have roomLater : back.length < fuel.length := by omega
        have enoughLater : back.length < bound.length := by omega
        have separates : Clear 0
            (⟨.mark .comma, comma⟩ :: (back ++ ⟨.mark .rightBrace, position⟩ :: rest)) :=
          clear_cons (Nat.le_refl 0)
        obtain ⟨more, _, readKey, _, colon, readValue⟩ :=
          entry_reads first second spellsEntry roomEntry separates
        rw [List.append_assoc, List.cons_append, dictEntries, more]
        simp only [readKey, ok_bind, colon, readValue, behindMark?_self,
          ih laterKeys laterValues spellsLater roomLater enoughLater]
        rfl

theorem expressionList_of_nested {nested : Parser Expr} {tokens : Tokens} {e : Expr}
    (read : nested tokens = .ok (e, rest)) (single : behindMark? .comma rest = none) :
    expressionList nested tokens = .ok (e, rest) := by
  rw [expressionList, read, ok_bind]
  simp only [single]
  rfl

theorem sliceUpper_reads (value : Expr) (lower : Option Expr) {upper : Option Expr}
    (readable : ∀ bound ∈ upper, Readable bound) (spells : Spells pre (Expr.bareBound upper))
    (room : pre.length < fuel.length) (position : Nat) :
    sliceUpper (expression fuel) value lower (pre ++ ⟨.mark .rightBracket, position⟩ :: rest) =
      .ok (.slice value lower upper, rest) := by
  cases upper with
  | none =>
    rw [Expr.bareBound] at spells
    rw [spells.nil, List.nil_append, sliceUpper, behindMark?_self]
  | some upper =>
    rw [Expr.bareBound] at spells
    have bound := readable upper rfl
    have closes : Clear 0 (⟨.mark .rightBracket, position⟩ :: rest) := clear_cons (Nat.le_refl 0)
    rw [sliceUpper, bound.not_behindMark spells (by decide)]
    simp only [bound.nested spells room closes, ok_bind, expectMark_self]
    rfl

theorem subscript_reads_slice (value : Expr) {lower upper : Option Expr}
    (low : ∀ bound ∈ lower, Readable bound) (high : ∀ bound ∈ upper, Readable bound)
    (spells : Spells pre (Expr.bareBound lower ++ .mark .colon :: Expr.bareBound upper))
    (room : pre.length < fuel.length) (position : Nat) :
    subscript (expression fuel) value (pre ++ ⟨.mark .rightBracket, position⟩ :: rest) =
      .ok (.slice value lower upper, rest) := by
  obtain ⟨front, behind, rfl, spellsLower, spellsRest⟩ := spells.append
  obtain ⟨colon, back, rfl, spellsUpper⟩ := spellsRest.cons
  simp only [List.length_append, List.length_cons] at room
  have roomUpper : back.length < fuel.length := by omega
  have readsUpper : sliceUpper (expression fuel) value lower (back ++ ⟨.mark .rightBracket, position⟩ :: rest) =
      .ok (.slice value lower upper, rest) := sliceUpper_reads value lower high spellsUpper roomUpper position
  cases lower with
  | none =>
    rw [Expr.bareBound] at spellsLower
    rw [spellsLower.nil, List.nil_append, List.cons_append, subscript, behindMark?_self]
    exact readsUpper
  | some lower =>
    rw [Expr.bareBound] at spellsLower
    have bound := low lower rfl
    have roomLower : front.length < fuel.length := by omega
    have separates : Clear 0 (⟨.mark .colon, colon⟩ :: (back ++ ⟨.mark .rightBracket, position⟩ :: rest)) :=
      clear_cons (Nat.le_refl 0)
    have apart : Mark.colon ≠ .comma := by decide
    have read := expressionList_of_nested (bound.nested spellsLower roomLower separates)
      (behindMark?_of_ne apart colon)
    rw [List.append_assoc, List.cons_append, subscript, bound.not_behindMark spellsLower (by decide)]
    simp only [read, ok_bind, behindMark?_self]
    exact readsUpper

theorem subscript_reads_index (value : Expr) {index : Expr} (readable : Readable index)
    (spells : Spells pre index.bare) (room : pre.length < fuel.length) (position : Nat) :
    subscript (expression fuel) value (pre ++ ⟨.mark .rightBracket, position⟩ :: rest) =
      .ok (.index value index, rest) := by
  have closes : Clear 0 (⟨.mark .rightBracket, position⟩ :: rest) := clear_cons (Nat.le_refl 0)
  have apartComma : Mark.rightBracket ≠ .comma := by decide
  have apartColon : Mark.rightBracket ≠ .colon := by decide
  have read := expressionList_of_nested (readable.nested spells room closes)
    (behindMark?_of_ne apartComma position)
  rw [subscript, readable.not_behindMark spells (by decide)]
  simp only [read, ok_bind, behindMark?_of_ne apartColon, expectMark_self]
  rfl

end Nested

end Stencil
