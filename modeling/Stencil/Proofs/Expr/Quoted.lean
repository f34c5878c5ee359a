import Stencil.Expr.Eval
import Stencil.Proofs.Expr.RoundTrip
import Stencil.Proofs.Value.Words

/-! Quoted values are expressions that evaluate to them. Main statement: `parseExpression_quoted`. -/
namespace Stencil

mutual
/-- The expression that a value is quoted as. A negative number is a sign before a natural one. -/
def Value.display : Value → Expr
  | .null => .literal .null
  | .bool b => .literal (.bool b)
  | .int n => if n.toInt < 0 then .unary .negate (.literal (.int (-n))) else .literal (.int n)
  | .float x => .literal (.float x)
  | .str text => .literal (.str text)
  | .list items => .list (Value.displayAll items)
  | .tuple items => .tuple (Value.displayAll items)
  | .map entries => .dict (Value.displayEntries entries)

def Value.displayAll : List Value → List Expr
  | [] => []
  | item :: rest => item.display :: Value.displayAll rest

def Value.displayEntries : Entries → List (Expr × Expr)
  | [] => []
  | (key, value) :: rest => (.literal (.str key), value.display) :: Value.displayEntries rest
end

theorem Value.displayAll_eq_map (items : List Value) : Value.displayAll items = items.map Value.display := by
  induction items with
  | nil => rw [Value.displayAll, List.map_nil]
  | cons item rest ih => rw [Value.displayAll, ih, List.map_cons]

theorem Value.displayEntries_eq_map (entries : Entries) : Value.displayEntries entries =
    entries.map fun entry => (.literal (.str entry.1), entry.2.display) := by
  induction entries with
  | nil => rw [Value.displayEntries, List.map_nil]
  | cons entry rest ih => rw [Value.displayEntries, ih, List.map_cons]

theorem Value.quotedItems_eq_map (items : List Value) : Value.quotedItems items = items.map Value.quoted := by
  induction items with
  | nil => rw [Value.quotedItems, List.map_nil]
  | cons item rest ih => rw [Value.quotedItems, ih, List.map_cons]

theorem Value.quotedEntries_eq_map (entries : Entries) : Value.quotedEntries entries =
    entries.map fun entry => literal entry.1.toList ++ ':' :: ' ' :: entry.2.quoted := by
  induction entries with
  | nil => rw [Value.quotedEntries, List.map_nil]
  | cons entry rest ih => rw [Value.quotedEntries, ih, List.map_cons]

/-- Values without floating point numbers and the least integer, whose negation does not fit, at any depth.
The keys of a map are distinct. -/
inductive Value.Spellable : Value → Prop
  | null : Spellable .null
  | bool (b : Bool) : Spellable (.bool b)
  | int {n : Int64} (above : Int64.minValue < n) : Spellable (.int n)
  | str (text : String) : Spellable (.str text)
  | list {items : List Value} (all : ∀ item ∈ items, Spellable item) : Spellable (.list items)
  | tuple {items : List Value} (all : ∀ item ∈ items, Spellable item) : Spellable (.tuple items)
  | map {entries : Entries} (distinct : (entries.map Prod.fst).Nodup)
      (all : ∀ entry ∈ entries, Spellable entry.2) : Spellable (.map entries)

theorem toInt_neg_of_gt {n : Int64} (above : Int64.minValue < n) : (-n).toInt = -n.toInt := by
  have least : -2 ^ 63 < n.toInt := Int64.lt_iff_toInt_lt.mp above
  have most := n.toInt_le
  rw [Int64.toInt_maxValue] at most
  rw [Int64.toInt_neg, Int.bmod_eq_of_le (by omega) (by omega)]

theorem Value.Spellable.printable {v : Value} (spellable : v.Spellable) : Printable v.display := by
  induction spellable with
  | null => exact .null
  | bool b => exact .bool b
  | str text => exact .str text
  | @int n above =>
    rw [Value.display]
    split
    next negative =>
      have natural : 0 ≤ (-n).toInt := by
        rw [toInt_neg_of_gt above]
        omega
      exact .unary .negate (.int natural)
    next natural => exact .int (Int.not_lt.mp natural)
  | list _ ih =>
    rw [Value.display, Value.displayAll_eq_map]
    exact .list (List.forall_mem_map.mpr ih)
  | tuple _ ih =>
    rw [Value.display, Value.displayAll_eq_map]
    exact .tuple (List.forall_mem_map.mpr ih)
  | map _ _ ih =>
    rw [Value.display, Value.displayEntries_eq_map]
    exact .dict (List.forall_mem_map.mpr fun entry _ => .str entry.1) (List.forall_mem_map.mpr ih)

section Evaluation

theorem evalAll_display {items : List Value} {scope : Scope}
    (each : ∀ item ∈ items, item.display.eval scope = .ok item) :
    evalAll scope (items.map Value.display) = .ok items := by
  induction items with
  | nil => rw [List.map_nil, evalAll]
  | cons item rest ih =>
    have first := each item List.mem_cons_self
    have later := ih fun other member => each other (List.mem_cons_of_mem _ member)
    rw [List.map_cons, evalAll, first, ok_bind, later]
    rfl

theorem put_of_notMem {key : String} {value : Value} {entries : Entries}
    (new : key ∉ entries.map Prod.fst) : put key value entries = entries ++ [(key, value)] := by
  induction entries with
  | nil => rfl
  | cons entry rest ih =>
    obtain ⟨k, v⟩ := entry
    simp only [List.map_cons, List.mem_cons, not_or] at new
    rw [put, if_neg (Ne.symm new.1), ih new.2, List.cons_append]

theorem evalEntries_display (done : Entries) {entries : Entries} {scope : Scope}
    (each : ∀ entry ∈ entries, entry.2.display.eval scope = .ok entry.2)
    (distinct : ((done ++ entries).map Prod.fst).Nodup) :
    evalEntries scope done (entries.map fun entry => (.literal (.str entry.1), entry.2.display)) =
      .ok (done ++ entries) := by
  induction entries generalizing done with
  | nil => rw [List.map_nil, evalEntries, List.append_nil]
  | cons entry rest ih =>
    obtain ⟨key, value⟩ := entry
    have first : value.display.eval scope = .ok value := each (key, value) List.mem_cons_self
    have new : key ∉ done.map Prod.fst := by
      rw [List.map_append, List.map_cons] at distinct
      exact fun member => (List.nodup_append.mp distinct).2.2 key member key List.mem_cons_self rfl
    rw [List.map_cons, evalEntries, Expr.eval, ok_bind]
    dsimp only
    rw [first, ok_bind, put_of_notMem new]
    have distinct' : ((done ++ [(key, value)] ++ rest).map Prod.fst).Nodup := by simpa using distinct
    rw [ih _ (fun other member => each other (List.mem_cons_of_mem _ member)) distinct']
    simp

theorem Value.Spellable.eval_display {v : Value} (spellable : v.Spellable) (scope : Scope) :
    v.display.eval scope = .ok v := by
  induction spellable with
  | null => rw [Value.display, Expr.eval]
  | bool b => rw [Value.display, Expr.eval]
  | str text => rw [Value.display, Expr.eval]
  | @int n above =>
    rw [Value.display]
    split
    next =>
      rw [Expr.eval, Expr.eval, ok_bind]
      show exactly (-(-n).toInt) = .ok (.int n)
      rw [toInt_neg_of_gt above, Int.neg_neg, exactly_toInt]
    next => rw [Expr.eval]
  | list _ ih =>
    rw [Value.display, Value.displayAll_eq_map, Expr.eval, evalAll_display ih]
    rfl
  | tuple _ ih =>
    rw [Value.display, Value.displayAll_eq_map, Expr.eval, evalAll_display ih]
    rfl
  | map distinct _ ih =>
    rw [Value.display, Value.displayEntries_eq_map, Expr.eval, evalEntries_display [] ih distinct]
    rfl

end Evaluation

section Lexing

/-- A text in front of another is read as these tokens. -/
def Lexes (front : List Char) (spelled : List Token) (back : List Char) : Prop :=
  ∀ depth position, ∃ inside next pre, Spells pre spelled ∧ ∀ others,
    tokensFrom false inside next 0 back = .ok others →
      tokensFrom false depth position 0 (front ++ back) = .ok (pre ++ others)

theorem Lexes.append {front between back : List Char} {first second : List Token}
    (left : Lexes front first (between ++ back)) (right : Lexes between second back) :
    Lexes (front ++ between) (first ++ second) back := by
  intro depth position
  obtain ⟨inside, next, pre, spells, read⟩ := left depth position
  obtain ⟨inside', next', pre', spells', read'⟩ := right inside next
  refine ⟨inside', next', pre ++ pre', ?_, fun others behind => ?_⟩
  · rw [Spells, List.map_append, spells, spells']
  · rw [List.append_assoc, read _ (read' others behind), List.append_assoc]

theorem lexes_nil (back : List Char) : Lexes [] [] back :=
  fun depth position => ⟨depth, position, [], rfl, fun _ read => read⟩

theorem lexes_token {token : Token} (kept : token ≠ .newline) {c : Char} {rest back : List Char}
    (lexed : lexeme c (rest ++ back) = .ok ⟨some token, rest.length⟩) : Lexes (c :: rest) [token] back := by
  intro depth position
  refine ⟨depthBehind depth token, position + Text.byteLength (c :: (rest ++ back).take rest.length),
    [⟨token, position⟩], rfl, fun others read => ?_⟩
  have counts : isKept false depth token = true := by
    cases token with
    | newline => exact absurd rfl kept
    | _ => rfl
  rw [List.cons_append, tokensFrom]
  simp only [lexed, tokensFrom_append_length, counts, if_true, read]
  rfl

theorem lexes_space (back : List Char) : Lexes [' '] [] back :=
  fun depth position => ⟨depth, position + 1, [], rfl, fun _ read => read⟩

/-- Marks that no longer mark starts with. -/
def Mark.Alone (mark : Mark) : Prop :=
  mark ∈ [Mark.leftParen, .rightParen, .leftBracket, .rightBracket, .leftBrace, .rightBrace, .comma, .colon]

instance (mark : Mark) : Decidable mark.Alone := inferInstanceAs (Decidable (mark ∈ _))

theorem lexes_mark {mark : Mark} (alone : mark.Alone) (back : List Char) :
    Lexes mark.symbol [.mark mark] back := by
  simp only [Mark.Alone, List.mem_cons, List.not_mem_nil, or_false] at alone
  rcases alone with rfl | rfl | rfl | rfl | rfl | rfl | rfl | rfl <;>
    exact lexes_token (by nofun) (by cases back <;> rfl)

theorem lexes_word {word : String} (ascii : isAsciiWord word = true) {back : List Char} (detached : Detached back) :
    Lexes word.toList [.name word] back := by
  obtain ⟨letters, rfl⟩ : ∃ letters, word = String.ofList letters := ⟨word.toList, by simp⟩
  cases letters with
  | nil => cases ascii
  | cons c rest =>
    obtain ⟨start, others⟩ := isAsciiWord_ofList.mp ascii
    rw [String.toList_ofList]
    exact lexes_token (by nofun) (lexeme_word start others detached)

theorem lexes_natural {n : Int64} (natural : 0 ≤ n.toInt) {back : List Char} (detached : Detached back) :
    Lexes (Nat.toDigits 10 n.toInt.natAbs) [.int n] back := by
  obtain ⟨c, rest, digits⟩ : ∃ c rest, Nat.toDigits 10 n.toInt.natAbs = c :: rest :=
    List.exists_cons_of_ne_nil Nat.toDigits_ne_nil
  rw [digits]
  exact lexes_token (by nofun) (lexeme_int natural digits detached)

theorem lexes_literal (text : String) (back : List Char) : Lexes (literal text.toList) [.str text] back := by
  have lexed := lexeme_string text.toList back
  rw [String.ofList_toList] at lexed
  exact lexes_token (by nofun) lexed

/-- A sign before a digit is not part of a longer mark. -/
theorem lexes_minus {c : Char} (digit : c.isDigit = true) (rest : List Char) :
    Lexes ['-'] [.mark .minus] (c :: rest) := by
  have single : doubleMark? '-' c = none := by
    have other : c ≠ '=' := by
      rintro rfl
      cases digit
    simp [doubleMark?, List.lookup_eq_none_iff, other]
  apply lexes_token (by nofun)
  show lexMark '-' (c :: rest) = .ok ⟨some (.mark .minus), 0⟩
  rw [lexMark, List.head?_cons, Option.bind_some, single]
  rfl

theorem lexes_int {n : Int64} (above : Int64.minValue < n) {back : List Char} (detached : Detached back) :
    Lexes (intText n.toInt) (Value.int n).display.bare back := by
  rw [Value.display]
  split
  next negative =>
    have opposite := toInt_neg_of_gt above
    have natural : 0 ≤ (-n).toInt := by omega
    have digits : Nat.toDigits 10 n.toInt.natAbs = Nat.toDigits 10 (-n).toInt.natAbs := by
      rw [opposite, Int.natAbs_neg]
    obtain ⟨c, rest, spelled⟩ : ∃ c rest, Nat.toDigits 10 (-n).toInt.natAbs = c :: rest :=
      List.exists_cons_of_ne_nil Nat.toDigits_ne_nil
    have digit : c.isDigit = true :=
      Nat.isDigit_of_mem_toDigits (by decide) (by decide) (spelled ▸ List.mem_cons_self)
    rw [intText, if_pos negative, digits, Expr.bare, Expr.bare]
    have sign : Lexes ['-'] [.mark .minus] (Nat.toDigits 10 (-n).toInt.natAbs ++ back) := by
      rw [spelled]
      exact lexes_minus digit _
    exact sign.append (lexes_natural natural detached)
  next natural =>
    rw [intText, if_neg natural, Expr.bare]
    exact lexes_natural (Int.not_lt.mp natural) detached

theorem detached_cons {c : Char} (member : c ∈ separators) (rest : List Char) : Detached (c :: rest) := by
  rintro _ ⟨⟩
  exact member

theorem lexes_bracketed {opening closing : Mark} (opens : opening.Alone) (closes : closing.Alone)
    {text : List Char} {inner : List Token} {back : List Char}
    (inside : Lexes text inner (closing.symbol ++ back)) :
    Lexes (opening.symbol ++ text ++ closing.symbol) (bracketed opening closing inner) back :=
  ((lexes_mark opens _).append inside).append (lexes_mark closes back)

theorem lexes_around {mark : Mark} (alone : mark.Alone) {first second : List Token} {front between back : List Char}
    (left : Lexes front first (mark.symbol ++ ' ' :: (between ++ back))) (right : Lexes between second back) :
    Lexes (front ++ (mark.symbol ++ ' ' :: between)) (first ++ .mark mark :: second) back := by
  have behind : Lexes (' ' :: between) second back := (lexes_space _).append right
  have marked := (lexes_mark alone (' ' :: between ++ back)).append behind
  refine Lexes.append ?_ marked
  rwa [List.append_assoc]

theorem lexes_separated {α : Type} {text : α → List Char} {spelled : α → List Token} {items : List α}
    (each : ∀ item ∈ items, ∀ back, Detached back → Lexes (text item) (spelled item) back) {back : List Char}
    (detached : Detached back) : Lexes (separated (items.map text)) (commaSeparated (items.map spelled)) back := by
  induction items with
  | nil => exact lexes_nil back
  | cons item rest ih =>
    have first := each item List.mem_cons_self
    have later := ih fun other member => each other (List.mem_cons_of_mem _ member)
    cases rest with
    | nil =>
      rw [List.map_singleton, List.map_singleton, commaSeparated_singleton]
      exact first back detached
    | cons second rest =>
      have separate : separated ((item :: second :: rest).map text) =
          text item ++ ',' :: ' ' :: separated ((second :: rest).map text) := by simp [separated]
      have parts : commaSeparated ((item :: second :: rest).map spelled) =
          spelled item ++ .mark .comma :: commaSeparated ((second :: rest).map spelled) :=
        commaSeparated_cons_cons _ _ _
      rw [separate, parts]
      exact lexes_around (by decide : Mark.comma.Alone) (first _ (detached_cons (by decide) _)) later

theorem Value.Spellable.lexes {v : Value} (spellable : v.Spellable) :
    ∀ back, Detached back → Lexes v.quoted v.display.bare back := by
  induction spellable with
  | null =>
    intro back detached
    rw [Value.quoted, Value.display, Expr.bare]
    exact lexes_word (by decide : isAsciiWord "None" = true) detached
  | bool b =>
    intro back detached
    cases b with
    | true =>
      rw [Value.quoted, Value.display, Expr.bare]
      exact lexes_word (by decide : isAsciiWord "True" = true) detached
    | false =>
      rw [Value.quoted, Value.display, Expr.bare]
      exact lexes_word (by decide : isAsciiWord "False" = true) detached
  | str text =>
    intro back _
    rw [Value.quoted, Value.display, Expr.bare]
    exact lexes_literal text back
  | int above =>
    intro back detached
    rw [Value.quoted]
    exact lexes_int above detached
  | list _ ih =>
    intro back _
    rw [Value.quoted, Value.quotedItems_eq_map, Value.display, Value.displayAll_eq_map, Expr.bare,
      Expr.bareItems_eq_map, List.map_map]
    have closing : Detached (Mark.rightBracket.symbol ++ back) := detached_cons (by decide) _
    exact lexes_bracketed (by decide) (by decide) (lexes_separated ih closing)
  | @tuple items _ ih =>
    intro back _
    rw [Value.display, Value.displayAll_eq_map, Expr.bare, Expr.bareItems_eq_map, List.map_map]
    have closing : Detached (Mark.rightParen.symbol ++ back) := detached_cons (by decide) _
    by_cases single : ∃ item, items = [item]
    · obtain ⟨item, rfl⟩ := single
      have first := ih item List.mem_cons_self
      have comma : Lexes [','] [.mark .comma] (Mark.rightParen.symbol ++ back) :=
        lexes_mark (by decide : Mark.comma.Alone) _
      have inside := (first _ (detached_cons (by decide) _)).append comma
      have whole := lexes_bracketed (by decide : Mark.leftParen.Alone) (by decide : Mark.rightParen.Alone) inside
      simpa [Value.quoted, tupleTokens, Mark.symbol] using whole
    · have several (item : Value) : items ≠ [item] := fun same => single ⟨item, same⟩
      have bare : tupleTokens (items.map (Expr.bare ∘ Value.display)) =
          commaSeparated (items.map (Expr.bare ∘ Value.display)) := by
        rw [tupleTokens]
        intro token same
        obtain ⟨item, alone, _⟩ := List.map_eq_singleton_iff.mp same
        exact several item alone
      rw [Value.quoted, Value.quotedItems_eq_map, bare]
      · exact lexes_bracketed (by decide) (by decide) (lexes_separated ih closing)
      · exact several
  | map _ _ ih =>
    intro back _
    rw [Value.quoted, Value.quotedEntries_eq_map, Value.display, Value.displayEntries_eq_map, Expr.bare,
      Expr.bareEntries_eq_map, List.map_map]
    have closing : Detached (Mark.rightBrace.symbol ++ back) := detached_cons (by decide) _
    refine lexes_bracketed (by decide) (by decide) (lexes_separated (fun entry member behind detached => ?_) closing)
    exact lexes_around (by decide : Mark.colon.Alone) (lexes_literal entry.1 _) (ih entry member behind detached)

end Lexing

/-- A quoted value is the text of an expression, and the value is what it evaluates to in every scope. -/
theorem parseExpression_quoted (v : Value) (spellable : v.Spellable) :
    ∃ e, parseExpression v.quoted = .ok e ∧ ∀ scope, e.eval scope = .ok v := by
  have nothing : Detached [] := by simp [Detached]
  obtain ⟨inside, next, read, spells, lexed⟩ := spellable.lexes [] nothing 0 0
  have scanned : tokens false v.quoted = .ok read := by simpa [tokens] using lexed [] rfl
  exact ⟨v.display, parseExpression_of_spells spellable.printable scanned spells, spellable.eval_display⟩

theorem parseExpression_quoted_of_map : ∃ e,
    parseExpression (Value.map [("it's \"so\"", .tuple [.int (-3)]), ("\n", .list [.str "\t'", .map []])]).quoted =
        .ok e ∧
      ∀ scope, e.eval scope =
        .ok (.map [("it's \"so\"", .tuple [.int (-3)]), ("\n", .list [.str "\t'", .map []])]) := by
  apply parseExpression_quoted
  have number : Value.Spellable (.tuple [.int (-3)]) :=
    .tuple (List.forall_mem_singleton.mpr (.int (by decide)))
  have empty : Value.Spellable (.map []) := .map List.nodup_nil (List.forall_mem_nil _)
  have items : Value.Spellable (.list [.str "\t'", .map []]) :=
    .list (List.forall_mem_cons.mpr ⟨.str _, List.forall_mem_singleton.mpr empty⟩)
  exact .map (by decide) (List.forall_mem_cons.mpr ⟨number, List.forall_mem_singleton.mpr items⟩)

end Stencil
