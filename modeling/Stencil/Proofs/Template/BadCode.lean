import Stencil.Proofs.Expr.Positions
import Stencil.Proofs.Template.Places

/-! Code of templates that cannot be parsed. Main statement: its error carries the code, the message of the parser that
rejects it, and with the message an offset where a character of the code starts, or its end. -/
namespace Stencil

/-- The parser for code in a context fails with the error. -/
def CodeContext.Rejects (context : CodeContext) (code : List Char) (e : SyntaxError) : Prop :=
  match context with
  | .substitution | .condition | .eval => parseExpression code = .error e
  | .loop => parseForHeader code = .error e
  | .script => parseStatements code = .error e

/-- An error of bad code carries the code and the message of the parser that rejects it. -/
def ParseError.Explained (e : ParseError) : Prop :=
  ∀ length context code detail, e.fault = .badCode length context code detail →
    ∃ cause, context.Rejects code.toList cause ∧ detail = cause.message

theorem CodeContext.Rejects.boundary {context : CodeContext} {code : List Char} {e : SyntaxError}
    (rejects : context.Rejects code e) : Text.Boundary code e.position := by
  cases context with
  | loop => exact boundary_of_parseForHeader rejects
  | script => exact boundary_of_parseStatements rejects
  | _ => exact boundary_of_parseExpression rejects

section Directives
variable (directive : Directive)

theorem Directive.badCode_explained {context : CodeContext} {code : List Char} {cause : SyntaxError}
    (rejects : context.Rejects code cause) : (directive.badCode context code cause).Explained := by
  rintro _ _ _ _ ⟨⟩
  refine ⟨cause, ?_, rfl⟩
  rwa [String.toList_ofList]

/-- What is given is good, and code is called bad only where a parser rejects it. -/
abbrev Explains {α : Type} (good : α → Prop) : Except ParseError α → Prop := Upholds good ParseError.Explained

def Event.Explained : Event → Prop
  | .invalid e => e.Explained
  | _ => True

theorem Directive.codeOf_explains {α : Type} {context : CodeContext} {parser : List Char → Except SyntaxError α}
    (rejects : ∀ code e, parser code = .error e → context.Rejects code e) (text : List Char) :
    Explains (fun _ => True) (directive.codeOf context parser text) := by
  rw [Directive.codeOf]
  split
  next => exact .ok trivial
  next e failed => exact .error (directive.badCode_explained (rejects text e failed))

theorem Directive.condition_explains : Explains (fun _ => True) directive.condition :=
  directive.codeOf_explains (fun _ _ => id) _

theorem Directive.expectBare_explains : Explains (fun _ => True) directive.expectBare := by
  rw [Directive.expectBare]
  split
  next => exact .ok trivial
  next =>
    apply Upholds.error
    rintro _ _ _ _ ⟨⟩

theorem Directive.opens_explains (construct : Construct) : Explains Event.Explained (directive.opens construct) := by
  cases construct with
  | conditional =>
    rw [Directive.opens]
    exact directive.condition_explains.map fun _ _ => trivial
  | whileLoop =>
    rw [Directive.opens]
    exact directive.condition_explains.map fun _ _ => trivial
  | forLoop =>
    rw [Directive.opens, Directive.header]
    exact (directive.codeOf_explains (fun _ _ => id) _).map fun _ _ => trivial

theorem dedent_explains (origin : Text.Place) (text : List Char) : Explains (fun _ => True) (dedent origin text) := by
  cases dedented : dedent origin text with
  | ok plain => exact .ok trivial
  | error e =>
    obtain ⟨line, indent, _, _, rfl⟩ := dedent_eq_error dedented
    apply Upholds.error
    rintro _ _ _ _ ⟨⟩

theorem CodeBlock.event_explains (block : CodeBlock) (body : List Char) :
    Explains Event.Explained (block.event directive body) := by
  refine (dedent_explains directive.next body).bind fun plain _ => ?_
  cases block with
  | script => exact (directive.codeOf_explains (fun _ _ => id) _).bind fun _ _ => .ok trivial
  | eval => exact (directive.codeOf_explains (fun _ _ => id) _).bind fun _ _ => .ok trivial

theorem CodeBlock.read_explains (block : CodeBlock) (after : List Char) :
    Explains (fun read => read.1.Explained) (block.read directive after) := by
  refine directive.expectBare_explains.bind fun _ _ => ?_
  split
  next =>
    apply Upholds.error
    rintro _ _ _ _ ⟨⟩
  next body rest _ => exact (block.event_explains directive body).bind fun _ known => .ok known

theorem Directive.event_explains (after : List Char) :
    Explains (fun read => read.1.Explained) (directive.event after) := by
  unfold Directive.event
  split
  next =>
    rw [Directive.substitution]
    exact (directive.codeOf_explains (fun _ _ => id) _).bind fun _ _ => .ok trivial
  next construct _ => exact (directive.opens_explains construct).bind fun _ known => .ok known
  next block _ => exact (block.read_explains directive after).bind fun _ known => .ok known
  next => exact .ok trivial

end Directives

theorem firstEvent_explains (place : Text.Place) (c : Char) (rest : List Char) :
    Explains (fun read => read.1.Explained) (firstEvent place c rest) := by
  unfold firstEvent
  split
  next => exact .ok trivial
  split
  next =>
    split
    next =>
      apply Upholds.error
      rintro _ _ _ _ ⟨⟩
    next directive after _ => exact directive.event_explains after
  next => exact .ok trivial

theorem explained_events (source : List Char) : ∀ event ∈ events source, event.Explained := by
  apply forall_mem_events
  · intro parts others _ _
    trivial
  · intro before c rest e _ failed
    have explains := firstEvent_explains (Text.Place.start.advance before) c rest
    rw [failed] at explains
    exact explains.of_error
  · intro before c rest event own after _ made
    have explains := firstEvent_explains (Text.Place.start.advance before) c rest
    rw [made] at explains
    exact explains.of_ok

namespace Machine

theorem Offends.explained {blocks : List OpenBlock} {event : Event} {e : ParseError} (offends : Offends blocks event e)
    (known : event.Explained) : e.Explained := by
  cases offends with
  | invalid => exact known
  | unknown divider => rintro _ _ _ _ ⟨⟩
  | mismatched outer foreign => rintro _ _ _ _ ⟨⟩
  | @condition block outer divider e taken isElif bad =>
    have explains := divider.condition_explains
    rw [bad] at explains
    exact explains.of_error
  | @argument block outer divider e taken notElif bad =>
    have explains := divider.expectBare_explains
    rw [bad] at explains
    exact explains.of_error

theorem FirstFault.explained {events : List Event} {e : ParseError} (fault : FirstFault events e)
    (known : ∀ event ∈ events, event.Explained) : e.Explained := by
  obtain ⟨before, blocks, _, ⟨event, after, rfl, offends⟩ | ⟨rfl, block, outer, rfl, rfl⟩⟩ := fault
  · exact offends.explained (known event (by simp))
  · rintro _ _ _ _ ⟨⟩

end Machine

theorem explained_of_parse {source : List Char} {e : ParseError} (failed : Template.parse source = .error e) :
    e.Explained :=
  (firstFault_of_parse failed).explained (explained_events source)

/-- Every text is scanned without a cut inside a character, into tokens that stand one behind the other where
characters start, with the end of the input behind them. Where it cannot be parsed, the error has the offset of such a
place, and the error of bad code in a template has the offset of such a place in that code. -/
theorem syntax_offsets_in_text (text : List Char) :
    (∀ newlines, scan newlines text = some ((tokens newlines text).map (withEnd text)) ∧
      ∀ read, tokens newlines text = .ok read → WellPlaced text (withEnd text read)) ∧
    (∀ e, parseExpression text = .error e ∨ parseStatements text = .error e ∨ parseForHeader text = .error e →
      Text.Boundary text e.position ∧ e.position ≤ Text.byteLength text) ∧
    ∀ place length context code detail,
      Template.parse text = .error ⟨place, .badCode length context code detail⟩ →
      ∃ e, context.Rejects code.toList e ∧ detail = e.message ∧
        Text.Boundary code.toList e.position ∧ e.position ≤ Text.byteLength code.toList := by
  refine ⟨fun newlines => ⟨scan_eq newlines text, fun read lexed => ?_⟩, fun e failed => ?_, ?_⟩
  · have placed := tokens_upholds newlines text
    rw [lexed] at placed
    exact placed.of_ok.wellPlaced
  · have boundary : Text.Boundary text e.position := by
      rcases failed with expression | statements | header
      · exact boundary_of_parseExpression expression
      · exact boundary_of_parseStatements statements
      · exact boundary_of_parseForHeader header
    exact ⟨boundary, boundary.le⟩
  · intro place length context code detail failed
    obtain ⟨e, rejects, said⟩ := explained_of_parse failed length context code detail rfl
    exact ⟨e, rejects, said, rejects.boundary, rejects.boundary.le⟩

theorem syntax_offsets_in_text_of_two_literals :
    (∃ read, tokens false "'é' 1".toList = .ok read ∧
      scan false "'é' 1".toList = some (.ok (withEnd "'é' 1".toList read)) ∧
      WellPlaced "'é' 1".toList (withEnd "'é' 1".toList read)) ∧
    (∃ e, parseExpression "'é' 1".toList = .error e ∧
      Text.Boundary "'é' 1".toList e.position ∧ e.position ≤ Text.byteLength "'é' 1".toList) ∧
    ∃ place length context code detail,
      Template.parse "\x7b\x7b'é' 1\x7d\x7d".toList = .error ⟨place, .badCode length context code detail⟩ ∧
      ∃ e, context.Rejects code.toList e ∧ detail = e.message ∧
        Text.Boundary code.toList e.position ∧ e.position ≤ Text.byteLength code.toList := by
  obtain ⟨scanned, located, _⟩ := syntax_offsets_in_text "'é' 1".toList
  refine ⟨?_, ?_, ?_⟩
  · have lexes : (tokens false "'é' 1".toList).isOk = true := by decide +kernel
    cases lexed : tokens false "'é' 1".toList with
    | error e =>
      rw [lexed] at lexes
      cases lexes
    | ok read =>
      obtain ⟨whole, placed⟩ := scanned false
      rw [lexed] at whole
      exact ⟨read, rfl, whole, placed read lexed⟩
  · have fails : (parseExpression "'é' 1".toList).isOk = false := by decide +kernel
    cases parsed : parseExpression "'é' 1".toList with
    | error e => exact ⟨e, rfl, located e (.inl parsed)⟩
    | ok value =>
      rw [parsed] at fails
      cases fails
  · have failed : Template.parse "\x7b\x7b'é' 1\x7d\x7d".toList = .error ⟨⟨0, 1⟩,
        .badCode 10 .substitution "'é' 1" "expected end of expression, found 1 (at offset 5)"⟩ := by
      apply fault?_eq_some.mp
      decide +kernel
    exact ⟨_, _, _, _, _, failed, (syntax_offsets_in_text _).2.2 _ _ _ _ _ failed⟩

end Stencil
