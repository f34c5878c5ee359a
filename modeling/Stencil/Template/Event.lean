import Stencil.Template.Dedent
import Stencil.Template.Directive
import Stencil.Template.Segment

/-! Events: what a template source holds, from left to right, before it is known how blocks nest.
A source that can not be read on ends with an invalid event. -/
namespace Stencil

inductive Event where
  | segment (parts : List Part)
  | conditional (opening : Directive) (condition : Code Expr)
  | whileLoop (opening : Directive) (condition : Code Expr)
  | forLoop (opening : Directive) (header : Code ForHeader)
  | script (code : Code (List Stmt))
  | eval (code : Code Expr)
  | divider (directive : Directive)
  | invalid (e : ParseError)

namespace Event

/-- Puts an event before others. Segments with no block between them are one. -/
def cons : Event → List Event → List Event
  | .segment parts, .segment others :: rest => .segment (parts ++ others) :: rest
  | event, events => event :: events

end Event

namespace Directive

def codeOf {α : Type} (directive : Directive) (context : CodeContext)
    (parser : List Char → Except SyntaxError α) (text : List Char) : Except ParseError (Code α) :=
  match parser text with
  | .ok parsed => .ok ⟨text, parsed, directive.start⟩
  | .error e => .error (directive.badCode context text e)

def substitution (directive : Directive) : Except ParseError (Code Expr) :=
  directive.codeOf .substitution parseExpression directive.text

def condition (directive : Directive) : Except ParseError (Code Expr) :=
  directive.codeOf .condition parseExpression directive.argument

def header (directive : Directive) : Except ParseError (Code ForHeader) :=
  directive.codeOf .loop parseForHeader directive.argument

def opens (directive : Directive) : Construct → Except ParseError Event
  | .conditional => directive.condition.map (.conditional directive)
  | .whileLoop => directive.condition.map (.whileLoop directive)
  | .forLoop => directive.header.map (.forLoop directive)

end Directive

namespace CodeBlock

/-- The tag that ends a block of code, which has to be written exactly so. -/
def endTag (block : CodeBlock) : List Char :=
  Text.opening ++ block.closeWord.toList ++ Text.closing

def event (block : CodeBlock) (opening : Directive) (body : List Char) : Except ParseError Event := do
  let text := Text.unescape (← dedent opening.next body)
  match block with
  | .script => return .script (← opening.codeOf .script parseStatements text)
  | .eval => return .eval (← opening.codeOf .eval parseExpression text)

/-- The event of a block of code, the source behind its opening directive, and what follows it. The
body is not searched for directives: it ends at the first end tag. -/
def read (block : CodeBlock) (opening : Directive) (after : List Char) :
    Except ParseError (Event × List Char × List Char) := do
  opening.expectBare
  match Text.cut? block.endTag after with
  | none => .error opening.unterminated
  | some (body, rest) => return (← block.event opening body, body ++ block.endTag, rest)

end CodeBlock

/-- The literal text up to the next percent sign or opening delimiter, and what follows. -/
def literalRun : List Char → List Char × List Char
  | [] => ([], [])
  | c :: rest =>
    if c = '%' || Text.opening.isPrefixOf (c :: rest) then ([], c :: rest)
    else
      let (run, after) := literalRun rest
      (c :: run, after)

/-- The event that a directive starts, its source, and what follows it. -/
def Directive.event (directive : Directive) (after : List Char) :
    Except ParseError (Event × List Char × List Char) :=
  match directive.keyword? with
  | none => do return (.segment [.code (← directive.substitution)], directive.source, after)
  | some (.opens construct) => do return (← directive.opens construct, directive.source, after)
  | some (.opensCode block) => do
    let (event, source, rest) ← block.read directive after
    return (event, directive.source ++ source, rest)
  | some _ => .ok (.divider directive, directive.source, after)

/-- The first event of a source that is not empty, with its own source and what follows it. -/
def firstEvent (place : Text.Place) (c : Char) (rest : List Char) :
    Except ParseError (Event × List Char × List Char) :=
  if c = '%' then .ok (.segment [.percent], [c], rest)
  else if Text.opening.isPrefixOf (c :: rest) then
    match Directive.read? place (rest.drop 1) with
    | none => .error ⟨place, .unterminatedDirective⟩
    | some (directive, after) => directive.event after
  else
    let (run, after) := literalRun rest
    .ok (.segment [.text (Text.unescape (c :: run))], c :: run, after)

theorem literalRun_append (text : List Char) : (literalRun text).1 ++ (literalRun text).2 = text := by
  induction text with
  | nil => rfl
  | cons c rest ih =>
    by_cases stops : (c = '%' || Text.opening.isPrefixOf (c :: rest)) = true
    · simp [literalRun, stops]
    · simp only [literalRun, stops]
      simpa using ih

theorem CodeBlock.read_append {block : CodeBlock} {opening : Directive} {text source after : List Char}
    {event : Event} (found : block.read opening text = .ok (event, source, after)) :
    source ++ after = text := by
  unfold CodeBlock.read at found
  cases bare : opening.expectBare with
  | error e => simp [bare, bind, Except.bind] at found
  | ok _ =>
    cases cut : Text.cut? block.endTag text with
    | none => simp [bare, cut, bind, Except.bind] at found
    | some parts =>
      obtain ⟨body, rest⟩ := parts
      cases made : block.event opening body with
      | error e => simp [bare, cut, made, bind, Except.bind] at found
      | ok _ =>
        simp only [bare, cut, made, bind, Except.bind, pure, Except.pure, Except.ok.injEq,
          Prod.mk.injEq] at found
        obtain ⟨_, rfl, rfl⟩ := found
        simpa using (Text.cut?_append cut)

/-- The source of the event that a directive starts is the directive and what was read behind it. -/
theorem Directive.event_append {directive : Directive} {text source after : List Char} {event : Event}
    (found : directive.event text = .ok (event, source, after)) :
    ∃ body, source = directive.source ++ body ∧ body ++ after = text := by
  unfold Directive.event at found
  split at found
  · cases made : directive.substitution with
    | error e => simp [made, bind, Except.bind] at found
    | ok _ =>
      simp only [made, bind, Except.bind, pure, Except.pure, Except.ok.injEq, Prod.mk.injEq] at found
      obtain ⟨_, rfl, rfl⟩ := found
      exact ⟨[], by simp, rfl⟩
  · next construct _ =>
    cases made : directive.opens construct with
    | error e => simp [made, bind, Except.bind] at found
    | ok _ =>
      simp only [made, bind, Except.bind, pure, Except.pure, Except.ok.injEq, Prod.mk.injEq] at found
      obtain ⟨_, rfl, rfl⟩ := found
      exact ⟨[], by simp, rfl⟩
  · next block _ =>
    cases made : block.read directive text with
    | error e => simp [made, bind, Except.bind] at found
    | ok parts =>
      obtain ⟨inner, body, rest⟩ := parts
      simp only [made, bind, Except.bind, pure, Except.pure, Except.ok.injEq, Prod.mk.injEq] at found
      obtain ⟨_, rfl, rfl⟩ := found
      exact ⟨body, rfl, block.read_append made⟩
  · simp only [Except.ok.injEq, Prod.mk.injEq] at found
    obtain ⟨_, rfl, rfl⟩ := found
    exact ⟨[], by simp, rfl⟩

theorem opening_append {c : Char} {rest : List Char} (opens : Text.opening.isPrefixOf (c :: rest) = true) :
    Text.opening ++ rest.drop 1 = c :: rest := by
  cases rest with
  | nil => simp [Text.opening] at opens
  | cons d rest =>
    obtain ⟨first, second⟩ : '{' = c ∧ '{' = d := by simpa [Text.opening] using opens
    simp [Text.opening, ← first, ← second]

/-- Reading an event takes something from the source and loses nothing of it. -/
theorem firstEvent_append {place : Text.Place} {c : Char} {rest source after : List Char}
    {event : Event} (found : firstEvent place c rest = .ok (event, source, after)) :
    source ≠ [] ∧ source ++ after = c :: rest := by
  unfold firstEvent at found
  split at found
  · simp only [Except.ok.injEq, Prod.mk.injEq] at found
    obtain ⟨_, rfl, rfl⟩ := found
    simp
  · split at found
    · next opens =>
      cases cut : Text.cut? Text.closing (rest.drop 1) with
      | none => simp only [Directive.read?, cut, Option.map_none, reduceCtorEq] at found
      | some parts =>
        obtain ⟨raw, tail⟩ := parts
        simp only [Directive.read?, cut, Option.map_some] at found
        obtain ⟨body, rfl, rfl⟩ := Directive.event_append found
        rw [← opening_append opens, ← Text.cut?_append cut]
        simp [Directive.source, Text.opening]
    · simp only [Except.ok.injEq, Prod.mk.injEq] at found
      obtain ⟨_, rfl, rfl⟩ := found
      simpa using literalRun_append rest

theorem length_of_firstEvent {place : Text.Place} {c : Char} {rest source after : List Char}
    {event : Event} (found : firstEvent place c rest = .ok (event, source, after)) :
    after.length < (c :: rest).length := by
  obtain ⟨some, whole⟩ := firstEvent_append found
  rw [← whole, List.length_append]
  have := List.length_pos_iff.mpr some
  omega

def eventsFrom (place : Text.Place) : List Char → List Event
  | [] => []
  | c :: rest =>
    match found : firstEvent place c rest with
    | .error e => [.invalid e]
    | .ok (event, source, after) =>
      have := length_of_firstEvent found
      event.cons (eventsFrom (place.advance source) after)
termination_by text => text.length
decreasing_by assumption

def events (source : List Char) : List Event := eventsFrom Text.Place.start source

end Stencil
