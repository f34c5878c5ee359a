import Stencil.Proofs.Template.Delivery
import Stencil.Proofs.Template.Occurrences
import Stencil.Proofs.Template.Sound
import Stencil.Proofs.Text.Escape

/-! Templates without directives. Main statement: a source in which no directive opens compiles, and renders for
all values to itself with its escapes replaced, wherever percent signs cut it. -/
namespace Stencil

/-- No escape goes over a percent sign. -/
theorem unescape_append_percent (front back : List Char) :
    Text.unescape (front ++ '%' :: back) = Text.unescape front ++ '%' :: Text.unescape back :=
  Text.unescape_append_cons (by decide) front back

section Laid

variable {place : Text.Place} {source own : List Char} {events : List Event} {parts : List Part}

/-- Literal text has all of the escapes that begin in it. -/
theorem unescape_append_stops {back : List Char} (stops : Stops back) (plain : ¬ Text.opening <+: back)
    (front : List Char) : Text.unescape (front ++ back) = Text.unescape front ++ Text.unescape back := by
  cases back with
  | nil =>
    have nothing : Text.unescape [] = [] := rfl
    rw [nothing, List.append_nil, List.append_nil]
  | cons c rest =>
    rcases stops c rfl with rfl | opens
    · have alone := unescape_append_percent [] rest
      rw [unescape_append_percent, ← List.nil_append ('%' :: rest), alone]
      rfl
    · exact absurd (List.isPrefixOf_iff_prefix.mp opens) plain

theorem fillParts_plain (occurrences : Occurrences [] place own parts) (plain : ¬ Text.opening <:+: own)
    (scope : Scope) : fillParts scope parts = .ok (Text.unescape own) := by
  induction occurrences with
  | nil => rfl
  | @cons place own more part parts first behind ih =>
    have later : ¬ Text.opening <:+: more := fun inside => plain (inside.trans (List.suffix_append own more).isInfix)
    rw [fillParts, ih later]
    rw [List.append_nil] at first
    cases first with
    | text _ _ _ stops =>
      rw [unescape_append_stops stops fun opens => later opens.isInfix]
      rfl
    | percent => exact congrArg Except.ok (unescape_append_percent [] more).symm
    | @code directive =>
      have opens : Text.opening <+: directive.source ++ more := by simp [Directive.source]
      exact absurd opens.isInfix plain

theorem Laid.eq_nil (laid : Laid place source events) (none : source = []) : events = [] := by
  cases laid with
  | nil => rfl
  | stuck opens e =>
    subst none
    cases List.prefix_nil.mp opens
  | segment some _ _ _ => exact absurd (List.append_eq_nil_iff.mp none).1 some
  | directive _ opens _ _ =>
    rw [(List.append_eq_nil_iff.mp none).1] at opens
    cases List.prefix_nil.mp opens

/-- A source in which no directive opens is one segment, if it is not empty. -/
theorem Laid.plain (laid : Laid place source events) (plain : ¬ Text.opening <:+: source) :
    source = [] ∧ events = [] ∨ ∃ parts, events = [.segment parts] ∧ Occurrences [] place source parts := by
  cases laid with
  | nil => exact .inl ⟨rfl, rfl⟩
  | stuck opens e => exact absurd opens.isInfix plain
  | @segment _ own after parts events _ occurs apart behind =>
    rcases behind.starts apart with rfl | opens
    · refine .inr ⟨parts, by rw [behind.eq_nil rfl], ?_⟩
      rwa [List.append_nil]
    · exact absurd (opens.isInfix.trans (List.suffix_append own after).isInfix) plain
  | directive _ opens _ _ => exact absurd (opens.trans (List.prefix_append _ _)).isInfix plain

end Laid

theorem render_of_no_event (rounds : Nat) (values : Entries) :
    Template.render? ⟨[], []⟩ rounds values = some (.ok []) := by
  rw [Template.render?, Template.run?, run?, runNodes]
  rfl

/-- A source without an opening delimiter renders for all values to itself with its escapes replaced, and to itself if
it has no dollar sign. -/
theorem render_of_plain_source {source : List Char} (plain : ¬ Text.opening <:+: source) :
    ∃ template, Template.compile source = .ok template ∧ ∀ rounds values,
      template.render? rounds values = some (.ok (Text.unescape source)) ∧
        (Text.dollar ∉ source → template.render? rounds values = some (.ok source)) := by
  have renders : ∃ template, Template.compile source = .ok template ∧ ∀ rounds values,
      template.render? rounds values = some (.ok (Text.unescape source)) := by
    rcases (laid_eventsFrom Text.Place.start source).plain plain with ⟨rfl, none⟩ | ⟨parts, alone, occurs⟩
    · have parsed : Template.parse [] = .ok ⟨[], []⟩ := by
        rw [Template.parse, Machine.parseNodes_eq_run, events, none]
        rfl
      exact ⟨_, compile_of_parse parsed, render_of_no_event⟩
    · have leaf : Machine.role (.segment parts) = .leaf (.ofParts parts) := rfl
      refine ⟨_, compile_of_parse (Machine.parse_of_single alone leaf), fun rounds values => ?_⟩
      have writes (machine : Machine) := runNode_ofParts rounds occurs.parsed machine
      rw [render?_of_write (fillParts · parts) writes, fillParts_plain occurs plain]
  obtain ⟨template, compiled, renders⟩ := renders
  refine ⟨template, compiled, fun rounds values => ⟨renders rounds values, fun bare => ?_⟩⟩
  rw [renders, Text.unescape_eq_self bare]

/-- Dollar signs around a percent sign are no escape. -/
theorem render_of_percent_source :
    (∃ template, Template.compile "5\x7b %$%$$€\x7d$\x7d\n%".toList = .ok template ∧
      template.render? 0 [] = some (.ok "5\x7b %$%$€\x7d\x7d\n%".toList)) ∧
    ∃ template, Template.compile "5\x7b %% €\x7d\x7d\n%".toList = .ok template ∧
      template.render? 0 [] = some (.ok "5\x7b %% €\x7d\x7d\n%".toList) := by
  have plain : ¬ Text.opening <:+: "5\x7b %$%$$€\x7d$\x7d\n%".toList := by decide +kernel
  have plain' : ¬ Text.opening <:+: "5\x7b %% €\x7d\x7d\n%".toList := by decide +kernel
  obtain ⟨first, compiled, renders⟩ := render_of_plain_source plain
  obtain ⟨second, compiled', renders'⟩ := render_of_plain_source plain'
  have unescaped : Text.unescape "5\x7b %$%$$€\x7d$\x7d\n%".toList = "5\x7b %$%$€\x7d\x7d\n%".toList := by
    decide +kernel
  have bare : Text.dollar ∉ "5\x7b %% €\x7d\x7d\n%".toList := by decide +kernel
  exact ⟨⟨first, compiled, unescaped ▸ (renders 0 []).1⟩, second, compiled', (renders' 0 []).2 bare⟩

end Stencil
