import Stencil.Proofs.Text.Escape
import Stencil.Template.Event

/-! Texts behind a line feed. Main statements: what is found in a text is found there whatever follows it, and
no pattern, escape or run of literal text goes over the end of a line other than by going on behind it. -/
namespace Stencil

namespace Text

theorem isPrefixOf_append_line {pattern text : List Char} (plain : '\n' ∉ pattern)
    (line : text.getLast? = some '\n') (back : List Char) :
    pattern.isPrefixOf (text ++ back) = pattern.isPrefixOf text := by
  obtain ⟨before, rfl⟩ := List.getLast?_eq_some_iff.mp line
  have longer := prefix_append_cons plain before back
  have alone := prefix_append_cons plain before []
  rw [Bool.eq_iff_iff, List.isPrefixOf_iff_prefix, List.isPrefixOf_iff_prefix, alone, List.append_assoc]
  exact longer

theorem cut?_append_right {pattern text before after : List Char}
    (found : cut? pattern text = some (before, after)) (back : List Char) :
    cut? pattern (text ++ back) = some (before, after ++ back) := by
  induction text generalizing before with
  | nil =>
    cases pattern with
    | nil =>
      cases found
      cases back <;> rfl
    | cons c pattern => cases found
  | cons c rest ih =>
    rw [cut?] at found
    rw [List.cons_append, cut?]
    split at found
    next here =>
      cases found
      obtain ⟨tail, whole⟩ := List.isPrefixOf_iff_prefix.mp here
      have longer : pattern.isPrefixOf (c :: (rest ++ back)) = true :=
        List.isPrefixOf_iff_prefix.mpr ⟨tail ++ back, by rw [← List.append_assoc, whole, List.cons_append]⟩
      have fits : pattern.length ≤ (c :: rest).length := by simp [← whole]
      rw [if_pos longer, ← List.cons_append, List.drop_append_of_le_length fits]
    next there =>
      -- The pattern fits into the text, so that what follows can not make it start earlier.
      obtain ⟨⟨first, last⟩, later, same⟩ := Option.map_eq_some_iff.mp found
      cases same
      have fits : pattern.length ≤ (c :: rest).length := by
        rw [← cut?_append later]
        simp
        omega
      have still : ¬ pattern.isPrefixOf (c :: (rest ++ back)) = true := fun starts =>
        there (List.isPrefixOf_iff_prefix.mpr
          (List.prefix_of_prefix_length_le (List.isPrefixOf_iff_prefix.mp starts)
            (List.prefix_append (c :: rest) back) fits))
      rw [if_neg still, ih later]
      rfl

theorem unescape_append {front : List Char} (line : front.getLast? = some '\n') (back : List Char) :
    unescape (front ++ back) = unescape front ++ unescape back := by
  obtain ⟨before, rfl⟩ := List.getLast?_eq_some_iff.mp line
  have feed : '\n' ∉ ['{', '}', dollar] := by decide
  rw [List.append_assoc, List.singleton_append, unescape_append_cons feed, unescape_append_cons feed,
    List.append_assoc]
  rfl

end Text

theorem opens_append_line {c : Char} {rest : List Char} (line : (c :: rest).getLast? = some '\n')
    (back : List Char) : Text.opening.isPrefixOf (c :: (rest ++ back)) = Text.opening.isPrefixOf (c :: rest) :=
  Text.isPrefixOf_append_line (by decide) line back

theorem ends_line_of_cons {c : Char} {rest : List Char} (line : (c :: rest).getLast? = some '\n') :
    rest = [] ∨ rest.getLast? = some '\n' := by
  by_cases last : rest = []
  · exact .inl last
  · exact .inr (by rwa [List.getLast?_cons_of_ne_nil last] at line)

/-- Behind a text that ends a line, literal text goes on where it has not stopped before. -/
theorem literalRun_append_line {text : List Char} (line : text = [] ∨ text.getLast? = some '\n')
    (back : List Char) : literalRun (text ++ back) =
      if (literalRun text).2 = [] then (text ++ (literalRun back).1, (literalRun back).2)
      else ((literalRun text).1, (literalRun text).2 ++ back) := by
  induction text with
  | nil => rfl
  | cons c rest ih =>
    have ends := line.resolve_left (List.cons_ne_nil c rest)
    rw [List.cons_append, literalRun, literalRun, opens_append_line ends]
    split
    next => simp
    next =>
      rw [ih (ends_line_of_cons ends)]
      by_cases whole : (literalRun rest).2 = [] <;> simp [whole]

end Stencil
