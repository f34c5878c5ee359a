import Stencil.Proofs.Expr.Assignable
import Stencil.Proofs.Expr.Grammar
import Stencil.Proofs.Template.Alike

/-! Keys of values that a run binds. Main statement: they are the names that are read by writing the key as an
expression, and no other key is parsed as itself. -/
namespace Stencil

section Names

theorem mem_bracketed {token : Token} {opens closes : Mark} {inner : List Token}
    (member : token ∈ bracketed opens closes inner) : token.isFloat = false ∨ token ∈ inner := by
  rcases List.mem_cons.mp member with rfl | member
  · exact .inl rfl
  · rcases List.mem_append.mp member with inside | last
    · exact .inr inside
    · cases List.mem_singleton.mp last
      exact .inl rfl

mutual
theorem Pattern.isFloat_of_mem (pattern : Pattern) {token : Token} (member : token ∈ pattern.tokens) :
    token.isFloat = false := by
  match pattern with
  | .name name free =>
    cases List.mem_singleton.mp member
    rfl
  | .round items => exact (mem_bracketed member).elim id items.isFloat_of_mem
  | .square items => exact (mem_bracketed member).elim id items.isFloat_of_mem

theorem Patterns.isFloat_of_mem (patterns : Patterns) {token : Token} (member : token ∈ patterns.tokens) :
    token.isFloat = false := by
  match patterns with
  | .none => cases member
  | .last pattern => exact pattern.isFloat_of_mem member
  | .comma pattern rest =>
    rcases List.mem_append.mp member with first | later
    · exact pattern.isFloat_of_mem first
    · rcases List.mem_cons.mp later with rfl | later
      · rfl
      · exact rest.isFloat_of_mem later
end

end Names

end Stencil
