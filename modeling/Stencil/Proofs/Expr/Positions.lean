import Stencil.Proofs.Expr.Failure
import Stencil.Proofs.Expr.Scanner

/-! Offsets in expression source. Main statements: tokens start where characters do, one behind the other and before
the end of the text; where source cannot be read or parsed on, the error has the offset of such a place, or of the
end. -/
namespace Stencil

/-- Tokens from an offset on, each of which starts where a character of the text does, and behind the one before. -/
structure PlacedFrom (text : List Char) (start : Nat) (read : Tokens) : Prop where
  boundary : ∀ t ∈ read, Text.Boundary text t.position
  between : ∀ t ∈ read, start ≤ t.position ∧ t.position < Text.byteLength text
  ascending : (read.map Spanned.position).Pairwise (· < ·)

section Placed
variable {text : List Char} {start next : Nat} {read : Tokens}

theorem PlacedFrom.nil (text : List Char) (start : Nat) : PlacedFrom text start [] where
  boundary := List.forall_mem_nil _
  between := List.forall_mem_nil _
  ascending := List.Pairwise.nil

theorem PlacedFrom.mono (placed : PlacedFrom text next read) (le : start ≤ next) : PlacedFrom text start read where
  boundary := placed.boundary
  between := by
    intro t member
    obtain ⟨behind, inside⟩ := placed.between t member
    exact ⟨Nat.le_trans le behind, inside⟩
  ascending := placed.ascending

theorem PlacedFrom.cons (placed : PlacedFrom text next read) (token : Token) (here : Text.Boundary text start)
    (inside : start < Text.byteLength text) (ahead : start < next) :
    PlacedFrom text start (⟨token, start⟩ :: read) where
  boundary := List.forall_mem_cons.mpr ⟨here, placed.boundary⟩
  between := List.forall_mem_cons.mpr ⟨⟨Nat.le_refl start, inside⟩, (placed.mono (Nat.le_of_lt ahead)).between⟩
  ascending := by
    rw [List.map_cons, List.pairwise_cons]
    refine ⟨?_, placed.ascending⟩
    intro position member
    obtain ⟨t, inRead, rfl⟩ := List.mem_map.mp member
    exact Nat.lt_of_lt_of_le ahead (placed.between t inRead).1

end Placed

section Faults

/-- Whatever is read, a fault is where characters of the text meet. -/
abbrev FaultyIn (text : List Char) {α : Type} : Except (SyntaxFault × Nat) α → Prop :=
  Upholds (fun _ => True) (fun fault => Text.Boundary text fault.2)

theorem boundary_start (text : List Char) : Text.Boundary text 0 := ⟨[], text, rfl, rfl⟩

theorem intToken_faultyIn (text digits : List Char) : FaultyIn text (intToken digits) := by
  rw [intToken]
  split
  next => exact .ok trivial
  next => exact .error (boundary_start text)

theorem lexNumber_faultyIn (text : List Char) : FaultyIn text (lexNumber text) := by
  obtain ⟨whole, fraction, exponent, behind, parts⟩ := exists_numberParts text
  rw [lexNumber_of_parts parts]
  split
  next => exact .error ⟨whole ++ fraction ++ exponent, behind, parts.split, parts.length.symm⟩
  split
  next => exact (intToken_faultyIn text whole).bind fun _ _ => .ok trivial
  split
  next => exact .ok trivial
  next => exact .error (boundary_start text)

theorem lexString_faultyIn (quote : Char) (text rest : List Char) : FaultyIn text (lexString quote rest) := by
  rw [lexString]
  split
  next => exact .ok trivial
  next => exact .error (boundary_start text)

theorem lexMark_faultyIn (text : List Char) (c : Char) (rest : List Char) : FaultyIn text (lexMark c rest) := by
  rw [lexMark]
  split
  next => exact .ok trivial
  split
  next => exact .ok trivial
  next => exact .error (boundary_start text)

theorem lexeme_faultyIn (c : Char) (rest : List Char) : FaultyIn (c :: rest) (lexeme c rest) := by
  rw [lexeme]
  split
  next => exact .ok trivial
  split
  next => exact .ok trivial
  split
  next => exact .ok trivial
  split
  next => exact .ok trivial
  split
  next => exact .ok trivial
  split
  next => exact lexNumber_faultyIn (c :: rest)
  split
  next => exact lexString_faultyIn c (c :: rest) rest
  next => exact lexMark_faultyIn (c :: rest) c rest

theorem Text.Boundary.behind {rest : List Char} {offset : Nat} (boundary : Text.Boundary rest offset)
    (before : List Char) : Text.Boundary (before ++ rest) (Text.byteLength before + offset) := by
  obtain ⟨front, back, rfl, rfl⟩ := boundary
  exact ⟨before ++ front, back, (List.append_assoc before front back).symm, (Text.byteLength_append before front).symm⟩

end Faults

theorem tokensFrom_upholds (newlines : Bool) (depth : Nat) (before rest : List Char) :
    Upholds (PlacedFrom (before ++ rest) (Text.byteLength before)) (fun e => Text.Boundary (before ++ rest) e.position)
      (tokensFrom newlines depth (Text.byteLength before) 0 rest) := by
  -- The induction is on the text that is left: a lexeme takes a character at least, so that what is behind it is
  -- shorter and starts at a later offset.
  match rest with
  | [] =>
    rw [tokensFrom]
    exact .ok (.nil _ _)
  | c :: tail =>
    have faults := lexeme_faultyIn c tail
    cases lexed : lexeme c tail with
    | error fault =>
      rw [lexed] at faults
      rw [tokensFrom, lexed]
      exact .error (faults.of_error.behind before)
    | ok found =>
      obtain ⟨token?, extra⟩ := found
      have split : before ++ c :: tail = before ++ (c :: tail.take extra) ++ tail.drop extra := by simp
      have ahead : Text.byteLength before < Text.byteLength (before ++ (c :: tail.take extra)) := by
        rw [Text.byteLength_append]
        exact Nat.lt_add_of_pos_right (Text.byteLength_pos (List.cons_ne_nil c _))
      have later (depth : Nat) := tokensFrom_upholds newlines depth (before ++ (c :: tail.take extra)) (tail.drop extra)
      cases token? with
      | none =>
        rw [tokensFrom_layout lexed, tokensFrom_behind lexed, ← Text.byteLength_append, split]
        exact (later depth).imp fun read placed => placed.mono (Nat.le_of_lt ahead)
      | some token =>
        have here : Text.Boundary (before ++ c :: tail) (Text.byteLength before) := ⟨before, c :: tail, rfl, rfl⟩
        have inside : Text.byteLength before < Text.byteLength (before ++ c :: tail) := by
          rw [Text.byteLength_append]
          exact Nat.lt_add_of_pos_right (Text.byteLength_pos (List.cons_ne_nil c tail))
        rw [split] at here inside
        rw [tokensFrom_token lexed, tokensFrom_behind lexed, ← Text.byteLength_append, split]
        refine (later (depthBehind depth token)).bind fun read placed => .ok ?_
        split
        next => exact placed.cons token here inside ahead
        next => exact placed.mono (Nat.le_of_lt ahead)
termination_by rest.length

theorem tokens_upholds (newlines : Bool) (text : List Char) :
    Upholds (PlacedFrom text 0) (fun e => Text.Boundary text e.position) (tokens newlines text) :=
  tokensFrom_upholds newlines 0 [] text

/-- How tokens with the end of the input behind them stand in a text: one behind the other, where characters start, and
the end of the input once, at the end of the text. -/
structure WellPlaced (text : List Char) (spots : List Spot) : Prop where
  boundary : ∀ spot ∈ spots, Text.Boundary text spot.position
  ascending : (spots.map Spot.position).Pairwise (· < ·)
  ended : ∃ read : List Spot, spots = read ++ [⟨none, Text.byteLength text⟩] ∧ ∀ spot ∈ read, spot.token?.isSome

theorem PlacedFrom.wellPlaced {text : List Char} {start : Nat} {read : Tokens} (placed : PlacedFrom text start read) :
    WellPlaced text (withEnd text read) where
  boundary := by
    rw [withEnd, List.forall_mem_append, List.forall_mem_map]
    exact ⟨placed.boundary, List.forall_mem_singleton.mpr (Text.boundary_end text)⟩
  ascending := by
    have own : (read.map fun t => Spot.mk (some t.token) t.position).map Spot.position = read.map Spanned.position := by
      simp
    rw [withEnd, List.map_append, own, List.pairwise_append]
    refine ⟨placed.ascending, List.pairwise_singleton _ _, ?_⟩
    intro position member last isLast
    obtain ⟨t, inRead, rfl⟩ := List.mem_map.mp member
    rw [List.mem_singleton.mp isLast]
    exact (placed.between t inRead).2
  ended := by
    refine ⟨_, rfl, ?_⟩
    rw [List.forall_mem_map]
    intro t _
    rfl

section Errors
variable {text : List Char} {e : SyntaxError}

theorem PlacedFrom.located {start : Nat} {read : Tokens} (placed : PlacedFrom text start read) {failure : Failure}
    (ends : failure.rest <:+ read) : Text.Boundary text (failure.located text).position := by
  rw [Failure.located]
  split
  next => exact Text.boundary_end text
  next t rest same =>
    apply placed.boundary t
    apply ends.mem
    rw [same]
    exact List.mem_cons_self

theorem boundary_of_parseWith {α : Type} {newlines : Bool} {parser : Tokens → Except Failure α}
    (stays : ∀ read, FailsIn read (parser read))
    (failed : parseWith newlines parser text = .error e) : Text.Boundary text e.position := by
  have placed := tokens_upholds newlines text
  unfold parseWith at failed
  cases lexed : tokens newlines text with
  | error fault =>
    rw [lexed] at placed failed
    cases failed
    exact placed.of_error
  | ok read =>
    have inside := stays read
    rw [lexed] at placed failed
    rw [ok_bind] at failed
    split at failed
    next => cases failed
    next failure gives =>
      rw [gives] at inside
      cases failed
      exact placed.of_ok.located inside.of_error

theorem boundary_of_parseExpression (failed : parseExpression text = .error e) : Text.Boundary text e.position := by
  refine boundary_of_parseWith (fun read => ?_) failed
  apply (parseList_stays read List.suffix_rfl).bind
  rintro ⟨value, rest⟩ left
  exact (expectEnd_failsIn left).bind fun _ _ => .ok trivial

theorem boundary_of_parseStatements (failed : parseStatements text = .error e) : Text.Boundary text e.position :=
  boundary_of_parseWith (fun read => statements_failsIn read List.suffix_rfl) failed

theorem boundary_of_parseForHeader (failed : parseForHeader text = .error e) : Text.Boundary text e.position := by
  refine boundary_of_parseWith (fun read => ?_) failed
  apply (targetList_stays read List.suffix_rfl).bind
  rintro ⟨target, rest⟩ left
  dsimp only
  split
  next => exact unexpected_upholds left .inWord
  next rest found =>
    apply (parseList_stays rest ((behindWord?_suffix found).trans left)).bind
    rintro ⟨iterable, rest⟩ left
    exact (expectEnd_failsIn left).bind fun _ _ => .ok trivial

end Errors

end Stencil
