import Stencil.Proofs.Text.Parts
import Stencil.Text.Escape

/-! Code written with escapes. Main statements: the escapes are replaced by what was written, whatever braces and
dollar signs stand beside them, on both sides of any other character; and escaped code does not end a directive. -/
namespace Stencil.Text

/-- Code as it is written between delimiters: a dollar sign is doubled, and one takes every pair of closing braces
apart, from left to right. -/
def escaped : List Char → List Char
  | [] => []
  | '}' :: '}' :: rest => '}' :: dollar :: '}' :: escaped rest
  | c :: rest => if c = dollar then dollar :: dollar :: escaped rest else c :: escaped rest

theorem head?_escaped (text : List Char) : (escaped text).head? = text.head? := by
  fun_cases escaped text with
  | case1 => rfl
  | case2 rest => rfl
  | case3 rest => rfl
  | case4 c rest _ other => rfl

theorem getLast?_escaped (text : List Char) : (escaped text).getLast? = text.getLast? := by
  fun_induction escaped text with
  | case1 => rfl
  | case2 rest ih => simp [List.getLast?_cons, ih]
  | case3 rest _ ih => simp [List.getLast?_cons, ih]
  | case4 c rest _ other ih => simp [List.getLast?_cons, ih]

example : (escaped ['a', '}', '}']).getLast? = some '}' := by cbv

theorem mem_of_mem_escaped {c : Char} {text : List Char} (member : c ∈ escaped text) : c = dollar ∨ c ∈ text := by
  fun_induction escaped text with
  | case1 => cases member
  | case2 rest ih => grind
  | case3 rest _ ih => grind
  | case4 c rest _ other ih => grind

/-- A dollar sign at the start of escaped code is one of two. -/
theorem eq_dollar_of_starts (c : Char) (text : List Char) : [dollar, c] <+: escaped text → c = dollar := by
  fun_cases escaped text with
  | case1 => simp
  | case2 rest => simp [List.cons_prefix_cons, dollar]
  | case3 rest => simp [List.cons_prefix_cons]
  | case4 d rest _ other => exact fun starts => absurd (List.cons_prefix_cons.mp starts).1.symm other

/-- A text in which only the dollar signs are doubled. -/
def doubled (text : List Char) : List Char := text.flatMap fun c => if c = dollar then [dollar, dollar] else [c]

theorem doubled_cons_ne {c : Char} (other : c ≠ dollar) (text : List Char) :
    doubled (c :: text) = c :: doubled text := by
  simp [doubled, other]

section Replace

variable (new : List Char)

theorem replaceAll_of_ne_nil {old : List Char} (some : old ≠ []) (text : List Char) :
    replaceAll old new text = replaceFrom old new 0 text := by
  rw [replaceAll, if_neg (by simpa using some)]

theorem replaceFrom_skip (old skipped text : List Char) :
    replaceFrom old new skipped.length (skipped ++ text) = replaceFrom old new 0 text := by
  induction skipped with
  | nil => rfl
  | cons c skipped ih => exact ih

theorem replaceFrom_found (c : Char) (old text : List Char) :
    replaceFrom (c :: old) new 0 (c :: (old ++ text)) = new ++ replaceFrom (c :: old) new 0 text := by
  rw [replaceFrom, if_pos (starts_cons c old text)]
  exact congrArg (new ++ ·) (replaceFrom_skip new (c :: old) old text)

/-- Nothing is replaced in a text that does not have the pattern in it. -/
theorem replaceFrom_plain {old text : List Char} (plain : ¬ old <:+: text) : replaceFrom old new 0 text = text := by
  induction text with
  | nil => rfl
  | cons c text ih =>
    obtain ⟨here, behind⟩ := not_infix_cons plain
    rw [replaceFrom, if_neg here, ih behind]

theorem replaceFrom_cons_ne {c d : Char} (other : c ≠ d) (old text : List Char) :
    replaceFrom (d :: old) new 0 (c :: text) = c :: replaceFrom (d :: old) new 0 text := by
  simp [replaceFrom, Ne.symm other]

/-- A brace of escaped code starts no escape unless it is one of a pair. -/
theorem replaceFrom_brace {c : Char} (brace : c ≠ dollar) (text : List Char) :
    replaceFrom [c, dollar, c] new 0 (c :: escaped text) = c :: replaceFrom [c, dollar, c] new 0 (escaped text) := by
  have apart : ¬ [c, dollar, c].isPrefixOf (c :: escaped text) = true := by
    rw [List.isPrefixOf_iff_prefix]
    intro starts
    exact brace (eq_dollar_of_starts c text (List.cons_prefix_cons.mp starts).2)
  rw [replaceFrom, if_neg apart]

end Replace

theorem replace_opening (text : List Char) :
    replaceFrom ['{', dollar, '{'] opening 0 (escaped text) = escaped text := by
  have brace : '}' ≠ '{' := by decide
  have sign : dollar ≠ '{' := by decide
  fun_induction escaped text with
  | case1 => rfl
  | case2 rest ih =>
    rw [replaceFrom_cons_ne _ brace, replaceFrom_cons_ne _ sign, replaceFrom_cons_ne _ brace, ih]
  | case3 rest _ ih => rw [replaceFrom_cons_ne _ sign, replaceFrom_cons_ne _ sign, ih]
  | case4 c rest _ other ih =>
    by_cases opens : c = '{'
    · subst opens
      rw [replaceFrom_brace _ other, ih]
    · rw [replaceFrom_cons_ne _ opens, ih]

theorem replace_closing (text : List Char) :
    replaceFrom ['}', dollar, '}'] closing 0 (escaped text) = doubled text := by
  have brace : '}' ≠ dollar := by decide
  have sign : dollar ≠ '}' := by decide
  fun_induction escaped text with
  | case1 => rfl
  | case2 rest ih =>
    have found := replaceFrom_found closing '}' [dollar, '}'] (escaped rest)
    rw [ih] at found
    rw [doubled_cons_ne brace, doubled_cons_ne brace]
    exact found
  | case3 rest _ ih =>
    rw [replaceFrom_cons_ne _ sign, replaceFrom_cons_ne _ sign, ih]
    rfl
  | case4 c rest _ other ih =>
    rw [doubled_cons_ne other, ← ih]
    by_cases closes : c = '}'
    · subst closes
      exact replaceFrom_brace _ other rest
    · exact replaceFrom_cons_ne _ closes _ _

theorem replace_dollars (text : List Char) : replaceFrom [dollar, dollar] [dollar] 0 (doubled text) = text := by
  induction text with
  | nil => rfl
  | cons c rest ih =>
    by_cases same : c = dollar
    · have found := replaceFrom_found [dollar] dollar [dollar] (doubled rest)
      rw [ih] at found
      subst same
      exact found
    · rw [doubled_cons_ne same, replaceFrom_cons_ne _ same, ih]

theorem unescape_escaped (text : List Char) : unescape (escaped text) = text := by
  simp only [unescape, escapes, List.foldl_cons, List.foldl_nil]
  rw [replaceAll_of_ne_nil _ (by simp), replaceAll_of_ne_nil _ (by simp), replaceAll_of_ne_nil _ (by simp),
    replace_opening, replace_closing, replace_dollars]

section Cut

variable {c : Char}

/-- A pattern goes on over no character that it does not have. -/
theorem prefix_append_cons {pattern : List Char} (plain : c ∉ pattern) (front back : List Char) :
    pattern <+: front ++ c :: back ↔ pattern <+: front := by
  constructor
  · intro starts
    rcases List.prefix_or_prefix_of_prefix starts (List.prefix_append front (c :: back)) with inside | beyond
    · exact inside
    · obtain ⟨rest, rfl⟩ := beyond
      cases rest with
      | nil => exact ⟨[], by simp⟩
      | cons d rest =>
        obtain ⟨rfl, _⟩ := List.cons_prefix_cons.mp ((List.prefix_append_right_inj front).mp starts)
        exact absurd (List.mem_append_right front List.mem_cons_self) plain
  · exact fun inside => inside.trans (List.prefix_append front _)

theorem replaceFrom_append_cons {old : List Char} (some : old ≠ []) (plain : c ∉ old) (new : List Char)
    {skip : Nat} {front : List Char} (inside : skip ≤ front.length) (back : List Char) :
    replaceFrom old new skip (front ++ c :: back) =
      replaceFrom old new skip front ++ c :: replaceFrom old new 0 back := by
  induction front generalizing skip with
  | nil =>
    obtain rfl : skip = 0 := Nat.le_zero.mp inside
    have apart : ¬ old.isPrefixOf (c :: back) = true := by
      rw [List.isPrefixOf_iff_prefix]
      exact fun starts => some (List.prefix_nil.mp ((prefix_append_cons plain [] back).mp starts))
    simp only [List.nil_append, replaceFrom, apart, Bool.false_eq_true, if_false]
  | cons d front ih =>
    cases skip with
    | succ skip =>
      rw [List.cons_append, replaceFrom, replaceFrom]
      exact ih (Nat.le_of_succ_le_succ inside)
    | zero =>
      have same : old.isPrefixOf (d :: (front ++ c :: back)) = old.isPrefixOf (d :: front) := by
        rw [Bool.eq_iff_iff, List.isPrefixOf_iff_prefix, List.isPrefixOf_iff_prefix]
        exact prefix_append_cons plain (d :: front) back
      rw [List.cons_append, replaceFrom, replaceFrom, same]
      split
      next here =>
        have short := (List.isPrefixOf_iff_prefix.mp here).length_le
        rw [List.length_cons] at short
        rw [ih (by omega), List.append_assoc]
      next => rw [ih (Nat.zero_le _), List.cons_append]

/-- Escapes are replaced on both sides of a character that no escape has. -/
theorem unescape_append_cons (plain : c ∉ ['{', '}', dollar]) (front back : List Char) :
    unescape (front ++ c :: back) = unescape front ++ c :: unescape back := by
  have replace {old : List Char} (some : old ≠ []) (within : old ⊆ ['{', '}', dollar])
      (new front back : List Char) :
      replaceAll old new (front ++ c :: back) = replaceAll old new front ++ c :: replaceAll old new back := by
    simp only [replaceAll_of_ne_nil new some]
    exact replaceFrom_append_cons some (fun member => plain (within member)) new (Nat.zero_le _) back
  simp only [unescape, escapes, List.foldl_cons, List.foldl_nil]
  rw [replace (by simp) (by decide), replace (by simp) (by decide), replace (by simp) (by decide)]

theorem replaceFrom_of_notMem {old text : List Char} (inside : c ∈ old) (plain : c ∉ text) (new : List Char) :
    replaceFrom old new 0 text = text :=
  replaceFrom_plain new fun occurs => plain (occurs.subset inside)

/-- A text without a dollar sign has no escapes. -/
theorem unescape_eq_self {text : List Char} (plain : dollar ∉ text) : unescape text = text := by
  have same {old : List Char} (inside : dollar ∈ old) (new : List Char) : replaceAll old new text = text := by
    rw [replaceAll_of_ne_nil new (List.ne_nil_of_mem inside)]
    exact replaceFrom_of_notMem inside plain new
  simp only [unescape, escapes, List.foldl_cons, List.foldl_nil]
  rw [same (by decide), same (by decide), same (by decide)]

/-- Replacing brings in no character but those of the new text. -/
theorem mem_of_mem_replaceFrom {old new text : List Char} {skip : Nat} (member : c ∈ replaceFrom old new skip text) :
    c ∈ new ∨ c ∈ text := by
  induction text generalizing skip with
  | nil =>
    rw [replaceFrom] at member
    exact .inr member
  | cons d rest ih =>
    have later {skip : Nat} (member : c ∈ replaceFrom old new skip rest) : c ∈ new ∨ c ∈ d :: rest :=
      (ih member).imp_right (List.mem_cons_of_mem d)
    cases skip with
    | succ skip => exact later member
    | zero =>
      rw [replaceFrom] at member
      split at member
      next => exact (List.mem_append.mp member).elim .inl later
      next =>
        rcases List.mem_cons.mp member with rfl | member
        · exact .inr List.mem_cons_self
        · exact later member

/-- The text that escapes stand for has no characters but braces, dollar signs and those of the text. -/
theorem mem_of_mem_unescape {text : List Char} (member : c ∈ unescape text) : c ∈ ['{', '}', dollar] ∨ c ∈ text := by
  have replaced {old new text : List Char} (some : old ≠ []) (within : new ⊆ ['{', '}', dollar])
      (member : c ∈ replaceAll old new text) : c ∈ ['{', '}', dollar] ∨ c ∈ text := by
    rw [replaceAll_of_ne_nil new some] at member
    exact (mem_of_mem_replaceFrom member).imp_left fun inside => within inside
  simp only [unescape, escapes, List.foldl_cons, List.foldl_nil] at member
  rcases replaced (by simp) (by decide) member with escape | member
  · exact .inl escape
  rcases replaced (by simp) (by decide) member with escape | member
  · exact .inl escape
  exact replaced (by simp) (by decide) member

end Cut

theorem cut?_closing_ne {c : Char} (other : c ≠ '}') (text : List Char) :
    cut? closing (c :: text) = (cut? closing text).map fun (before, after) => (c :: before, after) := by
  have apart : ¬ closing.isPrefixOf (c :: text) = true := by simp [closing, Ne.symm other]
  rw [cut?, if_neg apart]

theorem cut?_closing_brace {text : List Char} (single : text.head? ≠ some '}') :
    cut? closing ('}' :: text) = (cut? closing text).map fun (before, after) => ('}' :: before, after) := by
  have apart : ¬ closing.isPrefixOf ('}' :: text) = true := by
    cases text with
    | nil => decide
    | cons c text =>
      have other : c ≠ '}' := by simpa using single
      simp [closing, Ne.symm other]
  rw [cut?, if_neg apart]

/-- Escaped code goes over to the closing delimiter behind it, unless three closing braces stand in a row. -/
theorem cut?_escaped {text tail : List Char} (apart : ¬ ['}', '}', '}'] <:+: text) (behind : tail.head? ≠ some '}') :
    cut? closing (escaped text ++ tail) =
      (cut? closing tail).map fun (before, after) => (escaped text ++ before, after) := by
  have sign : dollar ≠ '}' := by decide
  have follows {rest : List Char} (single : rest.head? ≠ some '}') : (escaped rest ++ tail).head? ≠ some '}' := by
    rw [List.head?_append, head?_escaped]
    cases rest with
    | nil => exact behind
    | cons d rest => exact single
  fun_induction escaped text with
  | case1 => simp
  | case2 rest ih =>
    -- The second brace of the pair stands alone: a third one would close the delimiter with it.
    have single : rest.head? ≠ some '}' := by
      intro third
      obtain ⟨rest', rfl⟩ := List.head?_eq_some_iff.mp third
      exact apart ⟨[], rest', rfl⟩
    have inner := ih fun inside => apart (inside.trans (List.suffix_append ['}', '}'] rest).isInfix)
    simp only [List.cons_append]
    rw [cut?_closing_brace (by simp [dollar]), cut?_closing_ne sign, cut?_closing_brace (follows single), inner]
    simp [Function.comp_def]
  | case3 rest _ ih =>
    have inner := ih fun inside => apart (inside.trans (List.suffix_cons dollar rest).isInfix)
    simp only [List.cons_append]
    rw [cut?_closing_ne sign, cut?_closing_ne sign, inner]
    simp [Function.comp_def]
  | case4 c rest single other ih =>
    have inner := ih fun inside => apart (inside.trans (List.suffix_cons c rest).isInfix)
    rw [List.cons_append]
    by_cases closes : c = '}'
    · subst closes
      have alone : rest.head? ≠ some '}' := by
        intro second
        obtain ⟨rest', rfl⟩ := List.head?_eq_some_iff.mp second
        exact single rest' rfl rfl
      rw [cut?_closing_brace (follows alone), inner]
      simp [Function.comp_def]
    · rw [cut?_closing_ne closes, inner]
      simp [Function.comp_def]

end Stencil.Text
