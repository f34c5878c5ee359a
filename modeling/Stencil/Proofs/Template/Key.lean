import Stencil.Proofs.Text.Parts
import Stencil.Template.Segment

/-! The keys of substitutions. Main statement: a key tells the text that it was made of, is not the key of a percent
sign, and has no character that a format string gives a meaning to. -/
namespace Stencil

/-- A character that is no white space and has no meaning in a format string. -/
def Neutral (c : Char) : Prop := c ≠ '%' ∧ c ≠ '(' ∧ c ≠ ')' ∧ Text.isBlank c = false

instance (c : Char) : Decidable (Neutral c) :=
  inferInstanceAs (Decidable (c ≠ '%' ∧ c ≠ '(' ∧ c ≠ ')' ∧ Text.isBlank c = false))

/-- The character that stands in a key as this text between two number signs. -/
def keyedChar : List Char → Char
  | ['H'] => '#'
  | ['P'] => '%'
  | ['['] => '('
  | [']'] => ')'
  | _ :: digits => Char.ofNat (Decimal.digitsValue digits)
  | [] => ' '

theorem neutral_of_isDigit {c : Char} (digit : c.isDigit = true) : Neutral c := by
  refine ⟨?_, ?_, ?_, Text.isBlank_of_isDigit digit⟩
  all_goals
    rintro rfl
    exact absurd digit (by decide)

/-- A code word between two number signs that tells a character. -/
structure CodeWord (c : Char) (body : List Char) : Prop where
  whole : '#' ∉ body
  neutral : ∀ d ∈ body, Neutral d
  other : body.head? ≠ some 'p'
  tells : keyedChar body = c

theorem codeWord_singleton {c letter : Char} (whole : letter ≠ '#') (neutral : Neutral letter)
    (other : letter ≠ 'p') (tells : keyedChar [letter] = c) : CodeWord c [letter] where
  whole := by simpa using whole.symm
  neutral := by simpa using neutral
  other := by simpa using other
  tells := tells

theorem codeWord_number (c : Char) : CodeWord c ('w' :: Nat.toDigits 10 c.toNat) := by
  have digits (d : Char) (member : d ∈ Nat.toDigits 10 c.toNat) : d.isDigit = true :=
    Nat.isDigit_of_mem_toDigits (by decide) (by decide) member
  constructor
  · intro member
    rcases List.mem_cons.mp member with same | digit
    · exact absurd same (by decide)
    · exact absurd (digits '#' digit) (by decide)
  · refine List.forall_mem_cons.mpr ⟨by decide, fun d digit => ?_⟩
    exact neutral_of_isDigit (digits d digit)
  · simp
  · have value := Decimal.digitsValue_toDigits c.toNat
    rw [keyedChar, value, Char.ofNat_toNat]
    all_goals simp

/-- A character stands for itself in a key, or as a code word between two number signs. -/
theorem keyChar_cases (c : Char) : (c ≠ '#' ∧ Neutral c ∧ keyChar c = [c]) ∨
    ∃ body, keyChar c = '#' :: (body ++ ['#']) ∧ CodeWord c body := by
  have letter (word : Char) (whole : word ≠ '#') (neutral : Neutral word) (other : word ≠ 'p')
      (tells : keyedChar [word] = c) (spelled : keyChar c = ['#', word, '#']) :
      ∃ body, keyChar c = '#' :: (body ++ ['#']) ∧ CodeWord c body :=
    ⟨[word], spelled, codeWord_singleton whole neutral other tells⟩
  by_cases hash : c = '#'
  · subst hash
    exact .inr (letter 'H' (by decide) (by decide) (by decide) rfl rfl)
  by_cases percent : c = '%'
  · subst percent
    exact .inr (letter 'P' (by decide) (by decide) (by decide) rfl rfl)
  by_cases left : c = '('
  · subst left
    exact .inr (letter '[' (by decide) (by decide) (by decide) rfl rfl)
  by_cases right : c = ')'
  · subst right
    exact .inr (letter ']' (by decide) (by decide) (by decide) rfl rfl)
  by_cases blank : Text.isBlank c = true
  · refine .inr ⟨_, ?_, codeWord_number c⟩
    simp [keyChar, hash, percent, left, right, blank]
  · refine .inl ⟨hash, ⟨percent, left, right, by simpa using blank⟩, ?_⟩
    simp [keyChar, hash, percent, left, right, blank]

theorem eq_of_append_hash {a b x y : List Char} (first : '#' ∉ a) (second : '#' ∉ b)
    (same : a ++ '#' :: x = b ++ '#' :: y) : a = b ∧ x = y := by
  induction a generalizing b with
  | nil =>
    cases b with
    | nil => exact ⟨rfl, (List.cons.inj same).2⟩
    | cons d b => exact absurd (List.cons.inj same).1 fun eq => second (eq ▸ List.mem_cons_self)
  | cons c a ih =>
    cases b with
    | nil => exact absurd (List.cons.inj same).1 fun eq => first (eq ▸ List.mem_cons_self)
    | cons d b =>
      obtain ⟨rfl, rest⟩ := List.cons.inj same
      obtain ⟨rfl, behind⟩ := ih (List.not_mem_of_not_mem_cons first) (List.not_mem_of_not_mem_cons second) rest
      exact ⟨rfl, behind⟩

/-- The first character of a key and what follows it can be told, whatever follows. -/
theorem keyChar_append_inj {c d : Char} {x y : List Char} (same : keyChar c ++ x = keyChar d ++ y) :
    c = d ∧ x = y := by
  rcases keyChar_cases c with ⟨plain, _, spelled⟩ | ⟨body, spelled, word⟩ <;>
    rcases keyChar_cases d with ⟨plain', _, spelled'⟩ | ⟨body', spelled', word'⟩
  · rw [spelled, spelled'] at same
    exact List.cons.inj same
  · rw [spelled, spelled'] at same
    exact absurd (List.cons.inj same).1 plain
  · rw [spelled, spelled'] at same
    exact absurd (List.cons.inj same).1.symm plain'
  · rw [spelled, spelled'] at same
    simp only [List.cons_append, List.append_assoc, List.nil_append, List.cons.injEq, true_and] at same
    obtain ⟨rfl, rest⟩ := eq_of_append_hash word.whole word'.whole same
    exact ⟨word.tells.symm.trans word'.tells, rest⟩

theorem keyChar_ne_nil (c : Char) : keyChar c ≠ [] := by
  rcases keyChar_cases c with ⟨_, _, spelled⟩ | ⟨_, spelled, _⟩ <;> simp [spelled]

/-- Expressions with different texts have different keys. -/
theorem substitutionKey_injective {text other : List Char}
    (same : substitutionKey text = substitutionKey other) : text = other := by
  induction text generalizing other with
  | nil =>
    cases other with
    | nil => rfl
    | cons d other => simp [substitutionKey, keyChar_ne_nil] at same
  | cons c text ih =>
    cases other with
    | nil => simp [substitutionKey, keyChar_ne_nil] at same
    | cons d other =>
      rw [substitutionKey, substitutionKey, List.flatMap_cons, List.flatMap_cons] at same
      obtain ⟨rfl, rest⟩ := keyChar_append_inj same
      rw [ih rest]

theorem substitutionKey_ne_percentKey (text : List Char) : substitutionKey text ≠ percentKey := by
  intro same
  have literal : percentKey = '#' :: 'p' :: "ercent#".toList := by decide
  rw [literal] at same
  cases text with
  | nil => cases same
  | cons c text =>
    rw [substitutionKey, List.flatMap_cons] at same
    rcases keyChar_cases c with ⟨plain, _, spelled⟩ | ⟨body, spelled, word⟩
    · rw [spelled] at same
      exact plain (List.cons.inj same).1
    · rw [spelled] at same
      cases body with
      | nil => exact absurd (List.cons.inj (List.cons.inj same).2).1 (by decide)
      | cons d body => exact word.other (congrArg some (List.cons.inj (List.cons.inj same).2).1)

theorem neutral_of_mem_keyChar {c d : Char} (member : d ∈ keyChar c) : Neutral d := by
  have hash : Neutral '#' := by decide
  rcases keyChar_cases c with ⟨_, neutral, spelled⟩ | ⟨body, spelled, word⟩
  · rw [spelled, List.mem_singleton] at member
    exact member ▸ neutral
  · rw [spelled] at member
    rcases List.mem_cons.mp member with rfl | member
    · exact hash
    · rcases List.mem_append.mp member with inside | last
      · exact word.neutral d inside
      · exact List.mem_singleton.mp last ▸ hash

/-- Different texts have different keys, none of which is the key of a percent sign or has a character with a
meaning in a format string. -/
theorem substitutionKey_separates : Function.Injective substitutionKey ∧
    ∀ text, substitutionKey text ≠ percentKey ∧ ∀ c ∈ substitutionKey text, Neutral c := by
  refine ⟨fun text other => substitutionKey_injective, fun text => ⟨substitutionKey_ne_percentKey text, ?_⟩⟩
  intro c member
  obtain ⟨d, _, inside⟩ := List.mem_flatMap.mp member
  exact neutral_of_mem_keyChar inside

/-- White space and a text that looks like its code word. -/
theorem keys_of_blank_and_word :
    substitutionKey "'a b'".toList ≠ substitutionKey "'a#w32#b'".toList ∧
      '#' ∈ substitutionKey "'a b'".toList ∧ Neutral '#' := by
  have word : '#' ∈ substitutionKey "'a b'".toList := by decide
  refine ⟨fun same => ?_, word, (substitutionKey_separates.2 "'a b'".toList).2 '#' word⟩
  exact absurd (substitutionKey_separates.1 same) (by decide)

end Stencil
