import Stencil.Proofs.Text.Escape

/-! Escapes read in one pass from left to right. Main statement: replacing the escapes one kind after another decodes
each escape of the text that is read, and nothing that one of the replacements wrote. -/
namespace Stencil.Text

/-- What stands at one place of a text: an escape, or a character that no escape starts with. -/
inductive Sign where
  | escape (written plain : List Char)
  | character (c : Char)

def signs : List Char → List Sign
  | '{' :: '$' :: '{' :: rest => .escape ['{', '$', '{'] ['{', '{'] :: signs rest
  | '}' :: '$' :: '}' :: rest => .escape ['}', '$', '}'] ['}', '}'] :: signs rest
  | '$' :: '$' :: rest => .escape ['$', '$'] ['$'] :: signs rest
  | c :: rest => .character c :: signs rest
  | [] => []

def Sign.plain : Sign → List Char
  | .escape _ plain => plain
  | .character c => [c]

/-- The text that a reader sees who decodes every escape where it starts, and goes on behind it. -/
def decoded (text : List Char) : List Char := (signs text).flatMap Sign.plain

/-- A sign once some escapes have been replaced. -/
def Sign.behind (done : List (List Char × List Char)) : Sign → List Char
  | .escape written plain => if (written, plain) ∈ done then plain else written
  | .character c => [c]

def behindPasses (done : List (List Char × List Char)) (text : List Char) : List Char :=
  (signs text).flatMap (Sign.behind done)

/-- A text in which every dollar sign is doubled, and every pair of braces of one kind is taken apart by one. -/
def encoded : List Char → List Char
  | '{' :: '{' :: rest => '{' :: '$' :: '{' :: encoded rest
  | '}' :: '}' :: rest => '}' :: '$' :: '}' :: encoded rest
  | '$' :: rest => '$' :: '$' :: encoded rest
  | c :: rest => c :: encoded rest
  | [] => []

variable {done : List (List Char × List Char)} {written plain rest : List Char}

def Unescaped (c : Char) (rest : List Char) : Prop := ∀ escape ∈ escapes, ¬ escape.1 <+: c :: rest

theorem signs_escape (escape : (written, plain) ∈ escapes) (rest : List Char) :
    signs (written ++ rest) = .escape written plain :: signs rest := by
  simp only [escapes, List.mem_cons, List.not_mem_nil, or_false, Prod.mk.injEq] at escape
  rcases escape with ⟨rfl, rfl⟩ | ⟨rfl, rfl⟩ | ⟨rfl, rfl⟩
  · rfl
  · rfl
  · rfl

theorem signs_character {c : Char} (apart : Unescaped c rest) : signs (c :: rest) = .character c :: signs rest := by
  rw [signs]
  · rintro rest rfl rfl
    exact apart (['{', '$', '{'], opening) (by decide) ⟨rest, rfl⟩
  · rintro rest rfl rfl
    exact apart (['}', '$', '}'], closing) (by decide) ⟨rest, rfl⟩
  · rintro rest rfl rfl
    exact apart (['$', '$'], ['$']) (by decide) ⟨rest, rfl⟩

/-- Texts grow by an escape or by a character that no escape starts with. -/
theorem signs_induction {motive : List Char → Prop} (nil : motive [])
    (escape : ∀ written plain rest, (written, plain) ∈ escapes → motive rest → motive (written ++ rest))
    (character : ∀ c rest, Unescaped c rest → motive rest → motive (c :: rest)) (text : List Char) : motive text := by
  fun_induction signs text with
  | case1 rest ih => exact escape ['{', '$', '{'] opening rest (by decide) ih
  | case2 rest ih => exact escape ['}', '$', '}'] closing rest (by decide) ih
  | case3 rest ih => exact escape ['$', '$'] ['$'] rest (by decide) ih
  | case4 c rest notOpening notClosing notDollars ih =>
    refine character c rest (fun escape member => ?_) ih
    simp only [escapes, List.mem_cons, List.not_mem_nil, or_false] at member
    rintro ⟨back, same⟩
    rcases member with rfl | rfl | rfl
    · cases same
      exact notOpening back rfl rfl
    · cases same
      exact notClosing back rfl rfl
    · cases same
      exact notDollars back rfl rfl
  | case5 => exact nil

theorem behindPasses_escape (escape : (written, plain) ∈ escapes) (done : List (List Char × List Char))
    (rest : List Char) : behindPasses done (written ++ rest) =
      (Sign.escape written plain).behind done ++ behindPasses done rest := by
  rw [behindPasses, signs_escape escape, List.flatMap_cons]
  rfl

theorem behindPasses_character {c : Char} (apart : Unescaped c rest) (done : List (List Char × List Char)) :
    behindPasses done (c :: rest) = c :: behindPasses done rest := by
  rw [behindPasses, signs_character apart, List.flatMap_cons]
  rfl

/-- An escape starts with the character that its text starts with. -/
theorem head?_behindPasses (done : List (List Char × List Char)) (text : List Char) :
    (behindPasses done text).head? = text.head? := by
  induction text using signs_induction with
  | nil => rfl
  | escape written plain rest member =>
    rw [behindPasses_escape member, Sign.behind]
    simp only [escapes, List.mem_cons, List.not_mem_nil, or_false, Prod.mk.injEq] at member
    rcases member with ⟨rfl, rfl⟩ | ⟨rfl, rfl⟩ | ⟨rfl, rfl⟩
    · split <;> rfl
    · split <;> rfl
    · split <;> rfl
  | character c rest apart => rw [behindPasses_character apart]; rfl

theorem replaceFrom_over {d : Char} {front : List Char} (absent : d ∉ front) (old new text : List Char) :
    replaceFrom (d :: old) new 0 (front ++ text) = front ++ replaceFrom (d :: old) new 0 text := by
  induction front with
  | nil => rfl
  | cons c front ih =>
    have other : c ≠ d := fun same => absent (same ▸ List.mem_cons_self)
    rw [List.cons_append, replaceFrom_cons_ne new other, ih (List.not_mem_of_not_mem_cons absent), List.cons_append]

/-- A pass decodes the escapes of its kind and nothing else, if no other sign can take part in one. -/
theorem replaceFrom_behindPasses {d : Char} {old : List Char}
    (fresh : (d :: old, plain) ∉ done)
    (passed : ∀ other ∈ escapes, other ≠ (d :: old, plain) → d ∉ (Sign.escape other.1 other.2).behind done)
    (starts : ∀ c rest, Unescaped c rest → ¬ d :: old <+: c :: behindPasses done rest) (text : List Char) :
    replaceFrom (d :: old) plain 0 (behindPasses done text) =
      behindPasses (done ++ [(d :: old, plain)]) text := by
  induction text using signs_induction with
  | nil => rfl
  | escape written plain' rest member ih =>
    rw [behindPasses_escape member, behindPasses_escape member, ← ih]
    by_cases same : (written, plain') = (d :: old, plain)
    · cases same
      have found := replaceFrom_found plain d old (behindPasses done rest)
      simpa [Sign.behind, fresh] using found
    · rw [replaceFrom_over (passed _ member same)]
      simp only [Sign.behind, List.mem_append, List.mem_singleton, same, or_false]
  | character c rest apart ih =>
    have later : ¬ (d :: old).isPrefixOf (c :: behindPasses done rest) = true := by
      rw [List.isPrefixOf_iff_prefix]
      exact starts c rest apart
    rw [behindPasses_character apart, behindPasses_character apart, replaceFrom, if_neg later, ih]

/-- Before the doubled dollar signs are replaced, a dollar sign stands before a brace only where it did in the text. -/
theorem starts_of_behindPasses {brace : Char} (isBrace : brace ≠ '$') (pending : (['$', '$'], ['$']) ∉ done)
    {text : List Char} (starts : ['$', brace] <+: behindPasses done text) : ['$', brace] <+: text := by
  induction text using signs_induction with
  | nil => exact starts
  | escape written plain rest member =>
    rw [behindPasses_escape member, Sign.behind] at starts
    simp only [escapes, List.mem_cons, List.not_mem_nil, or_false, Prod.mk.injEq] at member
    rcases member with ⟨rfl, rfl⟩ | ⟨rfl, rfl⟩ | ⟨rfl, rfl⟩
    · split at starts <;> simp [opening] at starts
    · split at starts <;> simp [closing] at starts
    · rw [dollar, if_neg pending] at starts
      simp [isBrace] at starts
  | character c rest apart =>
    rw [behindPasses_character apart, List.cons_prefix_cons] at starts
    obtain ⟨rfl, ⟨back, next⟩⟩ := starts
    have first := head?_behindPasses done rest
    rw [← next] at first
    obtain ⟨rest, rfl⟩ := List.head?_eq_some_iff.mp first.symm
    exact ⟨rest, rfl⟩

theorem behindPasses_nil (text : List Char) : behindPasses [] text = text := by
  induction text using signs_induction with
  | nil => rfl
  | escape written plain rest member ih => rw [behindPasses_escape member, ih]; rfl
  | character c rest apart ih => rw [behindPasses_character apart, ih]

theorem decoded_eq_behindPasses (text : List Char) : decoded text = behindPasses escapes text := by
  induction text using signs_induction with
  | nil => rfl
  | escape written plain rest member ih =>
    rw [behindPasses_escape member, Sign.behind, if_pos member, ← ih, decoded, signs_escape member]
    rfl
  | character c rest apart ih =>
    rw [behindPasses_character apart, ← ih, decoded, signs_character apart]
    rfl

theorem not_starts_brace {brace : Char} (plain : List Char) (isBrace : brace ≠ '$')
    (pending : (['$', '$'], ['$']) ∉ done) (escape : ([brace, '$', brace], plain) ∈ escapes) {c : Char}
    (apart : Unescaped c rest) : ¬ [brace, '$', brace] <+: c :: behindPasses done rest := by
  intro starts
  obtain ⟨rfl, behind⟩ := List.cons_prefix_cons.mp starts
  have inText := starts_of_behindPasses isBrace pending behind
  exact apart _ escape (List.cons_prefix_cons.mpr ⟨rfl, inText⟩)

theorem not_starts_dollars {c : Char} (apart : Unescaped c rest) : ¬ ['$', '$'] <+: c :: behindPasses done rest := by
  intro starts
  obtain ⟨rfl, back, next⟩ := List.cons_prefix_cons.mp starts
  have first := head?_behindPasses done rest
  rw [← next] at first
  obtain ⟨rest, rfl⟩ := List.head?_eq_some_iff.mp first.symm
  exact apart (['$', '$'], ['$']) (by decide) ⟨rest, rfl⟩

/-- What the passes up to one of them make of a text: the escapes that they are for are decoded where one reading of
the text finds them, and all else is as it was. -/
theorem foldl_replaceAll_take (n : Nat) (text : List Char) :
    (escapes.take n).foldl (fun current (escaped, plain) => replaceAll escaped plain current) text =
      behindPasses (escapes.take n) text := by
  have first : replaceAll ['{', '$', '{'] opening text = behindPasses (escapes.take 1) text := by
    have pass : replaceFrom ['{', '$', '{'] opening 0 (behindPasses [] text) = behindPasses (escapes.take 1) text :=
      replaceFrom_behindPasses (by decide) (by decide)
        (fun c rest => not_starts_brace opening (by decide) (by decide) (by decide)) text
    rw [behindPasses_nil] at pass
    rwa [replaceAll_of_ne_nil _ (by simp)]
  have second : replaceAll ['}', '$', '}'] closing (behindPasses (escapes.take 1) text) =
      behindPasses (escapes.take 2) text := by
    rw [replaceAll_of_ne_nil _ (by simp)]
    exact replaceFrom_behindPasses (by decide) (by decide)
      (fun c rest => not_starts_brace closing (by decide) (by decide) (by decide)) text
  have third : replaceAll ['$', '$'] ['$'] (behindPasses (escapes.take 2) text) = behindPasses escapes text := by
    rw [replaceAll_of_ne_nil _ (by simp)]
    exact replaceFrom_behindPasses (by decide) (by decide) (fun c rest => not_starts_dollars) text
  match n with
  | 0 => exact (behindPasses_nil text).symm
  | 1 => exact first
  | 2 => exact (congrArg (replaceAll ['}', '$', '}'] closing) first).trans second
  | n + 3 =>
    have two := (congrArg (replaceAll ['}', '$', '}'] closing) first).trans second
    rw [List.take_of_length_le (Nat.le_add_left 3 n)]
    exact (congrArg (replaceAll ['$', '$'] ['$']) two).trans third

theorem starts_of_encoded {brace : Char} (text : List Char) : ['$', brace] <+: encoded text → brace = '$' := by
  fun_cases encoded text with
  | case1 rest => simp
  | case2 rest => simp
  | case3 rest => simp [List.cons_prefix_cons]
  | case4 c rest _ _ other => exact fun starts => absurd (List.cons_prefix_cons.mp starts).1.symm (by simpa using other)
  | case5 => simp

theorem decoded_encoded (text : List Char) : decoded (encoded text) = text := by
  fun_induction encoded text with
  | case1 rest ih => exact congrArg ('{' :: '{' :: ·) ih
  | case2 rest ih => exact congrArg ('}' :: '}' :: ·) ih
  | case3 rest ih => exact congrArg ('$' :: ·) ih
  | case4 c rest _ _ other ih =>
    have apart : Unescaped c (encoded rest) := by
      intro escape member starts
      simp only [escapes, List.mem_cons, List.not_mem_nil, or_false] at member
      rcases member with rfl | rfl | rfl
      · obtain ⟨_, behind⟩ := List.cons_prefix_cons.mp starts
        exact absurd (starts_of_encoded rest behind) (by decide)
      · obtain ⟨_, behind⟩ := List.cons_prefix_cons.mp starts
        exact absurd (starts_of_encoded rest behind) (by decide)
      · exact other (List.cons_prefix_cons.mp starts).1.symm
    rw [decoded, signs_character apart]
    exact congrArg (c :: ·) ih
  | case5 => rfl

/-- Replacing the escapes one kind after another is decoding them in one pass: behind each replacement, the signs of
the text stand as they did, those of the kinds replaced so far decoded. So what is encoded is read back. -/
theorem unescape_in_one_pass :
    (∀ text, unescape text = decoded text) ∧
      (∀ n text, (escapes.take n).foldl (fun current (escaped, plain) => replaceAll escaped plain current) text =
        (signs text).flatMap (Sign.behind (escapes.take n))) ∧
      ∀ text, unescape (encoded text) = text := by
  have onePass (text : List Char) : unescape text = decoded text := by
    rw [decoded_eq_behindPasses]
    exact foldl_replaceAll_take 3 text
  exact ⟨onePass, foldl_replaceAll_take, fun text => (onePass (encoded text)).trans (decoded_encoded text)⟩

end Stencil.Text
