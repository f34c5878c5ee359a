/-! Finding, cutting and replacing a pattern in a text. Occurrences are taken from left to right
and do not overlap: after one, the search goes on behind it. -/
namespace Stencil.Text

/-- The text before and the text behind the first occurrence of a pattern. -/
def cut? (pattern : List Char) : List Char → Option (List Char × List Char)
  | [] => if pattern.isEmpty then some ([], []) else none
  | c :: rest =>
    if pattern.isPrefixOf (c :: rest) then some ([], (c :: rest).drop pattern.length)
    else (cut? pattern rest).map fun (before, after) => (c :: before, after)

theorem cut?_append {pattern text before after : List Char}
    (found : cut? pattern text = some (before, after)) : before ++ pattern ++ after = text := by
  induction text generalizing before with
  | nil =>
    by_cases blank : pattern = []
    · subst blank
      simp only [cut?, List.isEmpty_nil, if_true, Option.some.injEq, Prod.mk.injEq] at found
      simp [← found.1, ← found.2]
    · simp [cut?, blank] at found
  | cons c rest ih =>
    by_cases here : pattern.isPrefixOf (c :: rest) = true
    · simp only [cut?, here, if_true, Option.some.injEq, Prod.mk.injEq] at found
      obtain ⟨tail, whole⟩ := List.isPrefixOf_iff_prefix.mp here
      simp [← found.1, ← found.2, ← whole]
    · cases later : cut? pattern rest with
      | none => simp [cut?, here, later] at found
      | some parts =>
        obtain ⟨first, last⟩ := parts
        obtain ⟨rfl, rfl⟩ : c :: first = before ∧ last = after := by
          simpa [cut?, here, later] using found
        simpa using ih later

def occurs (pattern text : List Char) : Bool := (cut? pattern text).isSome

/-- Splitting with a number of characters still to be passed over and the part read so far,
last character first. -/
def splitFrom (separator : List Char) : Nat → List Char → List Char → List (List Char)
  | _, part, [] => [part.reverse]
  | skip + 1, part, _ :: rest => splitFrom separator skip part rest
  | 0, part, c :: rest =>
    if separator.isPrefixOf (c :: rest) then
      part.reverse :: splitFrom separator (separator.length - 1) [] rest
    else splitFrom separator 0 (c :: part) rest

/-- The parts between the occurrences of a separator that is not empty. -/
def split (separator text : List Char) : List (List Char) := splitFrom separator 0 [] text

def join (separator : List Char) : List (List Char) → List Char
  | [] => []
  | [part] => part
  | part :: rest => part ++ separator ++ join separator rest

def replaceFrom (old new : List Char) : Nat → List Char → List Char
  | _, [] => []
  | skip + 1, _ :: rest => replaceFrom old new skip rest
  | 0, c :: rest =>
    if old.isPrefixOf (c :: rest) then new ++ replaceFrom old new (old.length - 1) rest
    else c :: replaceFrom old new 0 rest

/-- The empty pattern occurs before every character and at the end. -/
def interleave (new : List Char) : List Char → List Char
  | [] => new
  | c :: rest => new ++ c :: interleave new rest

def replaceAll (old new text : List Char) : List Char :=
  if old.isEmpty then interleave new text else replaceFrom old new 0 text

def splitLines : List Char → List (List Char)
  | [] => [[]]
  | c :: rest =>
    if c = '\n' then [] :: splitLines rest
    else match splitLines rest with
      | [] => [[c]]
      | line :: lines => (c :: line) :: lines

end Stencil.Text
