import Mathlib.Data.List.Infix
import Stencil.Module.Builder

/-! Paths of sources and of artifacts. Main statement: two lookups share a source path exactly if they
share an artifact path, if the extension of sources is one part of a path that is no relative step. -/
namespace Stencil

/-- An extension that always ends in the last name of a path. -/
structure PlainExtension (extension : String) : Prop where
  inner : Path.separator ∉ extension.toList
  step : extension ∉ ["", ".", ".."]

theorem plain_artifactExtension : PlainExtension artifactExtension := ⟨by decide, by decide⟩

theorem PlainExtension.ne {extension : String} (plain : PlainExtension extension) {text : List Char}
    (step : String.ofList text ∈ ["", ".", ".."]) : extension.toList ≠ text := by
  rintro rfl
  rw [String.ofList_toList] at step
  exact plain.step step

/-- A plain extension makes a plain name of each that is not more than one part of a path. -/
theorem PlainExtension.behind {extension name : String} (plain : PlainExtension extension)
    (inner : Path.separator ∉ name.toList) : PlainExtension (name ++ extension) where
  inner := by
    rw [String.toList_append, List.mem_append]
    exact not_or.mpr ⟨inner, plain.inner⟩
  step := by
    intro relative
    have steps : ∀ step ∈ ["", ".", ".."], ∀ text ∈ step.toList.tails, String.ofList text ∈ ["", ".", ".."] := by
      decide
    have ends : extension.toList <:+ (name ++ extension).toList := by
      rw [String.toList_append]
      exact List.suffix_append _ _
    exact plain.ne (steps _ relative _ ((List.mem_tails _ _).mpr ends)) rfl

namespace Path

theorem partsOf_eq_singleton {text : List Char} (inner : separator ∉ text) : partsOf text = [text] := by
  induction text with
  | nil => rfl
  | cons c rest ih =>
    have differs : c ≠ separator := fun same => inner (by simp [same])
    rw [partsOf, if_neg differs, ih (List.not_mem_of_not_mem_cons inner)]

theorem partsOf_append (front : List Char) : ∃ parts last, ∀ back, separator ∉ back →
    partsOf (front ++ back) = parts ++ [last ++ back] := by
  induction front with
  | nil => exact ⟨[], [], fun back inner => partsOf_eq_singleton inner⟩
  | cons c front ih =>
    obtain ⟨parts, last, splits⟩ := ih
    by_cases same : c = separator
    · refine ⟨[] :: parts, last, fun back inner => ?_⟩
      rw [List.cons_append, partsOf, if_pos same, splits back inner, List.cons_append]
    · cases parts with
      | nil =>
        refine ⟨[], c :: last, fun back inner => ?_⟩
        rw [List.cons_append, partsOf, if_neg same, splits back inner]
        rfl
      | cons part parts =>
        refine ⟨(c :: part) :: parts, last, fun back inner => ?_⟩
        rw [List.cons_append, partsOf, if_neg same, splits back inner]
        rfl

theorem partsOf_ne_nil (text : List Char) : partsOf text ≠ [] := by
  obtain ⟨parts, last, splits⟩ := partsOf_append text
  have whole := splits [] List.not_mem_nil
  rw [List.append_nil] at whole
  simp [whole]

theorem partsOf_append_separator (front back : List Char) :
    partsOf (front ++ separator :: back) = partsOf front ++ partsOf back := by
  induction front with
  | nil => simp [partsOf]
  | cons c front ih =>
    rw [List.cons_append, partsOf, partsOf, ih]
    split
    next => rfl
    next =>
      cases whole : partsOf front with
      | nil => exact absurd whole (partsOf_ne_nil front)
      | cons part parts => rfl

/-- Components without those that say nothing, of parts that are not empty. -/
def reduced (absolute : Bool) (parts : List Component) : List Component :=
  if absolute then .root :: parts.filter (· ≠ .current)
  else match parts with
    | .current :: rest => .current :: rest.filter (· ≠ .current)
    | parts => parts.filter (· ≠ .current)

theorem components_eq_reduced (path : Path) : path.components =
    reduced path.isAbsolute (((partsOf path.text.toList).filter (· ≠ [])).map componentOf) := rfl

theorem reduced_append (absolute : Bool) (parts : List Component) (name : String) :
    reduced absolute (parts ++ [.name name]) = reduced absolute parts ++ [.name name] := by
  cases absolute with
  | true => simp [reduced]
  | false =>
    cases parts with
    | nil => simp [reduced]
    | cons part parts => cases part <;> simp [reduced]

theorem componentOf_append {extension : String} (plain : PlainExtension extension) (part : List Char) :
    componentOf (part ++ extension.toList) = .name (String.ofList (part ++ extension.toList)) := by
  have notCurrent (part : List Char) : part ++ extension.toList ≠ ['.'] := by
    intro same
    cases part with
    | nil => exact plain.ne (by decide) same
    | cons c rest => exact plain.ne (by decide) (List.append_eq_nil_iff.mp (List.cons.inj same).2).2
  have notParent : part ++ extension.toList ≠ ['.', '.'] := by
    intro same
    cases part with
    | nil => exact plain.ne (by decide) same
    | cons c rest => exact notCurrent rest (List.cons.inj same).2
  rw [componentOf, if_neg (notCurrent part), if_neg notParent]

theorem head?_append {extension : String} (plain : PlainExtension extension) (text : List Char) :
    (text ++ extension.toList).head? = some separator ↔ text.head? = some separator := by
  cases text with
  | nil =>
    refine ⟨fun first => ?_, fun first => by cases first⟩
    exact absurd (List.mem_of_mem_head? first) plain.inner
  | cons c rest => rfl

/-- A plain extension ends in the last name, and changes nothing before it. -/
theorem components_append (text : List Char) : ∃ front last, ∀ {path : Path} {extension : String},
    PlainExtension extension → path.text.toList = text ++ extension.toList →
      path.components = front ++ [.name (String.ofList (last ++ extension.toList))] := by
  obtain ⟨parts, last, splits⟩ := partsOf_append text
  refine ⟨reduced (text.head? = some separator) ((parts.filter (· ≠ [])).map componentOf), last, ?_⟩
  intro path extension plain same
  have absolute : path.isAbsolute = decide (text.head? = some separator) := by
    rw [isAbsolute, same]
    exact decide_eq_decide.mpr (head?_append plain text)
  have whole : last ++ extension.toList ≠ [] := fun empty =>
    plain.ne (by decide) (List.append_eq_nil_iff.mp empty).2
  rw [components_eq_reduced, absolute, same, splits _ plain.inner, List.filter_append, List.map_append,
    List.filter_cons_of_pos (by simp [whole]), List.filter_nil, List.map_singleton,
    componentOf_append plain, reduced_append]

theorem toList_join (directory : Path) (name : String) : ∃ text, ∀ {extension : String},
    PlainExtension extension →
      (directory.join (name ++ extension)).text.toList = text ++ extension.toList := by
  by_cases absolute : name.toList.head? = some separator
  · refine ⟨name.toList, fun plain => ?_⟩
    have first := (head?_append plain name.toList).mpr absolute
    rw [← String.toList_append] at first
    rw [join, isAbsolute, if_pos (decide_eq_true first), String.toList_append]
  · have relative {extension : String} (plain : PlainExtension extension) :
        ¬ isAbsolute ⟨name ++ extension⟩ = true := by
      rw [isAbsolute, decide_eq_true_eq, String.toList_append]
      exact fun first => absolute ((head?_append plain name.toList).mp first)
    cases last : directory.text.toList.getLast? with
    | none =>
      refine ⟨name.toList, fun plain => ?_⟩
      rw [join, if_neg (relative plain), last, String.toList_append]
    | some c =>
      by_cases same : c = separator
      · refine ⟨directory.text.toList ++ name.toList, fun plain => ?_⟩
        rw [join, if_neg (relative plain), last]
        simp [same]
      · refine ⟨directory.text.toList ++ '/' :: name.toList, fun plain => ?_⟩
        rw [join, if_neg (relative plain), last]
        simp [same]

theorem partsOf_join {name : String} (inner : separator ∉ name.toList) (directory : Path) :
    ∃ parts, partsOf (directory.join name).text.toList = parts ++ [name.toList] := by
  have relative : ¬ isAbsolute ⟨name⟩ = true := by
    rw [isAbsolute, decide_eq_true_eq]
    exact fun first => inner (List.mem_of_mem_head? first)
  have behind (front : List Char) : partsOf (front ++ separator :: name.toList) = partsOf front ++ [name.toList] := by
    rw [partsOf_append_separator, partsOf_eq_singleton inner]
  rw [join, if_neg relative]
  cases last : directory.text.toList.getLast? with
  | none => exact ⟨[], partsOf_eq_singleton inner⟩
  | some c =>
    dsimp only
    by_cases same : c = separator
    · obtain ⟨before, split⟩ := List.getLast?_eq_some_iff.mp last
      have whole : (directory.text ++ name).toList = before ++ separator :: name.toList := by
        rw [String.toList_append, split, same, List.append_assoc, List.singleton_append]
      exact ⟨partsOf before, by rw [if_pos same, whole, behind]⟩
    · have whole : (directory.text ++ "/" ++ name).toList = directory.text.toList ++ separator :: name.toList := by
        simp [separator]
      exact ⟨partsOf directory.text.toList, by rw [if_neg same, whole, behind]⟩

/-- A name that is one part of a path is the last component behind every directory. -/
theorem components_join {name : String} (plain : PlainExtension name) (directory : Path) :
    ∃ front, (directory.join name).components = front ++ [.name name] := by
  obtain ⟨parts, split⟩ := partsOf_join plain.inner directory
  have whole : name.toList ≠ [] := plain.ne (by decide)
  have single := componentOf_append plain []
  rw [List.nil_append, String.ofList_toList] at single
  rw [components_eq_reduced, split, List.filter_append, List.map_append, List.filter_cons_of_pos (by simp [whole]),
    List.filter_nil, List.map_singleton, single, reduced_append]
  exact ⟨_, rfl⟩

/-- A plain extension tells the path of a name from its path with another one. -/
theorem join_components_ne {extension other : String} (plain : PlainExtension extension)
    (otherPlain : PlainExtension other) (differs : extension ≠ other) (directory : Path) (name : String) :
    (directory.join (name ++ extension)).components ≠ (directory.join (name ++ other)).components := by
  obtain ⟨text, joined⟩ := toList_join directory name
  obtain ⟨front, last, split⟩ := components_append text
  intro same
  rw [split plain (joined plain), split otherPlain (joined otherPlain)] at same
  have names := List.singleton_inj.mp (List.append_cancel_left same)
  have lasts := String.ofList_injective (Component.name.inj names)
  exact differs (String.toList_inj.mp (List.append_cancel_left lasts))

/-- Two names in directories give the same path with one plain extension exactly if they do with another. -/
theorem join_components_iff {extension other : String} (plain : PlainExtension extension)
    (otherPlain : PlainExtension other) (directory directory' : Path) (name name' : String) :
    (directory.join (name ++ extension)).components = (directory'.join (name' ++ extension)).components ↔
      (directory.join (name ++ other)).components = (directory'.join (name' ++ other)).components := by
  obtain ⟨text, joined⟩ := toList_join directory name
  obtain ⟨text', joined'⟩ := toList_join directory' name'
  obtain ⟨front, last, split⟩ := components_append text
  obtain ⟨front', last', split'⟩ := components_append text'
  have same {extension : String} (plain : PlainExtension extension) :
      (directory.join (name ++ extension)).components = (directory'.join (name' ++ extension)).components ↔
        front = front' ∧ last = last' := by
    rw [split plain (joined plain), split' plain (joined' plain)]
    constructor
    · intro equal
      obtain ⟨fronts, names⟩ := List.append_inj' equal rfl
      have lasts := String.ofList_injective (Component.name.inj (List.cons.inj names).1)
      exact ⟨fronts, List.append_cancel_right lasts⟩
    · rintro ⟨rfl, rfl⟩
      rfl
  rw [same plain, same otherPlain]

end Path
end Stencil
