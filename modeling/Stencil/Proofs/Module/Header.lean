import Stencil.Proofs.Module.Artifact
import Stencil.Proofs.Module.Visit

/-! Headers of artifacts. Main statement: the text of an artifact records what was written to it, and whatever text is
read as an artifact, its source is the text of the recorded length behind the line that gives the length. -/
namespace Stencil

theorem Text.takeBytes?_eq_some {length : Nat} {text taken : List Char} :
    takeBytes? length text = some taken ↔ byteLength taken = length ∧ taken <+: text := by
  constructor
  · intro take
    induction text generalizing length taken with
    | nil =>
      cases length with
      | zero => cases take; exact ⟨rfl, List.nil_prefix⟩
      | succ length => cases take
    | cons c rest ih =>
      cases length with
      | zero => cases take; exact ⟨rfl, List.nil_prefix⟩
      | succ length =>
        rw [takeBytes?] at take
        split at take
        next fits =>
          obtain ⟨others, inner, rfl⟩ := Option.map_eq_some_iff.mp take
          obtain ⟨size, starts⟩ := ih inner
          refine ⟨?_, List.cons_prefix_cons.mpr ⟨rfl, starts⟩⟩
          rw [byteLength, size]
          omega
        next => cases take
  · rintro ⟨rfl, rest, rfl⟩
    exact takeBytes?_append taken rest

theorem Text.splitLines_flatMap_append {lines : List (List Char)} (whole : ∀ line ∈ lines, '\n' ∉ line)
    (text : List Char) : splitLines (lines.flatMap (· ++ ['\n']) ++ text) = lines ++ splitLines text := by
  induction lines with
  | nil => rfl
  | cons line lines ih =>
    obtain ⟨first, later⟩ := List.forall_mem_cons.mp whole
    rw [List.flatMap_cons, List.append_assoc, List.append_assoc, List.singleton_append,
      splitLines_append_line first, ih later, List.cons_append]

theorem Text.join_append_cons (lines : List (List Char)) (line : List Char) (rest : List (List Char)) :
    join ['\n'] (lines ++ line :: rest) = lines.flatMap (· ++ ['\n']) ++ join ['\n'] (line :: rest) := by
  induction lines with
  | nil => rfl
  | cons first lines ih =>
    rw [List.flatMap_cons, List.append_assoc, ← ih]
    cases lines <;> rfl

namespace Artifact

def fingerprintIn? (line : List Char) : Option (List Char) := labelled? fingerprintLabel (Text.trimEnd line)

def lengthIn? (line : List Char) : Option (List Char) := labelled? lengthLabel (Text.trimEnd line)

/-- Lines that start with a number sign, none of which gives a length. -/
def Header (lines : List (List Char)) : Prop :=
  ∀ line ∈ lines, '\n' ∉ line ∧ line.head? = some '#' ∧ lengthIn? line = none

def lastFingerprint? (header : List (List Char)) : Option (List Char) := (header.filterMap fingerprintIn?).getLast?

/-- A text that records a fingerprint and a source: behind a header, whose last fingerprint counts, a line gives the
length in bytes of the source, which starts right behind that line. -/
inductive Records (text fingerprint source : List Char) : Prop
  | mk (header : List (List Char)) (line count after : List Char) (start : Header header)
      (last : lastFingerprint? header = some fingerprint)
      (whole : '\n' ∉ line) (marked : line.head? = some '#') (gives : lengthIn? line = some count)
      (length : readCount? count = some (Text.byteLength source))
      (place : text = header.flatMap (· ++ ['\n']) ++ line ++ '\n' :: (source ++ after) ∨
        text = header.flatMap (· ++ ['\n']) ++ line ∧ source = [])

variable {line count : List Char} {found : Option (List Char)}

theorem labels_apart (line : List Char) (gives : lengthIn? line = some count) : fingerprintIn? line = none := by
  rw [lengthIn?, labelled?] at gives
  rw [fingerprintIn?, labelled?]
  split at gives
  next starts =>
    obtain ⟨rest, same⟩ := List.isPrefixOf_iff_prefix.mp starts
    rw [← same]
    rfl
  next => cases gives

theorem fromLines_of_length (marked : line.head? = some '#') (gives : lengthIn? line = some count)
    (found : Option (List Char)) (rest : List (List Char)) : fromLines found (line :: rest) =
      found.map (⟨·, (readCount? count).bind fun length => Text.takeBytes? length (Text.join ['\n'] rest)⟩) := by
  have other := labels_apart line gives
  rw [fingerprintIn?] at other
  rw [lengthIn?] at gives
  rw [fromLines, if_pos marked]
  simp only [other, gives]

theorem fromLines_of_none (marked : line.head? = some '#') (silent : lengthIn? line = none)
    (found : Option (List Char)) (rest : List (List Char)) :
    fromLines found (line :: rest) = fromLines ((fingerprintIn? line).or found) rest := by
  rw [lengthIn?] at silent
  rw [fromLines, if_pos marked, fingerprintIn?]
  cases given : labelled? fingerprintLabel (Text.trimEnd line) with
  | some fingerprint => simp only [given, Option.some_or]
  | none => simp only [given, silent, Option.none_or]

theorem lastFingerprint?_cons (line : List Char) (header : List (List Char)) (found : Option (List Char)) :
    (lastFingerprint? (line :: header)).or found = (lastFingerprint? header).or ((fingerprintIn? line).or found) := by
  unfold lastFingerprint?
  cases own : fingerprintIn? line with
  | none => rw [List.filterMap_cons_none own, Option.none_or]
  | some fingerprint =>
    rw [List.filterMap_cons_some own, List.getLast?_cons]
    cases (header.filterMap fingerprintIn?).getLast? <;> rfl

theorem fromLines_of_header {header : List (List Char)} (start : Header header) (found : Option (List Char))
    (rest : List (List Char)) :
    fromLines found (header ++ rest) = fromLines ((lastFingerprint? header).or found) rest := by
  induction header generalizing found with
  | nil => rfl
  | cons line header ih =>
    obtain ⟨⟨_, marked, silent⟩, later⟩ := List.forall_mem_cons.mp start
    rw [List.cons_append, fromLines_of_none marked silent, ih later, lastFingerprint?_cons]

/-- What lines record: a header and the line that gives the length are at their start. -/
theorem fromLines_eq_some {fingerprint source : List Char} {lines : List (List Char)}
    (plain : ∀ line ∈ lines, '\n' ∉ line) (records : fromLines found lines = some ⟨fingerprint, some source⟩) :
    ∃ header line rest count, lines = header ++ line :: rest ∧ Header header ∧ line.head? = some '#' ∧
      lengthIn? line = some count ∧ (lastFingerprint? header).or found = some fingerprint ∧
      readCount? count = some (Text.byteLength source) ∧ source <+: Text.join ['\n'] rest := by
  induction lines generalizing found with
  | nil =>
    cases found <;> cases records
  | cons line lines ih =>
    obtain ⟨whole, later⟩ := List.forall_mem_cons.mp plain
    by_cases marked : line.head? = some '#'
    · cases gives : lengthIn? line with
      | some count =>
        rw [fromLines_of_length marked gives] at records
        obtain ⟨_, rfl, same⟩ := Option.map_eq_some_iff.mp records
        obtain ⟨rfl, taken⟩ := Artifact.mk.inj same
        obtain ⟨length, read, taken⟩ := Option.bind_eq_some_iff.mp taken
        obtain ⟨rfl, starts⟩ := Text.takeBytes?_eq_some.mp taken
        exact ⟨[], line, lines, count, rfl, List.forall_mem_nil _, marked, gives, rfl, read, starts⟩
      | none =>
        rw [fromLines_of_none marked gives] at records
        obtain ⟨header, last, rest, count, rfl, start, endMarked, endGives, given, read, starts⟩ := ih later records
        refine ⟨line :: header, last, rest, count, rfl, ?_, endMarked, endGives, ?_, read, starts⟩
        · exact List.forall_mem_cons.mpr ⟨⟨whole, marked, gives⟩, start⟩
        · rw [lastFingerprint?_cons, given]
    · rw [fromLines, if_neg marked] at records
      cases found <;> cases records

theorem records_of_parse? {text fingerprint source : List Char}
    (parsed : parse? text = some ⟨fingerprint, some source⟩) : Records text fingerprint source := by
  obtain ⟨header, line, rest, count, lines, start, marked, gives, last, read, after, same⟩ :=
    fromLines_eq_some (fun line => Text.not_mem_of_mem_splitLines) parsed
  have whole : '\n' ∉ line := @Text.not_mem_of_mem_splitLines text line (by simp [lines])
  have joined := Text.join_splitLines text
  rw [lines, Text.join_append_cons] at joined
  rw [Option.or_none] at last
  refine .mk header line count after start last whole marked gives read ?_
  cases rest with
  | nil =>
    have empty : source = [] := (List.append_eq_nil_iff.mp same).1
    exact .inr ⟨joined.symm, empty⟩
  | cons next rest =>
    refine .inl ?_
    rw [← joined, same, Text.join]
    · simp
    · simp

theorem parse?_of_records {text fingerprint source : List Char} (records : Records text fingerprint source) :
    parse? text = some ⟨fingerprint, some source⟩ := by
  obtain ⟨header, line, count, after, start, last, whole, marked, gives, length, place⟩ := records
  have plain : ∀ line ∈ header, '\n' ∉ line := fun line member => (start line member).1
  have lines : ∃ rest, Text.splitLines text = header ++ line :: rest ∧ source <+: Text.join ['\n'] rest := by
    rcases place with rfl | ⟨rfl, rfl⟩
    · refine ⟨Text.splitLines (source ++ after), ?_, ?_⟩
      · rw [List.append_assoc, Text.splitLines_flatMap_append plain, Text.splitLines_append_line whole]
      · rw [Text.join_splitLines]
        exact List.prefix_append source after
    · exact ⟨[], by rw [Text.splitLines_flatMap_append plain, Text.splitLines_of_not_mem whole], List.nil_prefix⟩
  obtain ⟨rest, lines, starts⟩ := lines
  have taken : Text.takeBytes? (Text.byteLength source) (Text.join ['\n'] rest) = some source :=
    Text.takeBytes?_eq_some.mpr ⟨rfl, starts⟩
  rw [parse?, lines, fromLines_of_header start, Option.or_none, last, fromLines_of_length marked gives, length]
  simp only [Option.map_some, Option.bind_some, taken]

/-- What is written as an artifact is read back, whatever the source and the listing contain, and so is what a builder
writes. And whatever text is read as an artifact with a source, the source is what stands behind the line that gives
its length in bytes. -/
theorem artifact_reads_back {σ : Type} [Storage σ] :
    (∀ {path : String} {fingerprint : List Char}, '\n' ∉ path.toList → fingerprint ≠ [] →
      (∀ c ∈ fingerprint, Text.isBlank c = false) → ∀ source listing,
        parse? (text path fingerprint source listing) = some ⟨fingerprint, some source⟩) ∧
      (∀ {shop : Workshop σ} {directory path : Path} {module : Module} {storage : σ},
        shop.builder.options.persist = true → '\n' ∉ path.text.toList → module.fingerprint ≠ [] →
        (∀ c ∈ module.fingerprint, Text.isBlank c = false) → shop.persist directory path module = .ok storage →
        ∃ written, Storage.write shop.storage (Builder.artifactPath directory module.name) written = .ok storage ∧
          parse? written = some ⟨module.fingerprint, some module.template.source⟩) ∧
      ∀ text fingerprint source,
        parse? text = some ⟨fingerprint, some source⟩ ↔ Records text fingerprint source := by
  refine ⟨parse?_text, ?_, fun _ _ _ => ⟨records_of_parse?, parse?_of_records⟩⟩
  intro shop directory path module storage persist unbroken any sharp ok
  have written := Workshop.persist_eq_ok ok
  rw [if_pos persist] at written
  exact ⟨_, written, parse?_text unbroken any sharp _ _⟩

def lookalike : Module := ⟨"x", "ab12".toList, ⟨"# source bytes: 3\né".toList, [.literal "# fingerprint: 00".toList]⟩⟩

theorem artifact_reads_back_of_lookalike :
    parse? (text "d/x.prep" lookalike.fingerprint lookalike.template.source lookalike.template.listing) =
        some ⟨lookalike.fingerprint, some lookalike.template.source⟩ ∧
      (∃ storage written,
        (⟨.new .default, .empty⟩ : Workshop Memory).persist ⟨"d"⟩ ⟨"d/x.prep"⟩ lookalike = .ok storage ∧
        Storage.write Memory.empty (Builder.artifactPath ⟨"d"⟩ lookalike.name) written = .ok storage ∧
        parse? written = some ⟨lookalike.fingerprint, some lookalike.template.source⟩) ∧
      Records "# fingerprint:  a \n#\n# source bytes: +2\r\né# fingerprint: b".toList "a".toList "é".toList := by
  have unbroken : '\n' ∉ "d/x.prep".toList := by decide
  have any : lookalike.fingerprint ≠ [] := by decide
  have all : lookalike.fingerprint.all (! Text.isBlank ·) = true := by decide
  have sharp : ∀ c ∈ lookalike.fingerprint, Text.isBlank c = false := by simpa using all
  obtain ⟨texts, writes, reads⟩ := @artifact_reads_back Memory _
  refine ⟨texts unbroken any sharp _ _, ?_, (reads _ _ _).mp (by decide +kernel)⟩
  have persisted : (⟨.new .default, .empty⟩ : Workshop Memory).persist ⟨"d"⟩ ⟨"d/x.prep"⟩ lookalike =
    .ok (Memory.empty.insert _ _) := rfl
  obtain ⟨written, put, parsed⟩ := writes rfl unbroken any sharp persisted
  exact ⟨_, written, persisted, put, parsed⟩

end Artifact
end Stencil
