import Stencil.Proofs.Module.Frame
import Stencil.Proofs.Module.Freshness

/-! What lookups do to the files that sources are read from. Main statement: calls change no file but those where the
artifacts of their lookups are, so a source is safe unless its path is the one of an artifact, as it is with the
extension of artifacts. -/
namespace Stencil

variable {σ : Type} [Storage σ]

/-- A lookup that leaves its artifact where it found its source. -/
structure Visit.Overwrites (files : σ → List Component → Option (List Char)) (visit : Visit σ) : Prop where
  shared : visit.source.components = visit.artifact.components
  persist : visit.shop.builder.options.persist = true
  written : ∃ loaded, visit.module? = some loaded ∧ files visit.after.storage visit.source.components =
    some (Artifact.text visit.source.text loaded.module.fingerprint loaded.module.template.source
      loaded.module.template.listing)

section Writing

variable {files : σ → List Component → Option (List Char)}

theorem Visit.files_after (faithful : Faithful files) (visit : Visit σ) {key : List Component}
    (apart : visit.shop.builder.options.persist = true → visit.artifact.components ≠ key) :
    files visit.after.storage key = files visit.shop.storage key := by
  rcases visit.storage_after with same | ⟨persist, _, _, _, wrote⟩
  · rw [same]
  · exact (faithful.write wrote).2 key (apart persist).symm

/-- A lookup leaves the source that it found as it was, or its own artifact in its place. -/
theorem Visit.source_after (faithful : Faithful files) {visit : Visit σ} {source : List Char}
    (found : visit.found = .ok (some source)) :
    files visit.after.storage visit.source.components = some source ∨ visit.Overwrites files := by
  have before := stored_of_read faithful found
  rcases visit.storage_after with same | ⟨persist, _, loaded, gives, wrote⟩
  · exact .inl (by rw [same, before])
  · obtain ⟨here, elsewhere⟩ := faithful.write wrote
    by_cases shared : visit.source.components = visit.artifact.components
    · exact .inr ⟨shared, persist, loaded, gives, by rw [shared, here]⟩
    · exact .inl (by rw [elsewhere _ shared, before])

/-- Calls leave the files as they were where no lookup has its artifact. -/
theorem Workshop.files_ending (faithful : Faithful files) (shop : Workshop σ) (calls : List Call)
    {key : List Component} (apart : shop.builder.options.persist = true →
      ∀ visit ∈ shop.log (calls.map .call), visit.artifact.components ≠ key) :
    files (shop.ending (calls.map .call)).storage key = files shop.storage key := by
  have options := shop.options_of_calls calls
  exact ((shop.course_calls calls).preserves (fun next => files next.storage key = files shop.storage key)
    (fun widens same => by rw [widens.storage, same])
    (fun {visit} member same => by
      rw [visit.files_after faithful fun persist => ?_, same]
      exact apart (by rw [← options visit member, persist]) visit member)
    rfl).2

end Writing

/-- What calls do to sources. A lookup leaves the source that it found as it was, unless its artifact goes to the same
place. Calls leave every file as it was where no lookup has its artifact. With a plain extension other than that of
artifacts no lookup writes over its source, and if neither extension ends in the other one, calls leave all sources as
they were. -/
structure Workshop.SourcesKept (files : σ → List Component → Option (List Char)) (shop : Workshop σ) : Prop where
  found : ∀ directory name source, Visit.found ⟨shop, directory, name⟩ = .ok (some source) →
    files (Visit.after ⟨shop, directory, name⟩).storage (shop.builder.sourcePath directory name).components =
        some source ∨ Visit.Overwrites files ⟨shop, directory, name⟩
  elsewhere : ∀ (calls : List Call) key, (shop.builder.options.persist = true →
      ∀ visit ∈ shop.log (calls.map .call), visit.artifact.components ≠ key) →
    files (shop.ending (calls.map .call)).storage key = files shop.storage key
  distinct : PlainExtension shop.builder.options.extension → shop.builder.options.extension ≠ artifactExtension →
    ∀ directory name, ¬ Visit.Overwrites files ⟨shop, directory, name⟩
  apart : PlainExtension shop.builder.options.extension →
    ¬ shop.builder.options.extension.toList <:+ artifactExtension.toList →
      ¬ artifactExtension.toList <:+ shop.builder.options.extension.toList → ∀ (calls : List Call) directory name,
        files (shop.ending (calls.map .call)).storage (shop.builder.sourcePath directory name).components =
          files shop.storage (shop.builder.sourcePath directory name).components

theorem source_files_kept {files : σ → List Component → Option (List Char)} (faithful : Faithful files)
    (shop : Workshop σ) : shop.SourcesKept files where
  found := by
    intro directory name source found
    exact Visit.source_after faithful found
  elsewhere := by
    intro calls key
    exact shop.files_ending faithful calls
  distinct := by
    intro plain differs directory name overwrites
    exact Path.join_components_ne plain plain_artifactExtension differs directory name overwrites.shared
  apart := by
    intro plain shorter longer calls directory name
    refine shop.files_ending faithful calls fun _ visit _ same => ?_
    exact Path.not_isArtifact_join plain shorter longer directory name ⟨visit.directory, visit.name, same.symm⟩

namespace Memory

/-- A page in a workshop whose sources have the given extension. -/
def page (extension : String) (text : List Char) : Workshop Memory :=
  ⟨.new ⟨extension, true, true⟩, Memory.empty.insert (Path.join ⟨"d"⟩ ("x" ++ extension)) text⟩

theorem source_files_kept_of_page :
    Visit.found ⟨page ".prep" "one".toList, ⟨"d"⟩, "x"⟩ = .ok (some "one".toList) ∧
    stored (Visit.after ⟨page ".prep" "one".toList, ⟨"d"⟩, "x"⟩).storage (Path.components ⟨"d/x.prep"⟩) =
      some "one".toList ∧
    ∀ calls : List Call, stored ((page ".prep" "one".toList).ending (calls.map .call)).storage
      (Path.components ⟨"d/x.prep"⟩) = some "one".toList := by
  have kept := source_files_kept faithful (page ".prep" "one".toList)
  have plain : PlainExtension ".prep" := ⟨by decide, by decide⟩
  have found : Visit.found ⟨page ".prep" "one".toList, ⟨"d"⟩, "x"⟩ = .ok (some "one".toList) := rfl
  have unwritten := kept.distinct plain (by decide) ⟨"d"⟩ "x"
  exact ⟨found, (kept.found ⟨"d"⟩ "x" _ found).resolve_right unwritten,
    fun calls => kept.apart plain (by decide) (by decide) calls ⟨"d"⟩ "x"⟩

/-- With the extension of artifacts a lookup leaves an artifact in place of the source that it found. -/
theorem source_file_lost : Visit.found ⟨page ".generated" "one".toList, ⟨"d"⟩, "x"⟩ = .ok (some "one".toList) ∧
    (Visit.module? ⟨page ".generated" "one".toList, ⟨"d"⟩, "x"⟩).isSome ∧
    stored (Visit.after ⟨page ".generated" "one".toList, ⟨"d"⟩, "x"⟩).storage (Path.components ⟨"d/x.generated"⟩) ≠
      some "one".toList := by
  refine ⟨rfl, ?_⟩
  decide +kernel

end Memory

end Stencil
