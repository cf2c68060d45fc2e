import SiteIndex.Proofs.FileSystem.Joining
import SiteIndex.Settings.Validation
import SiteIndex.Sidecar

/-!
What valid settings say of their names: each is a name of its own in a path, a suffix leads from the name
of an entry to that of another, and the index has another name than its template.
-/

namespace SiteIndex

/-- The name of a news sidecar is that of what it announces, with the suffix for news. -/
theorem Sidecar.eq_of_announced {conventions : Conventions} {name target : String}
    (announced : announced? conventions name = some target) :
    name = target ++ conventions.newsSuffix := by
  have stripped := (Option.filter_eq_some_iff.mp announced).1
  simp only [stripSuffix?] at stripped
  split at stripped
  · next whole =>
    cases stripped
    rw [← String.toList_inj, ← whole]
    simp
  · cases stripped

theorem Sidecar.suffix_of_announced {conventions : Conventions} {name target : String}
    (announced : announced? conventions name = some target) :
    conventions.newsSuffix.toList <:+ name.toList :=
  ⟨target.toList, by rw [eq_of_announced announced, String.toList_append]⟩

theorem Sidecar.isName_of_announced {conventions : Conventions} {name target : String}
    (named : FileSystem.IsEntryName name) (announced : announced? conventions name = some target) :
    Path.IsName target := by
  have nonempty := (Option.filter_eq_some_iff.mp announced).2
  refine ⟨by simpa using nonempty, fun slash => named.unsplit ?_⟩
  rw [eq_of_announced announced, String.toList_append]
  exact List.mem_append_left _ slash

namespace Settings

open SiteIndex.FileSystem

def templateNames (settings : Settings) : List String :=
  [settings.templates.index, settings.templates.sitemap, settings.templates.newsfeed]

/-- The files in the root that say what is to be built. -/
def inputs (settings : Settings) : List String :=
  settings.templateNames ++ [settingsFile]

def outputNames (settings : Settings) : List String :=
  [settings.outputs.index, settings.outputs.sitemap, settings.outputs.newsfeed]

/-- The outputs are told apart from each other, from what a build reads, and from sidecars. -/
structure Apart (settings : Settings) : Prop where
  distinct : settings.outputNames.Nodup
  inputs : ∀ output ∈ settings.outputNames, output ∉ settings.inputs
  described : ∀ output ∈ settings.outputNames,
    ¬ settings.conventions.descriptionSuffix.toList <:+ output.toList
  announced : ∀ output ∈ settings.outputNames,
    ¬ settings.conventions.newsSuffix.toList <:+ output.toList

theorem unsplit_of_hasSlash {value : String} (whole : hasSlash value = false) :
    '/' ∉ value.toList := by
  intro slash
  have split : hasSlash value = true := List.any_eq_true.mpr ⟨'/', slash, by decide⟩
  rw [whole] at split
  cases split

theorem isName_of_isPlainName {name : String} (plain : isPlainName name = true) :
    Path.IsName name := by
  rw [isPlainName, Bool.and_eq_true, Bool.not_eq_true', Bool.not_eq_true'] at plain
  refine ⟨fun empty => ?_, unsplit_of_hasSlash plain.2⟩
  rw [empty] at plain
  cases plain.1

/-- A suffix begins with its dot. -/
theorem dotted {suffix : String} (suffixed : isSuffix suffix = true) :
    suffix.toList.head? = some '.' := by
  rw [isSuffix, Bool.and_eq_true, Bool.and_eq_true] at suffixed
  exact eq_of_beq suffixed.1.2

/-- A suffix behind the name of an entry makes the name of another. -/
theorem isEntryName_append {name suffix : String} (named : IsEntryName name)
    (suffixed : isSuffix suffix = true) : IsEntryName (name ++ suffix) := by
  rw [isSuffix, Bool.and_eq_true, Bool.and_eq_true, Bool.not_eq_true'] at suffixed
  obtain ⟨⟨long, dotted⟩, whole⟩ := suffixed
  have longer : (name ++ suffix).toList.length =
      name.toList.length + suffix.toList.length := by simp
  have nonempty : 0 < name.toList.length :=
    List.length_pos_iff.mpr fun empty => named.nonempty (by simpa using empty)
  have several : 2 ≤ suffix.toList.length := by
    cases letters : suffix.toList with
    | nil => simp [letters] at dotted
    | cons c rest =>
        cases rest with
        | cons => simp
        | nil =>
            have same : suffix = String.ofList [c] := by rw [← letters, String.ofList_toList]
            have dot : c = '.' := by simpa [letters] using dotted
            rw [same, dot] at long
            exact absurd long (by decide)
  refine ⟨⟨fun empty => ?_, fun slash => ?_⟩, fun same => ?_, fun same => ?_⟩
  · rw [empty] at longer
    simp at longer
    omega
  · rcases List.mem_append.mp (by simpa using slash) with slash | slash
    · exact named.unsplit slash
    · exact unsplit_of_hasSlash whole slash
  · rw [same] at longer
    simp at longer
    omega
  · rw [same] at longer
    simp at longer
    omega

section
variable {settings : Settings} (valid : settings.defect? = none)
include valid

theorem isName_of_valid {key name : String} (within : (key, name) ∈ settings.plainNames) :
    Path.IsName name := by
  unfold defect? at valid
  split at valid
  · cases valid
  · next plain =>
    have named := List.find?_eq_none.mp plain _ within
    exact isName_of_isPlainName (by simpa using named)

theorem isName_output {output : String} (within : output ∈ settings.outputNames) :
    Path.IsName output := by
  have keyed : ∃ key, (key, output) ∈ settings.plainNames := by
    simp only [outputNames, List.mem_cons, List.not_mem_nil, or_false] at within
    rcases within with rfl | rfl | rfl
    · exact ⟨"outputs.index", by simp [plainNames]⟩
    · exact ⟨"outputs.sitemap", by simp [plainNames]⟩
    · exact ⟨"outputs.newsfeed", by simp [plainNames]⟩
  exact isName_of_valid valid keyed.choose_spec

theorem isName_input {input : String} (within : input ∈ settings.inputs) :
    Path.IsName input := by
  simp only [inputs, templateNames, List.mem_append, List.mem_cons, List.not_mem_nil,
    or_false] at within
  rcases within with (rfl | rfl | rfl) | rfl
  · exact isName_of_valid valid (by simp [plainNames] : ("templates.index", _) ∈ _)
  · exact isName_of_valid valid (by simp [plainNames] : ("templates.sitemap", _) ∈ _)
  · exact isName_of_valid valid (by simp [plainNames] : ("templates.newsfeed", _) ∈ _)
  · exact ⟨by decide, by decide⟩

theorem isSuffix_of_valid {key suffix : String} (within : (key, suffix) ∈ settings.suffixes) :
    isSuffix suffix = true := by
  unfold defect? at valid
  split at valid
  · cases valid
  · split at valid
    · cases valid
    · next suffixed => simpa using List.find?_eq_none.mp suffixed _ within

theorem isSuffix_description : isSuffix settings.conventions.descriptionSuffix = true :=
  isSuffix_of_valid valid (by simp [suffixes] : ("conventions.description_suffix", _) ∈ _)

theorem isSuffix_icon : isSuffix settings.conventions.iconSuffix = true :=
  isSuffix_of_valid valid (by simp [suffixes] : ("conventions.icon_suffix", _) ∈ _)

theorem index_ne_template : settings.outputs.index ≠ settings.templates.index := by
  intro same
  unfold defect? at valid
  split at valid
  · cases valid
  · split at valid
    · cases valid
    · rw [same, if_pos rfl] at valid
      split at valid <;> cases valid

end

end Settings
end SiteIndex
