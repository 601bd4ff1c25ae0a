import DartLayers.Plan
import DartLayers.Proofs.Merge.Series
import DartLayers.Proofs.Steps
import DartLayers.Proofs.Text.Names

/-!
# DartLayers — the planned paths

A plan has fifteen files, whatever the feature and the payload. Their paths lead down from the output
directory by names only and to different places, so that no file of a plan can stand in another
one's way.

* **`plannedParts`** — the parts of the planned paths, by the name of the feature.
* **`planArtifacts_paths`** — a plan has these paths.
* **`planned_apart`** — they lead to different places.
-/

namespace DartLayers

/-! ## Segments -/

/-- A part that stands for itself in a written path. -/
def IsSegment (part : String) : Prop :=
  IsName part ∧ '/' ∉ part.toList

instance (part : String) : Decidable (IsSegment part) :=
  inferInstanceAs (Decidable (_ ∧ _))

/-- A text is a segment if it starts like a name and has no slash. -/
theorem isSegment_of_head {part : String} {c : Char} {rest : List Char}
    (hpart : part.toList = c :: rest) (hdot : c ≠ '.') (hslash : '/' ∉ part.toList) :
    IsSegment part := by
  refine ⟨⟨?_, ?_, ?_⟩, hslash⟩ <;> rintro rfl
  · exact absurd hpart.symm (List.cons_ne_nil c rest)
  · exact hdot (List.cons.inj hpart).1.symm
  · exact hdot (List.cons.inj hpart).1.symm

/-- A word with something behind it is a segment. -/
theorem IsWord.append_isSegment {name : String} (h : IsWord name) {suffix : String}
    (hsuffix : '/' ∉ suffix.toList) : IsSegment (name ++ suffix) := by
  obtain ⟨c, rest, hname⟩ := List.exists_cons_of_ne_nil
    (fun hnil : name.toList = [] => h.1 (String.toList_eq_nil_iff.1 hnil))
  have happend : (name ++ suffix).toList = c :: (rest ++ suffix.toList) := by simp [hname]
  refine isSegment_of_head happend ?_ ?_
  · rintro rfl
    have hdot := h.2 '.' (by simp [hname])
    revert hdot
    decide
  · rw [String.toList_append, List.mem_append, not_or]
    refine ⟨fun hmem => ?_, hsuffix⟩
    have hslash := h.2 '/' hmem
    revert hslash
    decide

theorem IsWord.isSegment {name : String} (h : IsWord name) : IsSegment name := by
  have happend : IsSegment (name ++ "") := h.append_isSegment (by decide)
  rwa [String.append_empty] at happend

/-- A segment that starts a text leaves it without slashes in front. -/
theorem IsSegment.rootOf_append {part : String} (h : IsSegment part) (rest : List Char) :
    PathName.rootOf (part.toList ++ rest) = "" := by
  obtain ⟨c, others, hpart⟩ := List.exists_cons_of_ne_nil
    (fun hnil : part.toList = [] => h.1.1 (String.toList_eq_nil_iff.1 hnil))
  have hc : c ≠ '/' := by
    rintro rfl
    exact h.2 (by simp [hpart])
  simp [PathName.rootOf, hpart, hc]

/-- A part that is kept by reading a path: it is not empty, no single dot, and holds no slash. -/
def IsStep (part : String) : Prop :=
  part ≠ "" ∧ part ≠ "." ∧ '/' ∉ part.toList

theorem IsSegment.isStep {part : String} (h : IsSegment part) : IsStep part :=
  ⟨h.1.1, h.1.2.1, h.2⟩

/-- Parts joined by slashes are read back. -/
theorem pathParts_intercalate {parts : List String} (hne : parts ≠ [])
    (h : ∀ part ∈ parts, IsStep part) : pathParts ("/".intercalate parts) = parts := by
  have hkept : (parts.map String.toList).filter (fun part => part != [] && part != ['.']) =
      parts.map String.toList := by
    rw [List.filter_eq_self, List.forall_mem_map]
    intro part hpart
    obtain ⟨hempty, hdot, -⟩ := h part hpart
    have hnil : part.toList ≠ [] := fun hnil => hempty (String.toList_eq_nil_iff.1 hnil)
    have hsingle : part.toList ≠ ['.'] := fun hsingle => hdot (String.toList_inj.1 hsingle)
    simp [hnil, hsingle]
  have htext : ("/".intercalate parts).toList = ['/'].intercalate (parts.map String.toList) :=
    String.toList_intercalate
  rw [pathParts, htext, Text.splitOn_intercalate (by simpa using hne)
    (by simpa using fun part hpart => (h part hpart).2.2), hkept, List.map_map]
  simp

/-- Segments joined by slashes are read back. -/
theorem ofString_intercalate {parts : List String} (hne : parts ≠ [])
    (h : ∀ part ∈ parts, IsSegment part) :
    PathName.ofString ("/".intercalate parts) = ⟨"", parts⟩ := by
  have htext : ("/".intercalate parts).toList = ['/'].intercalate (parts.map String.toList) :=
    String.toList_intercalate
  have hroot : PathName.rootOf ("/".intercalate parts).toList = "" := by
    cases parts with
    | nil => exact absurd rfl hne
    | cons part rest =>
      have hpart := h part List.mem_cons_self
      cases rest with
      | nil => simpa using hpart.rootOf_append []
      | cons next others =>
        rw [htext, List.map_cons, List.map_cons, List.intercalate_cons_cons, List.append_assoc]
        exact hpart.rootOf_append _
  rw [PathName.ofString, hroot, pathParts_intercalate hne fun part hpart => (h part hpart).isStep]

/-- A text of letters, digits, underscores and dots. -/
def IsPlain (text : String) : Prop :=
  ∀ c ∈ text.toList, c.isAlphanum ∨ c = '_' ∨ c = '.'

instance (text : String) : Decidable (IsPlain text) :=
  decidable_of_iff (text.toList.all fun c => c.isAlphanum || c == '_' || c == '.')
    (by simp [IsPlain, or_assoc])

theorem IsPlain.append {text other : String} (h : IsPlain text) (hother : IsPlain other) :
    IsPlain (text ++ other) := by
  intro c hc
  rw [String.toList_append, List.mem_append] at hc
  exact hc.elim (h c) (hother c)

theorem IsWord.isPlain {text : String} (h : IsWord text) : IsPlain text :=
  fun c hc => (h.2 c hc).imp_right .inl

theorem IsPlain.bracket_notMem {text : String} (h : IsPlain text) : '[' ∉ text.toList := by
  intro hmem
  have hplain := h '[' hmem
  revert hplain
  decide

/-! ## The plan -/

/-- The parts of the paths of the core files. -/
def coreParts : List (List String) := [
  ["lib", "core", "network", "api_constants.dart"],
  ["lib", "core", "network", "dio_client.dart"],
  ["lib", "core", "network", "interceptor", "authorization_interceptor.dart"],
  ["lib", "core", "network", "network_info.dart"],
  ["lib", "core", "network", "network_service.dart"],
  ["lib", "core", "error", "exceptions.dart"],
  ["lib", "core", "error", "failures.dart"],
  ["lib", "core", "utils", "data_parser.dart"]]

/-- The parts of the paths of a feature's own files. -/
def featureParts (name : String) : List (List String) := [
  ["lib", "feature", name, "domain", "entities", name ++ "_response_entity.dart"],
  ["lib", "feature", name, "domain", "repositories", name ++ "_repository.dart"],
  ["lib", "feature", name, "domain", "usecases", "get_" ++ name ++ "_use_case.dart"],
  ["lib", "feature", name, "domain", "usecases", "get_" ++ name ++ "_params.dart"],
  ["lib", "feature", name, "data", "models", name ++ "_response_model.dart"],
  ["lib", "feature", name, "data", "datasources", name ++ "_remote_data_source.dart"],
  ["lib", "feature", name, "data", "repositories", name ++ "_repository_impl.dart"]]

/-- The parts of the planned paths, in the order of writing. -/
def plannedParts (name : String) : List (List String) :=
  coreParts ++ featureParts name

/-- The paths of a plan, in the order of writing. -/
def plannedPaths (name : String) : List String :=
  (plannedParts name).map ("/".intercalate ·)

/-- **A plan has these paths.** -/
theorem planArtifacts_paths {schema : Schema} {feature : Feature} {wrapList : Bool} {timeout : Int}
    {artifacts : List Artifact} (h : planArtifacts schema feature wrapList timeout = .ok artifacts) :
    artifacts.map Artifact.path = plannedPaths feature.name := by
  cases schema with
  | record name fields =>
    rw [planArtifacts] at h
    cases h
    simp [Plan.coreArtifacts, Plan.coreFiles, Plan.domainArtifacts, Plan.dataArtifacts, plannedPaths,
      plannedParts, coreParts, featureParts, ← String.toList_inj]
  | scalar _ => cases h
  | list _ => cases h

/-- Rendering keeps the path. -/
theorem render_path {artifact rendered : Artifact} (h : artifact.render = .ok rendered) :
    rendered.path = artifact.path := by
  rw [Artifact.render] at h
  cases hcontent : renderTemplate artifact.template artifact.context with
  | error fault => rw [hcontent] at h; cases h
  | ok content =>
    rw [hcontent] at h
    cases h
    rfl

/-- Rendering keeps the paths and their order. -/
theorem renderAll_paths {artifacts rendered : List Artifact}
    (h : Artifact.renderAll artifacts = .ok rendered) :
    rendered.map Artifact.path = artifacts.map Artifact.path := by
  induction artifacts generalizing rendered with
  | nil =>
    rw [Artifact.renderAll] at h
    cases h
    rfl
  | cons artifact rest ih =>
    rw [Artifact.renderAll] at h
    obtain ⟨first, hfirst, h⟩ := exists_ok_of_bind h
    obtain ⟨others, hothers, h⟩ := exists_ok_of_bind h
    cases h
    rw [List.map_cons, List.map_cons, render_path hfirst, ih hothers]

/-- The parts of planned paths are segments. -/
theorem plannedParts_isSegment {name : String} (h : IsWord name) :
    ∀ parts ∈ plannedParts name, parts ≠ [] ∧ ∀ part ∈ parts, IsSegment part := by
  have hname := h.isSegment
  have hsuffix : ∀ suffix : String, '/' ∉ suffix.toList → IsSegment (name ++ suffix) :=
    fun suffix => h.append_isSegment
  have hget : IsWord ("get_" ++ name) := IsWord.append (by decide) h
  have hgetSuffix : ∀ suffix : String, '/' ∉ suffix.toList → IsSegment ("get_" ++ name ++ suffix) :=
    fun suffix => hget.append_isSegment
  have hcore : ∀ parts ∈ coreParts, parts ≠ [] ∧ ∀ part ∈ parts, IsSegment part := by decide
  intro parts hparts
  rcases List.mem_append.1 hparts with hfixed | hfeature
  · exact hcore parts hfixed
  · have hliteral : ∀ part ∈ ["lib", "feature", "domain", "data", "entities", "repositories",
        "usecases", "models", "datasources"], IsSegment part := by decide
    simp only [List.forall_mem_cons, List.not_mem_nil, false_imp_iff, implies_true,
      and_true] at hliteral
    simp only [featureParts, List.mem_cons, List.not_mem_nil, or_false] at hfeature
    rcases hfeature with rfl | rfl | rfl | rfl | rfl | rfl | rfl <;>
      simp [hname, hliteral, hsuffix, hgetSuffix]

/-- The parts of planned paths are plain. -/
theorem plannedParts_isPlain {name : String} (h : IsWord name) :
    ∀ parts ∈ plannedParts name, ∀ part ∈ parts, IsPlain part := by
  have hcore : ∀ parts ∈ coreParts, ∀ part ∈ parts, IsPlain part := by decide +kernel
  have hfeature : ∀ text : String, IsPlain text →
      IsPlain (name ++ text) ∧ IsPlain ("get_" ++ name ++ text) := fun text htext =>
    ⟨h.isPlain.append htext, (IsPlain.append (by decide) h.isPlain).append htext⟩
  have hliteral : ∀ text ∈ ["lib", "feature", "domain", "data", "entities", "repositories",
      "usecases", "models", "datasources", "_response_entity.dart", "_repository.dart",
      "_use_case.dart", "_params.dart", "_response_model.dart", "_remote_data_source.dart",
      "_repository_impl.dart"], IsPlain text := by decide +kernel
  intro parts hparts
  rcases List.mem_append.1 hparts with hfixed | hown
  · exact hcore parts hfixed
  · simp only [List.forall_mem_cons, List.not_mem_nil, false_imp_iff, implies_true,
      and_true] at hliteral
    simp only [featureParts, List.mem_cons, List.not_mem_nil, or_false] at hown
    rcases hown with rfl | rfl | rfl | rfl | rfl | rfl | rfl <;>
      simp [h.isPlain, hliteral, hfeature]

/-- The planned paths name different places. -/
theorem plannedParts_pairwise (name : String) : (plannedParts name).Pairwise (· ≠ ·) := by
  rw [plannedParts, List.pairwise_append]
  refine ⟨by decide, ?_, fun core hcore other hother => ?_⟩
  · -- Two files in one directory differ in what follows the name.
    simp [featureParts, String.append_assoc]
  · -- The second part is the one or the other.
    have hseconds : ∀ parts ∈ coreParts, parts[1]? = some "core" := by decide
    have hcoreSecond := hseconds core hcore
    have hotherSecond : other[1]? = some "feature" := by
      simp only [featureParts, List.mem_cons, List.not_mem_nil, or_false] at hother
      rcases hother with rfl | rfl | rfl | rfl | rfl | rfl | rfl <;> rfl
    rintro rfl
    rw [hcoreSecond] at hotherSecond
    exact absurd hotherSecond (by decide)

/-- The planned paths are read back. -/
theorem ofString_planned {name : String} (h : IsWord name) {parts : List String}
    (hparts : parts ∈ plannedParts name) :
    PathName.ofString ("/".intercalate parts) = ⟨"", parts⟩ :=
  ofString_intercalate (plannedParts_isSegment h parts hparts).1
    (plannedParts_isSegment h parts hparts).2

theorem pathParts_planned {name : String} (h : IsWord name) {parts : List String}
    (hparts : parts ∈ plannedParts name) : pathParts ("/".intercalate parts) = parts :=
  congrArg PathName.parts (ofString_planned h hparts)

/-- **The planned paths lead to different places.** -/
theorem planned_apart {name : String} (h : IsWord name) : Apart (plannedPaths name) := by
  refine ⟨fun path hpath => ?_, ?_⟩
  · obtain ⟨parts, hparts, rfl⟩ := List.mem_map.1 hpath
    obtain ⟨hne, hsegments⟩ := plannedParts_isSegment h parts hparts
    rw [LeadsDown, pathParts_planned h hparts, ofString_planned h hparts]
    exact ⟨rfl, hne, fun part hpart => (hsegments part hpart).1⟩
  · rw [plannedPaths, List.pairwise_map]
    refine (plannedParts_pairwise name).imp_of_mem fun {parts others} hparts hothers hne => ?_
    rwa [pathParts_planned h hparts, pathParts_planned h hothers]

end DartLayers
