import DartLayers.Proofs.Dart.Names
import DartLayers.Proofs.Plan.Paths

/-!
# DartLayers — imports of planned files

A generated file finds the others by relative paths. A sheet says of a planned file where it stands
and which paths it follows; every path on a sheet leads to another sheet.

* **`resolveImport`** — the file that a relative path leads to.
* **`sheets`** — where the files of a plan stand, and what they import.
* **`sheets_closed`** — every import leads to a file of the plan.
-/

namespace DartLayers

open Dart

/-! ## Relative paths -/

/-- The directory, or file, behind one more part of a path. -/
def followPart (directory : List String) (part : String) : List String :=
  if part = ".." then directory.dropLast else directory ++ [part]

/-- The file that a relative path leads to, from the file in which it stands. -/
def resolveImport (path uri : String) : String :=
  "/".intercalate ((pathParts uri).foldl followPart (pathParts path).dropLast)

/-- A relative path: some directories up, then down. -/
structure Hop where
  up : Nat
  down : List String

namespace Hop

def uri (hop : Hop) : String :=
  "/".intercalate (List.replicate hop.up ".." ++ hop.down)

/-- The parts of the file that a hop leads to from the file at the given parts. -/
def target (hop : Hop) (parts : List String) : List String :=
  parts.take (parts.length - (hop.up + 1)) ++ hop.down

/-- A hop of plain segments. -/
def IsPlain (hop : Hop) : Prop :=
  hop.down ≠ [] ∧ ∀ part ∈ hop.down, IsSegment part ∧ DartLayers.IsPlain part

theorem foldl_followPart_up (up : Nat) (directory : List String) :
    (List.replicate up "..").foldl followPart directory =
      directory.take (directory.length - up) := by
  induction up generalizing directory with
  | zero => simp
  | succ up ih =>
    rw [List.replicate_succ, List.foldl_cons, followPart, if_pos rfl, ih, List.length_dropLast,
      List.dropLast_eq_take, List.take_take]
    congr 1
    omega

theorem foldl_followPart_down {down : List String} (h : ∀ part ∈ down, IsSegment part)
    (directory : List String) : down.foldl followPart directory = directory ++ down := by
  induction down generalizing directory with
  | nil => rw [List.foldl_nil, List.append_nil]
  | cons part down ih =>
    rw [List.forall_mem_cons] at h
    rw [List.foldl_cons, followPart, if_neg h.1.1.2.2, ih h.2, List.append_assoc,
      List.singleton_append]

/-- **A hop leads to its target.** -/
theorem resolveImport_uri {hop : Hop} (hplain : hop.IsPlain) {parts : List String}
    (hparts : pathParts ("/".intercalate parts) = parts) :
    resolveImport ("/".intercalate parts) hop.uri = "/".intercalate (hop.target parts) := by
  have hsegments : ∀ part ∈ hop.down, IsSegment part := fun part hpart => (hplain.2 part hpart).1
  have hsteps : ∀ part ∈ List.replicate hop.up ".." ++ hop.down, IsStep part := by
    rw [List.forall_mem_append]
    refine ⟨fun part hpart => ?_, fun part hpart => (hsegments part hpart).isStep⟩
    rw [List.eq_of_mem_replicate hpart, IsStep]
    decide
  have hne : List.replicate hop.up ".." ++ hop.down ≠ [] :=
    List.append_ne_nil_of_right_ne_nil _ hplain.1
  rw [resolveImport, hparts, uri, pathParts_intercalate hne hsteps, List.foldl_append,
    foldl_followPart_up, foldl_followPart_down hsegments, target, List.length_dropLast,
    List.dropLast_eq_take, List.take_take]
  congr 3
  omega

/-- A hop is spelled like the path of a file. -/
theorem IsPlain.isUri {hop : Hop} (hplain : hop.IsPlain) : IsUri hop.uri ∧ isRelative hop.uri = true := by
  have hchars : ∀ c ∈ hop.uri.toList, c.isAlphanum ∨ c ∈ ['_', '.', '/'] := by
    intro c hc
    rw [uri, String.toList_intercalate] at hc
    rcases mem_intercalate hc with hslash | ⟨piece, hpiece, hmem⟩
    · rw [List.mem_singleton.1 hslash]
      decide
    · rw [List.map_append, List.mem_append] at hpiece
      rcases hpiece with hup | hdown
      · obtain ⟨part, hpart, rfl⟩ := List.mem_map.1 hup
        rw [List.eq_of_mem_replicate hpart] at hmem
        have hdot : c = '.' := by simpa using hmem
        exact .inr (by simp [hdot])
      · obtain ⟨part, hpart, rfl⟩ := List.mem_map.1 hdown
        refine ((hplain.2 part hpart).2 c hmem).imp_right fun hother => ?_
        rcases hother with rfl | rfl <;> decide
  constructor
  · exact fun c hc => (hchars c hc).imp_right fun hmem => List.mem_append_left [':'] hmem
  · rw [isRelative, Bool.not_eq_true', ← Bool.not_eq_true, List.contains_iff_mem]
    intro hcolon
    rcases hchars ':' hcolon with h | h
    · exact absurd h (by decide)
    · exact absurd h (by decide)

end Hop

/-! ## Sheets -/

/-- What is said of a planned file: the parts of its path, its layer, and what it imports. -/
structure Sheet where
  parts : List String
  layer : Layer
  imports : List Hop

/-- A file of the core, from a file of a feature. -/
def Hop.toCore (file : List String) : Hop := ⟨4, "core" :: file⟩

/-- The sheets of the core files. -/
def coreSheets : List Sheet := [
  ⟨["lib", "core", "network", "api_constants.dart"], .networkCore, []⟩,
  ⟨["lib", "core", "network", "dio_client.dart"], .networkCore, [
    ⟨1, ["error", "exceptions.dart"]⟩,
    ⟨0, ["api_constants.dart"]⟩,
    ⟨0, ["interceptor", "authorization_interceptor.dart"]⟩]⟩,
  ⟨["lib", "core", "network", "interceptor", "authorization_interceptor.dart"], .networkCore, []⟩,
  ⟨["lib", "core", "network", "network_info.dart"], .networkCore, []⟩,
  ⟨["lib", "core", "network", "network_service.dart"], .networkCore, []⟩,
  ⟨["lib", "core", "error", "exceptions.dart"], .coreSupport, []⟩,
  ⟨["lib", "core", "error", "failures.dart"], .coreSupport, []⟩,
  ⟨["lib", "core", "utils", "data_parser.dart"], .coreSupport, []⟩]

/-- The sheets of the files of a feature. -/
def featureSheets (name : String) : List Sheet := [
  ⟨["lib", "feature", name, "domain", "entities", name ++ "_response_entity.dart"],
    .domainEntity, []⟩,
  ⟨["lib", "feature", name, "domain", "repositories", name ++ "_repository.dart"],
    .domainRepositoryIface, [
    .toCore ["error", "failures.dart"],
    ⟨1, ["entities", name ++ "_response_entity.dart"]⟩,
    ⟨1, ["usecases", "get_" ++ name ++ "_params.dart"]⟩]⟩,
  ⟨["lib", "feature", name, "domain", "usecases", "get_" ++ name ++ "_use_case.dart"],
    .domainUsecase, [
    .toCore ["error", "failures.dart"],
    ⟨1, ["entities", name ++ "_response_entity.dart"]⟩,
    ⟨1, ["repositories", name ++ "_repository.dart"]⟩,
    ⟨0, ["get_" ++ name ++ "_params.dart"]⟩]⟩,
  ⟨["lib", "feature", name, "domain", "usecases", "get_" ++ name ++ "_params.dart"],
    .domainParams, []⟩,
  ⟨["lib", "feature", name, "data", "models", name ++ "_response_model.dart"], .dataModel, [
    .toCore ["utils", "data_parser.dart"],
    ⟨2, ["domain", "entities", name ++ "_response_entity.dart"]⟩]⟩,
  ⟨["lib", "feature", name, "data", "datasources", name ++ "_remote_data_source.dart"],
    .dataDatasource, [
    .toCore ["error", "exceptions.dart"],
    .toCore ["network", "api_constants.dart"],
    .toCore ["network", "dio_client.dart"],
    ⟨2, ["domain", "usecases", "get_" ++ name ++ "_params.dart"]⟩,
    ⟨1, ["models", name ++ "_response_model.dart"]⟩]⟩,
  ⟨["lib", "feature", name, "data", "repositories", name ++ "_repository_impl.dart"],
    .dataRepositoryImpl, [
    .toCore ["error", "exceptions.dart"],
    .toCore ["error", "failures.dart"],
    ⟨2, ["domain", "entities", name ++ "_response_entity.dart"]⟩,
    ⟨2, ["domain", "repositories", name ++ "_repository.dart"]⟩,
    ⟨2, ["domain", "usecases", "get_" ++ name ++ "_params.dart"]⟩,
    ⟨1, ["datasources", name ++ "_remote_data_source.dart"]⟩]⟩]

/-- The sheets of a plan, in the order of writing. -/
def sheets (name : String) : List Sheet :=
  coreSheets ++ featureSheets name

/-- The sheets stand where the planned files do. -/
theorem sheets_parts (name : String) : (sheets name).map Sheet.parts = plannedParts name := rfl

/-- **Every import leads to another file of the plan.** -/
theorem sheets_closed (name : String) : ∀ sheet ∈ sheets name, ∀ hop ∈ sheet.imports,
    hop.down ≠ [] ∧ ∃ other ∈ sheets name,
      other.parts = hop.target sheet.parts ∧ other.parts ≠ sheet.parts := by
  rw [sheets, List.forall_mem_append]
  constructor
  · simp [coreSheets, Hop.target]
  · simp [coreSheets, featureSheets, Hop.target, Hop.toCore]

/-- What leads to a planned file is plain. -/
theorem isPlain_of_mem_imports {name : String} (hname : IsWord name) {sheet : Sheet}
    (hsheet : sheet ∈ sheets name) {hop : Hop} (hhop : hop ∈ sheet.imports) : hop.IsPlain := by
  obtain ⟨hne, other, hother, hparts, -⟩ := sheets_closed name sheet hsheet hop hhop
  have hplanned : other.parts ∈ plannedParts name := by
    rw [← sheets_parts]
    exact List.mem_map_of_mem hother
  have hdown : ∀ part ∈ hop.down, part ∈ other.parts := by
    rw [hparts, Hop.target]
    exact fun part hpart => List.mem_append_right _ hpart
  exact ⟨hne, fun part hpart =>
    ⟨(plannedParts_isSegment hname _ hplanned).2 part (hdown part hpart),
      plannedParts_isPlain hname _ hplanned part (hdown part hpart)⟩⟩

end DartLayers
