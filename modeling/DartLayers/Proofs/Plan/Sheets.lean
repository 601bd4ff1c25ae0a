import DartLayers.Proofs.Dart.Expressions
import DartLayers.Proofs.Plan.Imports
import DartLayers.Proofs.Plan.Readings
import DartLayers.Proofs.Steps
import DartLayers.Proofs.Template.Records

/-!
# DartLayers — the fronts of planned files

The first lines of a template are imports, up to the class that the file declares first. They are
rendered without looking at the rest of the template, and say what the sheet of the file says.

* **`imports_of_front`** — what the first lines of a file say.
* **`planned_describes`** — the planned files are as their sheets say.
-/

namespace DartLayers

open Dart

/-! ## Fronts of files -/

section

variable {artifact : Artifact} {content : String}
  (hcontent : artifact.render = .ok { artifact with content }) {template : List Line}
  (hmem : (artifact.template, template) ∈ Template.library)

include hcontent hmem

theorem renderAll_of_render : Line.renderAll template artifact.context = .ok content := by
  rw [Artifact.render, renderTemplate, Template.find?_of_mem hmem] at hcontent
  simp only at hcontent
  cases htext : Line.renderAll template artifact.context with
  | error fault => rw [htext] at hcontent; cases hcontent
  | ok text =>
    rw [htext, Except.map, Except.ok.injEq] at hcontent
    exact congrArg (fun file => Except.ok file.content) hcontent

/-- What the first lines of a template render to stands at the start of the file. -/
theorem exists_content_of_front {count : Nat} {lines : List String}
    (hfront : Renders (template.take count) artifact.context lines) :
    ∃ rest, content = Text.ofLines lines ++ rest := by
  have hrendered := renderAll_of_render hcontent hmem
  rw [Renders] at hfront
  rw [← List.take_append_drop count template, Line.renderAll_append, hfront] at hrendered
  obtain ⟨text, htext, hrendered⟩ := exists_ok_of_bind hrendered
  obtain ⟨rest, hrest, hrendered⟩ := exists_ok_of_bind hrendered
  cases htext
  cases hrendered
  exact ⟨rest, rfl⟩

/-- The first lines of a file: packages, the files that it imports, blank lines and a class. -/
def frontLines (packages : List (Option String)) (hops : List Hop) (blanks : List (Option String))
    (first : String) : List String :=
  (packages ++ hops.map (fun hop : Hop => some hop.uri) ++ blanks).map headerLine ++ [first]

end

section

variable {packages blanks : List (Option String)} {hops : List Hop} {first name : String}
  (hpackages : ∀ uri ∈ packages.reduceOption, IsUri uri ∧ isRelative uri = false)
  (hhops : ∀ hop ∈ hops, hop.IsPlain) (hblanks : blanks.reduceOption = [])

include hblanks in
theorem reduceOption_front :
    (packages ++ hops.map (fun hop => some hop.uri) ++ blanks).reduceOption =
      packages.reduceOption ++ hops.map Hop.uri := by
  have hfiles : (hops.map fun hop => some hop.uri).reduceOption = hops.map Hop.uri := by
    simp [List.reduceOption]
  rw [List.reduceOption_append, List.reduceOption_append, hblanks, hfiles, List.append_nil]

include hpackages hhops

theorem isUri_front : ∀ uri ∈ packages.reduceOption ++ hops.map Hop.uri, IsUri uri := by
  rw [List.forall_mem_append, List.forall_mem_map]
  exact ⟨fun uri huri => (hpackages uri huri).1, fun hop hhop => (hhops hop hhop).isUri.1⟩

include hblanks

/-- **The first lines of a file** say what it imports, and which class it declares first. -/
theorem imports_of_frontLines (hfirst : Text.IsLine first)
    (hclass : declaredClass? first.toList = some name) (rest : String) :
    relativeImports (Text.ofLines (frontLines packages hops blanks first) ++ rest) =
      hops.map Hop.uri ∧
    name ∈ declaredClasses (Text.ofLines (frontLines packages hops blanks first) ++ rest) := by
  have huris := isUri_front hpackages hhops
  have hrelative : (packages.reduceOption ++ hops.map Hop.uri).filter isRelative =
      hops.map Hop.uri := by
    rw [List.filter_append, List.filter_eq_nil_iff.2, List.filter_eq_self.2, List.nil_append]
    · rw [List.forall_mem_map]
      exact fun hop hhop => (hhops hop hhop).isUri.2
    · exact fun uri huri => by simp [hpackages uri huri]
  rw [← reduceOption_front hblanks] at huris hrelative
  exact ⟨(relativeImports_of_header huris hfirst rest hclass).trans hrelative,
    mem_declaredClasses_of_header huris hfirst rest hclass⟩

end

/-- A line that declares a class, in a text of lines. -/
theorem Dart.mem_declaredClasses_ofLines {lines : List String} (h : ∀ line ∈ lines, Text.IsLine line)
    {line : String} (hline : line ∈ lines) {name : String}
    (hclass : declaredClass? line.toList = some name) :
    name ∈ declaredClasses (Text.ofLines lines) := by
  rw [declaredClasses, Text.linesOf_ofLines h]
  exact List.mem_filterMap.2
    ⟨line.toList, List.mem_append_left _ (List.mem_map_of_mem hline), hclass⟩

/-- The line of a class. -/
theorem declaredClass?_front {opening name : String} (hopening : opening ∈ classOpenings)
    (hname : IsWord name) {behind : String} (hbehind : Text.IsLine behind) :
    Text.IsLine (opening ++ name ++ " " ++ behind) ∧
      declaredClass? (opening ++ name ++ " " ++ behind).toList = some name := by
  have hlead : ∀ lead ∈ classOpenings, Text.IsLine lead := by decide
  refine ⟨?_, declaredClass?_opening hopening hname behind⟩
  simp only [Text.isLine_append]
  exact ⟨⟨⟨hlead opening hopening, hname.isLine⟩, by decide⟩, hbehind⟩

/-! ## What sheets say -/

/-- The kind of class that a file of a layer declares. -/
def Layer.declares : Layer → Option ClassKind
  | .domainEntity => some .entity
  | .domainRepositoryIface => some .repository
  | .domainParams => some .params
  | .dataModel => some .model
  | .dataDatasource => some .dataSource
  | _ => none

/-- The classes of a feature and a payload, by kind: an entity and a model for each record. -/
def Plan.classNames (feature : Feature) (schema : Schema) : ClassKind → List String
  | .entity => schema.records.map fun record => (record.name.forLayer .entity).qualified
  | .model => schema.records.map fun record => (record.name.forLayer .model).qualified
  | .repository => [feature.pascalName ++ "Repository"]
  | .dataSource => [feature.pascalName ++ "RemoteDataSource"]
  | .params => ["Get" ++ feature.pascalName ++ "Params"]

/-- A planned file stands where its sheet says; its content imports what the sheet says, and declares
the classes of its layer. -/
structure Sheet.Describes (feature : Feature) (schema : Schema) (sheet : Sheet)
    (artifact : Artifact) : Prop where
  path : artifact.path = "/".intercalate sheet.parts
  layer : artifact.layer = sheet.layer
  imports : ∀ content, artifact.render = .ok { artifact with content } →
    relativeImports content = sheet.imports.map Hop.uri
  classes : schema.IsTidy → ∀ content, artifact.render = .ok { artifact with content } →
    ∀ kind ∈ sheet.layer.declares, ∀ name ∈ Plan.classNames feature schema kind,
      name ∈ declaredClasses content

section

variable {feature : Feature} {schema : Schema} {sheet : Sheet} {artifact : Artifact}
  {template : List Line} {count : Nat} {packages blanks : List (Option String)}
  {opening name behind : String}

/-- **The front of a file** says what the sheet of the file says. -/
theorem Sheet.describes_of_front (hfeature : IsWord feature.name)
    (hsheet : sheet ∈ sheets feature.name) (hpath : artifact.path = "/".intercalate sheet.parts)
    (hlayer : artifact.layer = sheet.layer)
    (hmem : (artifact.template, template) ∈ Template.library)
    (hfront : Renders (template.take count) artifact.context
      (frontLines packages sheet.imports blanks (opening ++ name ++ " " ++ behind)))
    (hpackages : ∀ uri ∈ packages.reduceOption, IsUri uri ∧ isRelative uri = false)
    (hblanks : blanks.reduceOption = []) (hopening : opening ∈ classOpenings)
    (hname : IsWord name) (hbehind : Text.IsLine behind)
    (hclasses : ∀ kind ∈ sheet.layer.declares, Plan.classNames feature schema kind = [name]) :
    sheet.Describes feature schema artifact := by
  have hhops : ∀ hop ∈ sheet.imports, hop.IsPlain := fun _ hhop =>
    isPlain_of_mem_imports hfeature hsheet hhop
  obtain ⟨hline, hclass⟩ := declaredClass?_front hopening hname hbehind
  have hcontent : ∀ content, artifact.render = .ok { artifact with content } →
      relativeImports content = sheet.imports.map Hop.uri ∧ name ∈ declaredClasses content := by
    intro content hrender
    obtain ⟨rest, rfl⟩ := exists_content_of_front hrender hmem hfront
    exact imports_of_frontLines hpackages hhops hblanks hline hclass rest
  refine ⟨hpath, hlayer, fun content hrender => (hcontent content hrender).1,
    fun _ content hrender kind hkind found hfound => ?_⟩
  rw [hclasses kind hkind, List.mem_singleton] at hfound
  rw [hfound]
  exact (hcontent content hrender).2

variable {records : List RecordClass} {lines : RecordClass → List String}
  {tail : RecordClass → String}

/-- A file of record classes: the first class ends its front, and every class has a line. -/
theorem Sheet.describes_of_records (hfeature : IsWord feature.name)
    (hsheet : sheet ∈ sheets feature.name) (hpath : artifact.path = "/".intercalate sheet.parts)
    (hlayer : artifact.layer = sheet.layer)
    (hmem : (artifact.template, template) ∈ Template.library)
    (hrenders : Renders template artifact.context
      ((packages ++ sheet.imports.map fun hop => some hop.uri).map headerLine ++
        records.flatMap lines))
    (hpackages : ∀ uri ∈ packages.reduceOption, IsUri uri ∧ isRelative uri = false)
    (hlines : ∀ record, ∃ rest, lines record =
      "" :: ("class " ++ record.name.qualified ++ " " ++ tail record) :: rest)
    (hne : records ≠ [])
    (hname : ∀ record ∈ records, IsWord record.name.qualified ∧ Text.IsLine (tail record))
    (htidy : schema.IsTidy → ∀ record ∈ records, ∀ line ∈ lines record, Text.IsLine line)
    (hclasses : ∀ kind ∈ sheet.layer.declares,
      Plan.classNames feature schema kind = records.map fun record => record.name.qualified) :
    sheet.Describes feature schema artifact := by
  have hhops : ∀ hop ∈ sheet.imports, hop.IsPlain := fun _ hhop =>
    isPlain_of_mem_imports hfeature hsheet hhop
  have hopening : "class " ∈ classOpenings := by decide
  have hline := fun record hrecord =>
    declaredClass?_front hopening (hname record hrecord).1 (hname record hrecord).2
  have hcontent : ∀ content, artifact.render = .ok { artifact with content } →
      content = Text.ofLines ((packages ++ sheet.imports.map fun hop => some hop.uri).map
        headerLine ++ records.flatMap lines) := by
    intro content hrender
    have htext := renderAll_of_render hrender hmem
    rw [Renders] at hrenders
    rw [hrenders, Except.ok.injEq] at htext
    exact htext.symm
  refine ⟨hpath, hlayer, fun content hrender => ?_, fun hkeys content hrender => ?_⟩
  · -- The imports end where the first class starts.
    obtain ⟨first, others, rfl⟩ := List.exists_cons_of_ne_nil hne
    obtain ⟨hfirst, hclass⟩ := hline first List.mem_cons_self
    obtain ⟨rest, hrest⟩ := hlines first
    have hfront : ((packages ++ sheet.imports.map fun hop => some hop.uri).map headerLine ++
        (first :: others).flatMap lines) =
          frontLines packages sheet.imports [none]
            ("class " ++ first.name.qualified ++ " " ++ tail first) ++
          (rest ++ others.flatMap lines) := by
      simp [frontLines, hrest, headerLine]
    rw [hcontent content hrender, hfront, Text.ofLines_append]
    exact (imports_of_frontLines hpackages hhops rfl hfirst hclass _).1
  · -- Every class has a line of its own, and lines are read one by one if the keys break none.
    intro kind hkind found hfound
    rw [hclasses kind hkind] at hfound
    obtain ⟨record, hrecord, rfl⟩ := List.mem_map.1 hfound
    have huris : ∀ uri ∈ (packages ++ sheet.imports.map fun hop => some hop.uri).reduceOption,
        IsUri uri := by
      rw [← List.append_nil (packages ++ _), reduceOption_front rfl]
      exact isUri_front hpackages hhops
    have hall : ∀ line ∈ (packages ++ sheet.imports.map fun hop => some hop.uri).map headerLine ++
        records.flatMap lines, Text.IsLine line := by
      rw [List.forall_mem_append, List.forall_mem_map]
      refine ⟨fun entry hentry => isLine_headerLine huris hentry, fun line hmem => ?_⟩
      obtain ⟨made, hmade, hline⟩ := List.mem_flatMap.1 hmem
      exact htidy hkeys made hmade line hline
    rw [hcontent content hrender]
    refine Dart.mem_declaredClasses_ofLines hall ?_ (hline record hrecord).2
    refine List.mem_append_right _ (List.mem_flatMap.2 ⟨record, hrecord, ?_⟩)
    obtain ⟨rest, hrest⟩ := hlines record
    rw [hrest]
    exact List.mem_cons_of_mem _ List.mem_cons_self

end

/-! ## Core files -/

-- the first lines of these templates are literal, so the context does not matter
theorem core_fronts (context : Context) :
    Renders (Template.apiConstants.take 1) context
      (frontLines [] [] [] ("final class " ++ "ApiList" ++ " " ++ "\x7b")) ∧
    Renders (Template.dioClient.take 8) context
      (frontLines
        [some "dart:io", some "package:dio/dio.dart", some "package:flutter/foundation.dart"]
        [⟨1, ["error", "exceptions.dart"]⟩, ⟨0, ["api_constants.dart"]⟩,
          ⟨0, ["interceptor", "authorization_interceptor.dart"]⟩] [none]
        ("class " ++ "DioClient" ++ " " ++ "\x7b")) ∧
    Renders (Template.authorizationInterceptor.take 3) context
      (frontLines [some "package:dio/dio.dart"] [] [none]
        ("class " ++ "AuthorizationInterceptor" ++ " " ++ "extends Interceptor \x7b")) ∧
    Renders (Template.networkInfo.take 3) context
      (frontLines [some "package:connectivity_plus/connectivity_plus.dart"] [] [none]
        ("abstract class " ++ "NetworkInfo" ++ " " ++ "\x7b")) ∧
    Renders (Template.networkService.take 3) context
      (frontLines [some "package:connectivity_plus/connectivity_plus.dart"] [] [none]
        ("class " ++ "NetworkService" ++ " " ++ "\x7b")) ∧
    Renders (Template.exceptions.take 1) context
      (frontLines [] [] [] ("class " ++ "AppException" ++ " " ++ "implements Exception \x7b")) ∧
    Renders (Template.failures.take 3) context
      (frontLines [some "package:equatable/equatable.dart"] [] [none]
        ("abstract class " ++ "Failure" ++ " " ++ "extends Equatable \x7b")) := by
  refine ⟨?_, ?_, ?_, ?_, ?_, ?_, ?_⟩ <;>
  simp [Renders, frontLines, Template.apiConstants, Template.dioClient,
    Template.authorizationInterceptor, Template.networkInfo, Template.networkService,
    Template.exceptions, Template.failures, Line.renderAll, Line.render, bind, Except.bind, pure,
    Except.pure, Text.ofLines, headerLine, importLine, Hop.uri]

/-- A literal line that imports nothing. -/
def importsNothing : LineTest LeafKind where
  text literal :=
    literal.toList.all (fun c => c != '\n' && c != '\r') && (importUri? literal.toList).isNone
  parts _ _ := false

theorem importsNothing_sound : importsNothing.Sound LeafKind.Holds fun line =>
    Text.IsLine line ∧ importUri? line.toList = none where
  text h := by
    obtain ⟨hline, huri⟩ := Bool.and_eq_true_iff.1 h
    exact ⟨by simpa [Text.IsLine] using hline, Option.isNone_iff_eq_none.1 huri⟩
  parts h := by cases h

/-- The one file without a class imports nothing either. -/
theorem dataParser_passes : Line.passesAll importsNothing Template.dataParser [] = true := by
  simp only [Template.dataParser, Line.passesAll, Line.passes, importsNothing, importUri?]
  simp -index only [String.toList_ofList]
  decide +kernel

theorem relativeImports_dataParser {artifact : Artifact}
    (hmem : (artifact.template, Template.dataParser) ∈ Template.library) {content : String}
    (hcontent : artifact.render = .ok { artifact with content }) : relativeImports content = [] := by
  obtain ⟨lines, hlines, -, -, hgood⟩ := Line.exists_renders_of_passesAll importsNothing_sound
    dataParser_passes (.of_forall (by simp) : Alike LeafKind.Holds (.object [])
      (.object artifact.context) (.object artifact.context))
  have htext := renderAll_of_render hcontent hmem
  rw [Renders] at hlines
  rw [hlines, Except.ok.injEq] at htext
  have hnone : ∀ line ∈ lines.map String.toList ++ [[]], importUri? line = none := by
    rw [List.forall_mem_append, List.forall_mem_map, List.forall_mem_singleton]
    exact ⟨fun line hline => (hgood line hline).2, by decide⟩
  rw [← htext, relativeImports, Text.linesOf_ofLines fun line hline => (hgood line hline).1]
  rw [List.filterMap_eq_nil_iff.2 fun line hline =>
    hnone line ((List.takeWhile_sublist _).subset hline)]
  rfl

section

variable {feature : Feature} (hfeature : IsWord feature.name) (schema : Schema) (root : TypeName)

include hfeature

theorem coreArtifacts_describes (timeout : Int) :
    List.Forall₂ (fun artifact sheet => sheet.Describes feature schema artifact)
      (Plan.coreArtifacts feature root timeout) coreSheets := by
  obtain ⟨hconstants, hclient, hinterceptor, hinfo, hservice, hexceptions, hfailures⟩ :=
    core_fronts (Plan.coreContext feature root timeout)
  refine .cons ?_ (.cons ?_ (.cons ?_ (.cons ?_ (.cons ?_ (.cons ?_ (.cons ?_ (.cons ?_ .nil)))))))
  · exact Sheet.describes_of_front hfeature (List.mem_of_getElem? (i := 0) rfl) (by simp) rfl
      (by simp [Template.library]) hconstants (by decide) rfl (by decide) (by decide) (by decide) nofun
  · exact Sheet.describes_of_front hfeature (List.mem_of_getElem? (i := 1) rfl) (by simp) rfl
      (by simp [Template.library]) hclient (by decide) rfl (by decide) (by decide) (by decide) nofun
  · exact Sheet.describes_of_front hfeature (List.mem_of_getElem? (i := 2) rfl) (by simp) rfl
      (by simp [Template.library]) hinterceptor (by decide) rfl (by decide) (by decide) (by decide)
      nofun
  · exact Sheet.describes_of_front hfeature (List.mem_of_getElem? (i := 3) rfl) (by simp) rfl
      (by simp [Template.library]) hinfo (by decide) rfl (by decide) (by decide) (by decide) nofun
  · exact Sheet.describes_of_front hfeature (List.mem_of_getElem? (i := 4) rfl) (by simp) rfl
      (by simp [Template.library]) hservice (by decide) rfl (by decide) (by decide) (by decide) nofun
  · exact Sheet.describes_of_front hfeature (List.mem_of_getElem? (i := 5) rfl) (by simp) rfl
      (by simp [Template.library]) hexceptions (by decide) rfl (by decide) (by decide) (by decide)
      nofun
  · exact Sheet.describes_of_front hfeature (List.mem_of_getElem? (i := 6) rfl) (by simp) rfl
      (by simp [Template.library]) hfailures (by decide) rfl (by decide) (by decide) (by decide) nofun
  · exact ⟨by simp, rfl, fun content hcontent =>
      relativeImports_dataParser (by simp [Template.library]) hcontent, fun _ _ _ => nofun⟩

end

/-! ## Feature files -/

section

variable (feature : Feature) (root : TypeName) (added : Context)

/-- A text of the feature or of its names, as a template sees it. -/
theorem eval_baseContext :
    let context := Plan.baseContext feature root ++ added
    (Template.ofFeature "name").eval context = .ok (.value (.string feature.name)) ∧
    (Template.ofFeature "http_method").eval context = .ok (.value (.string feature.method.name)) ∧
    (Template.ofNames "repository").eval context =
      .ok (.value (.string (feature.pascalName ++ "Repository"))) ∧
    (Template.ofNames "data_source").eval context =
      .ok (.value (.string (feature.pascalName ++ "RemoteDataSource"))) ∧
    (Template.ofNames "use_case").eval context =
      .ok (.value (.string ("Get" ++ feature.pascalName ++ "UseCase"))) ∧
    (Template.ofNames "params").eval context =
      .ok (.value (.string ("Get" ++ feature.pascalName ++ "Params"))) :=
  ⟨rfl, rfl, rfl, rfl, rfl, rfl⟩

theorem domain_fronts :
    let context := Plan.baseContext feature root ++ added
    Renders (Template.repository.take 6) context
      (frontLines [some "package:dartz/dartz.dart"] [
          .toCore ["error", "failures.dart"],
          ⟨1, ["entities", feature.name ++ "_response_entity.dart"]⟩,
          ⟨1, ["usecases", "get_" ++ feature.name ++ "_params.dart"]⟩] [none]
        ("abstract class " ++ (feature.pascalName ++ "Repository") ++ " " ++ "\x7b")) ∧
    Renders (Template.useCase.take 7) context
      (frontLines [some "package:dartz/dartz.dart"] [
          .toCore ["error", "failures.dart"],
          ⟨1, ["entities", feature.name ++ "_response_entity.dart"]⟩,
          ⟨1, ["repositories", feature.name ++ "_repository.dart"]⟩,
          ⟨0, ["get_" ++ feature.name ++ "_params.dart"]⟩] [none]
        ("class " ++ ("Get" ++ feature.pascalName ++ "UseCase") ++ " " ++ "\x7b")) ∧
    Renders (Template.params.take 3) context
      (frontLines [some "package:equatable/equatable.dart"] [] [none]
        ("class " ++ ("Get" ++ feature.pascalName ++ "Params") ++ " " ++
          "extends Equatable \x7b")) := by
  obtain ⟨hname, -, hrepository, -, huseCase, hparams⟩ := eval_baseContext feature root added
  refine ⟨?_, ?_, ?_⟩ <;>
  simp [Renders, frontLines, Template.repository, Template.useCase, Template.params, Line.renderAll,
    Line.render, joinRendered, Part.render, hname, hrepository, huseCase, hparams, Form.apply,
    Operand.get, Json.display, bind, Except.bind, Except.map, pure, Except.pure, Text.ofLines,
    headerLine, importLine, Hop.uri, Hop.toCore, ← String.toList_inj]

/-- The first line of the data source is a choice: a deletion needs one more package. -/
theorem data_fronts :
    let context := Plan.baseContext feature root ++ added
    Renders (Template.remoteDataSource.take 9) context
      (frontLines
        ((if feature.method = .delete then [some "dart:convert", none] else []) ++
          [some "package:dio/dio.dart"]) [
          .toCore ["error", "exceptions.dart"],
          .toCore ["network", "api_constants.dart"],
          .toCore ["network", "dio_client.dart"],
          ⟨2, ["domain", "usecases", "get_" ++ feature.name ++ "_params.dart"]⟩,
          ⟨1, ["models", feature.name ++ "_response_model.dart"]⟩] [none]
        ("abstract class " ++ (feature.pascalName ++ "RemoteDataSource") ++ " " ++ "\x7b")) ∧
    Renders (Template.repositoryImpl.take 9) context
      (frontLines [some "package:dartz/dartz.dart"] [
          .toCore ["error", "exceptions.dart"],
          .toCore ["error", "failures.dart"],
          ⟨2, ["domain", "entities", feature.name ++ "_response_entity.dart"]⟩,
          ⟨2, ["domain", "repositories", feature.name ++ "_repository.dart"]⟩,
          ⟨2, ["domain", "usecases", "get_" ++ feature.name ++ "_params.dart"]⟩,
          ⟨1, ["datasources", feature.name ++ "_remote_data_source.dart"]⟩] [none]
        ("class " ++ (feature.pascalName ++ "RepositoryImpl") ++ " " ++
          ("implements " ++ feature.pascalName ++ "Repository \x7b"))) := by
  obtain ⟨hname, hmethod, hrepository, hsource, -, -⟩ := eval_baseContext feature root added
  constructor
  · -- The lines are computed for each method; the names stay as they are.
    cases hverb : feature.method <;>
    simp [Renders, frontLines, Template.remoteDataSource, Line.renderAll, Line.render, joinRendered,
      Part.render, hname, hmethod, hverb, HttpMethod.name, hsource, Condition.eval, Form.apply,
      Operand.get, Json.display, bind, Except.bind, Except.map, pure, Except.pure, Text.ofLines,
      headerLine, importLine, Hop.uri, Hop.toCore, ← String.toList_inj]
  · simp [Renders, frontLines, Template.repositoryImpl, Line.renderAll, Line.render, joinRendered,
      Part.render, hname, hrepository, Form.apply, Operand.get, Json.display, bind, Except.bind,
      Except.map, pure, Except.pure, Text.ofLines, headerLine, importLine, Hop.uri, Hop.toCore,
      ← String.toList_inj]

end

section

variable {feature : Feature} (hfeature : IsWord feature.name)
  (hpascal : IsClassName feature.pascalName) {root : TypeName} {fields : List (String × Schema)}
  (hnamed : ∀ record ∈ (Schema.record root fields).records, IsClassName record.name.logical)

/-- The class names of a layer are those of the records. -/
theorem names_recordClasses (schema : Schema) (layer : RecordLayer) (decoders : Bool) :
    (recordClasses schema layer decoders).map (fun record => record.name.qualified) =
      schema.records.map fun record => (record.name.forLayer layer).qualified := by
  rw [recordClasses, Schema.records_forLayer, List.map_map, List.map_map]
  rfl

omit hnamed in
theorem recordClasses_ne_nil (layer : RecordLayer) (decoders : Bool) :
    recordClasses (.record root fields) layer decoders ≠ [] := by
  simp [recordClasses, Schema.forLayer, Schema.records]

include hnamed in
theorem isWord_of_mem_recordClasses {layer : RecordLayer} {decoders : Bool} {record : RecordClass}
    (h : record ∈ recordClasses (.record root fields) layer decoders) :
    IsWord record.name.qualified ∧ ∀ base ∈ record.base, IsWord base.qualified := by
  have hword : ∀ moved ∈ ((Schema.record root fields).forLayer layer).records,
      IsWord moved.name.logical := by
    rw [Schema.records_forLayer, List.forall_mem_map]
    exact fun origin horigin => (hnamed origin horigin).isWord
  obtain ⟨moved, hmoved, rfl⟩ := List.mem_map.1 h
  refine ⟨TypeName.qualified_isWord (hword moved hmoved), fun base hbase => ?_⟩
  cases layer with
  | entity => cases hbase
  | model =>
    cases hbase
    exact TypeName.qualified_isWord (hword moved hmoved)

include hfeature hpascal hnamed

theorem domainArtifacts_describes :
    List.Forall₂ (fun artifact sheet => sheet.Describes feature (.record root fields) artifact)
      (Plan.domainArtifacts feature (.record root fields) (Plan.baseContext feature root))
      ((featureSheets feature.name).take 4) := by
  have hrepository : IsWord (feature.pascalName ++ "Repository") := hpascal.isWord.append (by decide)
  have hget : IsWord ("Get" ++ feature.pascalName) := IsWord.append (by decide) hpascal.isWord
  have hpackage : headerLine (some "package:equatable/equatable.dart") =
      "import 'package:equatable/equatable.dart';" := by simp [headerLine, importLine]
  -- The entities are a file of record classes, the other three have one class line behind their
  -- front.
  have hentity : Renders Template.entity
      (Plan.baseContext feature root ++ [("records", .array
        ((recordClasses (.record root fields) .entity false).map Plan.recordValue))])
      (([some "package:equatable/equatable.dart"] ++
          ([] : List Hop).map fun hop => some hop.uri).map headerLine ++
        (recordClasses (.record root fields) .entity false).flatMap RecordClass.entityLines) := by
    rw [List.map_nil, List.append_nil, List.map_singleton, hpackage]
    exact renders_entity rfl
  have hlines : ∀ record : RecordClass, ∃ rest, record.entityLines =
      "" :: ("class " ++ record.name.qualified ++ " " ++ "extends Equatable \x7b") :: rest :=
    fun record => ⟨_, by simp [RecordClass.entityLines, ← String.toList_inj]; rfl⟩
  obtain ⟨hinterface, huseCase, hparams⟩ := domain_fronts feature root []
  refine .cons ?_ (.cons ?_ (.cons ?_ (.cons ?_ .nil)))
  · refine Sheet.describes_of_records hfeature (List.mem_of_getElem? (i := 8) rfl)
      (by simp [← String.toList_inj]) rfl (by simp [Template.library]) hentity (by decide) hlines
      (recordClasses_ne_nil .entity false) (fun record hrecord => ?_) (fun htidy record hrecord => ?_) ?_
    · exact ⟨(isWord_of_mem_recordClasses hnamed hrecord).1, by decide⟩
    · exact RecordClass.isLine_entityLines
        (recordClasses_isPrintable htidy .entity false record hrecord).toIsNamed
    · rintro kind ⟨⟩
      exact (names_recordClasses (.record root fields) .entity false).symm
  · exact Sheet.describes_of_front hfeature (List.mem_of_getElem? (i := 9) rfl)
      (by simp [← String.toList_inj]) rfl (by simp [Template.library]) hinterface (by decide) rfl
      (by decide) hrepository (by decide) (by rintro kind ⟨⟩; rfl)
  · exact Sheet.describes_of_front hfeature (List.mem_of_getElem? (i := 10) rfl)
      (by simp [← String.toList_inj]) rfl (by simp [Template.library]) huseCase (by decide) rfl
      (by decide) (hget.append (by decide)) (by decide) (by rintro kind ⟨⟩)
  · exact Sheet.describes_of_front hfeature (List.mem_of_getElem? (i := 11) rfl)
      (by simp [← String.toList_inj]) rfl (by simp [Template.library]) hparams (by decide) rfl
      (by decide) (hget.append (by decide)) (by decide) (by rintro kind ⟨⟩; rfl)

theorem dataArtifacts_describes (wrapList : Bool) :
    List.Forall₂ (fun artifact sheet => sheet.Describes feature (.record root fields) artifact)
      (Plan.dataArtifacts feature (.record root fields) (Plan.baseContext feature root) wrapList)
      ((featureSheets feature.name).drop 4) := by
  have hsource : IsWord (feature.pascalName ++ "RemoteDataSource") :=
    hpascal.isWord.append (by decide)
  have himplementation : IsWord (feature.pascalName ++ "RepositoryImpl") :=
    hpascal.isWord.append (by decide)
  have htail : Text.IsLine ("implements " ++ feature.pascalName ++ "Repository \x7b") := by
    simp only [Text.isLine_append]
    exact ⟨⟨by decide, hpascal.isWord.isLine⟩, by decide⟩
  -- The model is a file of record classes, the other two have one class line behind their front.
  let hops : List Hop := [.toCore ["utils", "data_parser.dart"],
    ⟨2, ["domain", "entities", feature.name ++ "_response_entity.dart"]⟩]
  have himports : ([] ++ hops.map fun hop : Hop => some hop.uri).map headerLine =
      ["import '../../../../core/utils/data_parser.dart';",
        "import '../../domain/entities/" ++ feature.name ++ "_response_entity.dart';"] := by
    simp [hops, headerLine, importLine, Hop.uri, Hop.toCore, ← String.toList_inj]
  have hmodel : Renders Template.model
      (Plan.baseContext feature root ++ [("records", .array
        ((recordClasses (.record root fields) .model true).map Plan.recordValue))])
      (([] ++ hops.map fun hop : Hop => some hop.uri).map headerLine ++
        (recordClasses (.record root fields) .model true).flatMap RecordClass.modelLines) := by
    rw [himports]
    exact renders_model rfl rfl
  let tail : RecordClass → String := fun record =>
    "extends " ++ (Plan.ofOption (record.base.map TypeName.qualified)).display ++ " \x7b"
  have hlines : ∀ record : RecordClass, ∃ rest, record.modelLines =
      "" :: ("class " ++ record.name.qualified ++ " " ++ tail record) :: rest :=
    fun record => ⟨_, by simp [RecordClass.modelLines, tail, ← String.toList_inj]; rfl⟩
  have hdataSource := (data_fronts feature root [("wrap_list", .bool wrapList)]).1
  have hrepository := (data_fronts feature root []).2
  refine .cons ?_ (.cons ?_ (.cons ?_ .nil))
  · have hmem : ("feature/data/model.dart.j2", Template.model) ∈ Template.library := by
      simp [Template.library]
    refine Sheet.describes_of_records hfeature (List.mem_of_getElem? (i := 12) rfl)
      (by simp [← String.toList_inj]) rfl hmem hmodel (by simp) hlines
      (recordClasses_ne_nil .model true) (fun record hrecord => ?_) (fun htidy record hrecord => ?_) ?_
    · obtain ⟨hname, hbase⟩ := isWord_of_mem_recordClasses hnamed hrecord
      have hshown : Text.IsLine (Plan.ofOption (record.base.map TypeName.qualified)).display := by
        refine RecordClass.isLine_ofOption fun value hvalue => ?_
        obtain ⟨base, hmem, rfl⟩ := Option.map_eq_some_iff.1 hvalue
        exact (hbase base hmem).isLine
      refine ⟨hname, ?_⟩
      simp only [tail, Text.isLine_append]
      exact ⟨⟨by decide, hshown⟩, by decide⟩
    · exact RecordClass.isLine_modelLines (recordClasses_isPrintable htidy .model true record hrecord)
    · rintro kind ⟨⟩
      exact (names_recordClasses (.record root fields) .model true).symm
  · exact Sheet.describes_of_front hfeature (List.mem_of_getElem? (i := 13) rfl)
      (by simp [← String.toList_inj]) rfl (by simp [Template.library]) hdataSource (by split <;> decide) rfl
      (by decide) hsource (by decide) (by rintro kind ⟨⟩; rfl)
  · exact Sheet.describes_of_front hfeature (List.mem_of_getElem? (i := 14) rfl)
      (by simp [← String.toList_inj]) rfl (by simp [Template.library]) hrepository (by decide)
      rfl (by decide) himplementation htail (by rintro kind ⟨⟩)

end

/-- **The planned files are as their sheets say.** -/
theorem planned_describes {feature : Feature} (hfeature : IsWord feature.name)
    (hpascal : IsClassName feature.pascalName) {schema : Schema}
    (hnamed : ∀ record ∈ schema.records, IsClassName record.name.logical) {wrapList : Bool}
    {timeout : Int} {planned : List Artifact}
    (hplanned : planArtifacts schema feature wrapList timeout = .ok planned) :
    List.Forall₂ (fun artifact sheet => sheet.Describes feature schema artifact) planned
      (sheets feature.name) := by
  cases schema with
  | record root fields =>
    cases hplanned
    have hcore := coreArtifacts_describes hfeature (.record root fields) root timeout
    have hdomain := domainArtifacts_describes hfeature hpascal hnamed
    have hdata := dataArtifacts_describes hfeature hpascal hnamed wrapList
    have hsheets : sheets feature.name = coreSheets ++ (featureSheets feature.name).take 4 ++
        (featureSheets feature.name).drop 4 := rfl
    rw [hsheets]
    exact List.rel_append (List.rel_append hcore hdomain) hdata
  | scalar | list => cases hplanned

end DartLayers
