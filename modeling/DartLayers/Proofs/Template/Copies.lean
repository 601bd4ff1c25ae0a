import DartLayers.Proofs.Dart.Asides
import DartLayers.Proofs.Template.Records

/-!
# DartLayers — texts that templates copy

Three of the files copy texts of the endpoint or of the payload: the registry has the base address
and the path in literals, the parameters have the path in a comment, and the models have the keys of
the payload in literals. Each file has the line breaks of its copies; if it has none of them, each copy
stays in its literal or in its comment.

* **`renders_registry`**, **`renders_params`** — the lines of the registry and of the parameters.
* **`encloses_registry`**, **`encloses_params`**, **`encloses_models`** — where the copies stand.
-/

namespace DartLayers

open Dart Template

/-! ## Models -/

namespace Dart.RecordClass

variable {record : RecordClass}

theorem linesAsides_fieldwise {opening closing alone : String} {line : FieldDeclaration → String}
    {found : FieldDeclaration → List Aside} (hopening : IsCode opening) (hclosing : IsCode closing)
    (halone : IsCode alone)
    (hline : ∀ field ∈ record.fields, lineAsides (line field).toList = found field) :
    linesAsides (record.fieldwise opening closing alone line) = record.fields.flatMap found := by
  rw [fieldwise]
  split
  · rename_i hempty
    rw [hempty, linesAsides_cons, lineAsides_code halone]
    rfl
  · have hfields : linesAsides (record.fields.map line) = record.fields.flatMap found := by
      rw [linesAsides, List.flatMap_map]
      exact List.flatMap_congr hline
    rw [List.cons_append, linesAsides_cons, linesAsides_append, linesAsides_cons, hfields,
      lineAsides_code hopening, lineAsides_code hclosing, List.nil_append]
    exact List.append_nil _

variable (h : record.IsNamed)

include h

theorem linesAsides_constructorLines {receiver : String} (hreceiver : IsWord receiver) :
    linesAsides (record.constructorLines receiver) = [] := by
  have hname := IsWord.isCode h.name
  have hnone : record.fields.flatMap (fun _ => []) = ([] : List Aside) := by simp
  rw [constructorLines, ← hnone]
  refine linesAsides_fieldwise ?_ (by decide) ?_ fun field hfield => lineAsides_code ?_
  · simp only [isCode_append]
    exact ⟨⟨by decide, hname⟩, by decide⟩
  · simp only [isCode_append]
    exact ⟨⟨by decide, hname⟩, by decide⟩
  · have hidentifier := IsWord.isCode (identifier_isWord h field hfield)
    simp only [isCode_append]
    exact ⟨⟨⟨⟨by decide, IsWord.isCode hreceiver⟩, by decide⟩, hidentifier⟩, by decide⟩

/-- The reading of a field has its copies of the key in literals. -/
theorem run_reading {field : FieldDeclaration} (hfield : field ∈ record.fields)
    (hcopies : ∀ text ∈ field.copies, Text.IsLine text) :
    Place.run .code (Plan.ofOption (field.decoding.map Decoding.render)).display.toList =
      some (field.copies.map .literal, .code) := by
  have hnamed := h.decodings field hfield
  rw [FieldDeclaration.copies] at hcopies ⊢
  cases hdecoding : field.decoding with
  | none => exact Place.run_code (by decide)
  | some decoding =>
    rw [hdecoding] at hcopies
    exact (Decoding.run_render_iff (hnamed decoding hdecoding)).2 hcopies

variable (hcopies : ∀ text ∈ record.copies, Text.IsLine text)

include hcopies

theorem linesAsides_returnLines :
    linesAsides record.returnLines = record.copies.map .literal := by
  have hname := IsWord.isCode h.name
  rw [returnLines, copies, List.map_flatMap]
  refine linesAsides_fieldwise ?_ (by decide) ?_ fun field hfield => lineAsides_of_run ?_
  · simp only [isCode_append]
    exact ⟨⟨by decide, hname⟩, by decide⟩
  · simp only [isCode_append]
    exact ⟨⟨by decide, hname⟩, by decide⟩
  · have hidentifier := Place.run_code (IsWord.isCode (identifier_isWord h field hfield))
    have hreading := run_reading h hfield fun text htext =>
      hcopies text (List.mem_flatMap.2 ⟨field, hfield, htext⟩)
    simp (disch := decide) only [String.toList_append, Place.run_append, Place.run_code, hidentifier,
      hreading, Option.bind_some, Option.map_some, List.nil_append, List.append_nil]

/-- **The literals of a model class** are the keys that it copies. -/
theorem linesAsides_modelLines : linesAsides record.modelLines = record.copies.map .literal := by
  have hname := IsWord.isCode h.name
  have hbase : IsCode (Plan.ofOption (record.base.map TypeName.qualified)).display := by
    have hword := h.base
    cases hknown : record.base with
    | none => decide
    | some base => exact IsWord.isCode (hword base hknown)
  have hopening : IsCode ("class " ++ record.name.qualified ++ " extends " ++
      (Plan.ofOption (record.base.map TypeName.qualified)).display ++ " \x7b") := by
    simp only [isCode_append]
    exact ⟨⟨⟨⟨by decide, hname⟩, by decide⟩, hbase⟩, by decide⟩
  have hfactory : IsCode ("  factory " ++ record.name.qualified ++
      ".fromJson(Map<String, dynamic> json) \x7b") := by
    simp only [isCode_append]
    exact ⟨⟨by decide, hname⟩, by decide⟩
  have hconstructor := linesAsides_constructorLines h (by decide : IsWord "super")
  have hreturn := linesAsides_returnLines h hcopies
  have hopen := lineAsides_code hopening
  have hread := lineAsides_code hfactory
  simp (disch := decide) only [modelLines, linesAsides_append, linesAsides_cons, linesAsides_nil,
    lineAsides_code, hopen, hread, hconstructor, hreturn, List.nil_append, List.append_nil]

end Dart.RecordClass

section

variable {records : List RecordClass} (h : ∀ record ∈ records, record.IsPrintable)

include h

/-- **The model file has each key that it copies in a literal.** -/
theorem encloses_models {feature : String} (hfeature : Text.IsLine feature) :
    Encloses (Text.ofLines ("import '../../../../core/utils/data_parser.dart';" ::
        ("import '../../domain/entities/" ++ feature ++ "_response_entity.dart';") ::
        records.flatMap Dart.RecordClass.modelLines)) (records.flatMap RecordClass.copies) := by
  have hentities : Text.IsLine ("import '../../domain/entities/" ++ feature ++
      "_response_entity.dart';") := by
    simp only [Text.isLine_append]
    exact ⟨⟨by decide, hfeature⟩, by decide⟩
  have hclasses : ∀ line ∈ records.flatMap Dart.RecordClass.modelLines, Text.IsLine line := by
    intro line hline
    obtain ⟨record, hrecord, hmem⟩ := List.mem_flatMap.1 hline
    exact RecordClass.isLine_modelLines (h record hrecord) line hmem
  have hfound : linesAsides (records.flatMap Dart.RecordClass.modelLines) =
      (records.flatMap RecordClass.copies).map .literal := by
    rw [linesAsides_flatMap, List.map_flatMap]
    exact List.flatMap_congr fun record hrecord =>
      RecordClass.linesAsides_modelLines (h record hrecord).toIsNamed (h record hrecord).copies
  refine ⟨(records.flatMap RecordClass.copies).map .literal, ?_, holds_literals _⟩
  rw [asides_ofLines (List.forall_mem_cons.2 ⟨by decide, List.forall_mem_cons.2 ⟨hentities, hclasses⟩⟩),
    linesAsides_cons, linesAsides_cons, hfound]
  exact .trans (List.sublist_append_right _ _) (List.sublist_append_right _ _)

end

/-! ## The registry -/

namespace Plan

/-- The base address in the registry. -/
def registeredBase (feature : Feature) : String :=
  (feature.baseUrl.filter (· ≠ "")).getD defaultBaseUrl

/-- The lines of the registry. -/
def registryLines (feature : Feature) : List String := [
  "final class ApiList \x7b",
  "  ApiList._();",
  "",
  "  // --- Base URLs ---",
  "  static const apiBaseUrl = \"" ++ escape (registeredBase feature) ++ "\";",
  "",
  "  // --- Generated API Endpoints ---",
  "  // Generated endpoint",
  "  static const " ++ feature.endpointConstant ++ " = \"" ++ escape feature.path ++ "\";",
  "  // Add your endpoints here",
  "\x7d"]

/-- The lines of the parameters. -/
def paramsLines (feature : Feature) : List String := [
  "import 'package:equatable/equatable.dart';",
  "",
  "class " ++ ("Get" ++ feature.pascalName ++ "Params") ++ " extends Equatable \x7b",
  "  // Define the request parameters " ++ feature.method.name ++ " " ++ feature.path ++ " expects.",
  "",
  "  const " ++ ("Get" ++ feature.pascalName ++ "Params") ++ "();",
  "",
  "  @override",
  "  List<Object?> get props => [];",
  "",
  "  Map<String, dynamic> toJson() => <String, dynamic>\x7b",
  "        // 'key': value,",
  "      \x7d;",
  "\x7d"]

end Plan

/-- The stretches of the line that declares a constant. -/
def Dart.constantStrands (name text : String) : List Strand :=
  [.code ("  static const " ++ name ++ " = "), .literal '"' text, .code ";"]

theorem Dart.renderAll_constantStrands (name text : String) :
    Strand.renderAll (constantStrands name text) =
      "  static const " ++ name ++ " = \"" ++ escape text ++ "\";" := by
  simp [constantStrands, Strand.renderAll, Strand.render, ← String.toList_inj]

/-- A line that declares a constant has its text in a literal, and no other, exactly if the text holds
no line break. -/
theorem Dart.run_constantStrands_iff {name : String} (hname : IsWord name) {text : String} :
    Place.run .code (Strand.renderAll (constantStrands name text)).toList =
      some ([.literal text], .code) ↔ Text.IsLine text := by
  have hclean : ∀ strand ∈ constantStrands name text, strand.IsClean := by
    simp only [constantStrands, List.forall_mem_cons, Strand.isClean_code, isCode_append]
    exact ⟨⟨⟨by decide, IsWord.isCode hname⟩, by decide⟩, Strand.isClean_double text, by decide,
      List.forall_mem_nil _⟩
  have hliterals : Strand.literals (constantStrands name text) = [('"', text)] := rfl
  rw [show [Aside.literal text] = [('"', text)].map (.literal ·.2) from rfl, ← hliterals,
    Strand.run_renderAll_iff hclean, hliterals, List.forall_mem_singleton]

/-- Two of the lines of the registry declare constants. -/
theorem Plan.registryLines_eq (feature : Feature) : Plan.registryLines feature =
    ["final class ApiList \x7b", "  ApiList._();", "", "  // --- Base URLs ---"] ++
      Strand.renderAll (constantStrands "apiBaseUrl" (Plan.registeredBase feature)) ::
        (["", "  // --- Generated API Endpoints ---", "  // Generated endpoint"] ++
          Strand.renderAll (constantStrands feature.endpointConstant feature.path) ::
            ["  // Add your endpoints here", "\x7d"]) := by
  have hline : "  static const apiBaseUrl = \"" = "  static const " ++ "apiBaseUrl" ++ " = \"" := by
    decide
  rw [renderAll_constantStrands, renderAll_constantStrands, Plan.registryLines, hline]
  rfl

variable {feature : Feature} (root : TypeName)

/-- **The registry**: the condition in it holds, since the endpoint has a constant. -/
theorem renders_registry (hconstant : feature.endpointConstant ≠ "") (timeout : Int) :
    Renders apiConstants (Plan.coreContext feature root timeout) (Plan.registryLines feature) := by
  have hcondition : Condition.eval (Plan.coreContext feature root timeout)
      (.holds (.name "endpoint_constant")) = .ok true := by
    simp [Condition.eval, Expr.eval, Plan.coreContext, Plan.baseContext, List.lookup, Operand.get,
      Json.isTruthy, hconstant, bind, Except.bind, pure, Except.pure]
  refine .text _ (.text _ (.text _ (.text _ (.line ?_ (.text _ (.text _ (.append
    (.choose hcondition (.text _ (.line ?_ .nil))) (.text _ (.text _ .nil)))))))))
  · have hbase : Part.render (Plan.coreContext feature root timeout)
        (.put (.name "base_url") .dartString) = .ok (escape (Plan.registeredBase feature)) := rfl
    simp [joinRendered, hbase, bind, Except.bind, pure, Except.pure, String.append_assoc]
  · have hname : Part.render (Plan.coreContext feature root timeout)
        (.put (.name "endpoint_constant") .plain) = .ok feature.endpointConstant := rfl
    have hpath : Part.render (Plan.coreContext feature root timeout)
        (.put (.name "endpoint_path") .dartString) = .ok (escape feature.path) := rfl
    simp [joinRendered, hname, hpath, bind, Except.bind, pure, Except.pure, String.append_assoc]

/-- **The parameters.** -/
theorem renders_params :
    Renders params (Plan.baseContext feature root) (Plan.paramsLines feature) := by
  have hclass : Part.render (Plan.baseContext feature root) (.put (ofNames "params") .plain) =
      .ok ("Get" ++ feature.pascalName ++ "Params") := rfl
  have hmethod : Part.render (Plan.baseContext feature root) (.put (ofFeature "http_method") .plain) =
      .ok feature.method.name := rfl
  have hpath : Part.render (Plan.baseContext feature root) (.put (ofFeature "endpoint_path") .plain) =
      .ok feature.path := rfl
  refine .text _ (.text _ (.line ?_ (.line ?_ (.text _ (.line ?_ (.text _ (.text _ (.text _ (.text _
    (.text _ (.text _ (.text _ (.text _ .nil)))))))))))))
  · simp [joinRendered, hclass, bind, Except.bind, pure, Except.pure, String.append_assoc]
  · simp [joinRendered, hmethod, hpath, bind, Except.bind, pure, Except.pure, String.append_assoc]
  · simp [joinRendered, hclass, bind, Except.bind, pure, Except.pure, String.append_assoc]

section

variable (hconstant : IsWord feature.endpointConstant)

include hconstant

/-- The registry has the line breaks of the base address and of the path. -/
theorem breaksOf_registryLines : Text.breaksOf (Plan.registryLines feature) =
    Text.breaksOf [Plan.registeredBase feature, feature.path] := by
  have hname := hconstant.isLine
  simp (disch := first | assumption | decide) only [Plan.registryLines, Text.breaksOf_cons,
    Text.breaksOf_nil, Text.breaks_append, Text.breaks_escape, Text.IsLine.breaks_eq, Nat.zero_add,
    Nat.add_zero]

/-- The literals of the registry are the base address and the path. -/
theorem linesAsides_registryLines (hbase : Text.IsLine (Plan.registeredBase feature))
    (hpath : Text.IsLine feature.path) : linesAsides (Plan.registryLines feature) = [
    .comment " --- Base URLs ---", .literal (Plan.registeredBase feature),
    .comment " --- Generated API Endpoints ---", .comment " Generated endpoint",
    .literal feature.path, .comment " Add your endpoints here"] := by
  have hbaseLine := lineAsides_of_run
    ((run_constantStrands_iff (by decide : IsWord "apiBaseUrl")).2 hbase)
  have hpathLine := lineAsides_of_run ((run_constantStrands_iff hconstant).2 hpath)
  have hfront : linesAsides ["final class ApiList \x7b", "  ApiList._();", "",
      "  // --- Base URLs ---"] = [.comment " --- Base URLs ---"] := by decide +kernel
  have hmiddle : linesAsides ["", "  // --- Generated API Endpoints ---",
      "  // Generated endpoint"] =
        [.comment " --- Generated API Endpoints ---", .comment " Generated endpoint"] := by
    decide +kernel
  have hbehind : linesAsides ["  // Add your endpoints here", "\x7d"] =
      [.comment " Add your endpoints here"] := by decide +kernel
  rw [Plan.registryLines_eq, linesAsides_append, hfront, linesAsides_cons, hbaseLine,
    linesAsides_append, hmiddle, linesAsides_cons, hpathLine, hbehind]
  rfl

/-- **The registry has the base address and the path in literals.** -/
theorem encloses_registry (hbase : Text.IsLine (Plan.registeredBase feature))
    (hpath : Text.IsLine feature.path) :
    Encloses (Text.ofLines (Plan.registryLines feature))
      [Plan.registeredBase feature, feature.path] := by
  have hlines : ∀ line ∈ Plan.registryLines feature, Text.IsLine line := by
    rw [← Text.breaksOf_eq_zero_iff, breaksOf_registryLines hconstant, Text.breaksOf_eq_zero_iff]
    simpa using ⟨hbase, hpath⟩
  refine ⟨[.literal (Plan.registeredBase feature), .literal feature.path], ?_, holds_literals _⟩
  rw [asides_ofLines hlines, linesAsides_registryLines hconstant hbase hpath]
  exact .cons _ (.cons_cons _ (.cons _ (.cons _ (.cons_cons _ (.cons _ .slnil)))))

end

section

variable (hpascal : IsWord feature.pascalName)

include hpascal

/-- The parameters have the line breaks of the path. -/
theorem breaksOf_paramsLines :
    Text.breaksOf (Plan.paramsLines feature) = Text.breaksOf [feature.path] := by
  have hname := hpascal.isLine
  have hmethod : Text.IsLine feature.method.name := by cases feature.method <;> decide
  simp (disch := first | assumption | decide) only [Plan.paramsLines, Text.breaksOf_cons,
    Text.breaksOf_nil, Text.breaks_append, Text.IsLine.breaks_eq, Nat.zero_add, Nat.add_zero]

/-- The first comment of the parameters ends in the path. -/
theorem linesAsides_paramsLines (hpath : Text.IsLine feature.path) : linesAsides (Plan.paramsLines feature) = [
    .literal "package:equatable/equatable.dart",
    .comment (" Define the request parameters " ++ feature.method.name ++ " " ++ feature.path ++
      " expects."),
    .comment " 'key': value,"] := by
  have hname := IsWord.isCode hpascal
  -- Lines that hold the name of the feature are code throughout, and the comment is one line with
  -- the path.
  have hclass : lineAsides ("class " ++ ("Get" ++ feature.pascalName ++ "Params") ++
      " extends Equatable \x7b").toList = [] := by
    refine lineAsides_code ?_
    simp only [isCode_append]
    exact ⟨⟨by decide, ⟨by decide, hname⟩, by decide⟩, by decide⟩
  have hconstructor : lineAsides ("  const " ++ ("Get" ++ feature.pascalName ++ "Params") ++
      "();").toList = [] := by
    refine lineAsides_code ?_
    simp only [isCode_append]
    exact ⟨⟨by decide, ⟨by decide, hname⟩, by decide⟩, by decide⟩
  have hcomment : lineAsides ("  // Define the request parameters " ++ feature.method.name ++ " " ++
      feature.path ++ " expects.").toList =
        [.comment (" Define the request parameters " ++ feature.method.name ++ " " ++ feature.path ++
          " expects.")] := by
    have hsplit : "  // Define the request parameters " ++ feature.method.name ++ " " ++
        feature.path ++ " expects." = "  //" ++ (" Define the request parameters " ++
          feature.method.name ++ " " ++ feature.path ++ " expects.") := by
      simp [← String.toList_inj]
    have hmethod : Text.IsLine feature.method.name := by cases feature.method <;> decide
    rw [hsplit, lineAsides_comment]
    simp only [Text.isLine_append]
    exact ⟨⟨⟨⟨by decide, hmethod⟩, by decide⟩, hpath⟩, by decide⟩
  -- All other lines are fixed, so their asides are computed.
  have hfront : linesAsides ["import 'package:equatable/equatable.dart';", ""] =
      [.literal "package:equatable/equatable.dart"] := by decide +kernel
  have hbehind : linesAsides ["", "  @override", "  List<Object?> get props => [];", "",
      "  Map<String, dynamic> toJson() => <String, dynamic>\x7b", "        // 'key': value,",
      "      \x7d;", "\x7d"] = [.comment " 'key': value,"] := by decide +kernel
  calc linesAsides (Plan.paramsLines feature)
      = linesAsides ["import 'package:equatable/equatable.dart';", ""] ++
          lineAsides ("class " ++ ("Get" ++ feature.pascalName ++ "Params") ++
            " extends Equatable \x7b").toList ++
          lineAsides ("  // Define the request parameters " ++ feature.method.name ++ " " ++
            feature.path ++ " expects.").toList ++
          lineAsides "".toList ++
          lineAsides ("  const " ++ ("Get" ++ feature.pascalName ++ "Params") ++ "();").toList ++
          linesAsides ["", "  @override", "  List<Object?> get props => [];", "",
            "  Map<String, dynamic> toJson() => <String, dynamic>\x7b",
            "        // 'key': value,", "      \x7d;", "\x7d"] := by
        simp only [Plan.paramsLines, linesAsides_cons, linesAsides_nil, List.append_assoc,
          List.append_nil]
    _ = _ := by rw [hfront, hclass, hcomment, hconstructor, hbehind]; rfl

/-- **The parameters have the path in a comment.** -/
theorem encloses_params (hpath : Text.IsLine feature.path) :
    Encloses (Text.ofLines (Plan.paramsLines feature)) [feature.path] := by
  have hlines : ∀ line ∈ Plan.paramsLines feature, Text.IsLine line := by
    rw [← Text.breaksOf_eq_zero_iff, breaksOf_paramsLines hpascal, Text.breaksOf_eq_zero_iff]
    simpa using hpath
  refine ⟨[.comment (" Define the request parameters " ++ feature.method.name ++ " " ++
    feature.path ++ " expects.")], ?_, .cons ?_ .nil⟩
  · rw [asides_ofLines hlines, linesAsides_paramsLines hpascal hpath]
    exact .cons _ (.cons_cons _ (.cons _ .slnil))
  · refine ⟨(" Define the request parameters " ++ feature.method.name ++ " ").toList,
      " expects.".toList, ?_⟩
    simp only [String.toList_append]

end

end DartLayers
