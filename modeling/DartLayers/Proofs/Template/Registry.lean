import DartLayers.Plan
import DartLayers.Proofs.Dart.Mentions

/-!
# DartLayers — constants in the generated files

Two of the generated files have to agree on the name of a constant: the registry declares the
constant of the endpoint beside the base address, and the data source of the feature refers to it.

* **`declarations_registry`** — the constants that a registry declares.
* **`references_dataSource`** — the constant that a data source refers to.
-/

namespace DartLayers

open Dart Template

/-! ## The registry -/

/-- The base address is declared in every registry. -/
theorem wordsAfter_baseAddress (rest : List Char) :
    wordsAfter "static const ".toList ("  static const apiBaseUrl = \"".toList ++ rest) =
      "apiBaseUrl" :: wordsAfter "static const ".toList rest := by
  have hsplit : "  static const apiBaseUrl = \"".toList ++ rest =
      "  static const apiBaseUrl ".toList ++ '=' :: (" \"".toList ++ rest) := by
    repeat rw [String.toList_ofList]
    rfl
  have hbehind : '=' :: (" \"".toList ++ rest) = "= \"".toList ++ rest := by
    repeat rw [String.toList_ofList]
    rfl
  have hword : wordsAfter "static const ".toList "  static const apiBaseUrl ".toList =
      ["apiBaseUrl"] := by
    repeat rw [String.toList_ofList]
    decide +kernel
  rw [hsplit, wordsAfter_append_cons (by decide) (by decide), hword, hbehind,
    wordsAfter_append_of_quiet (by decide), List.singleton_append]

/-- The endpoint is declared behind the base address. -/
theorem wordsAfter_endpoint {word : List Char} (hword : ∀ c ∈ word, isNameChar c = true)
    (rest : List Char) :
    wordsAfter "static const ".toList ("  static const ".toList ++ (word ++
      (" = \"".toList ++ rest))) = String.ofList word :: wordsAfter "static const ".toList rest := by
  have hsplit : "  static const ".toList = "  ".toList ++ "static const ".toList := by decide
  have hmark : "static const ".toList = 's' :: "tatic const ".toList := by decide
  have hblank : ' ' ∈ "static const ".toList := by decide
  rw [hsplit, wordsAfter_mark hmark (by decide) (by decide) hblank (by decide) hword (by decide)
    (by decide) rest, wordsAfter_append_of_quiet (by decide)]

/-- **The constants of a registry**: the base address and the endpoint. -/
theorem declarations_registry {feature : Feature} (hconstant : feature.endpointConstant ≠ "")
    (hword : ∀ c ∈ feature.endpointConstant.toList, isNameChar c = true) {root : TypeName}
    {timeout : Int} {text : String}
    (h : renderTemplate "core/network/api_constants.dart.j2"
      (Plan.coreContext feature root timeout) = .ok text) :
    declarations text = ["apiBaseUrl", feature.endpointConstant] := by
  have hfind : Template.find? "core/network/api_constants.dart.j2" = some apiConstants := by rfl
  have hquote : '"' ∉ feature.endpointConstant.toList := fun hmem => by
    have hname := hword _ hmem
    revert hname
    decide
  rw [renderTemplate, hfind] at h
  rw [declarations, ← List.append_nil text.toList]
  simp [-String.reduceAppend, apiConstants, Line.renderAll, Line.render, joinRendered, Part.render,
    Expr.eval, Form.apply, Operand.get, Condition.eval, Plan.coreContext, Plan.baseContext,
    List.lookup, Json.isTruthy, Json.display, hconstant, bind, Except.bind, pure, Except.pure,
    Except.map, String.append_assoc] at h
  subst h
  simp only [String.toList_append, List.append_assoc, escape, String.toList_ofList]
  simp (disch := first | assumption | (repeat rw [String.toList_ofList]); decide +kernel) only
    [withoutTexts_append, withoutTexts_literal, withoutTexts]
  simp (disch := first | assumption | (repeat rw [String.toList_ofList]); decide +kernel) only
    [wordsAfter_append_of_quiet, wordsAfter_baseAddress, wordsAfter_endpoint hword, wordsAfter]
  rw [String.ofList_toList]

/-! ## The data source -/

/-- A data source calls the registry once. -/
theorem wordsAfter_call {word text : List Char} (hword : ∀ c ∈ word, isNameChar c = true)
    (hends : endsWord text = true) (hclear : isClear '.' "ApiList.".toList text = true)
    (rest : List Char) :
    wordsAfter "ApiList.".toList ("        ApiList.".toList ++ (word ++ (text ++ rest))) =
      String.ofList word :: wordsAfter "ApiList.".toList (text ++ rest) := by
  have hsplit : "        ApiList.".toList = "        ".toList ++ "ApiList.".toList := by decide
  have hmark : "ApiList.".toList = 'A' :: "piList.".toList := by decide
  have hdot : '.' ∈ "ApiList.".toList := by decide
  rw [hsplit]
  exact wordsAfter_mark hmark (by decide) (by decide) hdot (by decide) hword hends hclear rest

/-- **The constant of a data source** is that of the endpoint. -/
theorem references_dataSource {feature : Feature} {root : TypeName} {wrapList : Bool}
    {text : String} (hname : '.' ∉ feature.name.toList) (hpascal : '.' ∉ feature.pascalName.toList)
    (hroot : '.' ∉ root.logical.toList)
    (hword : ∀ c ∈ feature.endpointConstant.toList, isNameChar c = true)
    (h : renderTemplate "feature/data/remote_data_source.dart.j2"
      (Plan.baseContext feature root ++ [("wrap_list", .bool wrapList)]) = .ok text) :
    references text = [feature.endpointConstant] := by
  have hfind : Template.find? "feature/data/remote_data_source.dart.j2" =
      some remoteDataSource := by rfl
  have hdot : '.' ∈ "ApiList.".toList := by decide
  have hpost : Text.lower "POST" = "post" := by decide +kernel
  have hput : Text.lower "PUT" = "put" := by decide +kernel
  rw [renderTemplate, hfind] at h
  rw [references, ← List.append_nil text.toList]
  cases hmethod : feature.method <;> cases wrapList <;>
  · simp [-String.reduceAppend, hmethod, remoteDataSource, Line.renderAll, Line.render, joinRendered, Part.render,
      Expr.eval, Form.apply, Operand.get, Condition.eval, Plan.baseContext, List.lookup,
      Json.isTruthy, Json.display, bind, Except.bind, pure, Except.pure, Except.map, ofFeature,
      ofNames, Json.member?, Plan.featureValue, Plan.namesValue, HttpMethod.name,
      String.append_assoc, TypeName.qualified, TypeName.forLayer, RecordLayer.suffix, hpost,
      hput] at h
    subst h
    simp only [String.toList_append, List.append_assoc]
    simp (disch := first | assumption | (repeat rw [String.toList_ofList]); decide +kernel) only
      [wordsAfter_append_of_quiet, wordsAfter_append_of_word hdot, wordsAfter_call hword,
      wordsAfter]
    rw [String.ofList_toList]

end DartLayers
