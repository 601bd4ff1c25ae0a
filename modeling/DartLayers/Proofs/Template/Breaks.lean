import DartLayers.Proofs.Template.Records
import DartLayers.Proofs.Template.Shape

/-!
# DartLayers — line breaks in rendered templates

A rendered template has a line break for each of its lines, and those of the values that are put into
them. A template that puts only quiet values into its lines has as many breaks as lines, whatever the
values are. The classes of records have as many lines as the numbers of their fields say; a model
has the breaks of the keys that it copies besides.

* **`quietTest`** — the check that a template puts quiet values only.
* **`renderTemplate_breaks`** — the breaks of a template that passes are its lines.
* **`breaks_entityLines`**, **`breaks_modelLines`** — the breaks of the files of record classes.
-/

namespace DartLayers

/-! ## Quiet templates -/

/-- What a value is like that puts no break into a line: its text has none, or it is the name of a
method, which has none in lower case either. -/
inductive QuietKind where
  | line
  | verb
  deriving DecidableEq

def QuietKind.Holds : QuietKind → Json → Prop
  | .line, value => Text.IsLine value.display
  | .verb, value => ∃ method : HttpMethod, value = .string method.name

/-- Whether a value of a shape is put into a line in a quiet form. -/
def Shape.isQuiet : Shape QuietKind → Form → Bool
  | .leaf _, .plain | .leaf .verb, .lowerCase => true
  | .exactly text, .plain => text.toList.all fun c => c != '\n' && c != '\r'
  | _, _ => false

/-- Whether a part puts no break into a line. -/
def Part.isQuiet (shapes : List (String × Shape QuietKind)) : Part → Bool
  | .text literal => literal.toList.all fun c => c != '\n' && c != '\r'
  | .put expr form => (expr.shape? shapes).any (·.isQuiet form)

/-- No line holds a break. -/
def quietTest : LineTest QuietKind where
  text literal := literal.toList.all fun c => c != '\n' && c != '\r'
  parts shapes parts := parts.all (Part.isQuiet shapes)

theorem isLine_of_all {text : String} (h : (text.toList.all fun c => c != '\n' && c != '\r') = true) :
    Text.IsLine text := by
  simpa [Text.IsLine] using h

theorem isLine_lowerName (method : HttpMethod) : Text.IsLine (Text.lower method.name) := by
  cases method <;> decide +kernel

theorem Alike.exists_quiet {shape : Shape QuietKind} {form : Form} {value other : Json}
    (h : Alike QuietKind.Holds shape value other) (hquiet : shape.isQuiet form = true) :
    ∃ text, form.apply (.value value) = .ok text ∧ form.apply (.value other) = .ok text ∧
      Text.IsLine text := by
  unfold Shape.isQuiet at hquiet
  split at hquiet
  · rename_i kind
    cases h with
    | leaf hholds =>
      refine ⟨value.display, rfl, rfl, ?_⟩
      cases kind with
      | line => exact hholds
      | verb =>
        obtain ⟨method, rfl⟩ := hholds
        cases method <;> decide
  · cases h with
    | leaf hholds =>
      obtain ⟨method, rfl⟩ := hholds
      exact ⟨Text.lower method.name, rfl, rfl, isLine_lowerName method⟩
  · cases h
    exact ⟨_, rfl, rfl, isLine_of_all hquiet⟩
  · cases hquiet

variable {shapes : List (String × Shape QuietKind)} {context other : Context}

theorem quietTest_sound : quietTest.Sound QuietKind.Holds Text.IsLine where
  text h := isLine_of_all h
  parts := by
    intro shapes context other parts hparts halike
    induction parts with
    | nil => exact ⟨"", rfl, rfl, by decide⟩
    | cons part rest ih =>
      obtain ⟨hpart, hrest⟩ := Bool.and_eq_true_iff.1 (List.all_cons.symm.trans hparts)
      obtain ⟨behind, hbehind, hsame, hbehindLine⟩ := ih hrest
      have hfirst : ∃ text, part.render context = .ok text ∧ part.render other = .ok text ∧
          Text.IsLine text := by
        cases part with
        | text literal => exact ⟨literal, rfl, rfl, isLine_of_all hpart⟩
        | put expr form =>
          obtain ⟨shape, hshape, hquiet⟩ := (Option.any_eq_true ..).1 hpart
          obtain ⟨found, also, hfound, halso, hvalue⟩ := Expr.eval_alike halike hshape
          obtain ⟨text, htext, hagain, hline⟩ := hvalue.exists_quiet hquiet
          refine ⟨text, ?_, ?_, hline⟩
          · rw [Part.render, hfound]
            exact htext
          · rw [Part.render, halso]
            exact hagain
      obtain ⟨text, htext, hagain, hline⟩ := hfirst
      refine ⟨text ++ behind, ?_, ?_, Text.isLine_append.2 ⟨hline, hbehindLine⟩⟩
      · rw [joinRendered, htext, hbehind]
        rfl
      · rw [joinRendered, hagain, hsame]
        rfl

/-- **A template that puts quiet values only** has as many breaks as lines. -/
theorem renderTemplate_breaks {path : String} {template : List Line}
    (hfind : Template.find? path = some template)
    (hquiet : Line.passesAll quietTest template shapes = true)
    (h : Alike QuietKind.Holds (.object shapes) (.object context) (.object context)) :
    ∃ content, renderTemplate path context = .ok content ∧
      Line.heightAll template context = .ok (Text.breaks content) := by
  obtain ⟨lines, hlines, -, hheight, hgood⟩ := Line.exists_renders_of_passesAll quietTest_sound hquiet h
  refine ⟨Text.ofLines lines, ?_, ?_⟩
  · rw [renderTemplate, hfind]
    exact hlines
  · rw [hheight, Text.breaks_ofLines, Text.breaksOf_eq_zero_iff.2 hgood, Nat.add_zero]

namespace Template

/-- The quiet values of a feature and of its names. -/
def quietNames : List (String × Shape QuietKind) := [
  ("feature", .object [("name", .leaf .line), ("http_method", .leaf .verb)]),
  ("endpoint_constant", .leaf .line),
  ("names", .object [
    ("entity", .leaf .line),
    ("model", .leaf .line),
    ("repository", .leaf .line),
    ("data_source", .leaf .line),
    ("use_case", .leaf .line),
    ("params", .leaf .line),
    ("method", .leaf .line)])]

/-- A template puts quiet values into its lines, and reads nothing else. -/
def IsQuiet (shapes : List (String × Shape QuietKind)) (template : List Line) : Prop :=
  Line.passesAll quietTest template shapes = true

-- The literals are unfolded by rewriting: to evaluate one in the kernel takes far longer.
theorem core_isQuiet :
    IsQuiet [("timeout", .leaf .line)] dioClient ∧ IsQuiet [] authorizationInterceptor ∧
      IsQuiet [] networkInfo ∧ IsQuiet [] networkService ∧ IsQuiet [] exceptions ∧
      IsQuiet [] failures ∧ IsQuiet [] dataParser := by
  refine ⟨?_, ?_, ?_, ?_, ?_, ?_, ?_⟩ <;>
  · simp only [IsQuiet, dioClient, authorizationInterceptor, networkInfo, networkService, exceptions,
      failures, dataParser, Line.passesAll, Line.passes, quietTest, List.all_cons, List.all_nil, Part.isQuiet]
    simp -index only [String.toList_ofList]
    decide +kernel

theorem feature_isQuiet :
    IsQuiet quietNames repository ∧ IsQuiet quietNames useCase ∧
      IsQuiet (quietNames ++ [("wrap_list", .leaf .line)]) remoteDataSource ∧
      IsQuiet quietNames repositoryImpl := by
  refine ⟨?_, ?_, ?_, ?_⟩ <;>
  · simp only [IsQuiet, repository, useCase, remoteDataSource, repositoryImpl, Line.passesAll,
      Line.passes, quietTest, List.all_cons, List.all_nil, Part.isQuiet]
    simp -index only [String.toList_ofList]
    decide +kernel

end Template

/-! ## Record classes -/

namespace Dart.RecordClass

/-- How many lines a list of so many fields takes. -/
def fieldwiseHeight (count : Nat) : Nat :=
  if count = 0 then 1 else count + 2

/-- How many lines the entity file takes, by the numbers of fields. -/
def entityHeight (counts : List Nat) : Nat :=
  1 + (counts.map fun count => 7 + count + fieldwiseHeight count).sum

/-- How many lines the model file takes, by the numbers of fields. -/
def modelHeight (counts : List Nat) : Nat :=
  2 + (counts.map fun count => 6 + 2 * fieldwiseHeight count).sum

/-- The number of fields of a class. -/
def fieldCount (record : RecordClass) : Nat :=
  record.fields.length

theorem length_fieldwise (record : RecordClass) (opening closing alone : String)
    (line : FieldDeclaration → String) :
    (record.fieldwise opening closing alone line).length = fieldwiseHeight record.fieldCount := by
  rw [fieldwise, fieldwiseHeight, fieldCount]
  by_cases hfields : record.fields = []
  · simp [hfields]
  · simp [hfields]

theorem length_entityLines (record : RecordClass) : record.entityLines.length =
    7 + record.fieldCount + fieldwiseHeight record.fieldCount := by
  have hconstructor := record.length_fieldwise
  simp only [entityLines, declarationLines, constructorLines, List.length_append, List.length_cons,
    List.length_nil, List.length_map, hconstructor, fieldCount]
  omega

theorem length_modelLines (record : RecordClass) : record.modelLines.length =
    6 + 2 * fieldwiseHeight record.fieldCount := by
  have hfieldwise := record.length_fieldwise
  simp only [modelLines, constructorLines, returnLines, List.length_append, List.length_cons,
    List.length_nil, hfieldwise]
  omega

end Dart.RecordClass

open Dart

variable {records : List RecordClass} (h : ∀ record ∈ records, record.IsNamed)

include h

/-- **The entity file** has the breaks of its lines. -/
theorem breaks_entityLines :
    Text.breaks (Text.ofLines ("import 'package:equatable/equatable.dart';" ::
        records.flatMap Dart.RecordClass.entityLines)) =
      RecordClass.entityHeight (records.map RecordClass.fieldCount) := by
  have hlines : Text.breaksOf (records.flatMap RecordClass.entityLines) = 0 := by
    rw [Text.breaksOf_eq_zero_iff]
    intro line hline
    obtain ⟨record, hrecord, hmem⟩ := List.mem_flatMap.1 hline
    exact RecordClass.isLine_entityLines (h record hrecord) line hmem
  have himport : Text.breaks "import 'package:equatable/equatable.dart';" = 0 := by decide
  rw [Text.breaks_ofLines, Text.breaksOf_cons, himport, hlines, List.length_cons,
    List.length_flatMap, RecordClass.entityHeight, List.map_map]
  simp only [RecordClass.length_entityLines, Function.comp_def]
  omega

/-- **The model file** has the breaks of its lines, and those of the keys that it copies. -/
theorem breaks_modelLines {feature : String} (hfeature : Text.IsLine feature) :
    Text.breaks (Text.ofLines ("import '../../../../core/utils/data_parser.dart';" ::
        ("import '../../domain/entities/" ++ feature ++ "_response_entity.dart';") ::
        records.flatMap Dart.RecordClass.modelLines)) =
      RecordClass.modelHeight (records.map RecordClass.fieldCount) +
        Text.breaksOf (records.flatMap RecordClass.copies) := by
  have hlines : Text.breaksOf (records.flatMap RecordClass.modelLines) =
      Text.breaksOf (records.flatMap RecordClass.copies) := by
    rw [Text.breaksOf_flatMap, Text.breaksOf_flatMap]
    exact congrArg List.sum (List.map_congr_left fun record hrecord =>
      RecordClass.breaksOf_modelLines (h record hrecord))
  have hparser : Text.breaks "import '../../../../core/utils/data_parser.dart';" = 0 := by decide
  have hentities : Text.breaks ("import '../../domain/entities/" ++ feature ++
      "_response_entity.dart';") = 0 := by
    simp (disch := first | assumption | decide) only [Text.breaks_append, Text.IsLine.breaks_eq]
  rw [Text.breaks_ofLines, Text.breaksOf_cons, Text.breaksOf_cons, hparser, hentities, hlines,
    List.length_cons, List.length_cons, List.length_flatMap, RecordClass.modelHeight, List.map_map]
  simp only [RecordClass.length_modelLines, Function.comp_def]
  omega

end DartLayers
