import DartLayers.Plan
import DartLayers.Proofs.Dart.Outline

/-!
# DartLayers — the lines of record classes

The entity file and the model file hold one class for each record. Their lines are found from the
templates, loop by loop, and what the lines say is read off them: the loops over the fields of a
record write its field names in one order, in the declarations, the parameters, the properties and
the arguments.

* **`renders_entity`**, **`renders_model`** — the lines of the two files.
* **`outlines_entityLines`**, **`outlines_modelLines`** — the classes that are read off them.
-/

namespace DartLayers

open Dart Template

/-! ## Lines -/

namespace Dart.RecordClass

variable (record : RecordClass)

/-- A line for each field between two others, or one line alone if there are no fields. -/
def fieldwise (opening closing alone : String) (line : FieldDeclaration → String) : List String :=
  if record.fields = [] then [alone] else opening :: record.fields.map line ++ [closing]

/-- The declarations of the fields. -/
def declarationLines : List String :=
  record.fields.map fun field => "  final " ++ field.type.render ++ " " ++ field.identifier ++ ";"

/-- The constructor, with a parameter for each field. -/
def constructorLines (receiver : String) : List String :=
  record.fieldwise ("  const " ++ record.name.qualified ++ "(\x7b") "  \x7d);"
    ("  const " ++ record.name.qualified ++ "();")
    fun field => "    required " ++ receiver ++ "." ++ field.identifier ++ ","

/-- What the factory of a model returns, with an argument for each field. -/
def returnLines : List String :=
  record.fieldwise ("    return " ++ record.name.qualified ++ "(") "    );"
    ("    return const " ++ record.name.qualified ++ "();")
    fun field => "      " ++ field.identifier ++ ": " ++
      (Plan.ofOption (field.decoding.map Decoding.render)).display ++ ","

/-- The entity class. -/
def entityLines : List String :=
  ["", "class " ++ record.name.qualified ++ " extends Equatable \x7b"] ++
    record.declarationLines ++ [""] ++ record.constructorLines "this" ++
    ["", "  @override",
      "  List<Object?> get props => [" ++ ", ".intercalate record.identifiers ++ "];", "\x7d"]

/-- The model class. -/
def modelLines : List String :=
  ["", "class " ++ record.name.qualified ++ " extends " ++
      (Plan.ofOption (record.base.map TypeName.qualified)).display ++ " \x7b"] ++
    record.constructorLines "super" ++
    (["", "  factory " ++ record.name.qualified ++ ".fromJson(Map<String, dynamic> json) \x7b"] ++
      (record.returnLines ++ ["  \x7d", "\x7d"]))

end Dart.RecordClass

/-! ## Rendering -/

section

variable (record : RecordClass) (context : Context)

@[simp] theorem render_text (literal : String) :
    Part.render context (.text literal) = .ok literal := rfl

/-- The context of a round of the loop over the records. -/
abbrev atRecord : Context :=
  ("record", Plan.recordValue record) :: context

@[simp] theorem render_name :
    Part.render (atRecord record context) (.put (ofRecord "name") .plain) =
      .ok record.name.qualified := rfl

@[simp] theorem render_baseName :
    Part.render (atRecord record context) (.put (ofRecord "base_name") .plain) =
      .ok (Plan.ofOption (record.base.map TypeName.qualified)).display := rfl

@[simp] theorem render_identifiers :
    Part.render (atRecord record context) (.put (ofRecord "identifiers") (.joined ", ")) =
      .ok (", ".intercalate record.identifiers) := by
  have hitems : (record.identifiers.map Json.string).map Json.display = record.identifiers := by
    rw [List.map_map]
    exact List.map_id record.identifiers
  rw [← hitems]
  rfl

theorem eval_fields : (ofRecord "fields").eval (atRecord record context) =
    .ok (.value (.array (record.fields.map Plan.fieldValue))) := rfl

theorem eval_holds_fields :
    Condition.eval (atRecord record context) (.holds (ofRecord "fields")) =
      .ok (!record.fields.isEmpty) := by
  rw [Condition.eval, eval_fields]
  simp [bind, Except.bind, Operand.get, Json.isTruthy, pure, Except.pure]

/-- The context of a round of the loop over the fields of a record. -/
abbrev atField (field : FieldDeclaration) : Context :=
  ("f", Plan.fieldValue field) :: atRecord record context

@[simp] theorem render_identifier (field : FieldDeclaration) :
    Part.render (atField record context field) (.put (ofField "identifier") .plain) =
      .ok field.identifier := rfl

@[simp] theorem render_type (field : FieldDeclaration) :
    Part.render (atField record context field) (.put (ofField "dart_type") .plain) =
      .ok field.type.render := rfl

@[simp] theorem render_decode (field : FieldDeclaration) :
    Part.render (atField record context field) (.put (ofField "decode") .plain) =
      .ok (Plan.ofOption (field.decoding.map Decoding.render)).display := rfl

theorem renders_fieldDeclarations :
    Renders fieldDeclarations (atRecord record context) record.declarationLines := by
  refine .loop_line (eval_fields record context) fun field _ => ?_
  simp [joinRendered, bind, Except.bind, pure, Except.pure, String.append_assoc]

/-- The constructor and the factory have a line for each field, and a shorter form without any. -/
theorem renders_fieldwise {first item only : List Part} {opening closing alone : String}
    {line : FieldDeclaration → String}
    (hfirst : joinRendered (Part.render (atRecord record context)) first = .ok opening)
    (hitem : ∀ field, joinRendered (Part.render (atField record context field)) item =
      .ok (line field))
    (honly : joinRendered (Part.render (atRecord record context)) only = .ok alone) :
    Renders [
        .choose (.holds (ofRecord "fields"))
          [.line first, .loop "f" (ofRecord "fields") [.line item], .text closing]
          [.line only]]
      (atRecord record context) (record.fieldwise opening closing alone line) := by
  refine .choose (eval_holds_fields record context) ?_
  rw [Dart.RecordClass.fieldwise]
  by_cases hfields : record.fields = []
  · rw [hfields, if_pos rfl]
    exact .line honly .nil
  · rw [if_neg hfields, List.isEmpty_eq_false_iff.2 hfields]
    have hloop : Renders [.loop "f" (ofRecord "fields") [.line item]] (atRecord record context)
        (record.fields.map line) :=
      .loop_line (eval_fields record context) fun field _ => hitem field
    exact .line hfirst (.append hloop (.text closing .nil))

theorem renders_constructor (receiver : String) :
    Renders (constructor receiver) (atRecord record context) (record.constructorLines receiver) := by
  refine renders_fieldwise record context ?_ (fun field => ?_) ?_ <;>
    simp [joinRendered, bind, Except.bind, pure, Except.pure, String.append_assoc]

end

/-- **The entity file**: an import, and the classes in order. -/
theorem renders_entity {records : List RecordClass} {context : Context}
    (hrecords : (Expr.name "records").eval context =
      .ok (.value (.array (records.map Plan.recordValue)))) :
    Renders Template.entity context
      ("import 'package:equatable/equatable.dart';" ::
        records.flatMap Dart.RecordClass.entityLines) := by
  refine .text _ (.loop hrecords fun record _ => ?_)
  have hdeclarations := renders_fieldDeclarations record context
  have hconstructor := renders_constructor record context "this"
  -- the rules follow the parts that the body of the loop is put together from
  refine .append (.append (.append (.append (.text _ (.line ?_ .nil)) hdeclarations)
    (.text _ .nil)) hconstructor) (.text _ (.text _ (.line ?_ (.text _ .nil)))) <;>
  simp [joinRendered, bind, Except.bind, pure, Except.pure, String.append_assoc]

/-- **The model file**: two imports, and the classes in order. -/
theorem renders_model {records : List RecordClass} {context : Context} {feature : String}
    (hrecords : (Expr.name "records").eval context =
      .ok (.value (.array (records.map Plan.recordValue))))
    (hfeature : Part.render context (.put (ofFeature "name") .plain) = .ok feature) :
    Renders Template.model context
      ("import '../../../../core/utils/data_parser.dart';" ::
        ("import '../../domain/entities/" ++ feature ++ "_response_entity.dart';") ::
        records.flatMap Dart.RecordClass.modelLines) := by
  refine .text _ (.line ?_ (.loop hrecords fun record _ => ?_))
  · simp [joinRendered, hfeature, bind, Except.bind, pure, Except.pure, String.append_assoc]
  have hconstructor := renders_constructor record context "super"
  -- the choice in the factory is of the same form as the one in the constructor
  refine .append (.append (.text _ (.line ?_ .nil)) hconstructor)
    (.text _ (.line ?_ (.append (renders_fieldwise record context ?_ (fun field => ?_) ?_)
      (.text _ (.text _ .nil))))) <;>
  simp [joinRendered, bind, Except.bind, pure, Except.pure, String.append_assoc]

/-! ## What the lines say -/

namespace Dart.RecordClass

/-- What the lines of an entity class say behind the first one. -/
def entityClauses (record : RecordClass) : List Clause :=
  record.identifiers.map .final ++ record.identifiers.map (.parameter "this") ++
    [.props record.identifiers]

/-- What the lines of a model class say behind the first one. -/
def modelClauses (record : RecordClass) : List Clause :=
  record.identifiers.map (.parameter "super") ++
    .factory record.name.qualified "fromJson" :: record.identifiers.map .argument

variable {record : RecordClass}

theorem clausesOf_map {line : FieldDeclaration → String} {clause : String → Clause}
    (h : ∀ field ∈ record.fields, clause? (line field).toList = some (clause field.identifier)) :
    clausesOf (record.fields.map line) = record.identifiers.map clause := by
  rw [clausesOf, List.filterMap_map, identifiers, List.map_map, ← List.filterMap_eq_map]
  exact List.filterMap_congr h

/-- Only the lines of the fields say something, so the form without fields is no special case. -/
theorem clausesOf_fieldwise {opening closing alone : String} {line : FieldDeclaration → String}
    {clause : String → Clause} (hopening : clause? opening.toList = none)
    (hclosing : clause? closing.toList = none) (halone : clause? alone.toList = none)
    (h : ∀ field ∈ record.fields, clause? (line field).toList = some (clause field.identifier)) :
    clausesOf (record.fieldwise opening closing alone line) = record.identifiers.map clause := by
  rw [fieldwise]
  split
  · rename_i hempty
    rw [clausesOf_cons_of_none halone, identifiers, hempty]
    rfl
  · have hfields := clausesOf_map h
    have hlast : clausesOf [closing] = [] := clausesOf_cons_of_none hclosing []
    rw [List.cons_append, clausesOf_cons_of_none hopening, clausesOf_append, hfields, hlast,
      List.append_nil]

section

variable (h : record.IsNamed)

include h

theorem identifier_isWord : ∀ field ∈ record.fields, IsWord field.identifier := fun _ hfield =>
  h.identifiers _ (List.mem_map_of_mem hfield)

theorem clausesOf_declarationLines :
    clausesOf record.declarationLines = record.identifiers.map .final :=
  clausesOf_map fun field hfield =>
    clause?_final (identifier_isWord h field hfield) ((h.types field hfield).not_mem (by decide))

theorem clausesOf_constructorLines {receiver : String} (hreceiver : IsWord receiver) :
    clausesOf (record.constructorLines receiver) =
      record.identifiers.map (.parameter receiver) := by
  refine clausesOf_fieldwise ?_ ?_ ?_ fun field hfield =>
    clause?_required (identifier_isWord h field hfield) hreceiver
  · simp [clause?, clauseAfter?, keywordClause?, isNameChar]
  · decide
  · simp [clause?, clauseAfter?, keywordClause?, isNameChar]

theorem clausesOf_returnLines : clausesOf record.returnLines = record.identifiers.map .argument := by
  refine clausesOf_fieldwise ?_ ?_ ?_ fun field hfield =>
    clause?_argument (identifier_isWord h field hfield) _
  · simp [clause?, clauseAfter?, keywordClause?, isNameChar]
  · decide
  · simp [clause?, clauseAfter?, keywordClause?, isNameChar]

theorem clausesOf_entityLines :
    clausesOf record.entityLines = .opening record.name.qualified :: record.entityClauses := by
  have hname := firstName_word h.name (by decide : isNameChar ' ' = false)
  have hopening : clause? ("class " ++ record.name.qualified ++ " extends Equatable \x7b").toList =
      some (.opening record.name.qualified) := by
    simp [clause?, clauseAfter?, keywordClause?, isNameChar, hname]
  have hdeclarations := clausesOf_declarationLines h
  have hconstructor := clausesOf_constructorLines h (by decide : IsWord "this")
  have hprops := clause?_props h.identifiers
  have hblank : clause? "".toList = none := rfl
  have hoverride : clause? "  @override".toList = none := by decide
  have hbrace : clause? "\x7d".toList = none := by decide
  simp only [entityLines, entityClauses, clausesOf_append, clausesOf_nil, hdeclarations, hconstructor,
    clausesOf_cons_of_none hblank, clausesOf_cons_of_none hoverride, clausesOf_cons_of_none hbrace,
    clausesOf_cons_of_some hopening, clausesOf_cons_of_some hprops, List.append_nil,
    List.cons_append, List.nil_append]

theorem clausesOf_modelLines :
    clausesOf record.modelLines = .opening record.name.qualified :: record.modelClauses := by
  have hname := firstName_word h.name (by decide : isNameChar ' ' = false)
  have hopening : clause? ("class " ++ record.name.qualified ++ " extends " ++
      (Plan.ofOption (record.base.map TypeName.qualified)).display ++ " \x7b").toList =
      some (.opening record.name.qualified) := by
    simp [clause?, clauseAfter?, keywordClause?, isNameChar, hname]
  have hconstructor := clausesOf_constructorLines h (by decide : IsWord "super")
  have hfactory := clause?_factory h.name
  have hreturn := clausesOf_returnLines h
  have hblank : clause? "".toList = none := rfl
  have hinner : clause? "  \x7d".toList = none := by decide
  have hbrace : clause? "\x7d".toList = none := by decide
  simp only [modelLines, modelClauses, clausesOf_append, clausesOf_nil, hconstructor, hreturn,
    clausesOf_cons_of_none hblank, clausesOf_cons_of_none hinner, clausesOf_cons_of_none hbrace,
    clausesOf_cons_of_some hopening, clausesOf_cons_of_some hfactory, List.append_nil,
    List.cons_append, List.nil_append]

end

/-! ## Lines without breaks -/

theorem isLine_fieldwise {opening closing alone : String} {line : FieldDeclaration → String}
    (hopening : Text.IsLine opening) (hclosing : Text.IsLine closing) (halone : Text.IsLine alone)
    (hline : ∀ field ∈ record.fields, Text.IsLine (line field)) :
    ∀ written ∈ record.fieldwise opening closing alone line, Text.IsLine written := by
  rw [fieldwise]
  split
  · simpa using halone
  · simpa [or_imp, forall_and] using ⟨hopening, hline, hclosing⟩

theorem isLine_ofOption {text : Option String} (h : ∀ value ∈ text, Text.IsLine value) :
    Text.IsLine (Plan.ofOption text).display := by
  cases text with
  | none => decide
  | some value => exact h value rfl

section

variable (h : record.IsNamed)

include h

theorem isLine_declarationLines : ∀ line ∈ record.declarationLines, Text.IsLine line := by
  rw [declarationLines, List.forall_mem_map]
  intro field hfield
  have hname := (identifier_isWord h field hfield).isLine
  have htype := (h.types field hfield).isLine
  simp only [Text.isLine_append]
  exact ⟨⟨⟨⟨by decide, htype⟩, by decide⟩, hname⟩, by decide⟩

theorem isLine_constructorLines {receiver : String} (hreceiver : IsWord receiver) :
    ∀ line ∈ record.constructorLines receiver, Text.IsLine line := by
  have hname := h.name.isLine
  refine isLine_fieldwise ?_ (by decide) ?_ fun field hfield => ?_
  · simp only [Text.isLine_append]
    exact ⟨⟨by decide, hname⟩, by decide⟩
  · simp only [Text.isLine_append]
    exact ⟨⟨by decide, hname⟩, by decide⟩
  · have hidentifier := (identifier_isWord h field hfield).isLine
    simp only [Text.isLine_append]
    exact ⟨⟨⟨⟨by decide, hreceiver.isLine⟩, by decide⟩, hidentifier⟩, by decide⟩

theorem isLine_entityLines : ∀ line ∈ record.entityLines, Text.IsLine line := by
  have hopening : Text.IsLine ("class " ++ record.name.qualified ++ " extends Equatable \x7b") := by
    simp only [Text.isLine_append]
    exact ⟨⟨by decide, h.name.isLine⟩, by decide⟩
  have hnames : Text.IsLine (", ".intercalate record.identifiers) :=
    Text.isLine_intercalate (by decide) fun name hname => (h.identifiers name hname).isLine
  have hprops : Text.IsLine
      ("  List<Object?> get props => [" ++ ", ".intercalate record.identifiers ++ "];") := by
    simp only [Text.isLine_append]
    exact ⟨⟨by decide, hnames⟩, by decide⟩
  have hdeclarations := isLine_declarationLines h
  have hconstructor := isLine_constructorLines h (by decide : IsWord "this")
  have hblank : Text.IsLine "" := by decide
  have hoverride : Text.IsLine "  @override" := by decide
  have hbrace : Text.IsLine "\x7d" := by decide
  simp only [entityLines, List.forall_mem_append, List.forall_mem_cons, List.not_mem_nil,
    false_implies, implies_true, and_true]
  exact ⟨⟨⟨⟨⟨hblank, hopening⟩, hdeclarations⟩, hblank⟩, hconstructor⟩, hblank, hoverride, hprops,
    hbrace⟩

end

/-! ## Line breaks

Only the line of a field that is read may hold a line break: it copies the key of the field. -/

/-- The lines of the fields have the line breaks of the texts that are copied into them. -/
theorem breaksOf_fieldwise {opening closing alone : String} {line : FieldDeclaration → String}
    (hopening : Text.IsLine opening) (hclosing : Text.IsLine closing) (halone : Text.IsLine alone)
    (hline : ∀ field ∈ record.fields, Text.breaks (line field) = Text.breaksOf field.copies) :
    Text.breaksOf (record.fieldwise opening closing alone line) = Text.breaksOf record.copies := by
  rw [fieldwise, copies]
  split
  · rename_i hempty
    rw [hempty, Text.breaksOf_cons, halone.breaks_eq]
    rfl
  · have hfields : Text.breaksOf (record.fields.map line) =
        Text.breaksOf (record.fields.flatMap FieldDeclaration.copies) := by
      rw [Text.breaksOf_flatMap, Text.breaksOf, List.map_map]
      exact congrArg List.sum (List.map_congr_left hline)
    rw [List.cons_append, Text.breaksOf_cons, Text.breaksOf_append, Text.breaksOf_cons,
      hopening.breaks_eq, hclosing.breaks_eq, hfields]
    exact Nat.zero_add _

section

variable (h : record.IsNamed)

include h

/-- The reading of a field has the line breaks of its copies of the key. -/
theorem breaks_reading {field : FieldDeclaration} (hfield : field ∈ record.fields) :
    Text.breaks (Plan.ofOption (field.decoding.map Decoding.render)).display =
      Text.breaksOf field.copies := by
  have hnamed := h.decodings field hfield
  rw [FieldDeclaration.copies]
  cases hdecoding : field.decoding with
  | none => decide
  | some decoding => exact Decoding.breaks_render (hnamed decoding hdecoding)

theorem breaksOf_returnLines : Text.breaksOf record.returnLines = Text.breaksOf record.copies := by
  have hname := h.name.isLine
  refine breaksOf_fieldwise ?_ (by decide) ?_ fun field hfield => ?_
  · simp only [Text.isLine_append]
    exact ⟨⟨by decide, hname⟩, by decide⟩
  · simp only [Text.isLine_append]
    exact ⟨⟨by decide, hname⟩, by decide⟩
  · have hidentifier := (identifier_isWord h field hfield).isLine
    simp (disch := first | assumption | decide) only [Text.breaks_append, breaks_reading h hfield,
      Text.IsLine.breaks_eq, Nat.zero_add, Nat.add_zero]

/-- **A model class** has the line breaks of the keys that it copies. -/
theorem breaksOf_modelLines : Text.breaksOf record.modelLines = Text.breaksOf record.copies := by
  have hname := h.name.isLine
  have hbase : Text.IsLine (Plan.ofOption (record.base.map TypeName.qualified)).display := by
    refine isLine_ofOption fun value hvalue => ?_
    obtain ⟨base, hbase, rfl⟩ := Option.map_eq_some_iff.1 hvalue
    exact (h.base base hbase).isLine
  have hconstructor : Text.breaksOf (record.constructorLines "super") = 0 :=
    Text.breaksOf_eq_zero_iff.2 (isLine_constructorLines h (by decide))
  simp (disch := first | assumption | decide) only [modelLines, Text.breaksOf_append,
    Text.breaksOf_cons, Text.breaksOf_nil, Text.breaks_append, Text.IsLine.breaks_eq, hconstructor,
    breaksOf_returnLines h, Nat.zero_add, Nat.add_zero]

end

theorem isLine_modelLines (h : record.IsPrintable) : ∀ line ∈ record.modelLines, Text.IsLine line := by
  rw [← Text.breaksOf_eq_zero_iff, breaksOf_modelLines h.toIsNamed, Text.breaksOf_eq_zero_iff]
  exact h.copies

/-! ## Outlines -/

theorem isOpening_entityClauses : ∀ clause ∈ record.entityClauses, clause.isOpening = false := by
  simp [entityClauses, or_imp, forall_and, Clause.isOpening]

theorem isOpening_modelClauses : ∀ clause ∈ record.modelClauses, clause.isOpening = false := by
  simp [modelClauses, or_imp, forall_and, Clause.isOpening]

theorem ofClauses_entityClauses (record : RecordClass) :
    ClassOutline.ofClauses record.name.qualified record.entityClauses =
      .ofEntity record.name.qualified record.identifiers := by
  have hfinals : record.entityClauses.filterMap Clause.final? = record.identifiers := by
    simp [entityClauses, List.filterMap_map, Function.comp_def, Clause.final?]
  have hparameters : record.entityClauses.filterMap Clause.parameter? =
      record.identifiers.map ("this", ·) := by
    simp [entityClauses, List.filterMap_map, Function.comp_def, Clause.parameter?]
  have hprops : record.entityClauses.filterMap Clause.props? = [record.identifiers] := by
    simp [entityClauses, List.filterMap_map, Function.comp_def, Clause.props?]
  have hfactory :
      record.entityClauses.dropWhile (· ≠ .factory record.name.qualified "fromJson") = [] := by
    simp [entityClauses]
  rw [ClassOutline.ofClauses, hfinals, hparameters, hprops, hfactory]
  rfl

theorem ofClauses_modelClauses (record : RecordClass) :
    ClassOutline.ofClauses record.name.qualified record.modelClauses =
      .ofModel record.name.qualified record.identifiers := by
  have hfinals : record.modelClauses.filterMap Clause.final? = [] := by
    simp [modelClauses, List.filterMap_map, Function.comp_def, Clause.final?]
  have hparameters : record.modelClauses.filterMap Clause.parameter? =
      record.identifiers.map ("super", ·) := by
    simp [modelClauses, List.filterMap_map, Function.comp_def, Clause.parameter?]
  have hprops : record.modelClauses.filterMap Clause.props? = [] := by
    simp [modelClauses, List.filterMap_map, Function.comp_def, Clause.props?]
  have hfactory :
      record.modelClauses.dropWhile (· ≠ .factory record.name.qualified "fromJson") =
        .factory record.name.qualified "fromJson" :: record.identifiers.map .argument := by
    rw [modelClauses, List.dropWhile_append_of_pos, List.dropWhile_cons_of_neg] <;> simp
  have harguments : (Clause.factory record.name.qualified "fromJson" ::
      record.identifiers.map .argument).filterMap Clause.argument? = record.identifiers := by
    simp [List.filterMap_cons, List.filterMap_map, Function.comp_def, Clause.argument?]
  rw [ClassOutline.ofClauses, hfinals, hparameters, hprops, hfactory, harguments]
  rfl

end Dart.RecordClass

variable {records : List RecordClass} (h : ∀ record ∈ records, record.IsPrintable)

include h

/-- **The classes of the entity file**, read off its lines. -/
theorem outlines_entityLines :
    outlines (Text.ofLines ("import 'package:equatable/equatable.dart';" ::
        records.flatMap Dart.RecordClass.entityLines)) =
      records.map fun record => .ofEntity record.name.qualified record.identifiers := by
  have himport : clause? "import 'package:equatable/equatable.dart';".toList = none := by decide
  have hfront : ∀ line ∈ ["import 'package:equatable/equatable.dart';"], Text.IsLine line := by
    rw [List.forall_mem_singleton]
    decide
  have hclasses := outlines_classes hfront (clausesOf_cons_of_none himport [])
    (fun record hrecord => Dart.RecordClass.isLine_entityLines (h record hrecord).toIsNamed)
    (fun record hrecord => Dart.RecordClass.clausesOf_entityLines (h record hrecord).toIsNamed)
    (fun record _ => Dart.RecordClass.isOpening_entityClauses)
  rw [List.singleton_append] at hclasses
  rw [hclasses]
  exact List.map_congr_left fun record _ => Dart.RecordClass.ofClauses_entityClauses record

/-- **The classes of the model file**, read off its lines. -/
theorem outlines_modelLines {feature : String} (hfeature : Text.IsLine feature) :
    outlines (Text.ofLines ("import '../../../../core/utils/data_parser.dart';" ::
        ("import '../../domain/entities/" ++ feature ++ "_response_entity.dart';") ::
        records.flatMap Dart.RecordClass.modelLines)) =
      records.map fun record => .ofModel record.name.qualified record.identifiers := by
  have hparser : clause? "import '../../../../core/utils/data_parser.dart';".toList = none := by
    decide
  have hentities : clause? ("import '../../domain/entities/" ++ feature ++
      "_response_entity.dart';").toList = none := by
    simp [clause?, clauseAfter?, keywordClause?, isNameChar]
  have hfront : ∀ line ∈ ["import '../../../../core/utils/data_parser.dart';",
      "import '../../domain/entities/" ++ feature ++ "_response_entity.dart';"],
      Text.IsLine line := by
    rw [List.forall_mem_cons, List.forall_mem_singleton]
    simp only [Text.isLine_append]
    exact ⟨by decide, ⟨by decide, hfeature⟩, by decide⟩
  have hsilent : clausesOf ["import '../../../../core/utils/data_parser.dart';",
      "import '../../domain/entities/" ++ feature ++ "_response_entity.dart';"] = [] := by
    rw [clausesOf_cons_of_none hparser, clausesOf_cons_of_none hentities]
    rfl
  have hclasses := outlines_classes hfront hsilent
    (fun record hrecord => Dart.RecordClass.isLine_modelLines (h record hrecord))
    (fun record hrecord => Dart.RecordClass.clausesOf_modelLines (h record hrecord).toIsNamed)
    (fun record _ => Dart.RecordClass.isOpening_modelClauses)
  rw [List.cons_append, List.singleton_append] at hclasses
  rw [hclasses]
  exact List.map_congr_left fun record _ => Dart.RecordClass.ofClauses_modelClauses record

end DartLayers
