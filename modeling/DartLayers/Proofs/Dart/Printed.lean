import DartLayers.Dart.RecordClass
import DartLayers.Proofs.Dart.Identifiers
import DartLayers.Proofs.Dart.Layers
import DartLayers.Proofs.Dart.Mentions
import DartLayers.Proofs.Schema.Tidy
import DartLayers.Proofs.Text.Breaks

/-!
# DartLayers — types and expressions in source form

What a tidy schema puts into generated text. A type is made of names, angle brackets and question
marks; an expression that reads a field has the line breaks of the copies of the key in it.

* **`Decoding.breaks_render`** — the line breaks of an expression are those of its copies of the key.
* **`RecordClass.IsPrintable`** — the class of a record can be written and read line by line.
* **`recordClasses_isPrintable`** — the classes of a tidy schema can.
-/

namespace DartLayers

/-- A word holds no line break. -/
theorem IsWord.isLine {text : String} (h : IsWord text) : Text.IsLine text := by
  intro c hc
  constructor <;> rintro rfl <;> exact absurd (h.2 _ hc) (by decide)

/-- A word is made of the characters of a name. -/
theorem IsWord.isNameChar {text : String} (h : IsWord text) :
    ∀ c ∈ text.toList, Dart.isNameChar c = true := by
  intro c hc
  rw [Dart.isNameChar, Bool.or_eq_true, beq_iff_eq]
  exact h.2 c hc

namespace Dart

/-! ## Types -/

/-- Characters of a type in source form. -/
def isTypeChar (c : Char) : Bool :=
  isNameChar c || c == '<' || c == '>' || c == '?'

/-- A text made of names, angle brackets and question marks. -/
def IsTypeText (text : String) : Prop :=
  text.toList.all isTypeChar = true

instance (text : String) : Decidable (IsTypeText text) :=
  inferInstanceAs (Decidable (text.toList.all isTypeChar = true))

@[simp] theorem isTypeText_append {text other : String} :
    IsTypeText (text ++ other) ↔ IsTypeText text ∧ IsTypeText other := by
  simp only [IsTypeText, String.toList_append, List.all_append, Bool.and_eq_true]

theorem IsTypeText.not_mem {text : String} (h : IsTypeText text) {c : Char}
    (hc : isTypeChar c = false) : c ∉ text.toList := by
  intro hmem
  have htype := List.all_eq_true.1 h c hmem
  rw [hc] at htype
  cases htype

theorem IsTypeText.isLine {text : String} (h : IsTypeText text) : Text.IsLine text := by
  intro c hc
  constructor <;> rintro rfl <;> exact h.not_mem (by decide) hc

theorem IsWord.isTypeText {text : String} (h : IsWord text) : IsTypeText text :=
  List.all_eq_true.2 fun c hc => by simp [isTypeChar, h.isNameChar c hc]

namespace DartType

/-- A type is made of the names of records, so the keys of a schema do not matter. -/
theorem isTypeText_ofSchema : {schema : Schema} →
    (∀ record ∈ schema.records, IsWord record.name.logical) → IsTypeText (ofSchema schema).render
  | .scalar kind, _ => by cases kind <;> decide
  | .list element, h => by
    have helement : ∀ record ∈ element.records, IsWord record.name.logical := h
    have hinner : IsTypeText (ofSchema element).render := isTypeText_ofSchema helement
    rw [ofSchema, render, isTypeText_append, isTypeText_append]
    exact ⟨⟨by decide, hinner⟩, by decide⟩
  | .record name fields, h => by
    have hname : IsWord name.logical := h ⟨name, fields⟩ (by simp [Schema.records])
    exact IsWord.isTypeText (TypeName.qualified_isWord hname)

theorem isTypeText_ofField {schema : Schema}
    (h : ∀ record ∈ schema.records, IsWord record.name.logical) :
    IsTypeText (ofField schema).render := by
  have hvalue := isTypeText_ofSchema h
  cases schema with
  | scalar | list => exact hvalue
  | record =>
    rw [ofField, render, isTypeText_append]
    exact ⟨hvalue, by decide⟩

end DartType

/-! ## Expressions

The expression that reads a field copies the key of the field, once or more often. All else in it is
made of names and of marks, so the expression has the line breaks of its copies. -/

theorem isLine_parameterName (depth : Nat) : Text.IsLine (parameterName depth) := by
  have hword : IsWord (parameterName depth) := IsWord.append_nat (by decide) depth
  exact hword.isLine

/-- The key that a source copies. -/
def Source.copies : Source → List String
  | .field key => [key]
  | .parameter _ => []

theorem Source.breaks_render (source : Source) :
    Text.breaks source.render = Text.breaksOf source.copies := by
  cases source with
  | field key =>
    simp (disch := decide) only [render, copies, Text.breaks_append, Text.breaks_escape,
      Text.IsLine.breaks_eq, Text.breaksOf_cons, Text.breaksOf_nil, Nat.zero_add]
  | parameter depth => exact (isLine_parameterName depth).breaks_eq

namespace Decoding

/-- The keys that an expression copies. -/
def copies : Decoding → List String
  | .fromJson _ source => source.copies
  | .safeParse _ source label => source.copies ++ [label]
  | .mapItems source _ body => source.copies ++ body.copies
  | .ifPresent source body _ => source.copies ++ body.copies

/-- The classes and types in an expression can be written. -/
def IsNamed : Decoding → Prop
  | .fromJson model _ => IsWord model.logical
  | .safeParse type _ _ => IsTypeText type.render
  | .mapItems _ _ body | .ifPresent _ body _ => body.IsNamed

/-- **An expression has the line breaks of its copies.** -/
theorem breaks_render {decoding : Decoding} (h : decoding.IsNamed) :
    Text.breaks decoding.render = Text.breaksOf decoding.copies := by
  induction decoding with
  | fromJson model source =>
    have hmodel := (TypeName.qualified_isWord h).isLine
    simp (disch := first | assumption | decide) only [render, copies, Text.breaks_append,
      Source.breaks_render, Text.IsLine.breaks_eq, Nat.zero_add, Nat.add_zero]
  | safeParse type source label =>
    have htype : Text.IsLine type.render := IsTypeText.isLine h
    simp (disch := first | assumption | decide) only [render, copies, Text.breaks_append,
      Source.breaks_render, Text.breaks_escape, Text.breaksOf_append, Text.breaksOf_cons,
      Text.breaksOf_nil, Text.IsLine.breaks_eq, Nat.zero_add, Nat.add_zero]
  | mapItems source depth body ih =>
    have hparameter := isLine_parameterName depth
    simp (disch := first | assumption | decide) only [render, copies, Text.breaks_append,
      Source.breaks_render, ih h, Text.breaksOf_append, Text.IsLine.breaks_eq, Nat.zero_add,
      Nat.add_zero]
  | ifPresent source body absent ih =>
    have habsent : Text.IsLine absent.render := by cases absent <;> decide
    simp (disch := first | assumption | decide) only [render, copies, Text.breaks_append,
      Source.breaks_render, ih h, Text.breaksOf_append, Text.IsLine.breaks_eq, Nat.add_zero]

section

variable {key : String}

theorem isNamed_ofElement : {schema : Schema} →
    (∀ record ∈ schema.records, IsWord record.name.logical) → (source : Source) → (depth : Nat) →
    (ofElement key schema source depth).IsNamed
  | .record name fields, h, _, _ => h ⟨name, fields⟩ (by simp [Schema.records])
  | .scalar kind, h, _, _ => by
    have htype : IsTypeText (DartType.scalar kind).render := DartType.isTypeText_ofSchema h
    exact htype
  | .list element, h, source, depth => by
    have helement : ∀ record ∈ element.records, IsWord record.name.logical := h
    rw [ofElement]
    split
    · have htype : IsTypeText (DartType.ofSchema (.list element)).render :=
        DartType.isTypeText_ofSchema h
      exact htype
    · exact isNamed_ofElement helement (.parameter depth) (depth + 1)

theorem isNamed_ofField {schema : Schema}
    (h : ∀ record ∈ schema.records, IsWord record.name.logical) : (ofField schema key).IsNamed := by
  have helement : (ofElement key schema (.field key) 0).IsNamed := isNamed_ofElement h _ _
  have htype := DartType.isTypeText_ofSchema h
  cases schema with
  | record => exact helement
  | scalar => exact htype
  | list element =>
    rw [ofField]
    split
    · exact htype
    · exact helement

theorem eq_of_mem_copies_ofElement : {schema : Schema} → {source : Source} → {depth : Nat} →
    (∀ text ∈ source.copies, text = key) →
    ∀ text ∈ (ofElement key schema source depth).copies, text = key
  | .record _ _, _, _, h => h
  | .scalar _, _, _, h => by
    rw [ofElement, copies, List.forall_mem_append]
    exact ⟨h, by simp⟩
  | .list element, source, depth, h => by
    rw [ofElement]
    split
    · rw [copies, List.forall_mem_append]
      exact ⟨h, by simp⟩
    · rw [copies, List.forall_mem_append]
      exact ⟨h, eq_of_mem_copies_ofElement (by simp [Source.copies])⟩

/-- **The expression for a field copies its key**, and nothing else. -/
theorem copies_ofField (schema : Schema) (key : String) :
    key ∈ (ofField schema key).copies ∧ ∀ text ∈ (ofField schema key).copies, text = key := by
  have hsource : ∀ text ∈ (Source.field key).copies, text = key := by simp [Source.copies]
  have helement : ∀ text ∈ (ofElement key schema (.field key) 0).copies, text = key :=
    eq_of_mem_copies_ofElement hsource
  cases schema with
  | record | scalar => simp [ofField, copies, Source.copies]
  | list element =>
    rw [ofField]
    split
    · simp [copies, Source.copies]
    · rw [copies, List.forall_mem_append]
      exact ⟨List.mem_append_left _ List.mem_cons_self, hsource, helement⟩

end

end Decoding

/-! ## Classes -/

/-- The keys that the reading of a field copies. -/
def FieldDeclaration.copies (field : FieldDeclaration) : List String :=
  (field.decoding.map Decoding.copies).getD []

namespace RecordClass

/-- The keys that the reading of the fields copies. -/
def copies (record : RecordClass) : List String :=
  record.fields.flatMap FieldDeclaration.copies

theorem mem_copies_fieldsOf {fields : List (String × Schema)} {field : FieldDeclaration}
    (h : field ∈ fieldsOf true fields) {text : String} : text ∈ field.copies ↔ text = field.key := by
  obtain ⟨⟨⟨key, value⟩, identifier⟩, -, rfl⟩ := List.mem_map.1 h
  obtain ⟨hmem, hall⟩ := Decoding.copies_ofField value key
  constructor
  · exact hall text
  · rintro rfl
    exact hmem

/-- **A class that reads its fields copies their keys**, and nothing else. -/
theorem mem_copies_ofRecord (layer : RecordLayer) (record : RecordSchema) (text : String) :
    text ∈ (ofRecord layer true record).copies ↔ text ∈ record.keys := by
  have hkeys : (fieldsOf true record.fields).map FieldDeclaration.key = record.keys := keys_fieldsOf ..
  rw [copies, List.mem_flatMap, ← hkeys, List.mem_map, ofRecord]
  refine exists_congr fun field => and_congr_right fun hfield => ?_
  rw [mem_copies_fieldsOf hfield, eq_comm]

/-- A class that reads no fields copies no keys. -/
theorem copies_ofRecord_false (layer : RecordLayer) (record : RecordSchema) :
    (ofRecord layer false record).copies = [] := by
  refine List.flatMap_eq_nil_iff.2 fun field hfield => ?_
  obtain ⟨⟨⟨key, value⟩, identifier⟩, -, rfl⟩ := List.mem_map.1 hfield
  rfl

/-- The names and types in the class of a record can be written. -/
structure IsNamed (record : RecordClass) : Prop where
  name : IsWord record.name.qualified
  identifiers : ∀ identifier ∈ record.identifiers, IsWord identifier
  types : ∀ field ∈ record.fields, IsTypeText field.type.render
  base : ∀ base ∈ record.base, IsWord base.qualified
  decodings : ∀ field ∈ record.fields, ∀ decoding ∈ field.decoding, decoding.IsNamed

/-- The class of a record can be written line by line and its names can be read back. -/
structure IsPrintable (record : RecordClass) : Prop extends IsNamed record where
  copies : ∀ text ∈ record.copies, Text.IsLine text

theorem isNamed_ofRecord (layer : RecordLayer) (decoders : Bool) {record : RecordSchema}
    (hname : IsWord record.name.logical) (hfields : ∀ field ∈ record.fields,
      ∀ inner ∈ field.2.records, IsWord inner.name.logical) :
    (ofRecord layer decoders record).IsNamed where
  name := TypeName.qualified_isWord hname
  identifiers := by
    intro identifier hidentifier
    rw [RecordClass.identifiers, ofRecord, identifiers_fieldsOf] at hidentifier
    exact fieldIdentifiers_isWord _ identifier hidentifier
  types := by
    intro field hfield
    obtain ⟨⟨⟨key, value⟩, identifier⟩, hpair, rfl⟩ := List.mem_map.1 hfield
    exact DartType.isTypeText_ofField (hfields _ (List.of_mem_zip hpair).1)
  base := by
    intro base hbase
    cases layer with
    | entity => cases hbase
    | model =>
      cases hbase
      have hentity : IsWord (record.name.forLayer .entity).qualified :=
        TypeName.qualified_isWord hname
      exact hentity
  decodings := by
    intro field hfield decoding hdecoding
    obtain ⟨⟨⟨key, value⟩, identifier⟩, hpair, rfl⟩ := List.mem_map.1 hfield
    cases decoders with
    | false => cases hdecoding
    | true =>
      cases hdecoding
      exact Decoding.isNamed_ofField (hfields _ (List.of_mem_zip hpair).1)

theorem isPrintable_ofRecord (layer : RecordLayer) (decoders : Bool) {record : RecordSchema}
    (hname : IsWord record.name.logical) (hfields : Schema.AreTidy record.fields) :
    (ofRecord layer decoders record).IsPrintable := by
  rw [Schema.areTidy_iff] at hfields
  have hnamed := isNamed_ofRecord layer decoders hname
    fun field hfield => (hfields field hfield).2.isWord_of_mem_records
  refine ⟨hnamed, fun text htext => ?_⟩
  cases decoders with
  | false =>
    rw [copies_ofRecord_false] at htext
    cases htext
  | true =>
    obtain ⟨field, hfield, rfl⟩ := List.mem_map.1 ((mem_copies_ofRecord layer record text).1 htext)
    exact (hfields field hfield).1

end RecordClass

/-- The classes of a schema whose records have words for names can be named, in either layer. -/
theorem recordClasses_isNamed {schema : Schema}
    (h : ∀ record ∈ schema.records, IsWord record.name.logical) (layer : RecordLayer)
    (decoders : Bool) : ∀ record ∈ recordClasses schema layer decoders, record.IsNamed := by
  have hmoved : ∀ record ∈ (schema.forLayer layer).records, IsWord record.name.logical := by
    rw [Schema.records_forLayer, List.forall_mem_map]
    exact h
  intro record hrecord
  obtain ⟨origin, horigin, rfl⟩ := List.mem_map.1 hrecord
  exact RecordClass.isNamed_ofRecord layer decoders (hmoved origin horigin)
    fun _ hfield _ hinner => hmoved _ (Schema.mem_records_of_field horigin hfield hinner)

/-- **The classes of a tidy schema are printable**, in either layer. -/
theorem recordClasses_isPrintable {schema : Schema} (h : schema.IsTidy) (layer : RecordLayer)
    (decoders : Bool) : ∀ record ∈ recordClasses schema layer decoders, record.IsPrintable := by
  intro record hrecord
  obtain ⟨origin, horigin, rfl⟩ := List.mem_map.1 hrecord
  obtain ⟨hname, hfields⟩ := (h.forLayer layer).of_mem_records horigin
  exact RecordClass.isPrintable_ofRecord layer decoders hname hfields

end Dart

end DartLayers
