import DartLayers.Proofs.Dart.Names
import DartLayers.Proofs.Plan.Safety

/-!
# DartLayers — field names that hide types

Inside a class the name of a field stands for the field. A field named like a type hides the type from
every declaration of the class, so that no field can be declared with it. Fields start with a small
letter, and so do the types of four scalars; `dynamic` is a reserved word, but `bool`, `int` and
`double` are not, and a key that is spelled like one of them names its field after the type.

* **`DartType.names`**, **`lineNames_render`** — the names that the text of a type mentions.
* **`mem_fieldIdentifiers_iff`** — the names that only a key of the same spelling can bring.
* **`RecordClass.HidesType`** — a class with a field that hides a type of its fields.
* **`recordClasses_hidesType_iff`** — the classes of a payload that do.
-/

namespace DartLayers.Dart

/-! ## The names in a type -/

/-- A character that ends a name and opens no literal or comment. -/
def isTypeMark (c : Char) : Bool :=
  c == '<' || c == '>' || c == '?'

/-- What is read behind a mark does not depend on it. -/
theorem namesFrom_mark {c : Char} (h : isTypeMark c = true) (name rest : List Char) :
    namesFrom .code name (c :: rest) = String.ofList name.reverse :: namesFrom .code [] rest := by
  simp only [isTypeMark, Bool.or_eq_true, beq_iff_eq] at h
  rcases h with (rfl | rfl) | rfl <;> rfl

theorem lineNames_mark {c : Char} (h : isTypeMark c = true) (rest : List Char) :
    lineNames (c :: rest) = lineNames rest := by
  simp [lineNames, namesFrom_mark h]

theorem lineNames_marks {marks : List Char} (h : ∀ c ∈ marks, isTypeMark c = true) :
    lineNames marks = [] := by
  induction marks with
  | nil => rfl
  | cons c marks ih =>
    rw [List.forall_mem_cons] at h
    rw [lineNames_mark h.1, ih h.2]

/-- A word before a mark, or at the end of a line, is a name. -/
theorem lineNames_word {word : String} (hword : IsWord word) {rest : List Char}
    (hrest : ∀ c, rest.head? = some c → isTypeMark c = true) :
    lineNames (word.toList ++ rest) = word :: lineNames rest := by
  have hend : namesFrom .code word.toList.reverse rest =
      word :: (namesFrom .code [] rest).tail := by
    cases rest with
    | nil => simp [namesFrom]
    | cons c rest => simp [namesFrom_mark (hrest c rfl)]
  have hfirst : (namesFrom .code [] rest).head? = some "" := by
    cases rest with
    | nil => rfl
    | cons c rest => rw [namesFrom_mark (hrest c rfl)]; rfl
  obtain ⟨others, hothers⟩ := List.head?_eq_some_iff.1 hfirst
  rw [lineNames, namesFrom_word hword.isNameChar, List.append_nil, hend, lineNames, hothers]
  simp [hword.1]

namespace DartType

/-- The names that the text of a type mentions, from left to right. -/
def names : DartType → List String
  | .scalar kind => [scalarName kind]
  | .list element => "List" :: element.names
  | .record name => [name.qualified]
  | .nullable type => type.names

/-- The type without the lists and the question marks around it. -/
def leaf : DartType → DartType
  | .scalar kind => .scalar kind
  | .list element => element.leaf
  | .record name => .record name
  | .nullable type => type.leaf

/-- The class in a type, if there is one, is named in Pascal case. -/
def IsProper (type : DartType) : Prop :=
  ∀ name, type.leaf = .record name → IsClassName name.logical

theorem scalarName_isWord (kind : ScalarKind) : IsWord (scalarName kind) := by
  cases kind <;> decide

/-- The marks that close a type mention nothing. -/
theorem lineNames_render_append {type : DartType} (h : type.IsProper) {closing : List Char}
    (hclosing : ∀ c ∈ closing, isTypeMark c = true) :
    lineNames (type.render.toList ++ closing) = type.names := by
  have hends : ∀ c, closing.head? = some c → isTypeMark c = true :=
    fun c hc => hclosing c (List.mem_of_mem_head? hc)
  induction type generalizing closing with
  | scalar kind =>
    rw [render, lineNames_word (scalarName_isWord kind) hends, lineNames_marks hclosing, names]
  | record name =>
    have hname := TypeName.qualified_isWord (h name rfl).isWord
    rw [render, lineNames_word hname hends, lineNames_marks hclosing, names]
  | list element ih =>
    have helement : ∀ c ∈ '>' :: closing, isTypeMark c = true := by
      rw [List.forall_mem_cons]
      exact ⟨rfl, hclosing⟩
    have htext : (DartType.list element).render.toList ++ closing =
        "List".toList ++ '<' :: (element.render.toList ++ '>' :: closing) := by
      simp [render]
    rw [htext, lineNames_word (by decide) (by simp [isTypeMark]), lineNames_mark rfl,
      ih h helement (by simp [isTypeMark]), names]
  | nullable type ih =>
    have htype : ∀ c ∈ '?' :: closing, isTypeMark c = true := by
      rw [List.forall_mem_cons]
      exact ⟨rfl, hclosing⟩
    have htext : (DartType.nullable type).render.toList ++ closing =
        type.render.toList ++ '?' :: closing := by
      simp [render]
    rw [htext, ih h htype (by simp [isTypeMark]), names]

/-- **The names in the text of a type** are those of its parts. -/
theorem lineNames_render {type : DartType} (h : type.IsProper) :
    lineNames type.render.toList = type.names := by
  have hnames : lineNames (type.render.toList ++ []) = type.names :=
    lineNames_render_append h (by simp)
  rwa [List.append_nil] at hnames

/-- A name in a type that starts with a small letter is that of a scalar. -/
theorem mem_names_iff_of_startsSmall {type : DartType} (h : type.IsProper) {name : String}
    (hname : StartsSmall name) :
    name ∈ type.names ↔ ∃ kind, type.leaf = .scalar kind ∧ name = scalarName kind := by
  obtain ⟨c, rest, hchars, hlower⟩ := hname
  induction type with
  | scalar kind => simp [names, leaf]
  | list element ih =>
    have hlist : name ≠ "List" := by
      rintro rfl
      cases hchars
      exact absurd hlower (by decide)
    rw [names, List.mem_cons, or_iff_right hlist, ih h, leaf]
  | record other =>
    simp only [names, leaf, List.mem_singleton, reduceCtorEq, false_and, exists_false, iff_false]
    rintro rfl
    obtain ⟨d, others, hlogical, hupper, -⟩ := h other rfl
    rw [TypeName.qualified, String.toList_append, hlogical, List.cons_append, List.cons.injEq] at hchars
    rw [hchars.1] at hupper
    grind [Char.isUpper, Char.isLower]
  | nullable type ih => rw [names, leaf, ih h]

end DartType

/-! ## Names that only one spelling brings -/

/-- A name in camel case that the rules for fields never make of another one: it is not reserved, it
does not end like a name that has been changed, and it does not start like one that is numbered. -/
def IsOpenName (name : String) : Prop :=
  IsCamelName name ∧ name ∉ reservedWords ∧ name.toList.getLast?.any isEndMark = false ∧
    ¬ "field".toList <+: name.toList

instance (name : String) : Decidable (IsOpenName name) :=
  inferInstanceAs (Decidable (_ ∧ _ ∧ _ ∧ _))

/-- A key that is spelled like an open name is called by it. -/
theorem IsOpenName.baseIdentifier_eq {name : String} (h : IsOpenName name) (index : Nat) {key : String}
    (hkey : Text.toCamel key = name) : baseIdentifier index key = name := by
  obtain ⟨⟨c, rest, hchars, hlower, -⟩, hopen, -, -⟩ := h
  have hne : name ≠ "" := by
    rintro rfl
    cases hchars
  have hdigit : Text.startsWithDigit name = false := by
    rw [Text.startsWithDigit, hchars, List.head?_cons, Option.any_some]
    grind [Char.isLower, Char.isDigit]
  have hplain : plainIdentifier index key = name := by
    simp [plainIdentifier, hkey, hne, hdigit]
  simp [baseIdentifier, hplain, hopen]

/-- A key that is called by an open name is spelled like it. -/
theorem IsOpenName.toCamel_eq {name : String} (h : IsOpenName name) {index : Nat} {key : String}
    {count : Nat} (hname : numberedName (baseIdentifier index key) count = name) :
    Text.toCamel key = name := by
  obtain ⟨-, -, hend, hfield⟩ := h
  cases count with
  | succ count => rw [← hname, numberedName_endMark] at hend; cases hend
  | zero =>
    rw [numberedName, baseIdentifier] at hname
    split at hname
    · rw [← hname] at hend
      simp [isEndMark] at hend
    · have hnumbered : ∀ text, "field" ++ text ≠ name := by
        rintro text rfl
        exact hfield (by simp)
      unfold plainIdentifier at hname
      simp only at hname
      split at hname
      · exact absurd hname (hnumbered _)
      · split at hname
        · exact absurd hname (hnumbered _)
        · exact hname

/-- **An open name is a field's exactly if a key is spelled like it**: the first such key gets it. -/
theorem mem_fieldIdentifiers_iff {name : String} (h : IsOpenName name) (keys : List String) :
    name ∈ fieldIdentifiers keys ↔ ∃ key ∈ keys, Text.toCamel key = name := by
  constructor
  · intro hname
    obtain ⟨index, key, count, hkey, hfound⟩ := exists_numberedName_of_mem hname
    exact ⟨key, hkey, h.toCamel_eq hfound.symm⟩
  · rintro ⟨key, hkey, hspelled⟩
    obtain ⟨index, hindex⟩ := List.mem_iff_getElem?.1 hkey
    obtain ⟨found, hfound, hfirst⟩ := fieldIdentifiers_getElem? hindex
    rw [h.baseIdentifier_eq index hspelled] at hfirst
    by_cases htaken : name ∈ (fieldIdentifiers keys).take index
    · exact List.mem_of_mem_take htaken
    · rw [← hfirst.eq_base_iff.2 htaken]
      exact List.mem_of_getElem? hfound

/-! ## Classes with a hidden type -/

/-- The scalars whose types are open names. -/
def openKinds : List ScalarKind :=
  [.bool, .int, .float]

theorem isOpenName_of_mem_openKinds : ∀ kind ∈ openKinds, IsOpenName (scalarName kind) := by
  decide +kernel

/-- The types of the other scalars are no names of fields. -/
theorem mem_openKinds_of_mem_fieldIdentifiers {kind : ScalarKind} {keys : List String}
    (h : scalarName kind ∈ fieldIdentifiers keys) : kind ∈ openKinds := by
  have hname := (fieldIdentifiers_namesFields keys).usable _ h
  cases kind with
  | bool | int | float => decide
  | dynamic => exact absurd (by decide +kernel) hname.2
  | string =>
    have hsmall : ¬ StartsSmall (scalarName .string) := by decide
    exact absurd hname.1.startsSmall hsmall

namespace RecordClass

/-- A class hides a type of its fields: one of its fields has a name that the text of a type among
them mentions. -/
def HidesType (record : RecordClass) : Prop :=
  ∃ name ∈ record.identifiers, ∃ field ∈ record.fields, name ∈ lineNames field.type.render.toList

instance (record : RecordClass) : Decidable record.HidesType :=
  inferInstanceAs (Decidable (∃ name ∈ _, ∃ field ∈ _, _))

/-- A class with proper types hides one of them exactly if a key is spelled like the type of a
number or a truth value, and a field is made of that type. -/
theorem hidesType_fieldsOf_iff {record : RecordClass} {decoders : Bool}
    {fields : List (String × Schema)} (hfields : record.fields = fieldsOf decoders fields)
    (hproper : ∀ field ∈ record.fields, field.type.IsProper) :
    record.HidesType ↔ ∃ kind ∈ openKinds,
      (∃ field ∈ record.fields, Text.toCamel field.key = scalarName kind) ∧
        ∃ field ∈ record.fields, field.type.leaf = .scalar kind := by
  have hkeys : fields.map Prod.fst = record.fields.map FieldDeclaration.key := by
    rw [hfields, keys_fieldsOf]
  have hnames : record.identifiers = fieldIdentifiers (record.fields.map FieldDeclaration.key) := by
    rw [identifiers, hfields, identifiers_fieldsOf, keys_fieldsOf]
  have hspelled : ∀ kind ∈ openKinds, (scalarName kind ∈ record.identifiers ↔
      ∃ field ∈ record.fields, Text.toCamel field.key = scalarName kind) := by
    intro kind hkind
    rw [hnames, mem_fieldIdentifiers_iff (isOpenName_of_mem_openKinds kind hkind)]
    simp
  -- A type mentions a small name only if it is that of a scalar, since classes start with a
  -- capital.
  constructor
  · rintro ⟨name, hname, field, hfield, hmentioned⟩
    have hsmall : StartsSmall name := fieldIdentifiers_startsSmall _ name (hnames ▸ hname)
    rw [DartType.lineNames_render (hproper field hfield),
      DartType.mem_names_iff_of_startsSmall (hproper field hfield) hsmall] at hmentioned
    obtain ⟨kind, hleaf, rfl⟩ := hmentioned
    have hkind := mem_openKinds_of_mem_fieldIdentifiers (hnames ▸ hname)
    exact ⟨kind, hkind, (hspelled kind hkind).1 hname, field, hfield, hleaf⟩
  · rintro ⟨kind, hkind, hkey, field, hfield, hleaf⟩
    have hname := (hspelled kind hkind).2 hkey
    refine ⟨scalarName kind, hname, field, hfield, ?_⟩
    have hsmall : StartsSmall (scalarName kind) := fieldIdentifiers_startsSmall _ _ (hnames ▸ hname)
    rw [DartType.lineNames_render (hproper field hfield),
      DartType.mem_names_iff_of_startsSmall (hproper field hfield) hsmall]
    exact ⟨kind, hleaf, rfl⟩

end RecordClass

/-- The class in the type of a value is a record of the value. -/
theorem DartType.exists_record_of_leaf {name : TypeName} : (schema : Schema) →
    (DartType.ofSchema schema).leaf = .record name → ∃ record ∈ schema.records, record.name = name
  | .scalar _, h => nomatch h
  | .list element, h => exists_record_of_leaf element h
  | .record other fields, h => by
    cases h
    exact ⟨⟨name, fields⟩, by simp [Schema.records], rfl⟩

theorem DartType.leaf_ofField (schema : Schema) :
    (DartType.ofField schema).leaf = (DartType.ofSchema schema).leaf := by
  cases schema <;> rfl

/-- The types in a payload's classes are proper. -/
theorem recordClasses_isProper {feature : String} {origin layer : RecordLayer} {decoders : Bool}
    {path : List String} {value : Json} {record : RecordSchema}
    (h : record ∈ (Schema.infer feature origin path value).records) :
    ∀ field ∈ RecordClass.fieldsOf decoders (record.forLayer layer).fields, field.type.IsProper := by
  intro field hfield name hleaf
  -- the class in the type of a field is one of the records, moved with its field
  obtain ⟨⟨⟨key, moved⟩, identifier⟩, hpair, rfl⟩ := List.mem_map.1 hfield
  have hmoved := (List.of_mem_zip hpair).1
  simp only [RecordSchema.forLayer, Schema.fieldsForLayer_eq_map, List.mem_map, Prod.mk.injEq] at hmoved
  obtain ⟨⟨key, inner⟩, hinner, rfl, rfl⟩ := hmoved
  dsimp only at hleaf
  rw [DartType.leaf_ofField] at hleaf
  obtain ⟨other, hother, rfl⟩ := DartType.exists_record_of_leaf _ hleaf
  rw [Schema.records_forLayer, List.mem_map] at hother
  obtain ⟨reached, hreached, rfl⟩ := hother
  have hname := Schema.isClassName_of_mem_records (Schema.mem_records_of_field h hinner hreached)
  exact hname

/-- **The classes of a payload that hide a type.** In either layer a class has a field that hides a
type of its fields exactly if one of its keys is spelled like `bool`, `int` or `double`, and one of
its fields has that type or a list of it. The other names in its types, of classes, lists, texts
and unknown values, are never hidden. -/
theorem recordClasses_hidesType_iff (feature : String) (origin layer : RecordLayer) (decoders : Bool)
    (path : List String) (value : Json) :
    ∀ record ∈ recordClasses (Schema.infer feature origin path value) layer decoders,
      (record.HidesType ↔ ∃ kind ∈ openKinds,
        (∃ field ∈ record.fields, Text.toCamel field.key = scalarName kind) ∧
          ∃ field ∈ record.fields, field.type.leaf = .scalar kind) := by
  intro record hrecord
  rw [recordClasses, Schema.records_forLayer, List.map_map, List.mem_map] at hrecord
  obtain ⟨schema, hschema, rfl⟩ := hrecord
  exact RecordClass.hidesType_fieldsOf_iff rfl (recordClasses_isProper hschema)

/-- A payload with the key `int` and a number. -/
def countPayload : Json :=
  .object [("int", .int 1)]

/-- The class of the payload: a field called `int` that is declared with the type `int`. -/
def countClass : RecordClass :=
  { name := recordName "counts" [] .entity
    base := none
    fields := [⟨"int", "int", .scalar .int, none⟩] }

/-- The class of this payload hides the type of its only field. -/
theorem countPayload_hidesType :
    ∃ record ∈ recordClasses (Schema.infer "counts" .entity [] countPayload) .entity false,
      record.HidesType := by
  decide +kernel

theorem countClass_hidesType :
    countClass ∈ recordClasses (Schema.infer "counts" .entity [] countPayload) .entity false ∧
      countClass.HidesType := by
  have hmem : countClass ∈
      recordClasses (Schema.infer "counts" .entity [] countPayload) .entity false := by
    decide +kernel
  refine ⟨hmem, (recordClasses_hidesType_iff _ _ _ _ _ _ countClass hmem).2 ?_⟩
  decide +kernel

end DartLayers.Dart
