import DartLayers.Proofs.Dart.Printed

/-!
# DartLayers — types and scopes of reading expressions

The declared type of a field and the expression that reads it are made from one schema, but not by the
same cases: lists of scalars are read as a whole, other lists item by item, and a record that may be
missing is nullable in a field and not in a list. Still the expression has the declared type. It is
also well scoped: the body of a lambda reads the parameter of that lambda and nothing else, so that
only what stands outside of all lambdas reads the payload.

* **`Decoding.fieldText`**, **`Decoding.render_ofField`** — what an expression looks like in print.
* **`Decoding.HasType`** — the rules for the type of an expression.
* **`Decoding.ReadsOnly`** — the rules for what the parts of an expression read.
* **`Decoding.WellScoped`** — what follows for its lambdas and its variables.
* **`Decoding.ofField_typed_scoped`** — the expression for a field has its type and is well scoped.
-/

namespace DartLayers.Dart

/-- Parameters of different lambdas have different names. -/
theorem parameterName_injective : Function.Injective parameterName := by
  intro depth other hsame
  exact Nat.repr_inj.1 ((String.append_right_inj "e").1 hsame)

/-- The variable that a source is read from. -/
def Source.name : Source → String
  | .field _ => "json"
  | .parameter depth => parameterName depth

namespace Decoding

/-! ## Texts -/

/-- The text that reads an element out of the text `read`; lambdas in it start at `depth`. -/
def elementText (label : String) : Schema → (read : String) → (depth : Nat) → String
  | .record name _, read, _ =>
    name.qualified ++ ".fromJson(" ++ read ++ " as " ++ jsonMapType ++ ")"
  | .scalar kind, read, _ =>
    "safeParse<" ++ (DartType.ofSchema (.scalar kind)).render ++ ">(" ++ read ++ ", '" ++
      label ++ "')"
  | .list element, read, depth =>
    if element.isScalar then
      "safeParse<" ++ (DartType.ofSchema (.list element)).render ++ ">(" ++ read ++ ", '" ++
        label ++ "')"
    else
      "(" ++ read ++ " as List).map((e" ++ toString depth ++ ") => " ++
        elementText label element ("e" ++ toString depth) (depth + 1) ++ ").toList()"

/-- The text that reads a field: a record and a list that is read item by item may be missing. -/
def fieldText (schema : Schema) (key : String) : String :=
  let accessor := "json['" ++ escape key ++ "']"
  let text := elementText (escape key) schema accessor 0
  match schema with
  | .scalar _ => text
  | .list element => if element.isScalar then text else accessor ++ " != null ? " ++ text ++ " : []"
  | .record _ _ => accessor ++ " != null ? " ++ text ++ " : null"

theorem render_ofElement (key : String) : (schema : Schema) → (source : Source) →
    (depth : Nat) →
    (ofElement key schema source depth).render = elementText (escape key) schema source.render depth
  | .record _ _, _, _ => rfl
  | .scalar _, _, _ => rfl
  | .list element, source, depth => by
    have hbody := render_ofElement key element (.parameter depth) (depth + 1)
    unfold ofElement elementText
    split
    · rfl
    · simp only [render, hbody, Source.render, parameterName, String.append_assoc]
      rfl

theorem render_ofField (schema : Schema) (key : String) :
    (ofField schema key).render = fieldText schema key := by
  cases schema with
  | record =>
    unfold ofField fieldText elementText
    simp only [render, Source.render, Absent.render, String.append_assoc, String.reduceAppend]
  | scalar => rfl
  | list element =>
    have hlist := render_ofElement key (.list element) (.field key) 0
    rw [ofField, fieldText]
    split
    · rename_i hscalar
      unfold elementText
      rw [if_pos hscalar]
      rfl
    · simp only [render, hlist, Source.render, Absent.render, String.append_assoc,
        String.reduceAppend]

/-! ## Types -/

/-- The types of expressions: a class's `fromJson` gives the class, `safeParse` its type argument, and
mapping over items a list. With null for what is missing a type becomes nullable; the empty list fits
any list. -/
inductive HasType : Decoding → DartType → Prop
  | fromJson {model : TypeName} {source : Source} : HasType (.fromJson model source) (.record model)
  | safeParse {type : DartType} {source : Source} {label : String} :
      HasType (.safeParse type source label) type
  | mapItems {source : Source} {depth : Nat} {body : Decoding} {type : DartType}
      (hbody : HasType body type) : HasType (.mapItems source depth body) (.list type)
  | orNull {source : Source} {body : Decoding} {type : DartType} (hbody : HasType body type) :
      HasType (.ifPresent source body .null) (.nullable type)
  | orEmptyList {source : Source} {body : Decoding} {type : DartType}
      (hbody : HasType body (.list type)) :
      HasType (.ifPresent source body .emptyList) (.list type)

/-- An expression has one type at most. -/
theorem HasType.unique {decoding : Decoding} {type other : DartType} (h : HasType decoding type)
    (hother : HasType decoding other) : type = other := by
  induction h generalizing other with
  | fromJson =>
    cases hother
    rfl
  | safeParse =>
    cases hother
    rfl
  | mapItems _ ih =>
    cases hother with
    | mapItems hbody => rw [ih hbody]
  | orNull _ ih =>
    cases hother with
    | orNull hbody => rw [ih hbody]
  | orEmptyList _ ih =>
    cases hother with
    | orEmptyList hbody => exact ih hbody

/-- The expression for an element has the type of the element, by recursion on the lists around. -/
theorem hasType_ofElement (key : String) : (schema : Schema) → (source : Source) → (depth : Nat) →
    HasType (ofElement key schema source depth) (.ofSchema schema)
  | .record _ _, _, _ => .fromJson
  | .scalar _, _, _ => .safeParse
  | .list element, source, depth => by
    have hbody := hasType_ofElement key element (.parameter depth) (depth + 1)
    rw [ofElement, DartType.ofSchema]
    split
    · exact .safeParse
    · exact .mapItems hbody

theorem hasType_ofField (schema : Schema) (key : String) :
    HasType (ofField schema key) (.ofField schema) := by
  cases schema with
  | record => exact .orNull .fromJson
  | scalar => exact .safeParse
  | list element =>
    have hlist := hasType_ofElement key (.list element) (.field key) 0
    rw [ofField, DartType.ofField]
    · split
      · exact .safeParse
      · exact .orEmptyList hlist
    · exact fun _ _ h => by cases h

/-! ## Scopes -/

/-- An expression reads one source outside of its lambdas. The body of a lambda reads its parameter,
and the lambdas below each other take the parameters from a depth on. -/
inductive ReadsOnly : Source → (depth : Nat) → Decoding → Prop
  | fromJson {source : Source} {depth : Nat} {model : TypeName} :
      ReadsOnly source depth (.fromJson model source)
  | safeParse {source : Source} {depth : Nat} {type : DartType} {label : String} :
      ReadsOnly source depth (.safeParse type source label)
  | mapItems {source : Source} {depth : Nat} {body : Decoding}
      (hbody : ReadsOnly (.parameter depth) (depth + 1) body) :
      ReadsOnly source depth (.mapItems source depth body)
  | ifPresent {source : Source} {depth : Nat} {body : Decoding} {absent : Absent}
      (hbody : ReadsOnly source depth body) : ReadsOnly source depth (.ifPresent source body absent)

theorem readsOnly_ofElement (key : String) : (schema : Schema) → (source : Source) →
    (depth : Nat) → ReadsOnly source depth (ofElement key schema source depth)
  | .record _ _, _, _ => .fromJson
  | .scalar _, _, _ => .safeParse
  | .list element, source, depth => by
    have hbody := readsOnly_ofElement key element (.parameter depth) (depth + 1)
    rw [ofElement]
    split
    · exact .safeParse
    · exact .mapItems hbody

theorem readsOnly_ofField (schema : Schema) (key : String) :
    ReadsOnly (.field key) 0 (ofField schema key) := by
  cases schema with
  | record => exact .ifPresent .fromJson
  | scalar => exact .safeParse
  | list element =>
    have hlist := readsOnly_ofElement key (.list element) (.field key) 0
    rw [ofField]
    split
    · exact .safeParse
    · exact .ifPresent hlist

/-- The lambdas of an expression, outermost first: their parameters and their bodies. -/
def lambdas : Decoding → List (String × Decoding)
  | .fromJson _ _ | .safeParse _ _ _ => []
  | .mapItems _ depth body => (parameterName depth, body) :: body.lambdas
  | .ifPresent _ body _ => body.lambdas

/-- The variables that an expression reads outside of lambdas that have them as a parameter. -/
def freeVariables : Decoding → List String
  | .fromJson _ source | .safeParse _ source _ => [source.name]
  | .mapItems source depth body =>
    source.name :: body.freeVariables.filter (· != parameterName depth)
  | .ifPresent source body _ => source.name :: body.freeVariables

section

variable {source : Source} {depth : Nat} {decoding : Decoding}

/-- What reads one source has one free variable. -/
theorem ReadsOnly.mem_freeVariables (h : ReadsOnly source depth decoding) (name : String) :
    name ∈ decoding.freeVariables ↔ name = source.name := by
  induction h generalizing name with
  | fromJson => simp [freeVariables]
  | safeParse => simp [freeVariables]
  | @mapItems source depth body hbody ih =>
    have hbound : body.freeVariables.filter (· != parameterName depth) = [] := by
      refine List.filter_eq_nil_iff.2 fun other hother => ?_
      have hparameter : other = parameterName depth := (ih other).1 hother
      simp [hparameter]
    rw [freeVariables, hbound, List.mem_singleton]
  | ifPresent hbody ih => rw [freeVariables, List.mem_cons, ih, or_self]

/-- The parameters of lambdas below each other are numbered. -/
theorem ReadsOnly.parameters_eq (h : ReadsOnly source depth decoding) :
    decoding.lambdas.map Prod.fst =
      (List.range' depth decoding.lambdas.length).map parameterName := by
  induction h with
  | fromJson => rfl
  | safeParse => rfl
  | mapItems hbody ih =>
    rw [lambdas, List.map_cons, ih, List.length_cons, List.range'_succ, List.map_cons]
  | ifPresent hbody ih => exact ih

/-- The body of each lambda reads its parameter only. -/
theorem ReadsOnly.mem_freeVariables_body (h : ReadsOnly source depth decoding) :
    ∀ lambda ∈ decoding.lambdas, ∀ name, name ∈ lambda.2.freeVariables ↔ name = lambda.1 := by
  induction h with
  | fromJson => exact fun _ hlambda => nomatch hlambda
  | safeParse => exact fun _ hlambda => nomatch hlambda
  | mapItems hbody ih =>
    rw [lambdas, List.forall_mem_cons]
    exact ⟨hbody.mem_freeVariables, ih⟩
  | ifPresent hbody ih => exact ih

end

/-- What the lambdas and the variables of the expression for a key are. Outside of its lambdas it reads
`json` only, and of that the key only; the body of a lambda reads its parameter only; and the lambdas
below each other have the parameters `e0`, `e1` and so on, which are different from each other and from
`json`. -/
structure WellScoped (key : String) (decoding : Decoding) : Prop where
  outside : ∀ name, name ∈ decoding.freeVariables ↔ name = "json"
  bodies : ∀ lambda ∈ decoding.lambdas, ∀ name, name ∈ lambda.2.freeVariables ↔ name = lambda.1
  parameters : decoding.lambdas.map Prod.fst =
    (List.range decoding.lambdas.length).map fun depth => "e" ++ toString depth
  distinct : ("json" :: decoding.lambdas.map Prod.fst).Nodup
  keys : ∀ text ∈ decoding.copies, text = key

/-- What reads a field of the payload is well scoped. -/
theorem ReadsOnly.wellScoped {key : String} {decoding : Decoding}
    (h : ReadsOnly (.field key) 0 decoding) (hkeys : ∀ text ∈ decoding.copies, text = key) :
    WellScoped key decoding where
  outside := h.mem_freeVariables
  bodies := h.mem_freeVariables_body
  parameters := by rw [h.parameters_eq, List.range_eq_range']; rfl
  distinct := by
    rw [h.parameters_eq, List.nodup_cons]
    refine ⟨fun hmem => ?_, (List.nodup_range' (h := Nat.one_pos)).map parameterName_injective⟩
    obtain ⟨depth, -, hname⟩ := List.mem_map.1 hmem
    have hhead := congrArg (fun name : String => name.toList.head?) hname
    simp [parameterName] at hhead
  keys := hkeys

/-! ## Fields -/

/-- **The text for a field is that of an expression that has the type of the field and no other, and
is well scoped**, whatever lists and records the field is made of. -/
theorem ofField_typed_scoped (schema : Schema) (key : String) :
    (ofField schema key).render = fieldText schema key ∧
      (∀ type, HasType (ofField schema key) type ↔ type = .ofField schema) ∧
      WellScoped key (ofField schema key) := by
  refine ⟨render_ofField schema key,
    fun type => ⟨fun h => h.unique (hasType_ofField schema key), ?_⟩, ?_⟩
  · rintro rfl
    exact hasType_ofField schema key
  · exact (readsOnly_ofField schema key).wellScoped (copies_ofField schema key).2

end Decoding

end DartLayers.Dart
