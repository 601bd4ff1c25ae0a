import DartLayers.Proofs.Dart.Reading
import DartLayers.Proofs.Text.Cases

/-!
# DartLayers — classes that types and expressions name

The types of fields and the expressions that read them are built from the names of records. Read
from code, they end in code, and name the classes of their layer and built-in types only.

* **`DartType.reads_ofField`** — the type of a field.
* **`Decoding.reads_ofField`** — the expression that reads a field.
-/

namespace DartLayers.Dart

variable {visible : List ClassKind}

/-! ## Class names -/

/-- The kind of the classes of a layer. -/
def ClassKind.ofLayer : RecordLayer → ClassKind
  | .entity => .entity
  | .model => .model

/-- A class name shows its kind by its end. -/
theorem kindOf?_append {front behind : String} (hfront : IsClassName front)
    (hbehind : 4 ≤ behind.toList.length) :
    kindOf? (front ++ behind).toList.reverse = endKind? behind.toList.reverse := by
  obtain ⟨c, rest, hchars, hupper, -⟩ := hfront
  have hlast : (front ++ behind).toList.reverse.getLast? = some c := by
    simp [hchars]
  have hend : endKind? (front ++ behind).toList.reverse = endKind? behind.toList.reverse := by
    rw [String.toList_append, List.reverse_append, endKind?,
      List.take_append_of_le_length (by rwa [List.length_reverse]), endKind?]
  rw [kindOf?, hlast, Option.any_some, if_pos hupper, hend]

theorem kindOf?_qualified {name : TypeName} (h : IsClassName name.logical) :
    kindOf? name.qualified.toList.reverse = some (.ofLayer name.layer) := by
  cases hlayer : name.layer <;>
  · rw [TypeName.qualified, hlayer, kindOf?_append h (by decide)]
    decide

/-- A record that may be named: its class is of a visible kind. -/
def IsNamable (visible : List ClassKind) (name : TypeName) : Prop :=
  IsClassName name.logical ∧ ClassKind.ofLayer name.layer ∈ visible

/-- A class name that spells a visible kind, or none, is read to its end. -/
theorem Reads.className {name : String} (h : IsWord name)
    (hfine : IsFine visible name) : Reads visible .start name.toList .done :=
  .word h hfine

theorem Reads.qualified {name : TypeName} (h : IsNamable visible name) :
    Reads visible .start name.qualified.toList .done := by
  obtain ⟨hlogical, hvisible⟩ := h
  refine .word (TypeName.qualified_isWord hlogical.isWord) ?_
  rw [NameSketch.Holds, isFine, kindOf?_qualified hlogical]
  simpa using hvisible

/-- A reader in no name may be in one that ends. -/
theorem Reads.finish {before : Sketch} {piece : List Char} (h : Reads visible before piece .start) :
    Reads visible before piece .done :=
  h.settle rfl

/-! ## Field names -/

theorem isFine_of_startsSmall {name : String} (h : StartsSmall name) : IsFine visible name := by
  obtain ⟨c, rest, hname, hlower⟩ := h
  have hlast : name.toList.reverse.getLast? = some c := by simp [hname]
  have hupper : c.isUpper = false := by grind [Char.isUpper, Char.isLower]
  rw [IsFine, isFine, kindOf?, hlast, Option.any_some, hupper]
  rfl

/-! ## Types -/

namespace DartType

theorem reads_ofSchema : {schema : Schema} →
    (∀ record ∈ schema.records, IsNamable visible record.name) →
    Reads visible .start (ofSchema schema).render.toList .done
  | .scalar kind, _ => by cases kind <;> exact .className (by decide) rfl
  | .list element, h => by
    have hinner : Reads visible .start (ofSchema element).render.toList .done := reads_ofSchema h
    rw [ofSchema, render, String.toList_append, String.toList_append]
    refine .finish (.append (.append (.of_run ?_) hinner) (.of_run ?_)) <;>
    · rw [String.toList_ofList]
      rfl
  | .record name fields, h => .qualified (h ⟨name, fields⟩ (by simp [Schema.records]))

/-- **The type of a field** names the record that its value is made of. -/
theorem reads_ofField {schema : Schema} (h : ∀ record ∈ schema.records, IsNamable visible record.name) :
    Reads visible .start (ofField schema).render.toList .done := by
  have hvalue := reads_ofSchema h
  cases schema with
  | scalar | list => exact hvalue
  | record name fields =>
    rw [ofField, render, String.toList_append]
    refine .finish (.append hvalue (.of_run ?_))
    rw [String.toList_ofList]
    rfl

end DartType

/-! ## Expressions -/

theorem reads_parameterName (depth : Nat) :
    Reads visible .start (parameterName depth).toList .done := by
  have hword : IsWord (parameterName depth) := IsWord.append_nat (by decide) depth
  exact .className hword (isFine_of_startsSmall (StartsSmall.append (by decide) _))

/-- A text in a literal, between quotes that other pieces hold. -/
theorem reads_escape {text : String} (h : Text.IsLine text) :
    Reads visible ⟨.literal '\'', .exactly []⟩ (escape text).toList ⟨.literal '\'', .exactly []⟩ := by
  rw [escape, String.toList_ofList]
  exact .literal_escape (.inl rfl) h

theorem Source.reads_field {key : String} (hkey : Text.IsLine key) :
    Reads visible .start (Source.field key).render.toList .done := by
  have hescaped : Reads visible ⟨.literal '\'', .exactly []⟩ (escape key).toList
      ⟨.literal '\'', .exactly []⟩ := reads_escape hkey
  simp only [render, String.toList_append, List.append_assoc]
  refine .finish (.append (.of_run ?_) (.append hescaped (.of_run ?_))) <;>
  · rw [String.toList_ofList]
    rfl

namespace Decoding

variable {source : Source} (hsource : Reads visible .start source.render.toList .done)

include hsource

theorem reads_fromJson {name : TypeName} (h : IsNamable visible name) :
    Reads visible .start (Decoding.fromJson name source).render.toList .done := by
  have hname := Reads.qualified h
  simp only [render, jsonMapType, String.append_assoc, String.reduceAppend, String.toList_append]
  refine .finish (.append hname (.append (.of_run ?_) (.append hsource (.of_run ?_)))) <;>
  · rw [String.toList_ofList]
    rfl

theorem reads_safeParse {type : DartType} (htype : Reads visible .start type.render.toList .done)
    {label : String} (hlabel : Text.IsLine label) :
    Reads visible .start (Decoding.safeParse type source label).render.toList .done := by
  have hescaped : Reads visible ⟨.literal '\'', .exactly []⟩ (escape label).toList
      ⟨.literal '\'', .exactly []⟩ := reads_escape hlabel
  simp only [render, String.append_assoc, String.toList_append]
  refine .finish (.append (.of_run ?_) (.append htype (.append (.of_run ?_) (.append hsource
    (.append (.of_run ?_) (.append hescaped (.of_run ?_))))))) <;>
  · rw [String.toList_ofList]
    rfl

theorem reads_mapItems {body : Decoding} (hbody : Reads visible .start body.render.toList .done)
    (depth : Nat) : Reads visible .start (Decoding.mapItems source depth body).render.toList .done := by
  have hparameter : Reads visible .start (parameterName depth).toList .done :=
    reads_parameterName depth
  simp only [render, String.append_assoc, String.toList_append]
  refine .finish (.append (.of_run ?_) (.append hsource (.append (.of_run ?_) (.append hparameter
    (.append (.of_run ?_) (.append hbody (.of_run ?_))))))) <;>
  · rw [String.toList_ofList]
    rfl

theorem reads_ifPresent {body : Decoding} (hbody : Reads visible .start body.render.toList .done)
    (absent : Absent) :
    Reads visible .start (Decoding.ifPresent source body absent).render.toList .done := by
  have habsent : Reads visible .start absent.render.toList .done := by
    cases absent with
    | null => exact .className (by decide) rfl
    | emptyList => exact .finish (.of_run rfl)
  simp only [render, String.append_assoc, String.toList_append]
  refine .append hsource (.append (.of_run ?_) (.append hbody (.append (.of_run ?_) habsent))) <;>
  · rw [String.toList_ofList]
    rfl

omit hsource

variable {key : String} (hkey : Text.IsLine key)

include hkey

/-- The expression for an element, by recursion on the list types around it. -/
theorem reads_ofElement : {schema : Schema} →
    (∀ record ∈ schema.records, IsNamable visible record.name) → {source : Source} →
    Reads visible .start source.render.toList .done → (depth : Nat) →
    Reads visible .start (ofElement key schema source depth).render.toList .done
  | .record name fields, h, _, hsource, _ =>
    reads_fromJson hsource (h ⟨name, fields⟩ (by simp [Schema.records]))
  | .scalar kind, h, _, hsource, _ => reads_safeParse hsource (DartType.reads_ofSchema h) hkey
  | .list element, h, source, hsource, depth => by
    have htype := DartType.reads_ofSchema h
    have hparameter : Reads visible .start (Source.parameter depth).render.toList .done :=
      reads_parameterName depth
    have helement : ∀ record ∈ element.records, IsNamable visible record.name := h
    have hbody : Reads visible .start
        (ofElement key element (.parameter depth) (depth + 1)).render.toList .done :=
      reads_ofElement helement hparameter (depth + 1)
    rw [ofElement]
    split
    · exact reads_safeParse hsource htype hkey
    · exact reads_mapItems hsource hbody depth

/-- **The expression that reads a field** names the model that the field is made of. -/
theorem reads_ofField {schema : Schema}
    (h : ∀ record ∈ schema.records, IsNamable visible record.name) :
    Reads visible .start (ofField schema key).render.toList .done := by
  have hsource : Reads visible .start (Source.field key).render.toList .done :=
    Source.reads_field hkey
  have htype := DartType.reads_ofSchema h
  have helement := reads_ofElement hkey h hsource 0
  cases schema with
  | record => exact reads_ifPresent hsource helement .null
  | scalar => exact reads_safeParse hsource htype hkey
  | list element =>
    rw [ofField]
    split
    · exact reads_safeParse hsource htype hkey
    · exact reads_ifPresent hsource helement .emptyList

end Decoding

end DartLayers.Dart
