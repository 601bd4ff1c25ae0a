import DartLayers.Proofs.Plan.Breaks

/-!
# DartLayers — literals in generated text

A key, an endpoint path or a base address may hold any characters, also those that mean something
inside a literal. A backslash stands in front of each character that needs one, and nowhere else, so a
reader of the inside finds the text again and comes to no interpolation. A line break needs one, too,
and has none: a literal ends on its line, so a text that holds a break is cut in the middle, and the
quote that was written to close it opens another literal. All literals are read as they were written
exactly if the texts in them hold no line break.

* **`Sign`**, **`signs`** — what a reader of the inside of a literal takes, from left to right.
* **`spells_iff`** — exactly one inside spells a text.
* **`Strand.EndsAsWritten`** — a literal ends at the quote that was written to close it.
* **`escape_readable_iff`** — when the literals of expressions and of the registry are read as written.
-/

namespace DartLayers.Dart

/-! ## The inside of a literal -/

/-- What a reader of the inside of a literal takes at a time: a character on its own, or a backslash
with the character behind it. -/
inductive Sign where
  | single (c : Char)
  | pair (c : Char)
  deriving DecidableEq

namespace Sign

/-- The character that a sign stands for. -/
def char : Sign → Char
  | .single c | .pair c => c

/-- A sign in source form. -/
def render : Sign → List Char
  | .single c => [c]
  | .pair c => ['\\', c]

/-- The sign that is written for a character. -/
def ofChar (c : Char) : Sign :=
  if needsEscape c then .pair c else .single c

end Sign

/-- The signs of the inside of a literal, from left to right: a backslash takes the character behind
it, whatever that is. -/
def signs : List Char → List Sign
  | [] => []
  | '\\' :: c :: rest => .pair c :: signs rest
  | c :: rest => .single c :: signs rest

/-- The characters that must stand behind a backslash. -/
def literalMarks : List Char :=
  ['\\', '\'', '"', '$']

/-- An inside of a literal spells a text: it is read as the text, only marks stand behind a backslash,
and they stand nowhere else. -/
structure Spells (inside text : List Char) : Prop where
  read : (signs inside).map Sign.char = text
  pairs : ∀ c, .pair c ∈ signs inside → c ∈ literalMarks
  singles : ∀ c, .single c ∈ signs inside → c ∉ literalMarks

theorem needsEscape_iff {c : Char} : needsEscape c = true ↔ c ∈ literalMarks := by
  simp [needsEscape, literalMarks, or_assoc]

/-- The signs are what the inside is made of. -/
theorem flatMap_render_signs (inside : List Char) : (signs inside).flatMap Sign.render = inside := by
  fun_induction signs inside with
  | case1 => rfl
  | case2 c rest ih => simp [Sign.render, ih]
  | case3 c rest _ ih => simp [Sign.render, ih]

theorem signs_cons_of_ne {c : Char} (h : c ≠ '\\') (rest : List Char) :
    signs (c :: rest) = .single c :: signs rest := by
  rw [signs]
  exact fun _ _ hmark => absurd hmark h

/-- Each character of a text is written as one sign. -/
theorem signs_escapeChars (text : List Char) : signs (escapeChars text) = text.map Sign.ofChar := by
  induction text with
  | nil => rfl
  | cons c rest ih =>
    rw [escapeChars, List.map_cons, Sign.ofChar]
    split
    · rw [signs, ih]
    · rename_i hplain
      have hne : c ≠ '\\' := by
        rintro rfl
        exact hplain (by decide)
      rw [signs_cons_of_ne hne, ih]

theorem flatMap_render_ofChar (text : List Char) :
    (text.map Sign.ofChar).flatMap Sign.render = escapeChars text := by
  rw [← signs_escapeChars, flatMap_render_signs]

/-- **Exactly one inside spells a text**: the one that is written for it. -/
theorem spells_iff {inside text : List Char} : Spells inside text ↔ inside = escapeChars text := by
  constructor
  · intro h
    have hsigns : (signs inside).map (fun sign => Sign.ofChar sign.char) = signs inside := by
      refine (List.map_congr_left fun sign hsign => ?_).trans (List.map_id _)
      cases sign with
      | single c => exact if_neg fun hmark => h.singles c hsign (needsEscape_iff.1 hmark)
      | pair c => exact if_pos (needsEscape_iff.2 (h.pairs c hsign))
    calc inside
        = (signs inside).flatMap Sign.render := (flatMap_render_signs inside).symm
      _ = (text.map Sign.ofChar).flatMap Sign.render := by
        rw [← h.read, List.map_map]
        exact congrArg _ hsigns.symm
      _ = escapeChars text := flatMap_render_ofChar text
  · rintro rfl
    refine ⟨?_, fun c hc => ?_, fun c hc => ?_⟩
    · rw [signs_escapeChars, List.map_map]
      refine (List.map_congr_left fun c _ => ?_).trans (List.map_id _)
      by_cases hmark : needsEscape c <;> simp [Sign.ofChar, Sign.char, hmark]
    all_goals
      rw [signs_escapeChars, List.mem_map] at hc
      obtain ⟨d, -, hd⟩ := hc
      by_cases hmark : needsEscape d <;> simp only [Sign.ofChar, hmark, reduceIte] at hd <;> cases hd
    · exact needsEscape_iff.1 hmark
    · exact fun hc => hmark (needsEscape_iff.2 hc)

example : signs "it\\'s \\$1".toList =
    [.single 'i', .single 't', .pair '\'', .single 's', .single ' ', .pair '$', .single '1'] := by
  decide

/-- Different texts have different insides. -/
theorem escape_injective : Function.Injective escape := by
  intro text other h
  have hchars : escapeChars text.toList = escapeChars other.toList := String.ofList_inj.1 h
  have hread := congrArg unescapeChars hchars
  rw [unescapeChars_escapeChars, unescapeChars_escapeChars, Option.some_inj] at hread
  exact String.toList_inj.1 hread

/-! ## Where literals end -/

/-- A literal ends where it was written to end: a reader behind its opening quote finds the text, and is
in code again exactly behind the quote that closes it. -/
def Strand.EndsAsWritten (literal : Char × String) : Prop :=
  Place.run (.literal literal.1 []) (escape literal.2 ++ String.singleton literal.1).toList =
    some ([.literal literal.2], .code)

/-- A literal that holds a line break is cut at the break. -/
theorem Strand.endsAsWritten_iff {quote : Char} (hquote : quote = '\'' ∨ quote = '"') {text : String} :
    EndsAsWritten (quote, text) ↔ Text.IsLine text := by
  refine ⟨fun h => ?_, run_literal hquote⟩
  have hline := Place.isLine_of_run h
  rw [Text.isLine_append, Text.isLine_escape] at hline
  exact hline.1

/-- The expression for a field has literals, and all of them are for its key. -/
theorem literals_ofField (schema : Schema) (key : String) :
    Strand.literals (Decoding.ofField schema key).strands ≠ [] ∧
      ∀ literal ∈ Strand.literals (Decoding.ofField schema key).strands, literal = ('\'', key) := by
  obtain ⟨hmem, hall⟩ := Decoding.copies_ofField schema key
  rw [Decoding.literals_strands]
  refine ⟨?_, List.forall_mem_map.2 fun text htext => by rw [hall text htext]⟩
  rw [Ne, List.map_eq_nil_iff]
  exact List.ne_nil_of_mem hmem

/-- **The expression for a field of a payload** is read as it was written exactly if the key holds no
line break. -/
theorem asides_render_inferred_iff (feature : String) (layer : RecordLayer) (path : List String)
    (value : Json) (key : String) :
    let decoding := Decoding.ofField (Schema.infer feature layer path value) key
    asides decoding.render = (Strand.literals decoding.strands).map (.literal ·.2) ↔
      Text.IsLine key := by
  intro decoding
  have hnamed : decoding.IsNamed :=
    Decoding.isNamed_ofField fun _ hrecord => (Schema.isClassName_of_mem_records hrecord).isWord
  obtain ⟨hne, hall⟩ := literals_ofField (Schema.infer feature layer path value) key
  constructor
  · -- the key stands in the first of the literals that are found
    intro hread
    obtain ⟨literal, others, hliterals⟩ := List.exists_cons_of_ne_nil hne
    have hkey : literal = ('\'', key) := hall literal (hliterals ▸ List.mem_cons_self)
    have hmem : Aside.literal key ∈ asides decoding.render := by
      rw [hread, hliterals, hkey]
      exact List.mem_cons_self
    exact isLine_of_mem_asides hmem
  · intro hkey
    have hlines : ∀ literal ∈ Strand.literals decoding.strands, Text.IsLine literal.2 := by
      intro literal hliteral
      rw [hall literal hliteral]
      exact hkey
    have hrun := (Strand.run_renderAll_iff (Decoding.isClean_strands hnamed)).2 hlines
    rw [Decoding.renderAll_strands] at hrun
    rw [asides_of_isLine (Place.isLine_of_run hrun), lineAsides_of_run hrun]

/-! ## The registry -/

/-- The literals of a text. -/
def literalsOf (text : String) : List String :=
  (asides text).filterMap fun
    | .literal inside => some inside
    | .comment _ => none

theorem isLine_of_mem_literalsOf {text inside : String} (h : inside ∈ literalsOf text) :
    Text.IsLine inside := by
  obtain ⟨aside, haside, hfound⟩ := List.mem_filterMap.1 h
  have hline := isLine_of_mem_asides haside
  cases aside with
  | comment => cases hfound
  | literal found =>
    cases hfound
    exact hline

/-- The constants of a registry, with their texts. -/
def registryConstants (feature : Feature) : List (String × String) :=
  [("apiBaseUrl", Plan.registeredBase feature), (feature.endpointConstant, feature.path)]

theorem renderAll_mem_registryLines (feature : Feature) : ∀ constant ∈ registryConstants feature,
    Strand.renderAll (constantStrands constant.1 constant.2) ∈ Plan.registryLines feature := by
  rw [Plan.registryLines_eq]
  simp [registryConstants]

theorem registryConstants_isWord (feature : Feature) :
    ∀ constant ∈ registryConstants feature, IsWord constant.1 := by
  simp only [registryConstants, List.forall_mem_cons]
  exact ⟨by decide, endpointConstant_isWord feature, List.forall_mem_nil _⟩

/-- The registry consists of its lines. -/
theorem renderTemplate_registry (feature : Feature) (root : TypeName) (timeout : Int) :
    renderTemplate "core/network/api_constants.dart.j2" (Plan.coreContext feature root timeout) =
      .ok (Text.ofLines (Plan.registryLines feature)) := by
  have hmem : ("core/network/api_constants.dart.j2", Template.apiConstants) ∈ Template.library := by
    simp [Template.library]
  rw [renderTemplate, Template.find?_of_mem hmem]
  exact renders_registry root (endpointConstant_isWord feature).1 timeout

/-- The lines of a registry are lines if its texts are. -/
theorem isLine_registryLines {feature : Feature}
    (h : ∀ constant ∈ registryConstants feature, Text.IsLine constant.2) :
    ∀ line ∈ Plan.registryLines feature, Text.IsLine line := by
  rw [← Text.breaksOf_eq_zero_iff, breaksOf_registryLines (endpointConstant_isWord feature),
    Text.breaksOf_eq_zero_iff]
  simpa [registryConstants] using h

/-- **The literals of a registry** are the texts of its constants, exactly if these hold no line
break. -/
theorem literalsOf_registry_iff (feature : Feature) :
    literalsOf (Text.ofLines (Plan.registryLines feature)) =
        (registryConstants feature).map Prod.snd ↔
      ∀ constant ∈ registryConstants feature, Text.IsLine constant.2 := by
  constructor
  · intro hread constant hconstant
    have hmem : constant.2 ∈ literalsOf (Text.ofLines (Plan.registryLines feature)) := by
      rw [hread]
      exact List.mem_map_of_mem hconstant
    exact isLine_of_mem_literalsOf hmem
  · intro h
    have htexts : Text.IsLine (Plan.registeredBase feature) ∧ Text.IsLine feature.path := by
      simpa [registryConstants] using h
    rw [literalsOf, asides_ofLines (isLine_registryLines h),
      linesAsides_registryLines (endpointConstant_isWord feature) htexts.1 htexts.2]
    rfl

/-! ## Texts in literals -/

/-- **What is written into a literal is read back.** For every text the inside that is written spells
the text, so different texts are written in different ways. All literals of the expression that reads
a field are for the key of the field, and each of them ends where it was written to end exactly if the
key holds no line break; if the schema is that of a payload, the literals that are found in the
expression are then these, and nothing else is found. It is the same with the registry, whose literals
are the texts of its constants, and with each of the lines that declare them. -/
theorem escape_readable_iff (text key : String) (schema : Schema) (feature : Feature)
    (root : TypeName) (timeout : Int) :
    Spells (escape text).toList text.toList ∧ (∀ other, escape text = escape other → text = other) ∧
      (let decoding := Decoding.ofField schema key
       Strand.renderAll decoding.strands = decoding.render ∧
        Strand.literals decoding.strands ≠ [] ∧
        ∀ literal ∈ Strand.literals decoding.strands,
          literal = ('\'', key) ∧ (Strand.EndsAsWritten literal ↔ Text.IsLine key)) ∧
      (∀ (name : String) (layer : RecordLayer) (path : List String) (value : Json),
        let decoding := Decoding.ofField (Schema.infer name layer path value) key
        asides decoding.render = (Strand.literals decoding.strands).map (.literal ·.2) ↔
          Text.IsLine key) ∧
      ∃ content,
        renderTemplate "core/network/api_constants.dart.j2" (Plan.coreContext feature root timeout) =
            .ok content ∧
          (literalsOf content = (registryConstants feature).map Prod.snd ↔
            ∀ constant ∈ registryConstants feature, Text.IsLine constant.2) ∧
          content = Text.ofLines (Plan.registryLines feature) ∧
          ∀ constant ∈ registryConstants feature,
            let line := Strand.renderAll (constantStrands constant.1 constant.2)
            line ∈ Plan.registryLines feature ∧
              (Place.run .code line.toList = some ([.literal constant.2], .code) ↔
                Text.IsLine constant.2) := by
  refine ⟨?_, fun other hsame => escape_injective hsame, ?_,
    fun name layer path value => asides_render_inferred_iff name layer path value key,
    _, renderTemplate_registry feature root timeout, literalsOf_registry_iff feature, rfl,
    fun constant hconstant => ?_⟩
  · rw [spells_iff, escape, String.toList_ofList]
  · -- Every literal of the expression is the key between single quotes.
    obtain ⟨hne, hall⟩ := literals_ofField schema key
    refine ⟨Decoding.renderAll_strands _, hne, fun literal hliteral => ⟨hall literal hliteral, ?_⟩⟩
    rw [hall literal hliteral]
    exact Strand.endsAsWritten_iff (.inl rfl)
  · exact ⟨renderAll_mem_registryLines feature constant hconstant,
      run_constantStrands_iff (registryConstants_isWord feature constant hconstant)⟩

/-- **A key or a path with a line break is cut in its literals.** What is read as a literal of the
expression is the code between two of them, and the path is missing in the registry. -/
theorem brokenKey_not_readable :
    let decoding := Decoding.ofField (.scalar .int) "a\nb"
    let feature := Feature.ofParts "/a\nb".toList [] .get none
    decoding.render = "safeParse<int>(json['a\nb'], 'a\nb')" ∧
      ¬ Strand.EndsAsWritten ('\'', "a\nb") ∧
      (Strand.literals decoding.strands).map (.literal ·.2) =
        [Aside.literal "a\nb", .literal "a\nb"] ∧
      asides decoding.render = [.literal "], "] ∧
      literalsOf (Text.ofLines (Plan.registryLines feature)) = [Plan.registeredBase feature] := by
  intro decoding feature
  have hended : ¬ Strand.EndsAsWritten ('\'', "a\nb") := by
    rw [Strand.endsAsWritten_iff (.inl rfl)]
    decide
  refine ⟨by decide +kernel, hended, by decide +kernel, by decide +kernel, ?_⟩
  -- The line that declares the path is cut in two, and neither of them can be read.
  have hcut : "  static const " ++ feature.endpointConstant ++ " = \"" ++ escape feature.path ++ "\";" =
      "  static const aB = \"/a" ++ "\n" ++ "b\";" := by decide +kernel
  have hlines : Text.ofLines (Plan.registryLines feature) = Text.ofLines
      ["final class ApiList \x7b", "  ApiList._();", "", "  // --- Base URLs ---",
        "  static const apiBaseUrl = \"" ++ escape (Plan.registeredBase feature) ++ "\";", "",
        "  // --- Generated API Endpoints ---", "  // Generated endpoint",
        "  static const aB = \"/a", "b\";", "  // Add your endpoints here", "\x7d"] := by
    rw [Plan.registryLines, hcut]
    simp only [Text.ofLines, String.append_assoc]
  rw [literalsOf, hlines, asides_ofLines (by decide +kernel)]
  decide +kernel

end DartLayers.Dart
