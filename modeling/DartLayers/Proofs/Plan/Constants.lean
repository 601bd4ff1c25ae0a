import DartLayers.Proofs.Endpoint.Constant
import DartLayers.Proofs.Plan.Closed
import DartLayers.Proofs.Plan.Literals

/-!
# DartLayers — the constants of the registry

The registry is a class with two constants: the base address under a fixed name, and the path of the
endpoint under a name that is made of it. The class can be declared, and the data source gets the path
by the name that it refers to, unless that name is a keyword or the one of the base address. Fields
that are named after keys keep clear of keywords; the constant of a path does not. A text with a line
break is no constant at all: its literal is cut.

* **`constantsOf`** — the constants that a text declares, read off the names and literals of its lines.
* **`AreDeclarable`**, **`Denotes`** — constants that one class can have, and what a name stands for.
* **`registry_declares_iff`** — the endpoints for which both hold.
-/

namespace DartLayers

namespace Dart

/-! ## Reading constants -/

/-- A text in a literal mentions no names. -/
theorem namesFrom_escapeChars {quote : Char} (hquote : quote = '\'' ∨ quote = '"')
    (text rest : List Char) :
    (namesFrom (.literal quote) [] (escapeChars text ++ quote :: rest)).filter (· ≠ "") =
      lineNames rest := by
  induction text with
  | nil => rcases hquote with rfl | rfl <;> simp [escapeChars, namesFrom, Mode.isOpen, Mode.next, lineNames]
  | cons c text ih =>
    rw [escapeChars]
    split
    · simpa [namesFrom, Mode.isOpen, Mode.next] using ih
    · rename_i hplain
      have hkept : c ≠ '\\' ∧ c ≠ '$' ∧ c ≠ quote := by
        simp only [needsEscape, Bool.or_eq_true, beq_iff_eq, not_or] at hplain
        rcases hquote with rfl | rfl <;> simp_all
      simpa [namesFrom, Mode.isOpen, Mode.next, hkept] using ih

/-- The constant that a line declares, with the text that it stands for. -/
def constantOf? (line : List Char) : Option (String × String) :=
  match lineNames line, lineAsides line with
  | ["static", "const", name], [.literal text] => some (name, text)
  | _, _ => none

/-- The constants that a text declares. -/
def constantsOf (content : String) : List (String × String) :=
  (Text.linesOf content).filterMap constantOf?

/-- The text of a constant is found in a line. -/
theorem isLine_of_constantOf? {line : List Char} {constant : String × String}
    (h : constantOf? line = some constant) : Text.IsLine constant.2 := by
  rw [constantOf?] at h
  split at h
  · rename_i name text _ hasides
    cases h
    have hmem : Aside.literal text ∈ lineAsides line := by
      rw [hasides]
      exact List.mem_singleton_self _
    exact isLine_of_mem_lineAsides hmem
  · cases h

theorem isLine_of_mem_constantsOf {content : String} {constant : String × String}
    (h : constant ∈ constantsOf content) : Text.IsLine constant.2 := by
  obtain ⟨line, -, hline⟩ := List.mem_filterMap.1 h
  exact isLine_of_constantOf? hline

theorem lineNames_constantStrands {name : String} (hname : IsWord name) (text : String) :
    lineNames (Strand.renderAll (constantStrands name text)).toList = ["static", "const", name] := by
  have hopening : ∀ rest, lineNames ("  static const ".toList ++ rest) =
      ["static", "const"] ++ lineNames rest := by
    simp [lineNames, namesFrom, Mode.isOpen, Mode.next, Mode.afterCode, isNameChar]
  have hword : ∀ rest, lineNames (name.toList ++ ' ' :: rest) = name :: lineNames rest := by
    simp [lineNames, namesFrom_word_blank hname, hname.1]
  have hliteral : lineNames ("= \"".toList ++ (escapeChars text.toList ++ '"' :: [';'])) = [] := by
    have hinside := namesFrom_escapeChars (.inr rfl) text.toList [';']
    have hnothing : lineNames [';'] = [] := by decide
    simpa [lineNames, namesFrom, Mode.isOpen, Mode.next, Mode.afterCode, isNameChar, hnothing]
      using hinside
  have hline : (Strand.renderAll (constantStrands name text)).toList = "  static const ".toList ++
      (name.toList ++ ' ' :: ("= \"".toList ++ (escapeChars text.toList ++ '"' :: [';']))) := by
    rw [renderAll_constantStrands]
    simp [escape]
  rw [hline, hopening, hword, hliteral]
  rfl

theorem constantOf?_constantStrands {name text : String} (hname : IsWord name)
    (htext : Text.IsLine text) :
    constantOf? (Strand.renderAll (constantStrands name text)).toList = some (name, text) := by
  rw [constantOf?, lineNames_constantStrands hname,
    lineAsides_of_run ((run_constantStrands_iff hname).2 htext)]
  rfl

/-- The constants that the lines of a registry declare. -/
theorem filterMap_constantOf?_registryLines {feature : Feature}
    (h : ∀ text ∈ [Plan.registeredBase feature, feature.path], Text.IsLine text) :
    ((Plan.registryLines feature).map String.toList).filterMap constantOf? =
      registryConstants feature := by
  obtain ⟨hbase, hpath⟩ := List.forall_mem_cons.1 h
  have hbaseLine := constantOf?_constantStrands (by decide : IsWord "apiBaseUrl") hbase
  have hpathLine := constantOf?_constantStrands (endpointConstant_isWord feature)
    (List.forall_mem_singleton.1 hpath)
  have hfront : (["final class ApiList \x7b", "  ApiList._();", "", "  // --- Base URLs ---"].map
      String.toList).filterMap constantOf? = [] := by decide +kernel
  have hmiddle : (["", "  // --- Generated API Endpoints ---", "  // Generated endpoint"].map
      String.toList).filterMap constantOf? = [] := by decide +kernel
  have hbehind : (["  // Add your endpoints here", "\x7d"].map String.toList).filterMap
      constantOf? = [] := by decide +kernel
  rw [Plan.registryLines_eq, List.map_append, List.filterMap_append, hfront, List.nil_append,
    List.map_cons, List.filterMap_cons_some hbaseLine, List.map_append, List.filterMap_append, hmiddle,
    List.nil_append, List.map_cons, List.filterMap_cons_some hpathLine, hbehind, registryConstants]

theorem constantsOf_registry {feature : Feature}
    (h : ∀ text ∈ [Plan.registeredBase feature, feature.path], Text.IsLine text) :
    constantsOf (Text.ofLines (Plan.registryLines feature)) = registryConstants feature := by
  have hlines : ∀ line ∈ Plan.registryLines feature, Text.IsLine line :=
    isLine_registryLines (by simpa [registryConstants] using h)
  rw [constantsOf, Text.linesOf_ofLines hlines, List.filterMap_append,
    filterMap_constantOf?_registryLines h]
  rfl

/-- **The constants of a registry are declared** with their texts exactly if these hold no line
break. -/
theorem constantsOf_registry_iff (feature : Feature) :
    (constantsOf (Text.ofLines (Plan.registryLines feature))).map Prod.snd =
        [Plan.registeredBase feature, feature.path] ↔
      ∀ text ∈ [Plan.registeredBase feature, feature.path], Text.IsLine text := by
  constructor
  · intro hread
    rw [← hread, List.forall_mem_map]
    exact fun constant hconstant => isLine_of_mem_constantsOf hconstant
  · intro htexts
    rw [constantsOf_registry htexts]
    rfl

/-! ## Constants of a class -/

/-- Constants that one class can have: they are named in camel case, no name is a keyword, and no two
names are the same. -/
structure AreDeclarable (constants : List (String × String)) : Prop where
  names : ∀ constant ∈ constants, IsCamelName constant.1 ∧ constant.1 ∉ keywords
  distinct : (constants.map Prod.fst).Nodup

/-- A name denotes a text: one constant has the name, and it stands for the text. -/
def Denotes (constants : List (String × String)) (name text : String) : Prop :=
  (constants.filter fun constant => constant.1 = name) = [(name, text)]

/-- A name that a constant can have beside the base address. -/
def IsRegistrable (name : String) : Prop :=
  IsCamelName name ∧ name ∉ keywords ∧ name ≠ "apiBaseUrl"

instance (name : String) : Decidable (IsRegistrable name) :=
  inferInstanceAs (Decidable (_ ∧ _ ∧ _))

/-- **The constants of a registry** can be declared, and the name for the path denotes it, exactly if
this name can stand beside the base address. -/
theorem registryConstants_iff (feature : Feature) :
    AreDeclarable (registryConstants feature) ∧
        Denotes (registryConstants feature) feature.endpointConstant feature.path ↔
      IsRegistrable feature.endpointConstant := by
  have hbase : IsCamelName "apiBaseUrl" ∧ "apiBaseUrl" ∉ keywords := by decide +kernel
  constructor
  · rintro ⟨⟨hnames, hdistinct⟩, -⟩
    obtain ⟨hcamel, hkeyword⟩ := hnames (feature.endpointConstant, feature.path) (by
      simp [registryConstants])
    dsimp only at hcamel hkeyword
    refine ⟨hcamel, hkeyword, fun hsame => ?_⟩
    simp [registryConstants, hsame] at hdistinct
  · rintro ⟨hcamel, hkeyword, hne⟩
    refine ⟨⟨?_, ?_⟩, ?_⟩
    · simp only [registryConstants, List.forall_mem_cons]
      exact ⟨hbase, ⟨hcamel, hkeyword⟩, List.forall_mem_nil _⟩
    · simpa [registryConstants] using hne.symm
    · have hother : ¬ "apiBaseUrl" = feature.endpointConstant := hne.symm
      simp [Denotes, registryConstants, hother]

/-- **A registry** declares its texts exactly if they are lines, and it can be declared beside exactly
if the name for the path can stand there. -/
theorem registry_iff (feature : Feature) :
    let constants := constantsOf (Text.ofLines (Plan.registryLines feature))
    let texts := [Plan.registeredBase feature, feature.path]
    (constants.map Prod.snd = texts ↔ ∀ text ∈ texts, Text.IsLine text) ∧
      (constants.map Prod.snd = texts ∧ AreDeclarable constants ∧
          Denotes constants feature.endpointConstant feature.path ↔
        (∀ text ∈ texts, Text.IsLine text) ∧ IsRegistrable feature.endpointConstant) := by
  intro constants texts
  have hlines := constantsOf_registry_iff feature
  refine ⟨hlines, ?_⟩
  rw [hlines, and_congr_right_iff]
  intro htexts
  have hconstants : constants = registryConstants feature := constantsOf_registry htexts
  rw [hconstants]
  exact registryConstants_iff feature

end Dart

open Dart

/-! ## Registries -/

/-- **Every constant is a camel-case name**, and it can stand in a registry exactly if the words of the
path are neither a single keyword nor the words of the name `apiBaseUrl`. -/
theorem isRegistrable_endpointConstant_iff (path : String) :
    IsRegistrable (endpointConstant path) ↔
      (∀ keyword ∈ keywords, constantWords path ≠ [keyword]) ∧
        constantWords path ≠ ["api", "base", "url"] := by
  rw [IsRegistrable, and_iff_right (endpointConstant_isCamelName path), Ne, Ne,
    endpointConstant_eq_apiBaseUrl_iff, endpointConstant_mem_keywords_iff]
  push Not
  rfl

/-- **The registry of a path.** The constant of every path is a name in camel case; it is neither a
keyword nor the name of the base address exactly if the path has other words. For every endpoint with
the path and for every payload the plan is rendered. Its registry declares the base address and the
path exactly if they hold no line break; that it declares them, that the class can be declared and
that the reference of the data source denotes the path is so exactly if besides the constant is such a
name. -/
theorem registry_declares_iff (path : String) :
    (IsCamelName (endpointConstant path) ∧
      (IsRegistrable (endpointConstant path) ↔
        (∀ keyword ∈ keywords, constantWords path ≠ [keyword]) ∧
          constantWords path ≠ ["api", "base", "url"])) ∧
    ∀ (query : List Char) (method : HttpMethod) (known : Option String)
      (members : List (String × Json)) (wrapList : Bool) (timeout : Int),
      let feature := Feature.ofParts path.toList query method known
      let schema := Schema.infer feature.name .entity [] (.object members)
      ∃ planned files, planArtifacts schema feature wrapList timeout = .ok planned ∧
        Artifact.renderAll planned = .ok files ∧
        ∃ registry ∈ files, ∃ source ∈ files, registry.path = registryPath ∧
          source.path = dataSourcePath feature.name ∧
          registry.content = Text.ofLines (Plan.registryLines feature) ∧
          references source.content = [feature.endpointConstant] ∧
          let constants := constantsOf registry.content
          let texts := [Plan.registeredBase feature, feature.path]
          (constants.map Prod.snd = texts ↔ ∀ text ∈ texts, Text.IsLine text) ∧
            (constants.map Prod.snd = texts ∧ AreDeclarable constants ∧
                Denotes constants feature.endpointConstant feature.path ↔
              (∀ text ∈ texts, Text.IsLine text) ∧ IsRegistrable feature.endpointConstant) := by
  refine ⟨⟨endpointConstant_isCamelName path, isRegistrable_endpointConstant_iff path⟩, ?_⟩
  generalize path.toList = characters
  intro query method known members wrapList timeout feature schema
  have hnames : feature.IsNamed := Feature.isNamed_ofParts characters query method known
  have hword := hnames.isWord
  have hpascal := hnames.isClassName
  have hnamed : ∀ record ∈ schema.records, IsClassName record.name.logical :=
    fun _ hrecord => Schema.isClassName_of_mem_records hrecord
  obtain ⟨planned, hplanned⟩ : ∃ planned, planArtifacts schema feature wrapList timeout = .ok planned :=
    ⟨_, rfl⟩
  -- The files are rendered, and the registry and the data source are among them.
  obtain ⟨files, hrender, hfiles⟩ := exists_files hword hpascal hnamed hplanned
  obtain ⟨registry, hregistry, source, hsource, hplace, hsourcePlace, -, hdeclares, hrefers⟩ :=
    exists_registry hword hplanned hrender hfiles
  refine ⟨planned, files, hplanned, hrender, ?_⟩
  refine ⟨registry, hregistry, source, hsource, ?_⟩
  rw [renderTemplate_registry, Except.ok.injEq] at hdeclares
  refine ⟨hplace, hsourcePlace, hdeclares.symm, ?_, ?_⟩
  · exact references_rendered hword hpascal
      (hnamed _ (List.mem_append_right _ List.mem_cons_self)) hrefers
  · rw [← hdeclares]
    exact registry_iff feature

/-- The constants of these paths are a keyword and the name of the base address. -/
theorem classPath_not_isRegistrable :
    endpointConstant "/class" = "class" ∧ ¬ IsRegistrable (endpointConstant "/class") ∧
      endpointConstant "/api/api-base-url" = "apiBaseUrl" ∧
        ¬ IsRegistrable (endpointConstant "/api/api-base-url") := by
  have hkeyword : endpointConstant "/class" = "class" := by decide +kernel
  have hbase : endpointConstant "/api/api-base-url" = "apiBaseUrl" := by decide +kernel
  rw [hkeyword, hbase]
  exact ⟨rfl, by decide +kernel, rfl, by decide +kernel⟩

end DartLayers
