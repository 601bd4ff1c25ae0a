import DartLayers.Proofs.Plan.Paths
import DartLayers.Proofs.Text.Cases
import DartLayers.Run.Preparation

/-!
# DartLayers — safe names and paths

Whatever characters an endpoint and a payload are made of, the names that a plan is built from keep
to the letters and digits of their spelling, and its files stay below `lib` in the output directory
without standing in each other's way.

* **`Schema.exists_name_of_mem_records`** — every record of a payload is named after its path.
* **`IsContained`**, **`Clashes`** — paths that stay below `lib`, and paths that collide.
* **`generated_safe`** — the names and the paths of every plan are safe.
-/

namespace DartLayers

/-! ## Records -/

namespace Schema

section

variable {feature : String} {layer : RecordLayer}

-- along the recursion of the inference: a list hands its path on, a member adds its key
mutual

/-- A record of an inferred schema is named after the path that leads to it. -/
theorem exists_name_of_mem_records : (path : List String) → (value : Json) →
    {record : RecordSchema} → record ∈ (infer feature layer path value).records →
    ∃ way, record.name = recordName feature way layer
  | _, .null, _, h | _, .bool _, _, h | _, .int _, _, h | _, .float _, _, h | _, .string _, _, h =>
    nomatch h
  | path, .array items, _, h => exists_name_of_mem_first path items h
  | path, .object members, _, h => by
    rw [infer, records, List.mem_append, List.mem_singleton] at h
    rcases h with hinner | rfl
    · exact exists_name_of_mem_members path members hinner
    · exact ⟨path, rfl⟩

theorem exists_name_of_mem_first : (path : List String) → (items : List Json) →
    {record : RecordSchema} → record ∈ (inferFirst feature layer path items).records →
    ∃ way, record.name = recordName feature way layer
  | _, [], _, h => nomatch h
  | path, first :: _, _, h => exists_name_of_mem_records path first h

theorem exists_name_of_mem_members : (path : List String) → (members : List (String × Json)) →
    {record : RecordSchema} → record ∈ fieldRecords (inferMembers feature layer path members) →
    ∃ way, record.name = recordName feature way layer
  | _, [], _, h => nomatch h
  | path, (key, value) :: rest, _, h => by
    rw [inferMembers, fieldRecords, List.mem_append] at h
    rcases h with hvalue | hrest
    · exact exists_name_of_mem_records (path ++ [key]) value hvalue
    · exact exists_name_of_mem_members path rest hrest

end

/-- The records of a payload are named in Pascal case. -/
theorem isClassName_of_mem_records {path : List String} {value : Json} {record : RecordSchema}
    (h : record ∈ (infer feature layer path value).records) : IsClassName record.name.logical := by
  obtain ⟨way, hway⟩ := exists_name_of_mem_records path value h
  rw [hway]
  exact recordIdentifier_isClassName feature way

end

end Schema

/-! ## Paths -/

/-- A written path that stays below `lib`: no component is empty, a dot or a double dot, and so the
path adds its own components to those of whatever directory it is put in. -/
structure IsContained (path : String) : Prop where
  below : ∃ file ≠ [], Text.splitOn '/' path.toList = "lib".toList :: file
  plain : ∀ component ∈ Text.splitOn '/' path.toList,
    component ≠ [] ∧ component ≠ ['.'] ∧ component ≠ ['.', '.']
  inside : ∀ directory : PathName, directory.join (PathName.ofString path) =
    ⟨directory.root, directory.parts ++ (Text.splitOn '/' path.toList).map String.ofList⟩

/-- Two paths collide: they are one path, or one of them is a directory on the way to the other. -/
def Clashes (path other : String) : Prop :=
  path = other ∨ (path ++ "/").toList <+: other.toList ∨ (other ++ "/").toList <+: path.toList

/-- Segments joined by slashes are cut at the slashes. -/
theorem splitOn_segments {parts : List String} (hne : parts ≠ [])
    (h : ∀ part ∈ parts, IsSegment part) :
    Text.splitOn '/' ("/".intercalate parts).toList = parts.map String.toList := by
  have htext : ("/".intercalate parts).toList = ['/'].intercalate (parts.map String.toList) :=
    String.toList_intercalate
  rw [htext]
  exact Text.splitOn_intercalate (by simpa using hne) (by simpa using fun part hpart => (h part hpart).2)

theorem isContained_intercalate {file : List String} (hne : file ≠ [])
    (h : ∀ part ∈ "lib" :: file, IsSegment part) : IsContained ("/".intercalate ("lib" :: file)) := by
  have hsplit := splitOn_segments (List.cons_ne_nil "lib" file) h
  refine ⟨⟨file.map String.toList, by simpa using hne, hsplit⟩, ?_, fun directory => ?_⟩
  · rw [hsplit, List.forall_mem_map]
    intro part hpart
    obtain ⟨⟨hslash, hdot, hdots⟩, -⟩ := h part hpart
    exact ⟨fun hnil => hslash (String.toList_eq_nil_iff.1 hnil),
      fun hone => hdot (String.toList_inj.1 hone), fun htwo => hdots (String.toList_inj.1 htwo)⟩
  · have hback : (("lib" :: file).map String.toList).map String.ofList = "lib" :: file := by
      rw [List.map_map]
      exact (List.map_congr_left fun part _ => String.ofList_toList).trans (List.map_id _)
    rw [hsplit, hback, ofString_intercalate (List.cons_ne_nil "lib" file) h]
    rfl

/-- Planned paths start with `lib`, and more follows. -/
theorem plannedParts_eq_lib {name : String} : ∀ parts ∈ plannedParts name,
    ∃ file ≠ [], parts = "lib" :: file := by
  intro parts hparts
  simp only [plannedParts, coreParts, featureParts, List.cons_append, List.nil_append,
    List.mem_cons, List.not_mem_nil, or_false] at hparts
  rcases hparts with rfl | rfl | rfl | rfl | rfl | rfl | rfl | rfl | rfl | rfl | rfl | rfl | rfl |
    rfl | rfl <;> exact ⟨_, List.cons_ne_nil _ _, rfl⟩

theorem planned_isContained {name : String} (h : IsWord name) :
    ∀ path ∈ plannedPaths name, IsContained path := by
  intro path hpath
  obtain ⟨parts, hparts, rfl⟩ := List.mem_map.1 hpath
  obtain ⟨file, hne, rfl⟩ := plannedParts_eq_lib parts hparts
  exact isContained_intercalate hne (plannedParts_isSegment h _ hparts).2

/-! ## Collisions -/

theorem splitOn_append_cons (separator : Char) (text rest : List Char) :
    Text.splitOn separator (text ++ separator :: rest) =
      Text.splitOn separator text ++ Text.splitOn separator rest := by
  induction text with
  | nil => simp [Text.splitOn]
  | cons c text ih =>
    have hne : Text.splitOn separator text ≠ [] := by
      rw [Text.splitOn_eq]
      exact List.splitOn_ne_nil _ _
    obtain ⟨piece, others, hpieces⟩ := List.exists_cons_of_ne_nil hne
    rw [List.cons_append, Text.splitOn, Text.splitOn, ih, hpieces]
    split <;> rfl

/-- A directory on the way to a path has fewer components. -/
theorem splitOn_prefix {path other : String} (h : (path ++ "/").toList <+: other.toList) :
    ∃ file ≠ [], Text.splitOn '/' other.toList = Text.splitOn '/' path.toList ++ file := by
  obtain ⟨rest, hrest⟩ := h
  refine ⟨Text.splitOn '/' rest, ?_, ?_⟩
  · rw [Text.splitOn_eq]
    exact List.splitOn_ne_nil _ _
  · rw [← splitOn_append_cons, ← hrest]
    simp

/-- A dot in a part marks a file. -/
def HasDot (part : String) : Prop :=
  '.' ∈ part.toList

instance (part : String) : Decidable (HasDot part) :=
  inferInstanceAs (Decidable (_ ∈ _))

/-- Of the parts of a planned path the last one alone has a dot. -/
theorem plannedParts_hasDot {name : String} (h : IsWord name) : ∀ parts ∈ plannedParts name,
    (∀ directory ∈ parts.dropLast, ¬ HasDot directory) ∧ ∀ file ∈ parts.getLast?, HasDot file := by
  have hname : ¬ HasDot name := fun hmem => absurd (h.2 '.' hmem) (by decide)
  have hcore : ∀ parts ∈ coreParts, (∀ directory ∈ parts.dropLast, ¬ HasDot directory) ∧
      ∀ file ∈ parts.getLast?, HasDot file := by decide
  have hdirectory : ∀ directory ∈ ["lib", "feature", "domain", "data", "entities", "repositories",
      "usecases", "models", "datasources"], ¬ HasDot directory := by decide
  have hfile : ∀ text suffix : String, HasDot suffix → HasDot (text ++ suffix) :=
    fun text suffix hsuffix => by simp [HasDot, show '.' ∈ suffix.toList from hsuffix]
  intro parts hparts
  rcases List.mem_append.1 hparts with hfixed | hown
  · exact hcore parts hfixed
  · simp only [List.forall_mem_cons, List.not_mem_nil, false_imp_iff, implies_true,
      and_true] at hdirectory
    simp only [featureParts, List.mem_cons, List.not_mem_nil, or_false] at hown
    rcases hown with rfl | rfl | rfl | rfl | rfl | rfl | rfl <;>
      refine ⟨by simp [hname, hdirectory], fun file hlast => ?_⟩ <;>
      cases hlast <;> exact hfile _ _ (by decide)

/-- No planned file stands where another one needs a directory. -/
theorem plannedParts_not_prefix {name : String} (h : IsWord name) {parts others : List String}
    (hparts : parts ∈ plannedParts name) (hothers : others ∈ plannedParts name) :
    ¬ (("/".intercalate parts) ++ "/").toList <+: ("/".intercalate others).toList := by
  intro hprefix
  obtain ⟨file, hne, hsplit⟩ := splitOn_prefix hprefix
  obtain ⟨hpartsNe, hsegments⟩ := plannedParts_isSegment h parts hparts
  obtain ⟨hothersNe, hotherSegments⟩ := plannedParts_isSegment h others hothers
  rw [splitOn_segments hpartsNe hsegments, splitOn_segments hothersNe hotherSegments] at hsplit
  -- the file at the end of the one path is a directory of the other
  have hlast : parts.getLast hpartsNe ∈ others.dropLast := by
    have hmem : (parts.getLast hpartsNe).toList ∈ (others.map String.toList).dropLast := by
      rw [hsplit, List.dropLast_append_of_ne_nil hne, List.mem_append]
      exact .inl (List.mem_map_of_mem (List.getLast_mem hpartsNe))
    rw [← List.map_dropLast, List.mem_map] at hmem
    obtain ⟨directory, hdirectory, hsame⟩ := hmem
    rwa [← String.toList_inj.1 hsame]
  have hdot : HasDot (parts.getLast hpartsNe) :=
    (plannedParts_hasDot h parts hparts).2 _ (List.getLast?_eq_some_getLast hpartsNe)
  exact (plannedParts_hasDot h others hothers).1 _ hlast hdot

/-- A planned file is not on the way to one of any plan. -/
theorem plannedParts_not_onWay {name other : String} (h : IsWord name) (hother : IsWord other)
    {parts others : List String} (hparts : parts ∈ plannedParts name)
    (hothers : others ∈ plannedParts other) : ¬ parts <+: others.dropLast := by
  intro hway
  obtain ⟨hne, -⟩ := plannedParts_isSegment h parts hparts
  have hdot : HasDot (parts.getLast hne) :=
    (plannedParts_hasDot h parts hparts).2 _ (List.getLast?_eq_some_getLast hne)
  exact (plannedParts_hasDot hother others hothers).1 _ (hway.subset (List.getLast_mem hne)) hdot

theorem planned_not_clashes {name : String} (h : IsWord name) :
    (plannedPaths name).Pairwise fun path other => ¬ Clashes path other := by
  rw [plannedPaths, List.pairwise_map]
  refine (plannedParts_pairwise name).imp_of_mem fun {parts others} hparts hothers hne => ?_
  rintro (hsame | hdirectory | hdirectory)
  · have hparts' := congrArg pathParts hsame
    rw [pathParts_planned h hparts, pathParts_planned h hothers] at hparts'
    exact hne hparts'
  · exact plannedParts_not_prefix h hparts hothers hdirectory
  · exact plannedParts_not_prefix h hothers hparts hdirectory

/-! ## The plan -/

/-- **The names and the paths of every plan are safe.** A feature is named in snake case, its
classes and the records in Pascal case, the root record after the feature; the fifteen files have
paths that stay below `lib` and do not collide. -/
theorem generated_safe {endpoint : String} {method : HttpMethod} {base : Option String}
    {feature : Feature} (h : Feature.ofEndpoint endpoint method base = .ok feature)
    (members : List (String × Json)) (layer : RecordLayer) (wrapList : Bool) (timeout : Int) :
    let schema := Schema.infer feature.name layer [] (.object members)
    IsSnakeName feature.name ∧ IsClassName feature.pascalName ∧
      (∀ record ∈ schema.records, IsClassName record.name.logical) ∧
      (∃ root fields, schema = .record root fields ∧
        root.logical = feature.pascalName ++ "Response") ∧
      ∃ planned, planArtifacts schema feature wrapList timeout = .ok planned ∧
        planned.length = 15 ∧
        (planned.map Artifact.path).Pairwise (fun path other => ¬ Clashes path other) ∧
        ∀ artifact ∈ planned, IsContained artifact.path := by
  intro schema
  have hnames := Feature.isNamed_of_ofEndpoint h
  obtain ⟨planned, hplanned⟩ : ∃ planned, planArtifacts schema feature wrapList timeout = .ok planned :=
    ⟨_, rfl⟩
  have hpaths := planArtifacts_paths hplanned
  refine ⟨hnames.isSnakeName, hnames.isClassName,
    fun _ hrecord => Schema.isClassName_of_mem_records hrecord,
    ⟨_, _, rfl, hnames.rootName_eq layer⟩, planned, hplanned, ?_, ?_, ?_⟩
  · have hlength := congrArg List.length hpaths
    simpa [plannedPaths, plannedParts, coreParts, featureParts] using hlength
  · rw [hpaths]
    exact planned_not_clashes hnames.isWord
  · intro artifact hartifact
    refine planned_isContained hnames.isWord _ ?_
    rw [← hpaths]
    exact List.mem_map_of_mem hartifact

/-- Keys without words, with a digit in front and in another script. -/
def strangeMembers : List (String × Json) := [
  ("", .object [("9", .object []), ("ключ", .array [.array [.object []]]), ("a-b C", .object [])])]

theorem strangeMembers_safe :
    let feature := Feature.ofParts "/API/9Lives-é..//x".toList [] .get none
    let schema := Schema.infer feature.name .entity [] (.object strangeMembers)
    Feature.ofEndpoint " /API/9Lives-é..//x?q " .get none = .ok { feature with query := "q" } ∧
      feature.name = "feature_9_lives" ∧ feature.pascalName = "Feature9Lives" ∧
      schema.records.map (·.name.logical) =
        ["Item9", "Item", "ABC", "Item", "Feature9LivesResponse"] ∧
      ∃ planned, planArtifacts schema { feature with query := "q" } true 30 = .ok planned ∧
        planned.length = 15 ∧
        (planned.map Artifact.path).Pairwise (fun path other => ¬ Clashes path other) ∧
        ∀ artifact ∈ planned, IsContained artifact.path := by
  intro feature schema
  have hfeature : Feature.ofEndpoint " /API/9Lives-é..//x?q " .get none =
      .ok { feature with query := "q" } := by decide +kernel
  obtain ⟨-, -, -, -, hplanned⟩ := generated_safe hfeature strangeMembers .entity true 30
  exact ⟨hfeature, by decide +kernel, by decide +kernel, by decide +kernel, hplanned⟩

end DartLayers
