import DartLayers.Plan
import DartLayers.Proofs.Plan.Paths
import DartLayers.Proofs.Template.Shape
import DartLayers.Run.Preparation

/-!
# DartLayers — what the files of a plan depend on

A plan gives every template more than it reads. What it reads is listed here, and every template of
the library keeps to its list; so every file of every plan has a content, and files have the same
content if their contexts agree on the list.

* **`Template.reads`** — the members that a template reads.
* **`Artifact.Agrees`** — planned files that are rendered to the same content.
* **`planned_agrees`** — the files of a plan do not depend on the query.
* **`Payload.files`** — the files for a payload; there always are some.
-/

namespace DartLayers

/-! ## What templates read -/

/-- Members of which any value may be read. -/
def leaves (keys : List String) : List (String × Shape LeafKind) :=
  keys.map fun key => (key, .leaf .any)

namespace Template

/-- What a feature file reads of the feature and of its names. -/
def sharedShapes : List (String × Shape LeafKind) := [
  ("feature", .object (leaves ["name", "endpoint_path", "http_method"])),
  ("names", .object (leaves
    ["entity", "model", "repository", "data_source", "use_case", "params", "method"])),
  ("endpoint_constant", .leaf .any)]

/-- What a record file reads of a record. -/
def recordShape : Shape LeafKind :=
  .object [
    ("name", .leaf .any),
    ("base_name", .leaf .any),
    ("identifiers", .list (.leaf .any)),
    ("fields", .list (.object (leaves ["identifier", "dart_type", "decode"])))]

/-- What a core file reads, if it reads anything. -/
def coreShapes : List (String × Shape LeafKind) := [
  ("endpoint_constant", .leaf .any),
  ("base_url", .leaf .text),
  ("endpoint_path", .leaf .text),
  ("timeout", .leaf .any)]

/-- What the templates read of their contexts, by path; the ones that are not listed read nothing. -/
def readings : List (String × List (String × Shape LeafKind)) := [
  ("core/network/api_constants.dart.j2", coreShapes),
  ("core/network/dio_client.dart.j2", coreShapes),
  ("feature/domain/entity.dart.j2", sharedShapes ++ [("records", .list recordShape)]),
  ("feature/domain/repository.dart.j2", sharedShapes),
  ("feature/domain/use_case.dart.j2", sharedShapes),
  ("feature/domain/params.dart.j2", sharedShapes),
  ("feature/data/model.dart.j2", sharedShapes ++ [("records", .list recordShape)]),
  ("feature/data/remote_data_source.dart.j2", sharedShapes ++ [("wrap_list", .leaf .any)]),
  ("feature/data/repository_impl.dart.j2", sharedShapes)]

/-- What the template at a path reads. -/
def reads (path : String) : List (String × Shape LeafKind) :=
  (readings.lookup path).getD []

/-- **Every template keeps to what it is listed to read.** -/
theorem library_passes : ∀ entry ∈ library,
    Line.passesAll plainTest entry.2 (reads entry.1) = true := by
  decide +kernel

/-- The paths of the library are written as they are looked up. -/
theorem normalPath?_library : ∀ entry ∈ library, normalPath? entry.1 = some entry.1 := by
  decide +kernel

theorem library_nodup : (library.map Prod.fst).Nodup := by
  decide +kernel

/-- **Every template of the library is found** at its path. -/
theorem find?_of_mem {path : String} {template : List Line} (h : (path, template) ∈ library) :
    find? path = some template := by
  obtain ⟨front, back, hlibrary⟩ := List.append_of_mem h
  have hnodup := library_nodup
  rw [hlibrary, List.map_append, List.map_cons, List.nodup_append] at hnodup
  have hfront : ∀ entry ∈ front, (path != entry.1) = true := by
    intro entry hentry
    have hne := hnodup.2.2 entry.1 (List.mem_map_of_mem hentry) path List.mem_cons_self
    exact bne_iff_ne.2 (Ne.symm hne)
  rw [find?, normalPath?_library _ h, Option.bind_some]
  exact List.lookup_eq_some_iff.2 ⟨front, back, hlibrary, hfront⟩

theorem exists_mem_library {path : String} (h : path ∈ library.map Prod.fst) :
    ∃ template, (path, template) ∈ library := by
  obtain ⟨⟨_, template⟩, hmem, rfl⟩ := List.mem_map.1 h
  exact ⟨template, hmem⟩

end Template

/-! ## Files that agree -/

/-- Planned files at one place with one content. -/
def Artifact.Agrees (artifact other : Artifact) : Prop :=
  other.path = artifact.path ∧ other.layer = artifact.layer ∧
    ∃ content, artifact.render = .ok { artifact with content } ∧
      other.render = .ok { other with content }

section

variable {artifact other : Artifact}

/-- Contexts that agree on what a template reads make files that agree. -/
theorem Artifact.agrees_of_alike (hpath : other.path = artifact.path)
    (hlayer : other.layer = artifact.layer) (htemplate : other.template = artifact.template)
    (hlibrary : artifact.template ∈ Template.library.map Prod.fst)
    (h : Alike LeafKind.Holds (.object (Template.reads artifact.template))
      (.object artifact.context) (.object other.context)) : artifact.Agrees other := by
  obtain ⟨template, hmem⟩ := Template.exists_mem_library hlibrary
  obtain ⟨content, hcontent, hsame⟩ :=
    renderTemplate_alike (Template.find?_of_mem hmem) (Template.library_passes _ hmem) h
  refine ⟨hpath, hlayer, content, ?_, ?_⟩
  · rw [render, hcontent]
    rfl
  · rw [render, htemplate, hsame]
    rfl

end

/-! ## Contexts that agree -/

section

variable {value other : Json}

theorem alike_leaves {keys : List String}
    (h : ∀ key ∈ keys, ∃ found, value.member? key = some found ∧ other.member? key = some found) :
    Alike LeafKind.Holds (.object (leaves keys)) value other := by
  refine .of_forall fun member hmember => ?_
  obtain ⟨key, hkey, rfl⟩ := List.mem_map.1 hmember
  obtain ⟨found, hfound, hsame⟩ := h key hkey
  exact ⟨found, found, hfound, hsame, .leaf trivial⟩

end

namespace Plan

theorem alike_recordValue (record : Dart.RecordClass) :
    Alike LeafKind.Holds Template.recordShape (recordValue record) (recordValue record) := by
  refine .of_forall ?_
  simp only [List.forall_mem_cons, List.not_mem_nil, false_imp_iff, implies_true, and_true]
  refine ⟨⟨_, _, rfl, rfl, .leaf trivial⟩, ⟨_, _, rfl, rfl, .leaf trivial⟩,
    ⟨_, _, rfl, rfl, .map fun _ _ => .leaf trivial⟩,
    ⟨_, _, rfl, rfl, .map fun field _ => alike_leaves ?_⟩⟩
  simp only [List.forall_mem_cons, List.not_mem_nil, false_imp_iff, implies_true, and_true]
  exact ⟨⟨_, rfl, rfl⟩, ⟨_, rfl, rfl⟩, ⟨_, rfl, rfl⟩⟩

variable (feature : Feature) (query : String) (root : TypeName)

/-- The contexts of feature files agree whatever the query is, and whatever else is bound. -/
theorem alike_baseContext (more : List (String × Shape LeafKind)) {added : Context}
    (h : ∀ member ∈ more, ∃ found, (baseContext feature root ++ added).lookup member.1 = some found ∧
      (baseContext { feature with query } root ++ added).lookup member.1 = some found ∧
        Alike LeafKind.Holds member.2 found found) :
    Alike LeafKind.Holds (.object (Template.sharedShapes ++ more))
      (.object (baseContext feature root ++ added))
      (.object (baseContext { feature with query } root ++ added)) := by
  refine .of_forall ?_
  rw [List.forall_mem_append]
  constructor
  · simp only [Template.sharedShapes, List.forall_mem_cons, List.not_mem_nil, false_imp_iff,
      implies_true, and_true]
    refine ⟨⟨_, _, rfl, rfl, alike_leaves ?_⟩, ⟨_, _, rfl, rfl, alike_leaves ?_⟩,
      ⟨_, _, rfl, rfl, .leaf trivial⟩⟩
    · simp only [List.forall_mem_cons, List.not_mem_nil, false_imp_iff, implies_true, and_true]
      exact ⟨⟨_, rfl, rfl⟩, ⟨_, rfl, rfl⟩, ⟨_, rfl, rfl⟩⟩
    · simp only [List.forall_mem_cons, List.not_mem_nil, false_imp_iff, implies_true, and_true]
      exact ⟨⟨_, rfl, rfl⟩, ⟨_, rfl, rfl⟩, ⟨_, rfl, rfl⟩, ⟨_, rfl, rfl⟩, ⟨_, rfl, rfl⟩,
        ⟨_, rfl, rfl⟩, ⟨_, rfl, rfl⟩⟩
  · intro member hmember
    obtain ⟨found, hfound, hsame, halike⟩ := h member hmember
    exact ⟨found, found, hfound, hsame, halike⟩

theorem alike_coreContext (timeout : Int) :
    Alike LeafKind.Holds (.object Template.coreShapes)
      (.object (coreContext feature root timeout))
      (.object (coreContext { feature with query } root timeout)) := by
  refine .of_forall ?_
  simp only [Template.coreShapes, List.forall_mem_cons, List.not_mem_nil, false_imp_iff,
    implies_true, and_true]
  exact ⟨⟨_, _, rfl, rfl, .leaf trivial⟩, ⟨_, _, rfl, rfl, .leaf ⟨_, rfl⟩⟩,
    ⟨_, _, rfl, rfl, .leaf ⟨_, rfl⟩⟩, ⟨_, _, rfl, rfl, .leaf trivial⟩⟩

theorem reads_core {path : String} (h : path ∈ coreFiles.map Prod.fst) :
    Template.reads (path ++ ".j2") = Template.coreShapes ∨ Template.reads (path ++ ".j2") = [] := by
  simp only [coreFiles, List.map_cons, List.map_nil, List.mem_cons, List.not_mem_nil, or_false] at h
  rcases h with rfl | rfl | rfl | rfl | rfl | rfl | rfl | rfl
  · exact .inl rfl
  · exact .inl rfl
  all_goals exact .inr rfl

/-- The templates of a plan. -/
def templates : List String :=
  coreFiles.map (fun file => file.1 ++ ".j2") ++ [
    "feature/domain/entity.dart.j2", "feature/domain/repository.dart.j2",
    "feature/domain/use_case.dart.j2", "feature/domain/params.dart.j2",
    "feature/data/model.dart.j2", "feature/data/remote_data_source.dart.j2",
    "feature/data/repository_impl.dart.j2"]

theorem templates_subset : templates ⊆ Template.library.map Prod.fst := by
  decide +kernel

theorem coreArtifacts_agrees (timeout : Int) :
    List.Forall₂ Artifact.Agrees (coreArtifacts feature root timeout)
      (coreArtifacts { feature with query } root timeout) := by
  rw [coreArtifacts, coreArtifacts, List.forall₂_map_left_iff, List.forall₂_map_right_iff,
    List.forall₂_same]
  rintro ⟨path, layer⟩ hfile
  have htemplate : path ++ ".j2" ∈ templates :=
    List.mem_append_left _ (List.mem_map.2 ⟨(path, layer), hfile, rfl⟩)
  refine Artifact.agrees_of_alike rfl rfl rfl (templates_subset htemplate) ?_
  rcases reads_core (List.mem_map_of_mem (f := Prod.fst) hfile) with hreads | hreads
  · rw [hreads]
    exact alike_coreContext feature query root timeout
  · rw [hreads]
    exact .of_forall (by simp)

/-- A feature file agrees whatever the query is, if it agrees in what it reads of its own. -/
theorem agrees_of_reads {path template : String} {layer : Layer} {added : Context}
    {more : List (String × Shape LeafKind)} (htemplate : template ∈ templates)
    (hreads : Template.reads template = Template.sharedShapes ++ more)
    (h : ∀ member ∈ more, ∃ found, (baseContext feature root ++ added).lookup member.1 = some found ∧
      (baseContext { feature with query } root ++ added).lookup member.1 = some found ∧
        Alike LeafKind.Holds member.2 found found) :
    Artifact.Agrees
      { path, layer, template, context := baseContext feature root ++ added }
      { path, layer, template, context := baseContext { feature with query } root ++ added } := by
  refine Artifact.agrees_of_alike rfl rfl rfl (templates_subset htemplate) ?_
  rw [hreads]
  exact alike_baseContext feature query root more h

theorem alike_records (records : List Dart.RecordClass) :
    Alike LeafKind.Holds (.list Template.recordShape) (.array (records.map recordValue))
      (.array (records.map recordValue)) :=
  .map fun record _ => alike_recordValue record

theorem domainArtifacts_agrees (schema : Schema) :
    List.Forall₂ Artifact.Agrees (domainArtifacts feature schema (baseContext feature root))
      (domainArtifacts { feature with query } schema (baseContext { feature with query } root)) := by
  refine .cons ?_ (.cons ?_ (.cons ?_ (.cons ?_ .nil)))
  · refine agrees_of_reads feature query root (by simp [templates]) rfl ?_
    exact List.forall_mem_singleton.2 ⟨_, rfl, rfl, alike_records _⟩
  all_goals exact agrees_of_reads feature query root (by simp [templates]) rfl (by simp)

theorem dataArtifacts_agrees (schema : Schema) (wrapList : Bool) :
    List.Forall₂ Artifact.Agrees (dataArtifacts feature schema (baseContext feature root) wrapList)
      (dataArtifacts { feature with query } schema (baseContext { feature with query } root)
        wrapList) := by
  refine .cons ?_ (.cons ?_ (.cons ?_ .nil))
  · refine agrees_of_reads feature query root (by simp [templates]) rfl ?_
    exact List.forall_mem_singleton.2 ⟨_, rfl, rfl, alike_records _⟩
  · refine agrees_of_reads feature query root (by simp [templates]) rfl ?_
    exact List.forall_mem_singleton.2 ⟨_, rfl, rfl, .leaf trivial⟩
  · exact agrees_of_reads feature query root (by simp [templates]) rfl (by simp)

end Plan

/-! ## Plans -/

/-- **No file of a plan depends on the query** of the feature. -/
theorem planned_agrees {schema : Schema} {feature : Feature} {wrapList : Bool} {timeout : Int}
    {planned : List Artifact} (h : planArtifacts schema feature wrapList timeout = .ok planned)
    (query : String) :
    ∃ others, planArtifacts schema { feature with query } wrapList timeout = .ok others ∧
      List.Forall₂ Artifact.Agrees planned others := by
  cases schema with
  | record root fields =>
    cases h
    refine ⟨_, rfl, ?_⟩
    have hcore := Plan.coreArtifacts_agrees feature query root timeout
    have hdomain := Plan.domainArtifacts_agrees feature query root (.record root fields)
    have hdata := Plan.dataArtifacts_agrees feature query root (.record root fields) wrapList
    exact List.rel_append (List.rel_append hcore hdomain) hdata
  | scalar | list => cases h

/-- Every planned file has a content. -/
theorem planned_renders {schema : Schema} {feature : Feature} {wrapList : Bool} {timeout : Int}
    {planned : List Artifact} (h : planArtifacts schema feature wrapList timeout = .ok planned) :
    ∀ artifact ∈ planned, ∃ content, artifact.render = .ok { artifact with content } := by
  -- a feature has the query that it has
  obtain ⟨others, hothers, hagree⟩ := planned_agrees h feature.query
  rw [h, Except.ok.injEq] at hothers
  subst hothers
  intro artifact hartifact
  obtain ⟨-, -, content, hcontent, -⟩ := List.forall₂_same.1 hagree artifact hartifact
  exact ⟨content, hcontent⟩

/-- What holds of planned files one by one, beside other things, holds of the rendered plan. -/
theorem exists_renderAll {β : Type} {related : Artifact → β → Prop} {planned : List Artifact}
    {items : List β} (h : List.Forall₂ (fun artifact item => ∃ file, artifact.render = .ok file ∧
      related file item) planned items) :
    ∃ files, Artifact.renderAll planned = .ok files ∧ List.Forall₂ related files items := by
  induction h with
  | nil => exact ⟨[], rfl, .nil⟩
  | cons hfirst _ ih =>
    obtain ⟨file, hfile, hrelated⟩ := hfirst
    obtain ⟨files, hfiles, hrest⟩ := ih
    refine ⟨file :: files, ?_, .cons hrelated hrest⟩
    rw [Artifact.renderAll, hfile, hfiles]
    rfl

/-- Every plan can be rendered. -/
theorem exists_rendered {schema : Schema} {feature : Feature} {wrapList : Bool} {timeout : Int}
    {planned : List Artifact} (h : planArtifacts schema feature wrapList timeout = .ok planned) :
    ∃ files, Artifact.renderAll planned = .ok files := by
  have hrenders : List.Forall₂ (fun artifact _ => ∃ file, artifact.render = .ok file ∧ True)
      planned planned :=
    List.forall₂_same.2 fun artifact hartifact => by
      obtain ⟨content, hcontent⟩ := planned_renders h artifact hartifact
      exact ⟨_, hcontent, trivial⟩
  obtain ⟨files, hfiles, -⟩ := exists_renderAll hrenders
  exact ⟨files, hfiles⟩

/-- The same for two plans. -/
theorem exists_renderAll_both {related : Artifact → Artifact → Prop} {planned others : List Artifact}
    (h : List.Forall₂ (fun artifact other => ∃ file also, artifact.render = .ok file ∧
      other.render = .ok also ∧ related file also) planned others) :
    ∃ files behind, Artifact.renderAll planned = .ok files ∧ Artifact.renderAll others = .ok behind ∧
      List.Forall₂ related files behind := by
  have hfirst : List.Forall₂ (fun artifact other => ∃ file, artifact.render = .ok file ∧
      ∃ also, other.render = .ok also ∧ related file also) planned others :=
    h.imp fun _ _ ⟨file, also, hfile, halso⟩ => ⟨file, hfile, also, halso⟩
  obtain ⟨files, hfiles, hothers⟩ := exists_renderAll hfirst
  obtain ⟨behind, hbehind, hrelated⟩ := exists_renderAll hothers.flip
  exact ⟨files, behind, hfiles, hbehind, hrelated.flip⟩

end DartLayers
