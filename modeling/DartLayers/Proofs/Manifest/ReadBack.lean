import DartLayers.Proofs.Manifest.Extension
import DartLayers.Proofs.Schema.Documents
import DartLayers.Proofs.Yaml.Values

/-!
# DartLayers — what is read after an addition

An addition is made to the lines of a manifest, but what is read of it is a document. In a manifest in
block style the one is what the other promises: reading it again finds the dependencies that were there
and the new ones, and nothing is added a second time. A mapping in flow style below the header is no
block, and the lines that are put in front of it make a text that cannot be read.

* **`readDependencies_of_entriesAt`** — the dependencies of a text in block style.
* **`addDependencies_readBack`** — what is read after an addition.
-/

namespace DartLayers

open Yaml

/-! ## Reading -/

namespace Dependencies

/-- Dependencies that are the entries of a block. -/
structure Lists (dependencies : Dependencies) (inner : Block) : Prop where
  trees : dependencies.trees = inner.entries
  names : dependencies.entries.map Prod.fst = inner.keys.map fun key => .text (String.ofList key)

variable {dependencies : Dependencies} {inner : Block}

theorem Lists.contains_iff (h : dependencies.Lists inner) (name : String) :
    dependencies.contains name = true ↔ name.toList ∈ inner.keys := by
  have hcontains : dependencies.contains name = true ↔
      Scalar.text name ∈ dependencies.entries.map Prod.fst := by
    simp [contains]
  rw [hcontains, h.names, List.mem_map]
  constructor
  · rintro ⟨key, hkey, heq⟩
    cases heq
    rwa [String.toList_ofList]
  · intro hmem
    exact ⟨_, hmem, by rw [String.ofList_toList]⟩

theorem lists_nil : Lists {} .nil :=
  ⟨rfl, rfl⟩

end Dependencies

namespace Dependencies

section

variable {document : Yaml.Document} {place : Nat} {front inner rest : Block}

/-- Entries by their places in a document. -/
def listed (document : Yaml.Document) (pairs : List (Nat × Nat)) : List (Scalar × Nat) :=
  pairs.map fun (key, value) => (document.scalar key, value)

theorem map_fst_listed (h : document.graph.Holds place (front.nodes place)) :
    (listed document (front.pairs place)).map Prod.fst =
      front.keys.map fun key => .text (String.ofList key) := by
  rw [← Block.map_scalar_pairs h, listed, List.map_map]
  rfl

/-- What the entry of the key holds. -/
def ofEntry (document : Yaml.Document) : Option (Scalar × Nat) → Except ManifestFault Dependencies
  | none => .ok {}
  | some (_, place) =>
    if document.isNull place then .ok {}
    else match document.entries? place with
      | none => .error .dependenciesNotMapping
      | some entries => .ok { document := some document, entries }

/-- A key that no entry has is not found. -/
theorem find?_listed (h : document.graph.Holds place (front.nodes place)) {name : String}
    (hkey : name.toList ∉ front.keys) : (listed document (front.pairs place)).find?
      (fun (found, _) => decide (found = .text name)) = none := by
  rw [List.find?_eq_none]
  rintro ⟨found, value⟩ hmem hfound
  have hfst := List.mem_map_of_mem (f := Prod.fst) hmem
  rw [map_fst_listed h, List.mem_map] at hfst
  obtain ⟨key, hkeys, heq⟩ := hfst
  obtain rfl : found = .text name := by simpa using hfound
  cases heq
  rw [String.toList_ofList] at hkey
  exact hkey hkeys

/-- A key behind entries without it is found. -/
theorem find?_listed_append {other : Block}
    (h : document.graph.Holds place ((front.append other).nodes place)) {name : String}
    (hkey : name.toList ∉ front.keys) {pairs : List (Nat × Nat)}
    (hpairs : other.pairs (place + front.size) =
      (place + front.size, place + front.size + 1) :: pairs)
    (hnode : document.graph.node (place + front.size) = .scalar .text name.toList) :
    (listed document ((front.append other).pairs place)).find?
      (fun (found, _) => decide (found = .text name)) =
        some (.text name, place + front.size + 1) := by
  rw [Block.nodes_append, Graph.holds_append] at h
  have hscalar : document.scalar (place + front.size) = .text name := by
    rw [Document.scalar_of_text hnode, String.ofList_toList]
  rw [Block.pairs_append, listed, List.map_append, List.find?_append, ← listed,
    find?_listed h.1 hkey, hpairs, List.map_cons, Option.none_or, List.find?_cons_of_pos]
  · dsimp only
    rw [hscalar]
  · exact decide_eq_true hscalar

end

section

variable {text : BlockText} {front inner rest : Block} {head : Head} {depth : Nat}

theorem entries?_root (htext : text.IsWritten) :
    text.document.entries? 0 = some (listed text.document (text.block.pairs 1)) := by
  have hnode : text.document.graph.node 0 = .mapping .mapping (text.block.pairs 1) := rfl
  rw [Document.entries?, hnode]
  dsimp only
  rw [Block.entriesOf_pairs htext.1 (BlockText.holds_graph text), listed]

/-- What a document holds is decided by the entry of the key. -/
theorem ofDocument_eq (htext : text.IsWritten) : ofDocument text.document =
    ofEntry text.document ((listed text.document (text.block.pairs 1)).find? fun (found, _) =>
      decide (found = .text key)) := by
  have hroot : text.document.isNull text.document.root = false := rfl
  have hentries : text.document.entries? text.document.root = _ := entries?_root htext
  rw [ofDocument, hroot, if_neg Bool.false_ne_true, hentries]
  rfl

theorem ofDocument_nowhere (htext : text.IsWritten) (hkey : key.toList ∉ text.block.keys) :
    ofDocument text.document = .ok {} := by
  rw [ofDocument_eq htext, find?_listed (BlockText.holds_graph text) hkey, ofEntry]

theorem ofDocument_line {value : Option (Nat × Leaf)} (htext : text.IsWritten)
    (hblock : text.block = front.append (.flat head value rest)) (hfront : key.toList ∉ front.keys)
    (hkey : head.key = key.toList) : ofDocument text.document =
      if (Block.valueNode value).tag = .null then .ok {} else .error .dependenciesNotMapping := by
  have hholds : text.document.graph.Holds 1 (text.block.nodes 1) := BlockText.holds_graph text
  rw [hblock] at hholds
  have hother := hholds
  rw [Block.nodes_append, Graph.holds_append, Block.length_nodes] at hother
  obtain ⟨hnode, hvalue, -⟩ := Block.holds_flat hother.2
  rw [hkey] at hnode
  rw [ofDocument_eq htext, hblock, find?_listed_append hholds hfront rfl hnode, ofEntry]
  rw [Document.isNull, hvalue, Document.entries?, hvalue]
  by_cases htag : (Block.valueNode value).tag = .null
  · rw [if_pos htag, htag]
    rfl
  · rw [if_neg htag, if_neg (by simpa using htag)]
    cases value <;> rfl

theorem ofDocument_above (htext : text.IsWritten)
    (hblock : text.block = front.append (.nested head depth inner rest))
    (hfront : key.toList ∉ front.keys) (hkey : head.key = key.toList) :
    ∃ dependencies, ofDocument text.document = .ok dependencies ∧ dependencies.Lists inner := by
  have hwritten := htext.1
  rw [hblock, Block.isWritten_append_nested] at hwritten
  have hinner := hwritten.2.2
  have hholds : text.document.graph.Holds 1 (text.block.nodes 1) := BlockText.holds_graph text
  rw [hblock] at hholds
  have hother := hholds
  rw [Block.nodes_append, Graph.holds_append, Block.length_nodes] at hother
  obtain ⟨hnode, hvalue, hinside, -⟩ := Block.holds_nested hother.2
  rw [hkey] at hnode
  -- The node of the key is followed by the mapping, and that by the nodes of its entries.
  have hentries : text.document.entries? (1 + front.size + 1) =
      some (listed text.document (inner.pairs (1 + front.size + 2))) := by
    rw [Document.entries?, hvalue]
    dsimp only
    rw [Block.entriesOf_pairs hinner hinside, listed]
  rw [ofDocument_eq htext, hblock, find?_listed_append hholds hfront rfl hnode, ofEntry]
  have hnull : text.document.isNull (1 + front.size + 1) = false := by
    rw [Document.isNull, hvalue]
    rfl
  rw [hnull, if_neg Bool.false_ne_true, hentries]
  have hsize : text.document.graph.size = text.block.size + 1 := by
    simp [BlockText.document, BlockText.graph, Block.length_nodes]
  have hbound : inner.size < text.document.graph.size + 1 := by
    rw [hsize, hblock, Block.size_append, Block.size]
    omega
  refine ⟨_, rfl, ?_, map_fst_listed hinside⟩
  rw [← Block.map_tree hinner hinside hbound]
  exact List.map_map

theorem readDependencies_eq (htext : text.IsWritten) :
    readDependencies (String.ofList text.chars) =
      (ofDocument text.document).mapError ManifestTrouble.fault := by
  rw [readDependencies, BlockText.readDocument_chars htext]
  by_cases hnil : text.block = .nil
  · have hkey : key.toList ∉ text.block.keys := by
      rw [hnil]
      exact List.not_mem_nil
    rw [if_pos hnil, ofDocument_nowhere htext hkey]
    rfl
  · rw [if_neg hnil]
    cases hread : ofDocument text.document <;> simp only [hread] <;> rfl

/-- **The dependencies of a text in block style** are the entries under the key. -/
theorem readDependencies_of_entriesAt (htext : text.IsWritten)
    (hat : text.block.EntriesAt key.toList inner) :
    ∃ dependencies, readDependencies (String.ofList text.chars) = .ok dependencies ∧
      dependencies.Lists inner := by
  rw [readDependencies_eq htext]
  generalize hblock : text.block = block at hat
  cases hat with
  | nowhere hkeys =>
    rw [ofDocument_nowhere htext (by rwa [hblock])]
    exact ⟨{}, rfl, lists_nil⟩
  | line front hkeys hkey hvalue =>
    rw [ofDocument_line htext hblock hkeys hkey, if_pos hvalue]
    exact ⟨{}, rfl, lists_nil⟩
  | above front hkeys hkey =>
    obtain ⟨dependencies, hread, hlists⟩ := ofDocument_above htext hblock hkeys hkey
    rw [hread]
    exact ⟨dependencies, rfl, hlists⟩

/-- Dependencies that are read are the entries under the key. -/
theorem exists_entriesAt (htext : text.IsWritten) {dependencies : Dependencies}
    (h : readDependencies (String.ofList text.chars) = .ok dependencies) :
    ∃ inner, text.block.EntriesAt key.toList inner ∧ dependencies.Lists inner := by
  rw [readDependencies_eq htext] at h
  have hplace := text.block.keyPlace key.toList
  generalize hblock : text.block = block at hplace
  cases hplace with
  | nowhere hkeys =>
    rw [ofDocument_nowhere htext (by rwa [hblock])] at h
    cases h
    exact ⟨.nil, .nowhere hkeys, lists_nil⟩
  | line front hkeys hkey =>
    rw [ofDocument_line htext hblock hkeys hkey] at h
    split at h
    · rename_i hvalue
      cases h
      exact ⟨.nil, .line front hkeys hkey hvalue, lists_nil⟩
    · cases h
  | above front hkeys hkey =>
    obtain ⟨found, hread, hlists⟩ := ofDocument_above htext hblock hkeys hkey
    rw [hread] at h
    cases h
    exact ⟨_, .above front hkeys hkey, hlists⟩

end

end Dependencies

/-! ## Adding -/

section

variable {text : String} {required : List (String × String)} {existing : Dependencies}

/-- What an addition comes to, by what was read. -/
theorem addDependencies_eq (hread : readDependencies text = .ok existing) :
    addDependencies text required =
      let missing := (collectMembers required).filter fun (name, _) => !existing.contains name
      if missing.isEmpty then .ok (text, [])
      else match Manifest.extend text.toList existing.entries.isEmpty missing with
        | .error fault => .error (.fault fault)
        | .ok extended => .ok (String.ofList extended, missing.map Prod.fst) := by
  rw [addDependencies, hread]
  rfl

/-- The missing dependencies can be added to those that were read. -/
theorem isAddition_missing {inner : Block} (hrequired : ∀ entry ∈ required, Block.IsEntryText entry)
    (hlists : existing.Lists inner) {missing : List (String × String)}
    (hmissing : missing = (collectMembers required).filter fun (name, _) => !existing.contains name)
    (hne : missing ≠ []) : Manifest.IsAddition missing inner := by
  subst hmissing
  refine ⟨hne, fun entry hentry => ?_, ?_, fun entry hentry hmem => ?_⟩
  · exact hrequired entry (Manifest.mem_of_mem_collectMembers (List.mem_of_mem_filter hentry))
  · exact (nodup_collectMembers required).sublist (List.filter_sublist.map Prod.fst)
  · have hnew := (List.mem_filter.1 hentry).2
    dsimp only at hnew
    rw [(hlists.contains_iff entry.1).2 hmem] at hnew
    cases hnew

/-- With the missing dependencies none is missing. -/
theorem filter_contains_eq_nil {inner : Block} (hlists : existing.Lists inner)
    {missing : List (String × String)}
    (hmissing : missing = (collectMembers required).filter fun (name, _) => !existing.contains name)
    {after : Dependencies} (hafter : after.Lists (.ofTexts missing inner)) :
    (collectMembers required).filter (fun (name, _) => !after.contains name) = [] := by
  rw [List.filter_eq_nil_iff]
  intro entry hentry
  have hcontains : after.contains entry.1 = true := by
    rw [hafter.contains_iff, Block.keys_ofTexts, List.mem_append]
    by_cases hfound : existing.contains entry.1 = true
    · exact .inr ((hlists.contains_iff entry.1).1 hfound)
    · have hmem : entry ∈ missing := by
        rw [hmissing, List.mem_filter]
        exact ⟨hentry, by simpa using hfound⟩
      exact .inl (List.mem_map_of_mem hmem)
  simp [hcontains]

end

/-- **What is read after an addition.** In a manifest in block style the missing dependencies are put
in front of those that were there, whose values stay; and nothing is added a second time. -/
theorem addDependencies_readBack {source : BlockText} (hsource : source.IsWritten)
    {required : List (String × String)} (hrequired : ∀ entry ∈ required, Block.IsEntryText entry)
    {extended : String} {added : List String}
    (h : addDependencies (String.ofList source.chars) required = .ok (extended, added)) :
    ∃ before after, readDependencies (String.ofList source.chars) = .ok before ∧
      readDependencies extended = .ok after ∧
      let missing := (collectMembers required).filter fun (name, _) => !before.contains name
      added = missing.map Prod.fst ∧
        after.trees = (missing.map fun (name, version) => (.text name, .scalar (.text version))) ++
          before.trees ∧
        addDependencies extended required = .ok (extended, []) := by
  obtain ⟨before, hbefore, -⟩ := exists_ok_of_bind h
  have hadd := h
  rw [addDependencies_eq hbefore] at hadd
  dsimp only at hadd ⊢
  generalize hmissing : (collectMembers required).filter (fun (name, _) => !before.contains name) =
    missing at hadd
  split at hadd
  · -- Nothing is missing, so the text stays and the second addition is the first one.
    rename_i hempty
    cases hadd
    rw [List.isEmpty_iff] at hempty
    refine ⟨before, before, hbefore, hbefore, ?_⟩
    rw [hmissing, hempty]
    exact ⟨rfl, rfl, h⟩
  · rename_i hsome
    split at hadd
    · cases hadd
    · rename_i chars hextend
      cases hadd
      -- The missing entries are put in front of the inner block that holds the dependencies.
      obtain ⟨inner, hat, hlists⟩ := Dependencies.exists_entriesAt hsource hbefore
      have haddition := isAddition_missing hrequired hlists hmissing.symm (by simpa using hsome)
      rw [String.toList_ofList] at hextend
      obtain ⟨target, htarget, rfl, hresult⟩ :=
        Manifest.extend_entriesAt hsource hat haddition hextend
      obtain ⟨after, hafter, hlisted⟩ := Dependencies.readDependencies_of_entriesAt htarget hresult
      refine ⟨before, after, hbefore, hafter, ?_⟩
      rw [hmissing]
      refine ⟨rfl, ?_, ?_⟩
      · rw [hlisted.trees, Block.entries_ofTexts haddition.texts, hlists.trees]
      · -- Now every required name is listed, so none is missing.
        rw [addDependencies_eq hafter, filter_contains_eq_nil hlists hmissing.symm hlisted]
        rfl

/-- A manifest with a comment behind the header, a blank line, and one of the dependencies that every
project gets. -/
def blockManifest : BlockText where
  block :=
    .flat { key := "name".toList } (some (0, .plain "shop".toList []))
      (.nested { lead := [{}], key := "dependencies".toList,
                 tail := { width := 1, comment := some " all of them".toList } } 1
        (.nested { key := "flutter".toList } 1
          (.flat { key := "sdk".toList } (some (0, .plain "flutter".toList [])) .nil)
          (.flat { lead := [{ width := 2, comment := some " pinned".toList }], key := "dio".toList }
            (some (0, .quoted '"' "5.0.0".toList)) .nil))
        .nil)
  closing := [{}]

/-- What it is extended to. -/
def extendedManifest : String :=
  "name: shop\n\ndependencies: # all of them\n  dartz: ^0.10.1\n  equatable: ^2.0.5\n  get: ^4.6.6\n" ++
    "  connectivity_plus: ^4.0.2\n  flutter:\n    sdk: flutter\n  # pinned\n  dio: \"5.0.0\"\n"

theorem blockManifest_readBack :
    let added := ["dartz", "equatable", "get", "connectivity_plus"]
    String.ofList blockManifest.chars = "name: shop\n\ndependencies: # all of them\n" ++
      "  flutter:\n    sdk: flutter\n  # pinned\n  dio: \"5.0.0\"\n" ∧
    addDependencies (String.ofList blockManifest.chars) defaultDependencies =
      .ok (extendedManifest, added) ∧
    ∃ before after, readDependencies (String.ofList blockManifest.chars) = .ok before ∧
      readDependencies extendedManifest = .ok after ∧
      let missing := (collectMembers defaultDependencies).filter fun (name, _) => !before.contains name
      added = missing.map Prod.fst ∧
        after.trees = (missing.map fun (name, version) => (.text name, .scalar (.text version))) ++
          before.trees ∧
        addDependencies extendedManifest defaultDependencies = .ok (extendedManifest, []) := by
  intro added
  have hwritten : blockManifest.IsWritten := by decide +kernel
  have hrequired : ∀ entry ∈ defaultDependencies, Block.IsEntryText entry := by decide +kernel
  have hadd : addDependencies (String.ofList blockManifest.chars) defaultDependencies =
      .ok (extendedManifest, added) := by
    decide +kernel
  exact ⟨by decide +kernel, hadd, addDependencies_readBack hwritten hrequired hadd⟩

/-- A mapping in flow style on the line below the header. -/
def flowManifest : String :=
  "dependencies:\n  \x7bflutter: any\x7d\n"

/-- **A mapping in flow style that is not on the line of the header is extended**, and what comes of it
cannot be read. -/
theorem flowManifest_not_readBack :
    let extended := "dependencies:\n  dio: ^5.3.2\n  dartz: ^0.10.1\n  equatable: ^2.0.5\n" ++
      "  get: ^4.6.6\n  connectivity_plus: ^4.0.2\n  \x7bflutter: any\x7d\n"
    addDependencies flowManifest defaultDependencies =
        .ok (extended, ["dio", "dartz", "equatable", "get", "connectivity_plus"]) ∧
      readDependencies extended = .error (.fault .invalidYaml) := by
  intro extended
  have hread : (readDependencies extended).map (fun _ => ()) = .error (.fault .invalidYaml) := by
    decide +kernel
  refine ⟨by decide +kernel, ?_⟩
  cases hcases : readDependencies extended with
  | error trouble =>
    rw [hcases] at hread
    cases hread
    rfl
  | ok dependencies =>
    rw [hcases] at hread
    cases hread

end DartLayers
