import DartLayers.Manifest.Update
import DartLayers.Proofs.Merge.Again
import DartLayers.Proofs.Steps
import DartLayers.Proofs.Template.Lines

/-!
# DartLayers — what an update inserts

A manifest is extended by one block of lines, put between two parts of its text; nothing else of the
text changes. The text is not what the file holds, though: it was read with universal line breaks, and
what is written back has line feeds only. An update therefore keeps the bytes around its block exactly
if they have no carriage return. The manifest is written as a whole or not at all.

* **`Manifest.Extends`** — the two ways in which a text is extended.
* **`Manifest.IsBlock`** — what is inserted for some names.
* **`addDependencies_inserts`** — a text is extended by one block.
* **`Registers`**, **`updateManifest_cases`** — what an update comes to.
* **`manifestUpdate_inserts_iff`** — the bytes of the file are extended by one block exactly if they
  have no carriage return.
-/

namespace DartLayers

namespace Manifest

/-! ## The text -/

/-- How a text is extended by entries: under its first header line, or, if it has none, at its end. -/
inductive Extends (text : List Char) (entries : List (String × String)) : List Char → Prop where
  | under (before : List (List Char)) (header : List Char) (after : List (List Char))
      (hlines : Text.splitLines text = before ++ header :: after)
      (hbefore : ∀ line ∈ before, isHeader line = false) (hheader : isHeader header = true) :
      Extends text entries (insertUnder before header after entries)
  | atEnd (hnone : ∀ line ∈ Text.splitLines text, isHeader line = false)
      (hstart : startsHeader text = false) :
      Extends text entries (append text entries)

theorem extends_of_extend {text extended : List Char} {isEmpty : Bool}
    {entries : List (String × String)} (h : extend text isEmpty entries = .ok extended) :
    Extends text entries extended := by
  have hbefore : ∀ line ∈ (Text.splitLines text).takeWhile fun line => !isHeader line,
      isHeader line = false := fun line hline => by
    simpa using List.mem_takeWhile_imp hline
  have hsplit := List.takeWhile_append_dropWhile (p := fun line => !isHeader line)
    (l := Text.splitLines text)
  rw [extend] at h
  split at h
  · rename_i header after hrest
    cases h
    rw [hrest] at hsplit
    have hheader := List.head?_dropWhile_not (fun line => !isHeader line) (Text.splitLines text)
    rw [hrest] at hheader
    exact .under _ header after hsplit.symm hbefore (by simpa using hheader)
  · rename_i hrest
    rw [hrest, List.append_nil] at hsplit
    split at h
    · cases h
    · rename_i hblock
      cases h
      rw [Bool.or_eq_true, not_or, Bool.not_eq_true, Bool.not_eq_true] at hblock
      exact .atEnd (hsplit ▸ hbefore) hblock.2

/-- The line of a dependency that is added: its name and a version that is required for it, behind
spaces and tabs. -/
def IsEntry (required : List (String × String)) (name line : String) : Prop :=
  Text.IsLine line ∧ ∃ indent version : String, (name, version) ∈ required ∧
    (∀ c ∈ indent.toList, isIndent c = true) ∧ line = indent ++ name ++ ": " ++ version

/-- What is inserted for some names: a line feed or nothing, a header or none, and one line for each
name. -/
def IsBlock (required : List (String × String)) (names : List String) (block : String) : Prop :=
  ∃ (feed : String) (headers lines : List String), (feed = "" ∨ feed = "\n") ∧
    (headers = [] ∨ headers = ["dependencies:"]) ∧ List.Forall₂ (IsEntry required) names lines ∧
      block = feed ++ Text.ofLines (headers ++ lines)

theorem isIndent_defaultIndent : ∀ c ∈ defaultIndent, isIndent c = true := by
  simp [defaultIndent, isIndent]

theorem isIndent_childIndent (lines : List (List Char)) :
    ∀ c ∈ childIndent lines, isIndent c = true := by
  rw [childIndent]
  split
  · exact isIndent_defaultIndent
  · rename_i line _
    split
    · exact isIndent_defaultIndent
    · rename_i hindent
      intro c hc
      exact List.mem_takeWhile_imp hc

theorem missingFeed_cases (text : List Char) :
    String.ofList (missingFeed text) = "" ∨ String.ofList (missingFeed text) = "\n" := by
  rw [missingFeed]
  split
  · exact .inl rfl
  · exact .inr rfl

section

variable {required entries : List (String × String)}
  (hlines : ∀ entry ∈ required, Text.IsLine entry.1 ∧ Text.IsLine entry.2)
  (hentries : ∀ entry ∈ entries, entry ∈ required)

include hlines hentries

/-- The entries are one line each. -/
theorem entryLines_eq_ofLines {indent : List Char} (hindent : ∀ c ∈ indent, isIndent c = true) :
    ∃ lines, List.Forall₂ (IsEntry required) (entries.map Prod.fst) lines ∧
      entryLines indent entries = (Text.ofLines lines).toList := by
  induction entries with
  | nil => exact ⟨[], .nil, by simp [entryLines, Text.ofLines]⟩
  | cons entry rest ih =>
    obtain ⟨name, version⟩ := entry
    obtain ⟨hentry, hrest⟩ := List.forall_mem_cons.1 hentries
    obtain ⟨hname, hversion⟩ := hlines _ hentry
    obtain ⟨lines, hall, heq⟩ := ih hrest
    have hblank : Text.IsLine (String.ofList indent) := by
      intro c hc
      rw [String.toList_ofList] at hc
      have hc := hindent c hc
      rw [isIndent, Bool.or_eq_true, beq_iff_eq, beq_iff_eq] at hc
      rcases hc with rfl | rfl <;> decide
    have hline : Text.IsLine (String.ofList indent ++ name ++ ": " ++ version) := by
      simp only [Text.isLine_append]
      exact ⟨⟨⟨hblank, hname⟩, by decide⟩, hversion⟩
    refine ⟨_ :: lines, .cons ⟨hline, _, version, hentry, by simpa using hindent, rfl⟩ hall, ?_⟩
    rw [entryLines, List.flatMap_cons, ← entryLines, heq]
    simp [entryLine, Text.ofLines]

/-- **A text is extended by one block** between two parts of it. -/
theorem exists_block_of_extends {text : String} {extended : List Char}
    (h : Extends text.toList entries extended) :
    ∃ front block back, IsBlock required (entries.map Prod.fst) block ∧ text = front ++ back ∧
      String.ofList extended = front ++ block ++ back := by
  cases h with
  | under before header after hsplit _ _ =>
    obtain ⟨lines, hall, heq⟩ :=
      entryLines_eq_ofLines hlines hentries (isIndent_childIndent after)
    have htext := Text.flatten_splitLines text.toList
    rw [hsplit, List.flatten_append, List.flatten_cons] at htext
    refine ⟨String.ofList (before.flatten ++ header), _, String.ofList after.flatten,
      ⟨_, [], lines, missingFeed_cases header, .inl rfl, hall, rfl⟩, ?_, ?_⟩
    · simp [← String.toList_inj, htext]
    · simp [← String.toList_inj, insertUnder, heq]
  | atEnd _ _ =>
    obtain ⟨lines, hall, heq⟩ := entryLines_eq_ofLines hlines hentries isIndent_defaultIndent
    obtain ⟨feed, hfeed, hadded⟩ : ∃ feed : String, (feed = "" ∨ feed = "\n") ∧
        (if text.toList.isEmpty then [] else missingFeed text.toList) = feed.toList := by
      split
      · exact ⟨"", .inl rfl, rfl⟩
      · exact ⟨_, missingFeed_cases text.toList, String.toList_ofList.symm⟩
    refine ⟨text, _, "", ⟨feed, ["dependencies:"], lines, hfeed, .inr rfl, hall, rfl⟩,
      String.append_empty.symm, ?_⟩
    have hheader : header = "dependencies:".toList := rfl
    rw [append, hadded, heq, hheader]
    simp [← String.toList_inj, Text.ofLines]

end

/-- An entry that is kept by collecting was there before. -/
theorem mem_of_mem_collectMembers {required : List (String × String)} {entry : String × String}
    (h : entry ∈ collectMembers required) : entry ∈ required := by
  have hinsert : ∀ (key value : String) (members : List (String × String)),
      entry ∈ insertMember key value members → entry = (key, value) ∨ entry ∈ members := by
    intro key value members
    induction members with
    | nil => simp [insertMember]
    | cons member rest ih =>
      obtain ⟨name, version⟩ := member
      rw [insertMember]
      split
      · rename_i hname
        subst hname
        rw [List.mem_cons, List.mem_cons]
        exact Or.imp_right .inr
      · rw [List.mem_cons, List.mem_cons]
        rintro (rfl | hmem)
        · exact .inr (.inl rfl)
        · exact (ih hmem).imp_right .inr
  induction required using List.reverseRecOn with
  | nil => cases h
  | append_singleton pairs pair ih =>
    rw [collectMembers, List.foldl_append] at h
    rcases hinsert _ _ _ h with rfl | hmem
    · simp
    · exact List.mem_append_left _ (ih hmem)

end Manifest

/-- **What an addition can come to**: nothing is missing and the text stays, or the text is extended by
the entries that are missing. -/
theorem addDependencies_cases {text extended : String} {required : List (String × String)}
    {added : List String} (h : addDependencies text required = .ok (extended, added)) :
    ∃ existing, readDependencies text = .ok existing ∧
      let missing := (collectMembers required).filter fun (name, _) => !existing.contains name
      added = missing.map Prod.fst ∧ (missing = [] ∧ extended = text ∨
        missing ≠ [] ∧ Manifest.Extends text.toList missing extended.toList) := by
  obtain ⟨existing, hread, h⟩ := exists_ok_of_bind h
  refine ⟨existing, hread, ?_⟩
  dsimp only at h ⊢
  generalize (collectMembers required).filter (fun (name, _) => !existing.contains name) = missing at h ⊢
  split at h
  · rename_i hempty
    cases h
    rw [List.isEmpty_iff] at hempty
    exact ⟨by rw [hempty]; rfl, .inl ⟨hempty, rfl⟩⟩
  · rename_i hsome
    split at h
    · cases h
    · rename_i lines hextend
      cases h
      rw [String.toList_ofList]
      exact ⟨rfl, .inr ⟨by simpa using hsome, Manifest.extends_of_extend hextend⟩⟩

/-- **A manifest is extended by one block** between two parts of its text, if something is added. -/
theorem addDependencies_inserts {text extended : String} {required : List (String × String)}
    (hlines : ∀ entry ∈ required, Text.IsLine entry.1 ∧ Text.IsLine entry.2) {added : List String}
    (h : addDependencies text required = .ok (extended, added)) (hadded : added ≠ []) :
    ∃ front block back, Manifest.IsBlock required added block ∧ text = front ++ back ∧
      extended = front ++ block ++ back := by
  obtain ⟨existing, -, hnames, ⟨hnone, -⟩ | ⟨-, hextends⟩⟩ := addDependencies_cases h
  · rw [hnone] at hnames
    exact absurd hnames hadded
  · have hblock := Manifest.exists_block_of_extends hlines (fun entry hentry =>
      Manifest.mem_of_mem_collectMembers (List.mem_of_mem_filter hentry)) hextends
    rwa [String.ofList_toList, ← hnames] at hblock

/-! ## The bytes -/

/-- A carriage return is one byte, and this byte is in no other character. -/
theorem mem_utf8EncodeChar_iff {c : Char} : (13 : UInt8) ∈ String.utf8EncodeChar c ↔ c = '\r' := by
  constructor
  · intro h
    have hreturn : '\r'.val.toNat = 13 := rfl
    have hbyte : (13 : UInt8).toNat = 13 := rfl
    refine Char.ext (UInt32.toNat_inj.1 (Eq.trans ?_ hreturn.symm))
    rw [String.utf8EncodeChar] at h
    -- in a longer sequence the high bit of every byte is set
    split_ifs at h <;>
      simp only [List.mem_cons, List.not_mem_nil, or_false, ← UInt8.toNat_inj, UInt8.toNat_ofNat',
        hbyte] at h <;>
      omega
  · rintro rfl
    decide

/-- The bytes of a text hold a carriage return exactly if the text does. -/
theorem mem_toUTF8_iff {text : String} : (13 : UInt8) ∈ text.toUTF8.data ↔ '\r' ∈ text.toList := by
  have hbytes : text.toUTF8 = text.toList.utf8Encode := by
    rw [String.toUTF8_eq_toByteArray, ← String.toByteArray_ofList, String.ofList_toList]
  rw [hbytes, List.utf8Encode, List.data_toByteArray, List.mem_toArray, List.mem_flatMap]
  simp only [mem_utf8EncodeChar_iff, exists_eq_right]

/-- New bytes are the old ones with one text between two parts of them. -/
def Inserts (inserted : String → Prop) (old new : ByteArray) : Prop :=
  ∃ (front : ByteArray) (block : String) (back : ByteArray), inserted block ∧
    old = front ++ back ∧ new = front ++ block.toUTF8 ++ back

theorem toUTF8_append (text other : String) : (text ++ other).toUTF8 = text.toUTF8 ++ other.toUTF8 := by
  simp only [String.toUTF8_eq_toByteArray, String.toByteArray_append]

/-- Inserted text takes no byte away. -/
theorem Inserts.mem {inserted : String → Prop} {old new : ByteArray} (h : Inserts inserted old new)
    {byte : UInt8} (hmem : byte ∈ old.data) : byte ∈ new.data := by
  obtain ⟨front, block, back, -, rfl, rfl⟩ := h
  rw [ByteArray.data_append, Array.mem_append] at hmem
  rw [ByteArray.data_append, ByteArray.data_append, Array.mem_append, Array.mem_append]
  exact hmem.imp_left .inl

theorem exists_raw_of_decodeText {bytes : ByteArray} {text : String}
    (h : decodeText bytes = .ok text) : ∃ raw : String, raw.toUTF8 = bytes ∧
      String.ofList (Text.normalizeBreaks raw.toList) = text := by
  rw [decodeText] at h
  split at h
  · rename_i raw hraw
    cases h
    rw [String.fromUTF8?] at hraw
    split at hraw
    · cases hraw
      exact ⟨_, rfl, rfl⟩
    · cases hraw
  · cases h

/-- The text of bytes without a carriage return has these bytes. -/
theorem toUTF8_of_decodeText {bytes : ByteArray} {text : String} (h : decodeText bytes = .ok text)
    (hreturn : (13 : UInt8) ∉ bytes.data) : text.toUTF8 = bytes := by
  obtain ⟨raw, hraw, rfl⟩ := exists_raw_of_decodeText h
  rw [← hraw, mem_toUTF8_iff] at hreturn
  rw [normalizeBreaks_of_notMem hreturn, String.ofList_toList, hraw]

theorem return_notMem_of_decodeText {bytes : ByteArray} {text : String}
    (h : decodeText bytes = .ok text) : '\r' ∉ text.toList := by
  obtain ⟨raw, -, rfl⟩ := exists_raw_of_decodeText h
  rw [String.toList_ofList]
  exact notMem_normalizeBreaks _

theorem return_notMem_ofLines {lines : List String} (h : ∀ line ∈ lines, Text.IsLine line) :
    '\r' ∉ (Text.ofLines lines).toList := by
  induction lines with
  | nil => simp [Text.ofLines]
  | cons line rest ih =>
    rw [List.forall_mem_cons] at h
    have hline : '\r' ∉ line.toList := fun hmem => (h.1 _ hmem).2 rfl
    simp [Text.ofLines, hline, ih h.2]

/-- No block holds a carriage return. -/
theorem Manifest.IsBlock.return_notMem {required : List (String × String)} {names : List String}
    {block : String} (h : IsBlock required names block) : '\r' ∉ block.toList := by
  obtain ⟨feed, headers, lines, hfeed, hheaders, hall, rfl⟩ := h
  have hlines : ∀ line ∈ headers ++ lines, Text.IsLine line := by
    rw [List.forall_mem_append]
    constructor
    · rcases hheaders with rfl | rfl
      · simp
      · rw [List.forall_mem_singleton]
        decide
    · intro line hline
      obtain ⟨name, -, hentry⟩ := exists_partner hall hline
      exact hentry.1
  have hbreak : '\r' ∉ feed.toList := by
    rcases hfeed with rfl | rfl <;> simp
  rw [String.toList_append, List.mem_append, not_or]
  exact ⟨hbreak, return_notMem_ofLines hlines⟩

/-! ## The file -/

/-- What the registration of required dependencies comes to, by what was found in a tree: the names
that were added, and the tree afterwards. -/
inductive Registers (project : PathName) (required : List (String × String)) (before : FileTree) :
    List String → FileTree → Prop where
  | missing (h : before.isFile (manifestPath project) = .ok false) :
      Registers project required before [] before
  | unreadable (refusal : Refusal) (h : before.isFile (manifestPath project) = .error refusal ∨
        before.readBytes (manifestPath project) = .error refusal) :
      Registers project required before [] before
  | undecodable (bytes : ByteArray) (fault : Text.Utf8.Fault)
      (hread : before.readBytes (manifestPath project) = .ok bytes)
      (hdecode : decodeText bytes = .error fault) :
      Registers project required before [] before
  | malformed (bytes : ByteArray) (text : String) (fault : ManifestFault)
      (hread : before.readBytes (manifestPath project) = .ok bytes)
      (hdecode : decodeText bytes = .ok text)
      (h : addDependencies text required = .error (.fault fault)) :
      Registers project required before [] before
  | complete (bytes : ByteArray) (text : String) (existing : Dependencies)
      (hread : before.readBytes (manifestPath project) = .ok bytes)
      (hdecode : decodeText bytes = .ok text) (hexisting : readDependencies text = .ok existing)
      (h : ∀ entry ∈ collectMembers required, existing.contains entry.1 = true) :
      Registers project required before [] before
  | unwritable (bytes : ByteArray) (text extended : String) (added : List String) (refusal : Refusal)
      (hread : before.readBytes (manifestPath project) = .ok bytes)
      (hdecode : decodeText bytes = .ok text)
      (hadd : addDependencies text required = .ok (extended, added))
      (hwrite : before.writeText (manifestPath project) extended = .error refusal) :
      Registers project required before [] before
  | inserted (bytes : ByteArray) (text extended : String) (existing : Dependencies)
      (missing : List (String × String)) (added : List String) (after : FileTree)
      (hread : before.readBytes (manifestPath project) = .ok bytes)
      (hdecode : decodeText bytes = .ok text) (hexisting : readDependencies text = .ok existing)
      (hmissing : missing =
        (collectMembers required).filter fun (name, _) => !existing.contains name)
      (hnames : added = missing.map Prod.fst) (hsome : added ≠ [])
      (hextends : Manifest.Extends text.toList missing extended.toList)
      (hadd : addDependencies text required = .ok (extended, added))
      (hwritten : after.readBytes (manifestPath project) = .ok extended.toUTF8) :
      Registers project required before added after

/-- The manifest of a project is a text with a value that does not exist. -/
def HoldsNoValue (project : PathName) (tree : FileTree) : Prop :=
  ∃ bytes text fault, tree.readBytes (manifestPath project) = .ok bytes ∧
    decodeText bytes = .ok text ∧ Yaml.readDocument text = .error (.value fault)

/-- The names that an update adds to a project's manifest, and the tree that it leaves. An update that
fails adds none and hands back no tree: nothing was written. -/
def manifestUpdate (project : PathName) (required : List (String × String)) (tree : FileTree) :
    List String × FileTree :=
  match updateManifest project required tree with
  | .ok (added, after) => (added, after)
  | .error _ => ([], tree)

section

variable {project : PathName} {required : List (String × String)} {tree : FileTree}

theorem readManifest_cases (tree : FileTree) (project : PathName) :
    (∃ bytes text, readManifest tree (manifestPath project) = .ok text ∧
        tree.readBytes (manifestPath project) = .ok bytes ∧ decodeText bytes = .ok text) ∨
      ∃ fault, readManifest tree (manifestPath project) = .error fault ∧
        (∀ value, fault ≠ .manifest (.value value)) ∧
          ∀ required, Registers project required tree [] tree := by
  rw [readManifest]
  split
  · rename_i refusal hasked
    exact .inr ⟨_, rfl, by simp, fun _ => .unreadable refusal (.inl hasked)⟩
  · rename_i hasked
    exact .inr ⟨_, rfl, by simp, fun _ => .missing hasked⟩
  · split
    · rename_i refusal hread
      exact .inr ⟨_, rfl, by simp, fun _ => .unreadable refusal (.inr hread)⟩
    · rename_i bytes hread
      split
      · rename_i fault hdecode
        exact .inr ⟨_, rfl, by simp, fun _ => .undecodable bytes fault hread hdecode⟩
      · rename_i text hdecode
        exact .inl ⟨bytes, text, rfl, hread, hdecode⟩

/-- Only a value that does not exist keeps the dependencies from being read without a fault of the
document. -/
theorem addDependencies_eq_value {text : String} {value : Yaml.ValueFault} :
    addDependencies text required = .error (.value value) ↔
      Yaml.readDocument text = .error (.value value) := by
  have hread : readDependencies text = .error (.value value) ↔
      Yaml.readDocument text = .error (.value value) := by
    rw [readDependencies]
    split
    · simp [*]
    · simp [*]
    · simp [*]
    · split <;> simp [*]
  rw [← hread, addDependencies]
  cases hexisting : readDependencies text with
  | error trouble => simp [bind, Except.bind]
  | ok existing =>
    simp only [bind, Except.bind, pure, Except.pure, reduceCtorEq, iff_false]
    split
    · simp
    · split <;> simp

/-- **What an update can come to**: it registers the dependencies, or fails and registers none, or
finds a value that does not exist. -/
theorem updateManifest_cases (project : PathName) (required : List (String × String))
    (tree : FileTree) :
    (∃ added after, updateManifest project required tree = .ok (added, after) ∧
        Registers project required tree added after) ∨
      (∃ fault, updateManifest project required tree = .error fault ∧
        (∀ value, fault ≠ .manifest (.value value)) ∧ Registers project required tree [] tree) ∨
      ∃ value, updateManifest project required tree = .error (.manifest (.value value)) ∧
        HoldsNoValue project tree := by
  rw [updateManifest]
  -- The stages are reading, adding and writing; each can end the update, and only the last one
  -- changes the tree.
  rcases readManifest_cases tree project with
    ⟨bytes, text, htext, hread, hdecode⟩ | ⟨fault, hfault, hreported, hregisters⟩
  · rw [htext]
    dsimp only [bind, Except.bind]
    split
    · rename_i trouble hadd
      cases trouble with
      | fault fault =>
        exact .inr (.inl ⟨_, rfl, by simp, .malformed bytes text fault hread hdecode hadd⟩)
      | value value =>
        exact .inr (.inr ⟨value, rfl, bytes, text, value, hread, hdecode,
          addDependencies_eq_value.1 hadd⟩)
    · rename_i extended added hadd
      split
      · rename_i hnone
        rw [List.isEmpty_iff] at hnone
        subst hnone
        refine .inl ⟨[], tree, rfl, ?_⟩
        obtain ⟨existing, hexisting, hnames, -⟩ := addDependencies_cases hadd
        have hmissing := List.map_eq_nil_iff.1 hnames.symm
        refine .complete bytes text existing hread hdecode hexisting fun entry hentry => ?_
        simpa using List.filter_eq_nil_iff.1 hmissing entry hentry
      · rename_i hsome
        split
        · rename_i refusal hwrite
          exact .inr (.inl ⟨_, rfl, by simp, .unwritable bytes text extended added refusal hread
            hdecode hadd hwrite⟩)
        · rename_i after hwrite
          have hparts : (manifestPath project).parts ≠ [] :=
            List.append_ne_nil_of_right_ne_nil _ (by decide)
          obtain ⟨location, hwrote⟩ :=
            FileTree.wrote_of_writeText (FileTree.starts_of_parts hparts) hwrite
          obtain ⟨existing, hexisting, hnames, ⟨hnone, -⟩ | ⟨-, hextends⟩⟩ :=
            addDependencies_cases hadd
          · rw [hnames, hnone] at hsome
            exact absurd rfl hsome
          · exact .inl ⟨added, after, rfl, .inserted bytes text extended existing _ added after hread
              hdecode hexisting rfl hnames (by simpa using hsome) hextends hadd
              (FileTree.readBytes_iff.2 ⟨location, hwrote.found⟩)⟩
  · rw [hfault]
    exact .inr (.inl ⟨fault, rfl, hreported, hregisters required⟩)

/-- A value that does not exist makes every update fail. -/
theorem updateManifest_of_holdsNoValue (h : HoldsNoValue project tree)
    (required : List (String × String)) :
    ∃ value, updateManifest project required tree = .error (.manifest (.value value)) := by
  obtain ⟨bytes, text, value, hread, hdecode, hvalue⟩ := h
  obtain ⟨location, hfind⟩ := FileTree.readBytes_iff.1 hread
  have hfile : tree.isFile (manifestPath project) = .ok true := by
    rw [FileTree.isFile, FileTree.leadsTo, hfind]
  have htext : readManifest tree (manifestPath project) = .ok text := by
    rw [readManifest, hfile]
    dsimp only
    rw [hread]
    dsimp only
    rw [hdecode]
  refine ⟨value, ?_⟩
  rw [updateManifest, htext]
  dsimp only [bind, Except.bind]
  rw [addDependencies_eq_value.2 hvalue]
  rfl

/-- An update is a registration, or it finds a value that does not exist and leaves the tree. -/
theorem manifestUpdate_cases (project : PathName) (required : List (String × String))
    (tree : FileTree) :
    Registers project required tree (manifestUpdate project required tree).1
        (manifestUpdate project required tree).2 ∨
      HoldsNoValue project tree ∧ manifestUpdate project required tree = ([], tree) := by
  rw [manifestUpdate]
  rcases updateManifest_cases project required tree with
    ⟨added, after, hupdate, hregisters⟩ | ⟨fault, hupdate, -, hregisters⟩ | ⟨value, hupdate, hvalue⟩
  · exact .inl (by rwa [hupdate])
  · exact .inl (by rwa [hupdate])
  · exact .inr ⟨hvalue, by rw [hupdate]⟩

/-- A registration that adds nothing leaves the tree. -/
theorem Registers.eq_of_nil {after : FileTree} (h : Registers project required tree [] after) :
    after = tree := by
  cases h with
  | inserted _ _ _ _ _ _ _ _ _ _ _ _ hsome => exact absurd rfl hsome
  | _ => rfl

/-- A registration that adds something inserts one block into the text that was read. This is one block
inserted into the bytes of the file exactly if they have no carriage return. -/
theorem Registers.inserts_iff (hlines : ∀ entry ∈ required, Text.IsLine entry.1 ∧ Text.IsLine entry.2)
    {added : List String} {after : FileTree} (h : Registers project required tree added after)
    (hadded : added ≠ []) :
    ∃ old new text, tree.readBytes (manifestPath project) = .ok old ∧
      after.readBytes (manifestPath project) = .ok new ∧ decodeText old = .ok text ∧
      Inserts (Manifest.IsBlock required added) text.toUTF8 new ∧
      (Inserts (Manifest.IsBlock required added) old new ↔ (13 : UInt8) ∉ old.data) := by
  cases h with
  | inserted old text extended _ _ _ _ hold hdecode _ _ _ _ _ hadd hnew =>
    obtain ⟨front, block, back, hblock, rfl, rfl⟩ := addDependencies_inserts hlines hadd hadded
    have hinserts : Inserts (Manifest.IsBlock required added) (front ++ back).toUTF8
        (front ++ block ++ back).toUTF8 :=
      ⟨front.toUTF8, block, back.toUTF8, hblock, toUTF8_append _ _, by
        rw [toUTF8_append, toUTF8_append]⟩
    refine ⟨old, _, _, hold, hnew, hdecode, hinserts, fun hkept hmem => ?_, fun hreturn => ?_⟩
    -- what is written has no carriage return: neither what was read nor the block has one
    · have hread := return_notMem_of_decodeText hdecode
      have hwritten := mem_toUTF8_iff.1 (hkept.mem hmem)
      simp only [String.toList_append, List.mem_append, not_or] at hread hwritten
      rcases hwritten with (hfront | hinside) | hback
      · exact hread.1 hfront
      · exact hblock.return_notMem hinside
      · exact hread.2 hback
    · rwa [toUTF8_of_decodeText hdecode hreturn] at hinserts
  | _ => exact absurd rfl hadded

/-- **What an update does to the bytes of a manifest.** An update that adds nothing, or that fails,
leaves everything. Otherwise one block is inserted into the text that was read, and this is one block
inserted into the bytes of the file exactly if they have no carriage return. -/
theorem manifestUpdate_inserts_iff
    (hlines : ∀ entry ∈ required, Text.IsLine entry.1 ∧ Text.IsLine entry.2) :
    let update := manifestUpdate project required tree
    (update.1 = [] → update.2 = tree) ∧
      (update.1 ≠ [] → ∃ old new text, tree.readBytes (manifestPath project) = .ok old ∧
        update.2.readBytes (manifestPath project) = .ok new ∧ decodeText old = .ok text ∧
        Inserts (Manifest.IsBlock required update.1) text.toUTF8 new ∧
        (Inserts (Manifest.IsBlock required update.1) old new ↔ (13 : UInt8) ∉ old.data)) := by
  intro update
  rcases manifestUpdate_cases project required tree with hregisters | ⟨-, hleft⟩
  · refine ⟨fun hnone => ?_, hregisters.inserts_iff hlines⟩
    have hregisters : Registers project required tree [] update.2 := hnone ▸ hregisters
    exact hregisters.eq_of_nil
  · exact ⟨fun _ => congrArg Prod.snd hleft, fun hadded => absurd (congrArg Prod.fst hleft) hadded⟩

end

/-- A project that holds nothing but a manifest. -/
def manifestTree (text : String) : FileTree :=
  .below [] [(manifestName, .file text.toUTF8)]

/-- Line feeds stay, and one line is inserted between them. -/
theorem feeds_manifest_inserts :
    let tree := manifestTree "name: a\ndependencies:\n  x: 1\n"
    let update := manifestUpdate (.ofString ".") [("dio", "^5.3.2")] tree
    update.1 = ["dio"] ∧ ∃ old new, tree.readBytes (manifestPath (.ofString ".")) = .ok old ∧
      update.2.readBytes (manifestPath (.ofString ".")) = .ok new ∧
        Inserts (Manifest.IsBlock [("dio", "^5.3.2")] update.1) old new := by
  intro tree update
  have hadded : update.1 = ["dio"] := by decide +kernel
  have hsome : update.1 ≠ [] := by
    rw [hadded]
    simp
  have hlines : ∀ entry ∈ [("dio", "^5.3.2")], Text.IsLine entry.1 ∧ Text.IsLine entry.2 := by decide
  obtain ⟨old, new, -, hold, hnew, -, -, hiff⟩ := (manifestUpdate_inserts_iff hlines).2 hsome
  refine ⟨hadded, old, new, hold, hnew, hiff.2 ?_⟩
  have hbytes : tree.readBytes (manifestPath (.ofString ".")) =
    .ok "name: a\ndependencies:\n  x: 1\n".toUTF8 := rfl
  cases hbytes.symm.trans hold
  rw [mem_toUTF8_iff]
  decide

/-- Carriage returns are lost from lines that nothing was added to. -/
theorem returns_manifest_rewritten :
    let tree := manifestTree "name: a\r\ndependencies:\r\n  x: 1\r\n"
    let update := manifestUpdate (.ofString ".") [("dio", "^5.3.2")] tree
    update.1 = ["dio"] ∧ ∃ old new, tree.readBytes (manifestPath (.ofString ".")) = .ok old ∧
      update.2.readBytes (manifestPath (.ofString ".")) = .ok new ∧
        ¬ Inserts (Manifest.IsBlock [("dio", "^5.3.2")] update.1) old new := by
  intro tree update
  have hadded : update.1 = ["dio"] := by decide +kernel
  have hnew : update.2.readBytes (manifestPath (.ofString ".")) =
      .ok "name: a\ndependencies:\n  dio: ^5.3.2\n  x: 1\n".toUTF8 := by decide +kernel
  refine ⟨hadded, _, _, rfl, hnew, fun hkept => ?_⟩
  have hmem := hkept.mem (mem_toUTF8_iff.2 (by decide))
  exact absurd (mem_toUTF8_iff.1 hmem) (by decide)

end DartLayers
