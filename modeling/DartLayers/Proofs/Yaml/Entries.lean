import DartLayers.Proofs.Yaml.Block
import Mathlib.Data.List.Basic

/-!
# DartLayers — entries in front of and behind others

A key is found in the entries of a mapping by what stands in front of its entry and behind it, and new
entries are written in front of others or behind them. What is known of the parts is known of the
whole.

* **`Block.append`** — entries behind others.
* **`Block.ofTexts`** — entries with texts in front of others.
* **`Block.KeyPlace`** — where a key is.
* **`Block.EntriesAt`** — the entries under it.
-/

namespace DartLayers.Yaml.Block

/-! ## Entries behind others -/

/-- Entries behind others. -/
def append : Block → Block → Block
  | nil, other => other
  | flat head value rest, other => flat head value (append rest other)
  | nested head depth inner rest, other => nested head depth inner (append rest other)

variable (block other : Block)

theorem lines_append (column : Nat) :
    (block.append other).lines column = block.lines column ++ other.lines column := by
  induction block with
  | nil => rfl
  | flat head value rest ih => rw [append, lines, lines, ih, List.append_assoc]
  | nested head depth inner rest _ ih =>
    rw [append, lines, lines, ih, List.append_assoc _ (rest.lines column)]

@[simp] theorem keys_append : (block.append other).keys = block.keys ++ other.keys := by
  induction block with
  | nil => rfl
  | flat head value rest ih => rw [append, keys, keys, ih, List.cons_append]
  | nested head depth inner rest _ ih => rw [append, keys, keys, ih, List.cons_append]

theorem size_append : (block.append other).size = block.size + other.size := by
  induction block with
  | nil => rw [append, size, Nat.zero_add]
  | flat head value rest ih =>
    rw [append, size, size, ih]
    omega
  | nested head depth inner rest _ ih =>
    rw [append, size, size, ih]
    omega

theorem pairs_append (place : Nat) :
    (block.append other).pairs place = block.pairs place ++ other.pairs (place + block.size) := by
  induction block generalizing place with
  | nil => rfl
  | flat head value rest ih =>
    rw [append, pairs, pairs, ih, List.cons_append, size]
    congr 3
    omega
  | nested head depth inner rest _ ih =>
    rw [append, pairs, pairs, ih, List.cons_append, size]
    congr 3
    omega

theorem nodes_append (place : Nat) :
    (block.append other).nodes place = block.nodes place ++ other.nodes (place + block.size) := by
  induction block generalizing place with
  | nil => rfl
  | flat head value rest ih =>
    rw [append, nodes, nodes, ih, List.cons_append, List.cons_append, size]
    congr 4
    omega
  | nested head depth inner rest _ ih =>
    rw [append, nodes, nodes, ih, List.cons_append, List.cons_append, size, List.append_assoc]
    congr 5
    omega

variable {block other}

/-- Entries can be written behind others if no key is repeated. -/
theorem isWritten_append : (block.append other).IsWritten ↔
    block.IsWritten ∧ other.IsWritten ∧ ∀ key ∈ block.keys, key ∉ other.keys := by
  induction block with
  | nil => simp [append, IsWritten, keys]
  | flat head value rest ih =>
    simp only [append, IsWritten, ih, keys_append, keys, List.mem_append, List.forall_mem_cons]
    tauto
  | nested head depth inner rest _ ih =>
    simp only [append, IsWritten, ih, keys_append, keys, List.mem_append, List.forall_mem_cons]
    tauto

/-! ## Entries with texts -/

/-- Entries with texts in front of others. -/
def ofTexts : List (String × String) → Block → Block
  | [], rest => rest
  | (name, text) :: texts, rest =>
    flat { key := name.toList } (some (0, .plain text.toList [])) (ofTexts texts rest)

variable {texts : List (String × String)} {rest : Block}

theorem keys_ofTexts : (ofTexts texts rest).keys = texts.map (·.1.toList) ++ rest.keys := by
  induction texts with
  | nil => rfl
  | cons entry texts ih => rw [ofTexts, keys, ih, List.map_cons, List.cons_append]

theorem lines_ofTexts (column : Nat) : (ofTexts texts rest).lines column =
    texts.map (fun entry => spaces column ++ entry.1.toList ++ ": ".toList ++ entry.2.toList) ++
      rest.lines column := by
  induction texts with
  | nil => rfl
  | cons entry texts ih =>
    rw [ofTexts, lines, ih]
    simp [Head.lines, valueChars, spaces, Leaf.chars, wordsBehind, Margin.chars]

/-- A name and a text that stand for themselves in an entry. -/
def IsEntryText (entry : String × String) : Prop :=
  IsKey entry.1.toList ∧ (Leaf.plain entry.2.toList []).IsWritten ∧
    Tag.ofPlain entry.2.toList = .text

instance (entry : String × String) : Decidable (IsEntryText entry) :=
  inferInstanceAs (Decidable (_ ∧ _))

theorem read_of_isEntryText {entry : String × String} (h : IsEntryText entry) :
    Scalar.read (Leaf.plain entry.2.toList []).tag (Leaf.plain entry.2.toList []).text =
      .ok (.text entry.2) := by
  have htext : (Leaf.plain entry.2.toList []).text = entry.2.toList := by
    simp [Leaf.text, wordsBehind]
  have htag : (Leaf.plain entry.2.toList []).tag = .text := by
    rw [Leaf.tag, htext]
    exact h.2.2
  rw [htag, htext, Scalar.read]
  simp

theorem entries_ofTexts (h : ∀ entry ∈ texts, IsEntryText entry) : (ofTexts texts rest).entries =
    (texts.map fun (name, text) => (.text name, .scalar (.text text))) ++ rest.entries := by
  induction texts with
  | nil => rfl
  | cons entry texts ih =>
    rw [List.forall_mem_cons] at h
    rw [ofTexts, entries, ih h.2, valueTree, Leaf.value, read_of_isEntryText h.1,
      String.ofList_toList]
    rfl

theorem isWritten_ofTexts (h : ∀ entry ∈ texts, IsEntryText entry)
    (hnodup : (texts.map Prod.fst).Nodup) (hnew : ∀ entry ∈ texts, entry.1.toList ∉ rest.keys)
    (hrest : rest.IsWritten) : (ofTexts texts rest).IsWritten := by
  induction texts with
  | nil => exact hrest
  | cons entry texts ih =>
    rw [List.forall_mem_cons] at h hnew
    rw [List.map_cons, List.nodup_cons] at hnodup
    have htail : Margin.IsTail {} := by decide
    refine ⟨⟨List.forall_mem_nil _, h.1.1, htail⟩, ?_, ?_, ih h.2 hnodup.2 hnew.2⟩
    · rintro value ⟨⟩
      refine ⟨h.1.2.1, ?_⟩
      rw [read_of_isEntryText h.1]
      rfl
    · rw [keys_ofTexts, List.mem_append, not_or]
      refine ⟨fun hmem => ?_, hnew.1⟩
      obtain ⟨other, hother, heq⟩ := List.mem_map.1 hmem
      rw [String.toList_inj] at heq
      exact hnodup.1 (List.mem_map.2 ⟨other, hother, heq⟩)

/-! ## Where a key is -/

/-- Where a key is: nowhere, on a line that may hold a value, or above entries of its own. -/
inductive KeyPlace (key : List Char) : Block → Prop where
  | nowhere {block : Block} (h : key ∉ block.keys) : KeyPlace key block
  | line (front : Block) {rest : Block} {head : Head} {value : Option (Nat × Leaf)}
      (hfront : key ∉ front.keys) (hkey : head.key = key) :
      KeyPlace key (front.append (flat head value rest))
  | above (front : Block) {inner rest : Block} {head : Head} {depth : Nat}
      (hfront : key ∉ front.keys) (hkey : head.key = key) :
      KeyPlace key (front.append (nested head depth inner rest))

/-- Every key has its place. -/
theorem keyPlace (key : List Char) (block : Block) : KeyPlace key block := by
  induction block with
  | nil => exact .nowhere List.not_mem_nil
  | flat head value rest ih =>
    by_cases hkey : head.key = key
    · exact .line nil List.not_mem_nil hkey
    cases ih with
    | nowhere h => exact .nowhere (List.not_mem_cons_of_ne_of_not_mem (Ne.symm hkey) h)
    | line front h hfound =>
      exact .line (flat head value front) (List.not_mem_cons_of_ne_of_not_mem (Ne.symm hkey) h) hfound
    | above front h hfound =>
      exact .above (flat head value front) (List.not_mem_cons_of_ne_of_not_mem (Ne.symm hkey) h) hfound
  | nested head depth inner rest _ ih =>
    by_cases hkey : head.key = key
    · exact .above nil List.not_mem_nil hkey
    cases ih with
    | nowhere h => exact .nowhere (List.not_mem_cons_of_ne_of_not_mem (Ne.symm hkey) h)
    | line front h hfound =>
      exact .line (nested head depth inner front)
        (List.not_mem_cons_of_ne_of_not_mem (Ne.symm hkey) h) hfound
    | above front h hfound =>
      exact .above (nested head depth inner front)
        (List.not_mem_cons_of_ne_of_not_mem (Ne.symm hkey) h) hfound

/-- The entries under a key: none, if there is no such key or its value is null. -/
inductive EntriesAt (key : List Char) : Block → Block → Prop where
  | nowhere {block : Block} (h : key ∉ block.keys) : EntriesAt key block nil
  | line (front : Block) {rest : Block} {head : Head} {value : Option (Nat × Leaf)}
      (hfront : key ∉ front.keys) (hkey : head.key = key)
      (hvalue : (valueNode value).tag = .null) :
      EntriesAt key (front.append (flat head value rest)) nil
  | above (front : Block) {inner rest : Block} {head : Head} {depth : Nat}
      (hfront : key ∉ front.keys) (hkey : head.key = key) :
      EntriesAt key (front.append (nested head depth inner rest)) inner

section

variable {front inner rest : Block} {head : Head} {depth : Nat}

theorem isWritten_append_flat {value : Option (Nat × Leaf)} :
    (front.append (flat head value rest)).IsWritten ↔ (front.IsWritten ∧ head.IsWritten ∧
      rest.IsWritten ∧ head.key ∉ rest.keys ∧ ∀ key ∈ front.keys, key ∉ head.key :: rest.keys) ∧
        ∀ entry ∈ value, entry.2.IsReadable := by
  rw [isWritten_append, IsWritten, keys]
  tauto

theorem isWritten_append_nested : (front.append (nested head depth inner rest)).IsWritten ↔
    (front.IsWritten ∧ head.IsWritten ∧ rest.IsWritten ∧ head.key ∉ rest.keys ∧
      ∀ key ∈ front.keys, key ∉ head.key :: rest.keys) ∧ inner ≠ nil ∧ inner.IsWritten := by
  rw [isWritten_append, IsWritten, keys]
  tauto

end

end DartLayers.Yaml.Block
