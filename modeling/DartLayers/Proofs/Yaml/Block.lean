import DartLayers.Yaml.Document

/-!
# DartLayers — texts in block style

A text in block style holds a mapping whose entries stand on lines of their own, each indented as
deep as the others of its mapping; the entries of a mapping inside it are indented deeper. Blank lines
and comments may stand anywhere between them. What such a text is read as is told line by line: its
tokens, the nodes of its document by their places, and its values.

Not every text that a reader takes for a mapping in block style is one here. Sequences, scalars over
several lines (`|`, `>`, or continued), collections in braces or brackets, keys in quotes or of
several words, keys that stand for something else than themselves, anchors, tags, directives and
document marks are left out, and no key may stand twice in a mapping.

* **`Block`** — the entries of a mapping as they are written.
* **`Block.lines`** — the lines that they are written on.
* **`Block.tokens`**, **`Block.nodes`**, **`Block.entries`** — what they are read as.
* **`Block.IsWritten`** — which entries can be written in this way.
-/

namespace DartLayers.Yaml

/-! ## Lines -/

/-- Characters that stand inside a line. -/
def isInline (c : Char) : Bool :=
  isPrintable c && !isBreak c && c != byteOrderMark

/-- Characters that stand for themselves between quotes. -/
def isQuotable (c : Char) : Bool :=
  isInline c && c != '\'' && c != '"' && c != '\\'

/-- Spaces. -/
def spaces (width : Nat) : List Char :=
  List.replicate width ' '

/-- What may stand at the end of a line, or on a line without an entry: spaces and a comment. -/
structure Margin where
  width : Nat := 0
  comment : Option (List Char) := none
  deriving Repr, DecidableEq

namespace Margin

/-- A margin as it is written. -/
def chars (margin : Margin) : List Char :=
  spaces margin.width ++
    match margin.comment with
    | none => []
    | some text => '#' :: text

/-- A comment goes to the end of its line. -/
def IsWritten (margin : Margin) : Prop :=
  ∀ text ∈ margin.comment, ∀ c ∈ text, isInline c

instance (margin : Margin) : Decidable margin.IsWritten :=
  decidable_of_iff (margin.comment.all fun text => text.all isInline)
    (by simp [IsWritten, Option.all_eq_true])

/-- Behind something else on its line a comment needs a space in front of it. -/
def IsTail (margin : Margin) : Prop :=
  margin.IsWritten ∧ (margin.comment.isSome → 0 < margin.width)

instance (margin : Margin) : Decidable margin.IsTail :=
  inferInstanceAs (Decidable (_ ∧ _))

end Margin

/-! ## Scalars -/

/-- A word of a plain scalar: it holds no blank, starts no comment and ends no key. -/
def IsWord (word : List Char) : Prop :=
  word ≠ [] ∧ (∀ c ∈ word, isInline c ∧ isBlank c = false) ∧ word.head? ≠ some '#' ∧
    word.getLast? ≠ some ':'

instance (word : List Char) : Decidable (IsWord word) :=
  decidable_of_iff (word ≠ [] ∧ (word.all fun c => isInline c && !isBlank c) ∧
    word.head? ≠ some '#' ∧ word.getLast? ≠ some ':') (by simp [IsWord])

/-- Words behind the first word of a plain scalar. -/
def wordsBehind (words : List (List Char)) : List Char :=
  words.flatMap (' ' :: ·)

/-- A scalar on one line: words, or a text between two quotes. -/
inductive Leaf where
  | plain (word : List Char) (others : List (List Char))
  | quoted (quote : Char) (text : List Char)
  deriving Repr, DecidableEq

namespace Leaf

/-- The text of a scalar. -/
def text : Leaf → List Char
  | plain word others => word ++ wordsBehind others
  | quoted _ text => text

/-- A scalar as it is written. -/
def chars : Leaf → List Char
  | plain word others => word ++ wordsBehind others
  | quoted quote text => quote :: text ++ [quote]

/-- Whether a scalar has no quotes. -/
def isPlain : Leaf → Bool
  | plain _ _ => true
  | quoted _ _ => false

/-- The token of a scalar. -/
def token (leaf : Leaf) : Token :=
  .scalar leaf.isPlain leaf.text

/-- The tag of a scalar. -/
def tag (leaf : Leaf) : Tag :=
  scalarTag none leaf.isPlain leaf.text

/-- The value of a scalar. -/
def value (leaf : Leaf) : Scalar :=
  (Scalar.read leaf.tag leaf.text).toOption.getD .null

/-- Which scalars can be written on one line: the first word of a plain one starts with no mark, and
there are neither quotes nor escapes inside quotes. -/
def IsWritten : Leaf → Prop
  | plain word others => IsWord word ∧ (∀ c ∈ word.head?, isIndicator c = false) ∧
      ∀ other ∈ others, IsWord other
  | quoted quote text => (quote = '\'' ∨ quote = '"') ∧
      ∀ c ∈ text, isQuotable c

instance : (leaf : Leaf) → Decidable leaf.IsWritten
  | plain word others => decidable_of_iff (IsWord word ∧ (word.head?.all fun c => !isIndicator c) ∧
      ∀ other ∈ others, IsWord other) (by simp [IsWritten, Option.all_eq_true])
  | quoted quote text => decidable_of_iff ((quote = '\'' ∨ quote = '"') ∧ text.all isQuotable)
      (by simp [IsWritten])

/-- A scalar that can be written and has a value. -/
def IsReadable (leaf : Leaf) : Prop :=
  leaf.IsWritten ∧ (Scalar.read leaf.tag leaf.text).isOk

instance (leaf : Leaf) : Decidable leaf.IsReadable :=
  inferInstanceAs (Decidable (_ ∧ _))

end Leaf

/-! ## Entries -/

/-- A key that is one word and stands for itself: it starts with a letter or an underscore. -/
structure IsKey (key : List Char) : Prop where
  ne_nil : key ≠ []
  chars : ∀ c ∈ key, isInline c ∧ isBlank c = false ∧ c ≠ ':'
  starts : ∀ c ∈ key.head?, c.isAlpha ∨ c = '_'
  length_le : key.length ≤ maxKeyLength
  isText : Tag.ofPlain key = .text

theorem isKey_iff (key : List Char) : IsKey key ↔
    key ≠ [] ∧ (key.all fun c => isInline c && !isBlank c && c != ':') ∧
      (key.head?.all fun c => c.isAlpha || c == '_') ∧ key.length ≤ maxKeyLength ∧
        Tag.ofPlain key = .text := by
  have hchars : (key.all fun c => isInline c && !isBlank c && c != ':') = true ↔
      ∀ c ∈ key, isInline c ∧ isBlank c = false ∧ c ≠ ':' := by
    simp [and_assoc]
  have hstarts : (key.head?.all fun c => c.isAlpha || c == '_') = true ↔
      ∀ c ∈ key.head?, c.isAlpha ∨ c = '_' := by
    simp [Option.all_eq_true]
  rw [hchars, hstarts]
  exact ⟨fun h => ⟨h.ne_nil, h.chars, h.starts, h.length_le, h.isText⟩,
    fun ⟨hne, hchars, hstarts, hlength, htext⟩ => ⟨hne, hchars, hstarts, hlength, htext⟩⟩

instance (key : List Char) : Decidable (IsKey key) :=
  decidable_of_iff' _ (isKey_iff key)

/-- The key of an entry with the lines in front of it and the end of its line. -/
structure Head where
  lead : List Margin := []
  key : List Char
  tail : Margin := {}
  deriving Repr, DecidableEq

/-- The lines of a key with what follows its colon. -/
def Head.lines (head : Head) (column : Nat) (behind : List Char) : List (List Char) :=
  head.lead.map Margin.chars ++
    [spaces column ++ head.key ++ ':' :: (behind ++ head.tail.chars)]

def Head.IsWritten (head : Head) : Prop :=
  (∀ margin ∈ head.lead, margin.IsWritten) ∧ IsKey head.key ∧ head.tail.IsTail

instance (head : Head) : Decidable head.IsWritten :=
  inferInstanceAs (Decidable (_ ∧ _))

/-- The entries of a mapping in block style. An entry has a scalar on its line, behind at least one
space, or nothing; or it has entries of its own, which are indented deeper by at least one column. -/
inductive Block where
  | nil
  | flat (head : Head) (value : Option (Nat × Leaf)) (rest : Block)
  | nested (head : Head) (depth : Nat) (inner rest : Block)
  deriving Repr, DecidableEq

namespace Block

/-- What stands behind a colon. -/
def valueChars : Option (Nat × Leaf) → List Char
  | none => []
  | some (gap, leaf) => spaces (gap + 1) ++ leaf.chars

/-- The lines of entries in a column. -/
def lines (column : Nat) : Block → List (List Char)
  | nil => []
  | flat head value rest => head.lines column (valueChars value) ++ lines column rest
  | nested head depth inner rest =>
    head.lines column [] ++ lines (column + depth + 1) inner ++ lines column rest

/-- The keys of entries. -/
def keys : Block → List (List Char)
  | nil => []
  | flat head _ rest => head.key :: keys rest
  | nested head _ _ rest => head.key :: keys rest

/-- Which entries can be written: no key is repeated, and inner entries are not missing. -/
def IsWritten : Block → Prop
  | nil => True
  | flat head value rest => head.IsWritten ∧ (∀ entry ∈ value, entry.2.IsReadable) ∧
      head.key ∉ rest.keys ∧ IsWritten rest
  | nested head _ inner rest => head.IsWritten ∧ inner ≠ nil ∧ IsWritten inner ∧
      head.key ∉ rest.keys ∧ IsWritten rest

instance decidableIsWritten : (block : Block) → Decidable block.IsWritten
  | nil => inferInstanceAs (Decidable True)
  | flat _ _ rest =>
    have := decidableIsWritten rest
    inferInstanceAs (Decidable (_ ∧ _))
  | nested _ _ inner rest =>
    have := decidableIsWritten inner
    have := decidableIsWritten rest
    inferInstanceAs (Decidable (_ ∧ _))

/-! ## What entries are read as -/

/-- The tokens of a value on the line of its key. -/
def valueTokens (value : Option (Nat × Leaf)) : List Token :=
  value.toList.map fun entry => entry.2.token

/-- The tokens of entries, without those of the mapping around them. -/
def tokens : Block → List Token
  | nil => []
  | flat head value rest =>
    [.key, .scalar true head.key, .value] ++ valueTokens value ++ tokens rest
  | nested head _ inner rest =>
    [.key, .scalar true head.key, .value, .blockMapping] ++ tokens inner ++ .blockEnd :: tokens rest

/-- How many nodes entries have. -/
def size : Block → Nat
  | nil => 0
  | flat _ _ rest => size rest + 2
  | nested _ _ inner rest => size inner + size rest + 2

/-- The places of the entries' keys and values, if their nodes start at a place. -/
def pairs : (place : Nat) → Block → List (Nat × Nat)
  | _, nil => []
  | place, flat _ _ rest => (place, place + 1) :: pairs (place + 2) rest
  | place, nested _ _ inner rest => (place, place + 1) :: pairs (place + 2 + inner.size) rest

/-- The node of a value on the line of its key. -/
def valueNode : Option (Nat × Leaf) → Node
  | none => .scalar .null []
  | some (_, leaf) => .scalar leaf.tag leaf.text

/-- The nodes of entries from a place on. -/
def nodes : (place : Nat) → Block → List Node
  | _, nil => []
  | place, flat head value rest =>
    .scalar .text head.key :: valueNode value :: nodes (place + 2) rest
  | place, nested head _ inner rest =>
    .scalar .text head.key :: .mapping .mapping (pairs (place + 2) inner) ::
      (nodes (place + 2) inner ++ nodes (place + 2 + inner.size) rest)

/-- The value on the line of its key. -/
def valueTree : Option (Nat × Leaf) → Tree
  | none => .scalar .null
  | some (_, leaf) => .scalar leaf.value

/-- The values of entries by their keys. -/
def entries : Block → List (Scalar × Tree)
  | nil => []
  | flat head value rest => (.text (String.ofList head.key), valueTree value) :: entries rest
  | nested head _ inner rest =>
    (.text (String.ofList head.key), .mapping (entries inner)) :: entries rest

end Block

/-! ## Texts -/

/-- Lines behind another one. -/
def behind (lines : List (List Char)) : List Char :=
  lines.flatMap ('\n' :: ·)

/-- A text in block style: the entries of its mapping and the lines behind them. -/
structure BlockText where
  block : Block
  closing : List Margin
  deriving Repr, DecidableEq

namespace BlockText

/-- The lines of a text. -/
def lines (text : BlockText) : List (List Char) :=
  text.block.lines 0 ++ text.closing.map Margin.chars

/-- The characters of a text; there is a line feed between two lines. -/
def chars (text : BlockText) : List Char :=
  ['\n'].intercalate text.lines

def IsWritten (text : BlockText) : Prop :=
  text.block.IsWritten ∧ ∀ margin ∈ text.closing, margin.IsWritten

instance (text : BlockText) : Decidable text.IsWritten :=
  inferInstanceAs (Decidable (_ ∧ _))

end BlockText

end DartLayers.Yaml
