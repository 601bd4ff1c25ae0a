import DartLayers.Proofs.Dart.Printed

/-!
# DartLayers — names, classes and imports of Dart text

What a Dart text uses, declares and imports, read off its lines. A name is a run of letters, digits
and underscores in the code of a line; comments and the texts of literals are no code, but what
follows a dollar sign in a literal is. A line whose first name, modifiers apart, is `class` declares
a class. The imports are those before the first such line.

* **`names`** — the names in the code of a text.
* **`declaredClasses`**, **`relativeImports`** — the classes that it declares, the files it imports.
* **`relativeImports_of_header`** — the imports of a text that starts with them.
-/

namespace DartLayers.Dart

/-! ## Names -/

/-- Where a reader of a line is: in code, behind a slash that may start a comment, in a literal,
behind a backslash or a dollar sign in a literal, or in a comment. -/
inductive Mode where
  | code
  | slash
  | literal (quote : Char)
  | escaped (quote : Char)
  | spliced (quote : Char)
  | comment
  deriving DecidableEq

namespace Mode

/-- Whether names count. -/
def isOpen : Mode → Bool
  | .code | .slash | .spliced _ => true
  | .literal _ | .escaped _ | .comment => false

/-- The mode in code, behind a character. -/
def afterCode (c : Char) : Mode :=
  if c == '/' then .slash else if c == '\'' || c == '"' then .literal c else .code

/-- The mode behind a character. -/
def next : Mode → Char → Mode
  | .code, c => afterCode c
  | .slash, c => if c == '/' then .comment else afterCode c
  | .literal quote, c =>
    if c == '\\' then .escaped quote else if c == '$' then .spliced quote
    else if c == quote then .code else .literal quote
  | .escaped quote, _ => .literal quote
  | .spliced quote, c =>
    if c == '\\' then .escaped quote else if c == quote then .code else .spliced quote
  | .comment, _ => .comment

end Mode

/-- The names that end in the rest of a line, and empty ones between them; the characters that have
been read of a name stand last first. -/
def namesFrom : Mode → (name : List Char) → List Char → List String
  | _, name, [] => [String.ofList name.reverse]
  | mode, name, c :: rest =>
    if mode.isOpen && isNameChar c then namesFrom (mode.next c) (c :: name) rest
    else String.ofList name.reverse :: namesFrom (mode.next c) [] rest

/-- The names in the code of a line. -/
def lineNames (line : List Char) : List String :=
  (namesFrom .code [] line).filter (· ≠ "")

/-- The names in the code of a text. -/
def names (text : String) : List String :=
  (Text.linesOf text).flatMap lineNames

example : names "final a = b.c('it\\'s d $e', 2); // f" = ["final", "a", "b", "c", "e", "2"] := by
  decide +kernel

/-! ## Classes and imports -/

/-- Words that may stand before `class`. -/
def classModifiers : List String :=
  ["abstract", "base", "final", "interface", "mixin", "sealed"]

/-- The class that a line declares. -/
def declaredClass? (line : List Char) : Option String :=
  match (lineNames line).dropWhile classModifiers.contains with
  | "class" :: name :: _ => some name
  | _ => none

/-- The classes that a text declares. -/
def declaredClasses (text : String) : List String :=
  (Text.linesOf text).filterMap declaredClass?

/-- The file that a line imports. -/
def importUri? (line : List Char) : Option String :=
  (line.dropPrefix? "import '".toList).map fun rest =>
    String.ofList (rest.takeWhile (· != '\''))

/-- Whether an imported file is named by a path from the importing one: other names start with a
scheme. -/
def isRelative (uri : String) : Bool :=
  !uri.toList.contains ':'

/-- The files that a text imports by a relative path before it declares a class. -/
def relativeImports (text : String) : List String :=
  (((Text.linesOf text).takeWhile fun line => (declaredClass? line).isNone).filterMap
    importUri?).filter isRelative

/-! ## Lines that start a text -/

/-- The line that imports a file. -/
def importLine (uri : String) : String :=
  "import '" ++ uri ++ "';"

/-- A line before the first class: an import, or a blank line. -/
def headerLine : Option String → String
  | some uri => importLine uri
  | none => ""

theorem importUri?_importLine {uri : String} (h : '\'' ∉ uri.toList) :
    importUri? (importLine uri).toList = some uri := by
  have hquote : ∀ c ∈ uri.toList, (c != '\'') = true := by
    intro c hc
    rw [bne_iff_ne]
    rintro rfl
    exact h hc
  have htaken : (uri.toList ++ ['\'', ';']).takeWhile (· != '\'') = uri.toList := by
    rw [List.takeWhile_append_of_pos hquote, List.takeWhile_cons_of_neg (by simp), List.append_nil]
  simp [importUri?, importLine, List.dropPrefix?, htaken]

/-- The first name of an import is no modifier. -/
theorem declaredClass?_importLine (uri : String) : declaredClass? (importLine uri).toList = none := by
  simp [declaredClass?, importLine, lineNames, namesFrom, Mode.isOpen, Mode.next, Mode.afterCode,
    isNameChar, classModifiers]

/-- A name is read to its end. -/
theorem namesFrom_word {word : List Char} (hword : ∀ c ∈ word, isNameChar c = true)
    (name rest : List Char) :
    namesFrom .code name (word ++ rest) = namesFrom .code (word.reverse ++ name) rest := by
  induction word generalizing name with
  | nil => rfl
  | cons c word ih =>
    rw [List.forall_mem_cons] at hword
    have hplain : c ≠ '/' ∧ c ≠ '\'' ∧ c ≠ '"' := by
      refine ⟨?_, ?_, ?_⟩ <;> rintro rfl <;> exact absurd hword.1 (by decide)
    have hnext : Mode.code.next c = .code := by simp [Mode.next, Mode.afterCode, hplain]
    rw [List.cons_append, namesFrom, hnext, Mode.isOpen, hword.1, Bool.and_self, if_pos rfl,
      ih hword.2, List.reverse_cons, List.append_assoc, List.singleton_append]

/-- A blank ends a name. -/
theorem namesFrom_word_blank {name : String} (hname : IsWord name) (rest : List Char) :
    namesFrom .code [] (name.toList ++ ' ' :: rest) = name :: namesFrom .code [] rest := by
  rw [namesFrom_word hname.isNameChar, List.append_nil, namesFrom]
  simp [Mode.next, Mode.afterCode, isNameChar]

/-- The words before the name of a class, with the blank behind each. -/
def classOpenings : List String :=
  ["class ", "abstract class ", "final class "]

/-- A line that opens a class declares it. -/
theorem declaredClass?_opening {opening : String} (hopening : opening ∈ classOpenings)
    {name : String} (hname : IsWord name) (rest : String) :
    declaredClass? (opening ++ name ++ " " ++ rest).toList = some name := by
  have hnames := namesFrom_word_blank hname rest.toList
  simp only [classOpenings, List.mem_cons, List.not_mem_nil, or_false] at hopening
  rcases hopening with rfl | rfl | rfl <;>
  simp [declaredClass?, lineNames, namesFrom, Mode.isOpen, Mode.next, Mode.afterCode, isNameChar,
    classModifiers, hnames, hname.1]

/-! ## Texts that start with their imports -/

/-- The characters of imported files. -/
def IsUri (uri : String) : Prop :=
  ∀ c ∈ uri.toList, c.isAlphanum ∨ c ∈ ['_', '.', '/', ':']

instance (uri : String) : Decidable (IsUri uri) :=
  decidable_of_iff (uri.toList.all fun c => c.isAlphanum || ['_', '.', '/', ':'].contains c)
    (by simp [IsUri])

theorem IsUri.notMem {uri : String} (h : IsUri uri) {c : Char}
    (hc : ¬ (c.isAlphanum ∨ c ∈ ['_', '.', '/', ':'])) : c ∉ uri.toList :=
  fun hmem => hc (h c hmem)

section

variable {header : List (Option String)} (huris : ∀ uri ∈ header.reduceOption, IsUri uri)

include huris

/-- What a header imports is read off its lines. -/
theorem importUri?_headerLine {entry : Option String} (hentry : entry ∈ header) :
    importUri? (headerLine entry).toList = entry := by
  cases entry with
  | none => rfl
  | some uri =>
    have huri := huris uri (List.reduceOption_mem_iff.2 hentry)
    exact importUri?_importLine (huri.notMem (by decide))

theorem isLine_headerLine {entry : Option String} (hentry : entry ∈ header) :
    Text.IsLine (headerLine entry) := by
  cases entry with
  | none => decide
  | some uri =>
    have huri := huris uri (List.reduceOption_mem_iff.2 hentry)
    have hline : Text.IsLine uri := fun c hc => by
      constructor <;> rintro rfl <;> exact huri.notMem (by decide) hc
    rw [headerLine, importLine, Text.isLine_append, Text.isLine_append]
    exact ⟨⟨by decide, hline⟩, by decide⟩

omit huris in
theorem declaredClass?_headerLine (entry : Option String) :
    declaredClass? (headerLine entry).toList = none := by
  cases entry with
  | none => decide
  | some uri => exact declaredClass?_importLine uri

variable {first : String} (hfirst : Text.IsLine first) (rest : String)

include hfirst

theorem linesOf_header :
    Text.linesOf (Text.ofLines (header.map headerLine ++ [first]) ++ rest) =
      (header.map fun entry => (headerLine entry).toList) ++ first.toList :: Text.linesOf rest := by
  have hlines : ∀ line ∈ header.map headerLine ++ [first], Text.IsLine line := by
    rw [List.forall_mem_append, List.forall_mem_map, List.forall_mem_singleton]
    exact ⟨fun entry hentry => isLine_headerLine huris hentry, hfirst⟩
  rw [Text.linesOf_ofLines_append hlines, List.map_append, List.map_map, List.append_assoc]
  rfl

variable {name : String} (hclass : declaredClass? first.toList = some name)

include hclass

/-- **A text that starts with imports and a class** imports what these lines say. -/
theorem relativeImports_of_header :
    relativeImports (Text.ofLines (header.map headerLine ++ [first]) ++ rest) =
      header.reduceOption.filter isRelative := by
  have hopen : ∀ line ∈ header.map (fun entry => (headerLine entry).toList),
      (declaredClass? line).isNone = true := by
    rw [List.forall_mem_map]
    intro entry _
    rw [declaredClass?_headerLine]
    rfl
  have hstop : ¬ (declaredClass? first.toList).isNone = true := by simp [hclass]
  have huri : (header.map fun entry => (headerLine entry).toList).filterMap importUri? =
      header.reduceOption := by
    rw [List.filterMap_map, List.reduceOption]
    exact List.filterMap_congr fun entry hentry => importUri?_headerLine huris hentry
  have hnone := List.takeWhile_cons_of_neg (p := fun line => (declaredClass? line).isNone)
    (l := Text.linesOf rest) hstop
  rw [relativeImports, linesOf_header huris hfirst, List.takeWhile_append_of_pos hopen, hnone,
    List.append_nil, huri]

/-- It declares the class. -/
theorem mem_declaredClasses_of_header :
    name ∈ declaredClasses (Text.ofLines (header.map headerLine ++ [first]) ++ rest) := by
  rw [declaredClasses, linesOf_header huris hfirst]
  exact List.mem_filterMap.2 ⟨first.toList, List.mem_append_right _ List.mem_cons_self, hclass⟩

end

end DartLayers.Dart
