import DartLayers.Proofs.Dart.Printed

/-!
# DartLayers — outlines of Dart classes

What the classes of a Dart text declare, read off the text line by line. The first name of a line
tells what it says: it opens a class, declares a final field, takes a parameter that is handed to
the object or to its superclass, starts a factory, or, before a colon, gives a named argument.

* **`clause?`** — what a line says.
* **`ClassOutline`** — the names that a class declares, one list for each kind of line.
* **`outlines`** — the classes of a text, in order.
-/

namespace DartLayers.Dart

/-! ## Lines -/

/-- What a line of a class says. -/
inductive Clause where
  | opening (name : String)
  | final (name : String)
  | parameter (receiver name : String)
  | props (names : List String)
  | factory (owner name : String)
  | argument (name : String)
  deriving Repr, DecidableEq

/-- The name that a text begins with. -/
def firstName (text : List Char) : String :=
  String.ofList (text.takeWhile isNameChar)

/-- The name before the first semicolon. -/
def declaredName (text : List Char) : String :=
  String.ofList ((text.takeWhile (· != ';')).reverse.takeWhile isNameChar).reverse

/-- The names of a list, up to the closing bracket. -/
def listedNames (text : List Char) : List String :=
  let items := (Text.splitOn ',' (text.takeWhile (· != ']'))).map fun item =>
    String.ofList (item.dropWhile (· == ' '))
  items.filter (· ≠ "")

/-- What follows the first name and the character behind it. -/
def afterName (text : List Char) : List Char :=
  (text.dropWhile isNameChar).drop 1

/-- What a line says whose first name is followed by a blank. -/
def keywordClause? (name : String) (rest : List Char) : Option Clause :=
  match name with
  | "class" => some (.opening (firstName rest))
  | "final" => some (.final (declaredName rest))
  | "required" => some (.parameter (firstName rest) (firstName (afterName rest)))
  | "factory" => some (.factory (firstName rest) (firstName (afterName rest)))
  | _ => none

/-- What a line says, given its first name and the rest of it. -/
def clauseAfter? (name : List Char) : List Char → Option Clause
  | ':' :: _ => if name = [] then none else some (.argument (String.ofList name))
  | ' ' :: rest => keywordClause? (String.ofList name) rest
  | rest => (rest.dropPrefix? "<Object?> get props => [".toList).map fun items =>
    .props (listedNames items)

/-- What a line says, whatever blanks it begins with. -/
def clause? (line : List Char) : Option Clause :=
  let code := line.dropWhile (· == ' ')
  clauseAfter? (code.takeWhile isNameChar) (code.dropWhile isNameChar)

/-! ## Classes -/

namespace Clause

def isOpening : Clause → Bool
  | .opening _ => true
  | _ => false

def final? : Clause → Option String
  | .final name => some name
  | _ => none

def parameter? : Clause → Option (String × String)
  | .parameter receiver name => some (receiver, name)
  | _ => none

def props? : Clause → Option (List String)
  | .props names => some names
  | _ => none

def argument? : Clause → Option String
  | .argument name => some name
  | _ => none

end Clause

/-- The names that a class declares: its final fields, the parameters of its constructor with the
receivers they are handed to, the lists that its properties are read from, and the arguments that
its factory `fromJson` gives. -/
structure ClassOutline where
  name : String
  finals : List String
  parameters : List (String × String)
  props : List (List String)
  arguments : List String
  deriving Repr, DecidableEq

/-- The outline of an entity class with given fields: it names them wherever it lists them. -/
def ClassOutline.ofEntity (name : String) (fields : List String) : ClassOutline :=
  { name
    finals := fields
    parameters := fields.map ("this", ·)
    props := [fields]
    arguments := [] }

/-- The outline of a model class with given fields, which its entity declares. -/
def ClassOutline.ofModel (name : String) (fields : List String) : ClassOutline :=
  { name
    finals := []
    parameters := fields.map ("super", ·)
    props := []
    arguments := fields }

/-- The outline of a class with given clauses. -/
def ClassOutline.ofClauses (name : String) (clauses : List Clause) : ClassOutline :=
  { name
    finals := clauses.filterMap Clause.final?
    parameters := clauses.filterMap Clause.parameter?
    props := clauses.filterMap Clause.props?
    arguments :=
      (clauses.dropWhile (· ≠ .factory name "fromJson")).filterMap Clause.argument? }

/-- The classes that clauses make up: each reaches to the start of the next one. -/
def classesOf : List Clause → List ClassOutline
  | [] => []
  | .opening name :: rest =>
    ClassOutline.ofClauses name (rest.takeWhile fun clause => !clause.isOpening) :: classesOf rest
  | _ :: rest => classesOf rest

/-- The classes of a Dart text, in order. -/
def outlines (text : String) : List ClassOutline :=
  classesOf ((Text.linesOf text).filterMap clause?)

/-! ## Reading names -/

section

variable {name : List Char} (hname : ∀ c ∈ name, isNameChar c = true) {stop : Char}
  (hstop : isNameChar stop = false) (rest : List Char)

include hname hstop

theorem takeWhile_name : (name ++ stop :: rest).takeWhile isNameChar = name := by
  rw [List.takeWhile_append_of_pos hname, List.takeWhile_cons_of_neg (by simp [hstop]),
    List.append_nil]

theorem dropWhile_name : (name ++ stop :: rest).dropWhile isNameChar = stop :: rest := by
  rw [List.dropWhile_append_of_pos hname, List.dropWhile_cons_of_neg (by simp [hstop])]

end

section

variable {name : String} (hname : IsWord name)

include hname

theorem firstName_word {stop : Char} (hstop : isNameChar stop = false) (rest : List Char) :
    firstName (name.toList ++ stop :: rest) = name := by
  rw [firstName, takeWhile_name hname.isNameChar hstop, String.ofList_toList]

theorem afterName_word {stop : Char} (hstop : isNameChar stop = false) (rest : List Char) :
    afterName (name.toList ++ stop :: rest) = rest := by
  rw [afterName, dropWhile_name hname.isNameChar hstop, List.drop_succ_cons, List.drop_zero]

/-- The name of a declaration is the one before the semicolon, whatever type stands before it. -/
theorem declaredName_word {type : List Char} (htype : ';' ∉ type) (rest : List Char) :
    declaredName (type ++ ' ' :: (name.toList ++ ';' :: rest)) = name := by
  have hsemicolon : ∀ c ∈ type ++ ' ' :: name.toList, (c != ';') = true := by
    intro c hc
    rw [bne_iff_ne]
    rintro rfl
    rcases List.mem_append.1 hc with hmem | hmem
    · exact htype hmem
    · have hinside : ';' ∈ name.toList := by simpa using hmem
      exact absurd (hname.isNameChar _ hinside) (by decide)
  -- a type may hold blanks of its own, so the name is found from the end
  have hcode : type ++ ' ' :: (name.toList ++ ';' :: rest) =
      (type ++ ' ' :: name.toList) ++ ';' :: rest := by simp
  have hreverse : (type ++ ' ' :: name.toList).reverse =
      name.toList.reverse ++ ' ' :: type.reverse := by simp
  have hback : ∀ c ∈ name.toList.reverse, isNameChar c = true := fun c hc =>
    hname.isNameChar c (List.mem_reverse.1 hc)
  rw [declaredName, hcode, List.takeWhile_append_of_pos hsemicolon,
    List.takeWhile_cons_of_neg (by simp), List.append_nil, hreverse,
    takeWhile_name hback (by decide), List.reverse_reverse, String.ofList_toList]

end

/-- A blank behind each comma goes with the item after it. -/
theorem intercalate_comma (first : List Char) (rest : List (List Char)) :
    [',', ' '].intercalate (first :: rest) =
      [','].intercalate (first :: rest.map (' ' :: ·)) := by
  induction rest generalizing first with
  | nil => simp
  | cons next rest ih =>
    have hnext := ih next
    rw [List.intercalate_cons_cons, List.map_cons, List.intercalate_cons_cons, hnext]
    cases rest <;> simp [List.intercalate_cons_cons]

/-- A word begins with no blank. -/
theorem dropWhile_blank {name : String} (h : IsWord name) (rest : List Char) :
    (name.toList ++ rest).dropWhile (· == ' ') = name.toList ++ rest := by
  cases hchars : name.toList with
  | nil => exact absurd (String.toList_eq_nil_iff.1 hchars) h.1
  | cons c others =>
    have hc : isNameChar c = true := h.isNameChar c (by simp [hchars])
    have hblank : c ≠ ' ' := by
      rintro rfl
      exact absurd hc (by decide)
    exact List.dropWhile_cons_of_neg (by simpa using hblank)

theorem ofList_item {name : String} (h : IsWord name) :
    String.ofList (name.toList.dropWhile (· == ' ')) = name := by
  have hdrop := dropWhile_blank h []
  rw [List.append_nil] at hdrop
  rw [hdrop, String.ofList_toList]

/-- Names with commas and blanks between them are the items of their list. -/
theorem items_intercalate {first : String} {others : List String}
    (h : ∀ name ∈ first :: others, IsWord name) :
    (Text.splitOn ',' ([',', ' '].intercalate ((first :: others).map String.toList))).map
      (fun item => String.ofList (item.dropWhile (· == ' '))) = first :: others := by
  have hcomma : ∀ name ∈ first :: others, ',' ∉ name.toList := fun name hname hmem =>
    absurd ((h name hname).isNameChar _ hmem) (by decide)
  rw [List.forall_mem_cons] at h hcomma
  have hpieces : ∀ piece ∈ first.toList :: (others.map String.toList).map (' ' :: ·),
      ',' ∉ piece := by
    rw [List.forall_mem_cons, List.map_map, List.forall_mem_map]
    refine ⟨hcomma.1, fun name hname => ?_⟩
    simpa using hcomma.2 name hname
  have hothers : (others.map String.toList).map
      (fun item => String.ofList ((' ' :: item).dropWhile (· == ' '))) = others := by
    rw [List.map_map]
    refine (List.map_congr_left fun name hname => ?_).trans (List.map_id others)
    exact ofList_item (h.2 name hname)
  rw [List.map_cons, intercalate_comma, Text.splitOn_intercalate (List.cons_ne_nil _ _) hpieces,
    List.map_cons, ofList_item h.1, List.map_map]
  exact congrArg (first :: ·) hothers

/-- The names of a list are read as they were written. -/
theorem listedNames_intercalate {names : List String} (h : ∀ name ∈ names, IsWord name)
    (rest : List Char) :
    listedNames ([',', ' '].intercalate (names.map String.toList) ++ ']' :: rest) = names := by
  have hbracket : ∀ c ∈ [',', ' '].intercalate (names.map String.toList), (c != ']') = true := by
    intro c hc
    rw [bne_iff_ne]
    rintro rfl
    rcases mem_intercalate hc with hcomma | ⟨piece, hpiece, hmem⟩
    · exact absurd hcomma (by decide)
    · obtain ⟨name, hname, rfl⟩ := List.mem_map.1 hpiece
      exact absurd ((h name hname).isNameChar _ hmem) (by decide)
  have htake : ([',', ' '].intercalate (names.map String.toList) ++ ']' :: rest).takeWhile
      (· != ']') = [',', ' '].intercalate (names.map String.toList) := by
    rw [List.takeWhile_append_of_pos hbracket, List.takeWhile_cons_of_neg (by simp),
      List.append_nil]
  rw [listedNames, htake]
  cases names with
  | nil => rfl -- an empty list is cut into one empty item, which is left out
  | cons first others =>
    rw [items_intercalate h]
    -- no item is left out: a word is not empty
    exact List.filter_eq_self.2 fun name hname => by simpa using (h name hname).1

/-! ## Reading lines -/

section

variable {name : String} (hname : IsWord name)

include hname

theorem clause?_final {type : String} (htype : ';' ∉ type.toList) :
    clause? ("  final " ++ type ++ " " ++ name ++ ";").toList = some (.final name) := by
  have hdeclared := declaredName_word hname htype []
  simp [clause?, clauseAfter?, keywordClause?, isNameChar, hdeclared]

theorem clause?_required {receiver : String} (hreceiver : IsWord receiver) :
    clause? ("    required " ++ receiver ++ "." ++ name ++ ",").toList =
      some (.parameter receiver name) := by
  have hfirst := firstName_word hreceiver (by decide : isNameChar '.' = false)
  have hrest := afterName_word hreceiver (by decide : isNameChar '.' = false)
  have hsecond := firstName_word hname (by decide : isNameChar ',' = false)
  simp [clause?, clauseAfter?, keywordClause?, isNameChar, hfirst, hrest, hsecond]

theorem clause?_argument (value : String) :
    clause? ("      " ++ name ++ ": " ++ value ++ ",").toList = some (.argument name) := by
  have hcode := dropWhile_blank hname
  have hfirst := takeWhile_name hname.isNameChar (by decide : isNameChar ':' = false)
  have hrest := dropWhile_name hname.isNameChar (by decide : isNameChar ':' = false)
  have hne : name.toList ≠ [] := by simpa using hname.1
  simp [clause?, clauseAfter?, hcode, hfirst, hrest, hne]

theorem clause?_factory :
    clause? ("  factory " ++ name ++ ".fromJson(Map<String, dynamic> json) \x7b").toList =
      some (.factory name "fromJson") := by
  have hfirst := firstName_word hname (by decide : isNameChar '.' = false)
  have hrest := afterName_word hname (by decide : isNameChar '.' = false)
  have hsecond : firstName "fromJson(Map<String, dynamic> json) \x7b".toList = "fromJson" := by
    decide
  simpa [clause?, clauseAfter?, keywordClause?, isNameChar, hfirst, hrest] using hsecond

end

theorem clause?_props {names : List String} (h : ∀ name ∈ names, IsWord name) :
    clause? ("  List<Object?> get props => [" ++ ", ".intercalate names ++ "];").toList =
      some (.props names) := by
  have hlisted := listedNames_intercalate h [';']
  simp [clause?, clauseAfter?, isNameChar, List.dropPrefix?, hlisted]

/-- What the lines of a text say. -/
def clausesOf (lines : List String) : List Clause :=
  lines.filterMap fun line => clause? line.toList

theorem clausesOf_nil : clausesOf [] = [] := rfl

theorem clausesOf_append (lines others : List String) :
    clausesOf (lines ++ others) = clausesOf lines ++ clausesOf others :=
  List.filterMap_append

theorem clausesOf_flatMap {α : Type} (items : List α) (lines : α → List String) :
    clausesOf (items.flatMap lines) = items.flatMap fun item => clausesOf (lines item) :=
  List.filterMap_flatMap

theorem clausesOf_cons_of_none {line : String} (h : clause? line.toList = none)
    (rest : List String) : clausesOf (line :: rest) = clausesOf rest :=
  List.filterMap_cons_none h

theorem clausesOf_cons_of_some {line : String} {clause : Clause}
    (h : clause? line.toList = some clause) (rest : List String) :
    clausesOf (line :: rest) = clause :: clausesOf rest :=
  List.filterMap_cons_some h

theorem outlines_ofLines {lines : List String} (h : ∀ line ∈ lines, Text.IsLine line) :
    outlines (Text.ofLines lines) = classesOf (clausesOf lines) := by
  have hempty : clause? [] = none := rfl
  rw [outlines, Text.linesOf_ofLines h, List.filterMap_append, List.filterMap_map,
    List.filterMap_cons, hempty, List.filterMap_nil, List.append_nil]
  rfl

/-! ## Reading classes -/

/-- Clauses that open no class belong to the class before them. -/
theorem classesOf_append {clauses : List Clause}
    (h : ∀ clause ∈ clauses, clause.isOpening = false) (rest : List Clause) :
    classesOf (clauses ++ rest) = classesOf rest := by
  induction clauses with
  | nil => rfl
  | cons clause others ih =>
    rw [List.forall_mem_cons] at h
    cases clause with
    | opening => cases h.1
    | final | parameter | props | factory | argument =>
      rw [List.cons_append, classesOf, ih h.2]
      simp

/-- Classes one after the other are read one by one, if only their first clauses open a class. -/
theorem classesOf_flatMap {α : Type} {items : List α} {name : α → String} {body : α → List Clause}
    (h : ∀ item ∈ items, ∀ clause ∈ body item, clause.isOpening = false) :
    classesOf (items.flatMap fun item => .opening (name item) :: body item) =
      items.map fun item => ClassOutline.ofClauses (name item) (body item) := by
  induction items with
  | nil => rfl
  | cons item rest ih =>
    rw [List.forall_mem_cons] at h
    have hinside : ∀ clause ∈ body item, (!clause.isOpening) = true := fun clause hclause => by
      rw [h.1 clause hclause, Bool.not_false]
    -- the next class, if there is one, starts with its opening
    have hnext : (rest.flatMap fun item => Clause.opening (name item) :: body item).takeWhile
        (fun clause => !clause.isOpening) = [] := by
      cases rest <;> simp [Clause.isOpening]
    rw [List.flatMap_cons, List.cons_append, classesOf, List.takeWhile_append_of_pos hinside, hnext,
      List.append_nil, classesOf_append h.1, ih h.2, List.map_cons]

/-- **The classes of a written text** are those that its parts make up, behind lines that say
nothing. -/
theorem outlines_classes {α : Type} {front : List String} {items : List α}
    {lines : α → List String} {name : α → String} {body : α → List Clause}
    (hfront : ∀ line ∈ front, Text.IsLine line) (hsilent : clausesOf front = [])
    (hlines : ∀ item ∈ items, ∀ line ∈ lines item, Text.IsLine line)
    (hclauses : ∀ item ∈ items, clausesOf (lines item) = .opening (name item) :: body item)
    (hbody : ∀ item ∈ items, ∀ clause ∈ body item, clause.isOpening = false) :
    outlines (Text.ofLines (front ++ items.flatMap lines)) =
      items.map fun item => ClassOutline.ofClauses (name item) (body item) := by
  have hall : ∀ line ∈ front ++ items.flatMap lines, Text.IsLine line := by
    rw [List.forall_mem_append, List.forall_mem_flatMap]
    exact ⟨hfront, hlines⟩
  rw [outlines_ofLines hall, clausesOf_append, hsilent, List.nil_append, clausesOf_flatMap,
    List.flatMap_congr hclauses, classesOf_flatMap hbody]

end DartLayers.Dart
