import DartLayers.Proofs.Manifest.Insertion
import Mathlib.Data.List.DropRight

/-!
# DartLayers — where dependencies are added

Which dependencies a manifest lacks is read off the document; where they are added is found in the text,
line by line. They go behind the first line that holds the key of the dependencies, indented like the
entry that follows, or behind the whole text under a key of their own. Either way the text is cut in
one place, and what is put there is determined by the line before the cut and the lines behind it.

* **`IsHeaderLine`**, **`IsPassedLine`** — the lines that the place is found by.
* **`AsksFor`** — the indentation that the lines behind the place ask for.
* **`Placement`** — the place of an addition, with what is inserted there.
* **`addDependencies_placed`** — every addition is a placement.
-/

namespace DartLayers

namespace Text

variable {p : Char → Bool}

/-- A character that is kept protects what stands before it. -/
theorem dropEndWhile_append_cons {c : Char} (hc : p c = false) (front rest : List Char) :
    dropEndWhile p (front ++ c :: rest) = front ++ c :: dropEndWhile p rest := by
  simp only [dropEndWhile, List.reverse_append, List.reverse_cons, List.dropWhile_append]
  split <;> simp_all

theorem dropEndWhile_append_of_forall {ending : List Char} (h : ∀ c ∈ ending, p c = true)
    (text : List Char) : dropEndWhile p (text ++ ending) = dropEndWhile p text := by
  have hending : ∀ c ∈ ending.reverse, p c = true := fun c hc => h c (List.mem_reverse.1 hc)
  rw [dropEndWhile, List.reverse_append, List.dropWhile_append_of_pos hending, dropEndWhile]

/-- What is dropped from the end belongs to the class. -/
theorem exists_eq_dropEndWhile_append (text : List Char) :
    ∃ ending, text = dropEndWhile p text ++ ending ∧ ∀ c ∈ ending, p c = true :=
  ⟨text.rtakeWhile p, List.rdropWhile_append_rtakeWhile.symm,
    fun _ hc => List.mem_rtakeWhile_imp hc⟩

end Text

namespace Manifest

/-! ## Lines -/

/-- A line that holds the key of the dependencies, and behind it nothing but blanks and a comment. -/
def IsHeaderLine (line : List Char) : Prop :=
  ∃ blanks comment ending, line = "dependencies:".toList ++ blanks ++ comment ++ ending ∧
    (∀ c ∈ blanks, c = ' ' ∨ c = '\t') ∧ (comment = [] ∨ comment.head? = some '#') ∧
      ∀ c ∈ ending, c = '\r' ∨ c = '\n'

/-- A line that is blank, or that holds nothing but a comment. -/
def IsPassedLine (line : List Char) : Prop :=
  (∀ c ∈ line, Text.isBlank c = true) ∨
    ∃ blanks comment, line = blanks ++ '#' :: comment ∧ ∀ c ∈ blanks, Text.isBlank c = true

theorem isIndent_iff {c : Char} : isIndent c = true ↔ c = ' ' ∨ c = '\t' := by
  simp [isIndent]

theorem isReturnOrFeed_iff {c : Char} : isReturnOrFeed c = true ↔ c = '\r' ∨ c = '\n' := by
  simp [isReturnOrFeed]

/-- What decides about a line is found behind the key. -/
theorem isHeader_append (rest : List Char) : isHeader (header ++ rest) = true ↔
    ∀ c ∈ ((Text.dropEndWhile isReturnOrFeed rest).dropWhile isIndent).head?, c = '#' := by
  have hkept : Text.dropEndWhile isReturnOrFeed (header ++ rest) =
      header ++ Text.dropEndWhile isReturnOrFeed rest := by
    have hheader : ∀ rest, header ++ rest = "dependencies".toList ++ ':' :: rest := fun _ => rfl
    rw [hheader, hheader, Text.dropEndWhile_append_cons (by decide)]
  rw [isHeader, hkept, List.drop_left]
  cases (Text.dropEndWhile isReturnOrFeed rest).dropWhile isIndent <;> simp

/-- **The lines that are found** are those that hold the key and nothing else. -/
theorem isHeader_iff (line : List Char) : isHeader line = true ↔ IsHeaderLine line := by
  constructor
  · intro h
    have hstarts : header <+: line := by
      rw [isHeader, Bool.and_eq_true, List.isPrefixOf_iff_prefix] at h
      exact h.1
    obtain ⟨rest, rfl⟩ := hstarts
    rw [isHeader_append] at h
    obtain ⟨ending, hrest, hending⟩ :=
      Text.exists_eq_dropEndWhile_append (p := isReturnOrFeed) rest
    generalize Text.dropEndWhile isReturnOrFeed rest = body at h hrest
    -- Behind the key come blanks, then a comment if anything, then the end of the line.
    refine ⟨body.takeWhile isIndent, body.dropWhile isIndent, ending, ?_, fun c hc => ?_, ?_,
      fun c hc => isReturnOrFeed_iff.1 (hending c hc)⟩
    · rw [List.append_assoc _ (body.takeWhile isIndent), List.takeWhile_append_dropWhile,
        List.append_assoc, ← hrest]
      rfl
    · exact isIndent_iff.1 (List.mem_takeWhile_imp hc)
    · cases hcomment : body.dropWhile isIndent with
      | nil => exact .inl rfl
      | cons c comment => exact .inr (by rw [h c (by simp [hcomment])]; rfl)
  · rintro ⟨blanks, comment, ending, rfl, hblanks, hcomment, hending⟩
    have hblank : ∀ c ∈ blanks, isIndent c = true := fun c hc => isIndent_iff.2 (hblanks c hc)
    have hbreak : ∀ c ∈ ending, isReturnOrFeed c = true :=
      fun c hc => isReturnOrFeed_iff.2 (hending c hc)
    have hheader : "dependencies:".toList = header := rfl
    rw [hheader, List.append_assoc, List.append_assoc, isHeader_append, ← List.append_assoc,
      Text.dropEndWhile_append_of_forall hbreak]
    cases comment with
    | nil =>
      have hnone : (Text.dropEndWhile isReturnOrFeed blanks).dropWhile isIndent = [] :=
        List.dropWhile_eq_nil_iff.2 fun c hc =>
          hblank c ((List.rdropWhile_prefix isReturnOrFeed blanks).subset hc)
      simp [hnone]
    | cons c comment =>
      obtain rfl : c = '#' := by simpa using hcomment
      rw [Text.dropEndWhile_append_cons (by decide), List.dropWhile_append_of_pos hblank,
        List.dropWhile_cons_of_neg (by decide)]
      simp

/-- **The lines that are passed over** are the blank ones and the comments. -/
theorem isSkipped_iff (line : List Char) : isSkipped line = true ↔ IsPassedLine line := by
  have hsplit : line = line.takeWhile Text.isBlank ++ line.dropWhile Text.isBlank :=
    List.takeWhile_append_dropWhile.symm
  have hblank : ∀ c ∈ line.takeWhile Text.isBlank, Text.isBlank c = true :=
    fun c hc => List.mem_takeWhile_imp hc
  rw [isSkipped, Text.trimWhile]
  -- Only the first character that is not blank decides.
  cases hrest : line.dropWhile Text.isBlank with
  | nil =>
    refine iff_of_true rfl (.inl ?_)
    rw [hrest, List.append_nil] at hsplit
    rwa [← hsplit] at hblank
  | cons c rest =>
    have hc : Text.isBlank c = false := by
      have hfirst := List.head?_dropWhile_not Text.isBlank line
      simpa [hrest] using hfirst
    have hkept := Text.dropEndWhile_append_cons hc [] rest
    rw [List.nil_append, List.nil_append] at hkept
    rw [hkept]
    dsimp only
    rw [beq_iff_eq]
    constructor
    · rintro rfl
      exact .inr ⟨_, rest, by rw [← hrest, ← hsplit], hblank⟩
    · rintro (hall | ⟨blanks, comment, rfl, hblanks⟩)
      · have hmem : c ∈ line := by rw [hsplit, hrest]; simp
        rw [hall c hmem] at hc
        cases hc
      · rw [List.dropWhile_append_of_pos hblanks, List.dropWhile_cons_of_neg (by decide),
          List.cons.injEq] at hrest
        exact hrest.1.symm

/-! ## Places -/

/-- The indentation that lines ask for: the blanks before the first line that is neither blank nor a
comment, and two spaces if there is no such line or no blank before it. -/
inductive AsksFor (lines : List (List Char)) : String → Prop
  | nothing (hlines : ∀ line ∈ lines, IsPassedLine line) : AsksFor lines "  "
  | line {front back : List (List Char)} {leading rest : List Char}
      (hlines : lines = front ++ (leading ++ rest) :: back)
      (hfront : ∀ line ∈ front, IsPassedLine line) (hline : ¬ IsPassedLine (leading ++ rest))
      (hblank : ∀ c ∈ leading, c = ' ' ∨ c = '\t')
      (hstart : ∀ c ∈ rest.head?, ¬ (c = ' ' ∨ c = '\t')) :
      AsksFor lines (if leading = [] then "  " else String.ofList leading)

/-- The lines of entries. -/
def entryTexts (indent : String) (entries : List (String × String)) : List String :=
  entries.map fun entry => indent ++ entry.1 ++ ": " ++ entry.2

/-- The line feed that a text needs before another line. -/
def feedBehind (text : List Char) : String :=
  if text = [] ∨ text.getLast? = some '\n' then "" else "\n"

/-- The place of an addition: the text before it, what is inserted, and the text behind it. Entries
stand behind the first header line, or, if there is none, behind the text and a header. -/
inductive Placement (text : String) (entries : List (String × String)) :
    (front block back : String) → Prop
  | under {before after : List (List Char)} {header : List Char} {indent : String}
      (hlines : Text.splitLines text.toList = before ++ header :: after)
      (hbefore : ∀ line ∈ before, ¬ IsHeaderLine line) (hheader : IsHeaderLine header)
      (hindent : AsksFor after indent) :
      Placement text entries (String.ofList (before.flatten ++ header))
        (feedBehind header ++ Text.ofLines (entryTexts indent entries)) (String.ofList after.flatten)
  | atEnd (hnone : ∀ line ∈ Text.splitLines text.toList, ¬ IsHeaderLine line) :
      Placement text entries text
        (feedBehind text.toList ++ Text.ofLines ("dependencies:" :: entryTexts "  " entries)) ""

theorem childIndent_asksFor (lines : List (List Char)) :
    AsksFor lines (String.ofList (childIndent lines)) := by
  rw [childIndent]
  cases hfound : lines.find? fun line => !isSkipped line with
  | none =>
    refine .nothing fun line hline => (isSkipped_iff line).1 ?_
    simpa using List.find?_eq_none.1 hfound line hline
  | some line =>
    obtain ⟨hline, front, back, hlines, hfront⟩ := List.find?_eq_some_iff_append.1 hfound
    have hsplit : line.takeWhile isIndent ++ line.dropWhile isIndent = line :=
      List.takeWhile_append_dropWhile
    have hplace : lines = front ++ (line.takeWhile isIndent ++ line.dropWhile isIndent) :: back := by
      rw [hsplit, hlines]
    have hpassed : ∀ line ∈ front, IsPassedLine line := fun line hline =>
      (isSkipped_iff line).1 (by simpa using hfront line hline)
    -- The line that is found is the first one that is not passed over, and its blanks are all of
    -- its indent.
    have hstops : ¬ IsPassedLine (line.takeWhile isIndent ++ line.dropWhile isIndent) := by
      rw [hsplit, ← isSkipped_iff]
      simpa using hline
    have hrest : ∀ c ∈ (line.dropWhile isIndent).head?, ¬ (c = ' ' ∨ c = '\t') := by
      intro c hc
      have hstart := List.head?_dropWhile_not isIndent line
      rw [Option.mem_def.1 hc] at hstart
      rw [← isIndent_iff]
      simpa using hstart
    have hasks := AsksFor.line hplace hpassed hstops
      (fun c hc => isIndent_iff.1 (List.mem_takeWhile_imp hc)) hrest
    dsimp only
    split
    · rename_i hnone
      rwa [hnone, if_pos rfl] at hasks
    · rename_i hsome
      rwa [if_neg hsome] at hasks

theorem entryLines_eq (indent : List Char) (entries : List (String × String)) :
    entryLines indent entries =
      (Text.ofLines (entryTexts (String.ofList indent) entries)).toList := by
  induction entries with
  | nil => rfl
  | cons entry rest ih =>
    rw [entryLines, List.flatMap_cons, ← entryLines, ih]
    simp [entryTexts, Text.ofLines, entryLine]

theorem missingFeed_eq {text : List Char} (hne : text ≠ []) :
    missingFeed text = (feedBehind text).toList := by
  rw [missingFeed, feedBehind]
  by_cases hend : text.getLast? = some '\n' <;> simp [hend, hne]

theorem missingFeed_append {text : List Char} :
    (if text.isEmpty then [] else missingFeed text) = (feedBehind text).toList := by
  cases text with
  | nil => rfl
  | cons c rest => exact missingFeed_eq (List.cons_ne_nil c rest)

/-- **A text is extended in one place**, and what is inserted there is determined by the text. -/
theorem exists_placement {text : String} {entries : List (String × String)} {extended : List Char}
    (h : Extends text.toList entries extended) :
    ∃ front block back, Placement text entries front block back ∧ text = front ++ back ∧
      String.ofList extended = front ++ block ++ back := by
  cases h with
  | under before found after hlines hbefore hheader =>
    have hnone : ∀ line ∈ before, ¬ IsHeaderLine line := fun line hline => by
      rw [← isHeader_iff, hbefore line hline]
      exact Bool.false_ne_true
    refine ⟨_, _, _, .under hlines hnone ((isHeader_iff found).1 hheader) (childIndent_asksFor after),
      ?_, ?_⟩
    · have htext := Text.flatten_splitLines text.toList
      rw [hlines, List.flatten_append, List.flatten_cons] at htext
      simp [← String.toList_inj, htext]
    · have hne : found ≠ [] := by
        rintro rfl
        cases hheader
      simp [← String.toList_inj, insertUnder, missingFeed_eq hne, entryLines_eq]
  | atEnd hnone hstart =>
    have hnone : ∀ line ∈ Text.splitLines text.toList, ¬ IsHeaderLine line := fun line hline => by
      rw [← isHeader_iff, hnone line hline]
      exact Bool.false_ne_true
    refine ⟨text, _, "", .atEnd hnone, String.append_empty.symm, ?_⟩
    have hheader : header = "dependencies:".toList := rfl
    have hindent : String.ofList defaultIndent = "  " := rfl
    rw [append, missingFeed_append, entryLines_eq, hheader, hindent]
    simp [← String.toList_inj, Text.ofLines]

end Manifest

/-- **Where dependencies are added.** The names that are added are those of the required mapping that
the document lacks, in their order. If there are none the text stays; otherwise it is cut in one place
and the entries are put there, so that no character of it is lost, moved or changed. -/
theorem addDependencies_placed {text extended : String} {required : List (String × String)}
    {added : List String} (h : addDependencies text required = .ok (extended, added)) :
    ∃ existing, readDependencies text = .ok existing ∧
      added = ((collectMembers required).map Prod.fst).filter (fun name => !existing.contains name) ∧
      (added = [] → extended = text) ∧
      (added ≠ [] → ∃ entries front block back,
        entries = (collectMembers required).filter (fun entry => !existing.contains entry.1) ∧
          Manifest.Placement text entries front block back ∧ text = front ++ back ∧
            extended = front ++ block ++ back) := by
  obtain ⟨existing, hread, hnames, hcases⟩ := addDependencies_cases h
  refine ⟨existing, hread, ?_, fun hnone => ?_, fun hsome => ?_⟩
  · rw [hnames, List.filter_map]
    rfl
  · rcases hcases with ⟨-, hsame⟩ | ⟨hmissing, -⟩
    · exact hsame
    · rw [hnames, List.map_eq_nil_iff] at hnone
      exact absurd hnone hmissing
  · rcases hcases with ⟨hmissing, -⟩ | ⟨-, hextends⟩
    · rw [hnames, hmissing] at hsome
      exact absurd rfl hsome
    · obtain ⟨front, block, back, hplacement, htext, hextended⟩ := Manifest.exists_placement hextends
      rw [String.ofList_toList] at hextended
      exact ⟨_, front, block, back, rfl, hplacement, htext, hextended⟩

/-- A manifest with a comment behind the header, a blank line under it, and entries at a depth of
their own. -/
def commentedManifest : String :=
  "name: a\ndependencies: # all\n\n    x: 1"

theorem commentedManifest_placed :
    let extended := "name: a\ndependencies: # all\n    dio: ^5.4.0\n\n    x: 1"
    addDependencies commentedManifest [("x", "2"), ("dio", "^5.4.0")] = .ok (extended, ["dio"]) ∧
      ∃ entries front block back, Manifest.Placement commentedManifest entries front block back ∧
        commentedManifest = front ++ back ∧ extended = front ++ block ++ back := by
  intro extended
  have hadd : addDependencies commentedManifest [("x", "2"), ("dio", "^5.4.0")] =
      .ok (extended, ["dio"]) := by
    decide +kernel
  obtain ⟨existing, -, -, -, hplaced⟩ := addDependencies_placed hadd
  obtain ⟨entries, front, block, back, -, hplacement, htext, hextended⟩ := hplaced (by simp)
  exact ⟨hadd, entries, front, block, back, hplacement, htext, hextended⟩

end DartLayers
