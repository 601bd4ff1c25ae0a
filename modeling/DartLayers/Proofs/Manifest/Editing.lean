import DartLayers.Proofs.Manifest.Placement
import DartLayers.Proofs.Text.Names
import DartLayers.Proofs.Yaml.Entries
import DartLayers.Proofs.Yaml.Scanning

/-!
# DartLayers — a manifest in block style under the editor

An editor sees lines, not entries. In a text in block style both views agree: a line that it takes for
the header is the key of the dependencies without a value, and the indentation that it finds behind it
is that of their entries. What it writes is therefore a text in block style again, with new entries
under the same key.

* **`keptLines`** — the lines of a text as an editor sees them.
* **`extend_of_header`**, **`extend_of_none`** — what is written, in lines.
-/

namespace DartLayers

open Yaml

/-! ## Lines -/

theorem Text.not_endsLine_of_isInline {c : Char} (h : isInline c) : Text.endsLine c = false := by
  simp only [isInline, Yaml.isPrintable, Yaml.isBreak, Bool.and_eq_true, Bool.or_eq_true,
    beq_iff_eq, Bool.not_eq_true', Bool.or_eq_false_iff, decide_eq_true_eq,
    beq_eq_false_iff_ne] at h
  obtain ⟨⟨hprintable, ⟨⟨⟨hreturn, hfeed⟩, hnext⟩, hline⟩, hparagraph⟩, -⟩ := h
  have hreturn : c.toNat ≠ 13 := fun heq => hreturn (Char.toNat_inj.1 heq)
  have hfeed : c.toNat ≠ 10 := fun heq => hfeed (Char.toNat_inj.1 heq)
  simp only [Text.endsLine, Bool.or_eq_false_iff, Bool.and_eq_false_iff, decide_eq_false_iff_not,
    beq_eq_false_iff_ne]
  omega

namespace Manifest

/-- The lines of a text as an editor sees them: all but the last one have a line feed, and an empty
last one is none. -/
def keptLines : List (List Char) → List (List Char)
  | [] => []
  | [line] => if line = [] then [] else [line]
  | line :: next :: lines => (line ++ ['\n']) :: keptLines (next :: lines)

theorem keptLines_cons (line : List Char) {lines : List (List Char)} (h : lines ≠ []) :
    keptLines (line :: lines) = (line ++ ['\n']) :: keptLines lines := by
  cases lines with
  | nil => exact absurd rfl h
  | cons next lines => rfl

theorem keptLines_append (front : List (List Char)) {back : List (List Char)} (h : back ≠ []) :
    keptLines (front ++ back) = front.map (· ++ ['\n']) ++ keptLines back := by
  induction front with
  | nil => rfl
  | cons line front ih =>
    rw [List.cons_append, keptLines_cons line (List.append_ne_nil_of_right_ne_nil front h), ih,
      List.map_cons, List.cons_append]

/-- A line of an editor is a line of the text, with its line feed or without one. -/
theorem mem_keptLines {lines : List (List Char)} {found : List Char} (h : found ∈ keptLines lines) :
    ∃ line ∈ lines, found = line ∨ found = line ++ ['\n'] := by
  induction lines with
  | nil => cases h
  | cons line lines ih =>
    cases lines with
    | nil =>
      rw [keptLines] at h
      split at h
      · cases h
      · exact ⟨line, List.mem_cons_self, .inl (List.mem_singleton.1 h)⟩
    | cons next lines =>
      rcases List.mem_cons.1 h with rfl | hmem
      · exact ⟨line, List.mem_cons_self, .inr rfl⟩
      · obtain ⟨other, hother, hfound⟩ := ih hmem
        exact ⟨other, List.mem_cons_of_mem _ hother, hfound⟩

theorem intercalate_append (front : List (List Char)) {back : List (List Char)} (h : back ≠ []) :
    ['\n'].intercalate (front ++ back) =
      front.flatMap (· ++ ['\n']) ++ ['\n'].intercalate back := by
  induction front with
  | nil => rfl
  | cons line front ih =>
    rw [List.cons_append, List.intercalate_cons_of_ne_nil (List.append_ne_nil_of_right_ne_nil front h),
      ih, List.flatMap_cons, List.append_assoc, List.append_assoc, List.append_assoc]

/-- The lines of an editor are the text. -/
theorem flatten_keptLines (lines : List (List Char)) :
    (keptLines lines).flatten = ['\n'].intercalate lines := by
  induction lines with
  | nil => rfl
  | cons line lines ih =>
    cases lines with
    | nil =>
      rw [keptLines]
      split
      · simp_all
      · simp
    | cons next lines =>
      rw [keptLines, List.flatten_cons, ih, List.intercalate_cons_cons, List.append_assoc]

theorem splitLines_line {line : List Char} (h : ∀ c ∈ line, Text.endsLine c = false) :
    Text.splitLines line = if line = [] then [] else [line] := by
  induction line with
  | nil => rfl
  | cons c line ih =>
    rw [List.forall_mem_cons] at h
    have hreturn : c ≠ '\r' := by
      rintro rfl
      exact absurd h.1 (by decide)
    rw [Text.splitLines, if_neg (by simp [h.1]), ih h.2]
    · cases line <;> simp
    · simp [hreturn]

/-- A line that holds no break goes to the next line feed. -/
theorem splitLines_append {line : List Char} (h : ∀ c ∈ line, Text.endsLine c = false)
    (rest : List Char) :
    Text.splitLines (line ++ '\n' :: rest) = (line ++ ['\n']) :: Text.splitLines rest := by
  induction line with
  | nil =>
    rw [List.nil_append, Text.splitLines, if_pos (by decide), List.nil_append]
    simp
  | cons c line ih =>
    rw [List.forall_mem_cons] at h
    have hreturn : c ≠ '\r' := by
      rintro rfl
      exact absurd h.1 (by decide)
    rw [List.cons_append, Text.splitLines, if_neg (by simp [h.1]), ih h.2]
    · rfl
    · simp [hreturn]

/-- An editor sees the lines that a text is written on. -/
theorem splitLines_intercalate {lines : List (List Char)}
    (h : ∀ line ∈ lines, ∀ c ∈ line, Text.endsLine c = false) :
    Text.splitLines (['\n'].intercalate lines) = keptLines lines := by
  induction lines with
  | nil => rfl
  | cons line lines ih =>
    rw [List.forall_mem_cons] at h
    cases lines with
    | nil =>
      rw [List.intercalate_singleton, splitLines_line h.1, keptLines]
    | cons next lines =>
      rw [List.intercalate_cons_cons, keptLines, ← ih h.2, List.append_assoc, List.singleton_append,
        splitLines_append h.1]

/-! ## What is written, in lines -/

/-- A line that does not start with the key of the dependencies. -/
def IsOther (line : List Char) : Prop :=
  ¬ header <+: line ++ ['\n']

theorem isHeader_of_isOther {line : List Char} (h : IsOther line) :
    isHeader line = false ∧ isHeader (line ++ ['\n']) = false := by
  have hline : ¬ header <+: line := fun hstart => h (hstart.trans (List.prefix_append _ _))
  rw [← List.isPrefixOf_iff_prefix, Bool.not_eq_true] at hline
  rw [IsOther, ← List.isPrefixOf_iff_prefix, Bool.not_eq_true] at h
  rw [isHeader, isHeader, hline, h]
  exact ⟨rfl, rfl⟩

/-- The lines of entries. -/
def entryRows (indent : List Char) (entries : List (String × String)) : List (List Char) :=
  entries.map fun (name, version) => indent ++ name.toList ++ ": ".toList ++ version.toList

theorem entryLines_eq_flatMap (indent : List Char) (entries : List (String × String)) :
    entryLines indent entries = (entryRows indent entries).flatMap (· ++ ['\n']) := by
  rw [entryLines, entryRows, List.flatMap_map]
  rfl

section

variable {before after : List (List Char)} {line : List Char}
  {entries : List (String × String)} {isEmpty : Bool}

/-- The header line of an editor, with the line feed that it gets. -/
theorem exists_found (hline : isHeader line = true ∧ isHeader (line ++ ['\n']) = true)
    (hfeed : ∀ c ∈ line, Text.endsLine c = false) (after : List (List Char)) :
    ∃ found, isHeader found = true ∧ keptLines (line :: after) = found :: keptLines after ∧
      found ++ missingFeed found = line ++ ['\n'] := by
  by_cases hafter : after = []
  · subst hafter
    have hne : line ≠ [] := by
      rintro rfl
      exact absurd hline.1 (by decide)
    have hlast : line.getLast? ≠ some '\n' := fun hlast =>
      absurd (hfeed _ (List.mem_of_getLast? hlast)) (by decide)
    refine ⟨line, hline.1, if_neg hne, ?_⟩
    rw [missingFeed, if_neg (by simpa using hlast)]
  · refine ⟨line ++ ['\n'], hline.2, keptLines_cons line hafter, ?_⟩
    simp [missingFeed]

/-- **Under a header** new lines are written behind its line. -/
theorem extend_of_header
    (hlines : ∀ other ∈ before ++ line :: after, ∀ c ∈ other, Text.endsLine c = false)
    (hbefore : ∀ other ∈ before, IsOther other)
    (hline : isHeader line = true ∧ isHeader (line ++ ['\n']) = true) :
    extend (['\n'].intercalate (before ++ line :: after)) isEmpty entries =
      .ok (['\n'].intercalate (before ++ line ::
        (entryRows (childIndent (keptLines after)) entries ++ if after = [] then [[]] else after))) := by
  obtain ⟨found, hfound, hkept, hfeed⟩ := exists_found hline
    (hlines line (List.mem_append_right _ List.mem_cons_self)) after
  have hpassed : ∀ other ∈ before.map (· ++ ['\n']), (!isHeader other) = true := by
    intro other hother
    obtain ⟨row, hrow, rfl⟩ := List.mem_map.1 hother
    rw [(isHeader_of_isOther (hbefore row hrow)).2, Bool.not_false]
  have hdrop : (found :: keptLines after).dropWhile (fun other => !isHeader other) =
      found :: keptLines after :=
    List.dropWhile_cons_of_neg (by simp [hfound])
  have htake : (found :: keptLines after).takeWhile (fun other => !isHeader other) = [] :=
    List.takeWhile_cons_of_neg (by simp [hfound])
  -- If no line is behind the header it has got a line feed, and the text ends with an empty line.
  have hrest : (['\n'].intercalate (if after = [] then [[]] else after)) =
      ['\n'].intercalate after := by
    split
    · simp_all
    · rfl
  have htail : (if after = [] then [[]] else after) ≠ [] := by
    split
    · exact List.cons_ne_nil _ _
    · assumption
  rw [extend, splitLines_intercalate hlines, keptLines_append before (List.cons_ne_nil line after), hkept,
    List.dropWhile_append_of_pos hpassed, List.takeWhile_append_of_pos hpassed,
    hdrop, htake, List.append_nil]
  dsimp only
  rw [insertUnder, flatten_keptLines, entryLines_eq_flatMap, List.append_assoc _ found, hfeed,
    ← List.flatMap_def]
  have hrows := intercalate_append (before ++ line :: entryRows (childIndent (keptLines after)) entries)
    htail
  rw [hrest, List.append_assoc, List.cons_append] at hrows
  rw [hrows, List.flatMap_append, List.flatMap_cons]
  simp only [List.append_assoc]

/-- **Without a header** new lines are written behind the text, if there are no dependencies. -/
theorem extend_of_none {lines : List (List Char)}
    (hlines : ∀ other ∈ lines, ∀ c ∈ other, Text.endsLine c = false)
    (hnone : ∀ other ∈ lines, isHeader other = false ∧ isHeader (other ++ ['\n']) = false) :
    extend (['\n'].intercalate lines) isEmpty entries =
      if !isEmpty || startsHeader (['\n'].intercalate lines) then .error .notBlock
      else .ok (append (['\n'].intercalate lines) entries) := by
  have hpassed : ∀ found ∈ keptLines lines, (!isHeader found) = true := by
    intro found hfound
    obtain ⟨line, hline, rfl | rfl⟩ := mem_keptLines hfound
    · rw [(hnone _ hline).1, Bool.not_false]
    · rw [(hnone _ hline).2, Bool.not_false]
  rw [extend, splitLines_intercalate hlines, List.dropWhile_eq_nil_iff.2 hpassed]

end

/-! ## Entries as lines -/

theorem isOther_of_head? {line : List Char} (h : (line ++ ['\n']).head? ≠ some 'd') :
    IsOther line := by
  rintro ⟨rest, hrest⟩
  exact h (by rw [← hrest]; rfl)

theorem isOther_margin (margin : Margin) : IsOther margin.chars := by
  obtain ⟨width, comment⟩ := margin
  apply isOther_of_head?
  cases width <;> cases comment <;> simp [Margin.chars, spaces, List.replicate_succ]

theorem isOther_spaces {column : Nat} (hcolumn : 0 < column) (rest : List Char) :
    IsOther (spaces column ++ rest) := by
  obtain ⟨column, rfl⟩ : ∃ n, column = n + 1 := ⟨column - 1, by omega⟩
  apply isOther_of_head?
  simp [spaces, List.replicate_succ]

theorem isOther_head {head : Head} {column : Nat} {behind : List Char}
    (h : IsOther (spaces column ++ head.key ++ ':' :: (behind ++ head.tail.chars))) :
    ∀ line ∈ head.lines column behind, IsOther line := by
  intro line hline
  rcases List.mem_append.1 hline with hmem | hmem
  · obtain ⟨margin, -, rfl⟩ := List.mem_map.1 hmem
    exact isOther_margin margin
  · rwa [List.mem_singleton.1 hmem]

/-- Indented entries are on other lines. -/
theorem isOther_lines_of_pos (block : Block) {column : Nat} (hcolumn : 0 < column) :
    ∀ line ∈ block.lines column, IsOther line := by
  have hhead : ∀ (head : Head) (column : Nat) (behind : List Char), 0 < column →
      ∀ line ∈ head.lines column behind, IsOther line := by
    intro head column behind hcolumn
    refine isOther_head ?_
    rw [List.append_assoc]
    exact isOther_spaces hcolumn _
  induction block generalizing column with
  | nil => exact List.forall_mem_nil _
  | flat head value rest ih =>
    exact List.forall_mem_append.2 ⟨hhead head column _ hcolumn, ih hcolumn⟩
  | nested head depth inner rest ihinner ihrest =>
    exact List.forall_mem_append.2 ⟨List.forall_mem_append.2
      ⟨hhead head column _ hcolumn, ihinner (Nat.succ_pos _)⟩, ihrest hcolumn⟩

theorem takeWhile_key {key : List Char} (h : ∀ c ∈ key, c ≠ ':') (rest : List Char) :
    (key ++ ':' :: rest).takeWhile (· ≠ ':') = key := by
  rw [List.takeWhile_append_of_pos (by simpa using h)]
  simp

theorem isOther_key {key : List Char} (hkey : IsKey key) (hne : Dependencies.key.toList ≠ key)
    (rest : List Char) : IsOther (spaces 0 ++ key ++ ':' :: rest) := by
  rintro ⟨more, hmore⟩
  -- a key ends at the first colon
  have hends := congrArg (List.takeWhile (· ≠ ':')) hmore
  have hheader : header ++ more = Dependencies.key.toList ++ ':' :: more := rfl
  have hline : spaces 0 ++ key ++ ':' :: rest ++ ['\n'] = key ++ ':' :: (rest ++ ['\n']) := by
    simp [spaces]
  have hcolon : ∀ c ∈ Dependencies.key.toList, c ≠ ':' := by
    simp [Dependencies.key]
  rw [hheader, hline, takeWhile_key hcolon, takeWhile_key fun c hc => (hkey.chars c hc).2.2] at hends
  exact hne hends

/-- Entries without the key of the dependencies are on other lines. -/
theorem isOther_lines {block : Block} (hblock : block.IsWritten)
    (hkey : Dependencies.key.toList ∉ block.keys) : ∀ line ∈ block.lines 0, IsOther line := by
  induction block with
  | nil => exact List.forall_mem_nil _
  | flat head value rest ih =>
    obtain ⟨hhead, -, -, hrest⟩ := hblock
    obtain ⟨hne, hkeys⟩ := List.ne_and_not_mem_of_not_mem_cons hkey
    exact List.forall_mem_append.2 ⟨isOther_head (isOther_key hhead.2.1 hne _), ih hrest hkeys⟩
  | nested head depth inner rest _ ih =>
    obtain ⟨hhead, -, -, -, hrest⟩ := hblock
    obtain ⟨hne, hkeys⟩ := List.ne_and_not_mem_of_not_mem_cons hkey
    exact List.forall_mem_append.2 ⟨List.forall_mem_append.2
      ⟨isOther_head (isOther_key hhead.2.1 hne _), isOther_lines_of_pos inner (Nat.succ_pos _)⟩,
      ih hrest hkeys⟩

/-- The key of the dependencies without a value is on a header line. -/
theorem isHeader_tail (tail : Margin) :
    isHeader (header ++ tail.chars) = true ∧ isHeader (header ++ tail.chars ++ ['\n']) = true := by
  have hspaces : ∀ c ∈ spaces tail.width, c = ' ' ∨ c = '\t' :=
    forall_mem_spaces (.inl rfl) tail.width
  have hheader : header = "dependencies:".toList := rfl
  obtain ⟨comment, hchars, hcomment⟩ : ∃ comment, tail.chars = spaces tail.width ++ comment ∧
      (comment = [] ∨ comment.head? = some '#') := by
    refine ⟨_, rfl, ?_⟩
    cases tail.comment with
    | none => exact .inl rfl
    | some text => exact .inr rfl
  rw [isHeader_iff, isHeader_iff]
  refine ⟨⟨_, comment, [], ?_, hspaces, hcomment, List.forall_mem_nil _⟩,
    ⟨_, comment, ['\n'], ?_, hspaces, hcomment, by simp⟩⟩
  · rw [hheader, hchars, List.append_nil, List.append_assoc]
  · rw [hheader, hchars, List.append_assoc _ (spaces tail.width)]

/-- With a value it is not. -/
theorem isHeader_value (gap : Nat) {leaf : Leaf} (hleaf : leaf.IsWritten) (rest : List Char) :
    isHeader (header ++ (spaces gap ++ leaf.chars ++ rest)) = false := by
  obtain ⟨c, more, hchars, hblank, hmark, hbreak⟩ := hleaf.exists_cons
  have hindent : isIndent c = false := hblank
  have hend : isReturnOrFeed c = false := by
    simp only [Yaml.isBreak, Bool.or_eq_false_iff] at hbreak
    simpa [isReturnOrFeed] using hbreak.1.1.1
  have hspaces : ∀ c ∈ spaces gap, isIndent c = true :=
    forall_mem_spaces (by decide) gap
  rw [← Bool.not_eq_true, isHeader_append, hchars, List.append_assoc, List.cons_append,
    Text.dropEndWhile_append_cons hend, List.dropWhile_append_of_pos hspaces,
    List.dropWhile_cons_of_neg (by simp [hindent])]
  simpa using hmark

/-! ### The indentation that is found -/

theorem isSkipped_margin (margin : Margin) :
    isSkipped margin.chars = true ∧ isSkipped (margin.chars ++ ['\n']) = true := by
  obtain ⟨width, comment⟩ := margin
  have hspaces : ∀ c ∈ spaces width, Text.isBlank c = true :=
    forall_mem_spaces (by decide) width
  have hfeed : Text.isBlank '\n' = true := rfl
  rw [isSkipped_iff, isSkipped_iff]
  cases comment with
  | none =>
    rw [Margin.chars_spaces]
    refine ⟨.inl hspaces, .inl (List.forall_mem_append.2 ⟨hspaces, ?_⟩)⟩
    simpa using hfeed
  | some text =>
    refine ⟨.inr ⟨spaces width, text, rfl, hspaces⟩, .inr ⟨spaces width, text ++ ['\n'], ?_, hspaces⟩⟩
    simp [Margin.chars]

theorem not_isBlank_of_starts {c : Char} (h : c.isAlpha ∨ c = '_') : Text.isBlank c = false := by
  rcases h with h | rfl
  · have hcodes := toNat_of_isAlpha h
    simp only [Text.isBlank, Bool.or_eq_false_iff, Bool.and_eq_false_iff, decide_eq_false_iff_not,
      beq_eq_false_iff_ne]
    omega
  · rfl

theorem isSkipped_key {key : List Char} (hkey : IsKey key) (column : Nat) (rest : List Char) :
    isSkipped (spaces column ++ key ++ rest) = false := by
  obtain ⟨c, more, rfl⟩ := List.exists_cons_of_ne_nil hkey.ne_nil
  have hblank : Text.isBlank c = false := not_isBlank_of_starts (hkey.starts c rfl)
  have hmark : c ≠ '#' := by
    rintro rfl
    exact absurd (hkey.starts '#' rfl) (by decide)
  have hspaces : ∀ c ∈ spaces column, Text.isBlank c = true :=
    forall_mem_spaces (by decide) column
  have hkept := Text.dropEndWhile_append_cons hblank [] (more ++ rest)
  rw [List.nil_append, List.nil_append] at hkept
  rw [isSkipped, Text.trimWhile, List.append_assoc, List.cons_append,
    List.dropWhile_append_of_pos hspaces, List.dropWhile_cons_of_neg (by simp [hblank]), hkept]
  simpa using hmark

theorem childIndent_margins (margins : List Margin) :
    childIndent (keptLines (margins.map Margin.chars)) = defaultIndent := by
  have hnone : (keptLines (margins.map Margin.chars)).find? (fun line => !isSkipped line) = none := by
    rw [List.find?_eq_none]
    intro found hfound
    obtain ⟨line, hline, hkept⟩ := mem_keptLines hfound
    obtain ⟨margin, -, rfl⟩ := List.mem_map.1 hline
    rcases hkept with rfl | rfl
    · simp [(isSkipped_margin margin).1]
    · simp [(isSkipped_margin margin).2]
  rw [childIndent, hnone]

/-- The indentation of spaces that an editor finds in front of a key. -/
def indentOf (column : Nat) : List Char :=
  if column = 0 then defaultIndent else spaces column

theorem childIndent_key {key : List Char} (hkey : IsKey key) (margins : List Margin) (column : Nat)
    (rest : List Char) (lines : List (List Char)) :
    childIndent (keptLines (margins.map Margin.chars ++ (spaces column ++ key ++ rest) :: lines)) =
      indentOf column := by
  -- The line of the key is the first one that is not passed over, and the key ends its indent.
  obtain ⟨more, others, hfound⟩ : ∃ more others, keptLines ((spaces column ++ key ++ rest) :: lines) =
      (spaces column ++ key ++ more) :: others := by
    by_cases hlines : lines = []
    · subst hlines
      have hne : spaces column ++ key ++ rest ≠ [] := by simp [hkey.ne_nil]
      exact ⟨rest, [], if_neg hne⟩
    · exact ⟨rest ++ ['\n'], _, by rw [keptLines_cons _ hlines, List.append_assoc _ rest]⟩
  have hmargins : ((margins.map Margin.chars).map (· ++ ['\n'])).find?
      (fun line => !isSkipped line) = none := by
    rw [List.find?_eq_none]
    intro line hline
    obtain ⟨row, hrow, rfl⟩ := List.mem_map.1 hline
    obtain ⟨margin, -, rfl⟩ := List.mem_map.1 hrow
    simp [(isSkipped_margin margin).2]
  have hindent : (spaces column ++ key ++ more).takeWhile isIndent = spaces column := by
    obtain ⟨c, others, rfl⟩ := List.exists_cons_of_ne_nil hkey.ne_nil
    have hblank : isIndent c = false := (hkey.chars c List.mem_cons_self).2.1
    have hspaces : ∀ c ∈ spaces column, isIndent c = true :=
      forall_mem_spaces (by decide) column
    rw [List.append_assoc, List.takeWhile_append_of_pos hspaces, List.cons_append,
      List.takeWhile_cons_of_neg (by simp [hblank]), List.append_nil]
  rw [childIndent, keptLines_append _ (List.cons_ne_nil _ lines), List.find?_append, hmargins, hfound,
    Option.none_or, List.find?_cons_of_pos (by rw [isSkipped_key hkey]; rfl)]
  dsimp only
  rw [hindent, indentOf]
  cases column <;> rfl

theorem childIndent_lines {block : Block} (hblock : block.IsWritten) (hne : block ≠ .nil) (column : Nat)
    (lines : List (List Char)) : childIndent (keptLines (block.lines column ++ lines)) =
      indentOf column := by
  cases block with
  | nil => exact absurd rfl hne
  | flat head value rest =>
    rw [Block.lines, Head.lines, List.append_assoc, List.append_assoc, List.singleton_append]
    exact childIndent_key hblock.1.2.1 head.lead column _ _
  | nested head depth inner rest =>
    rw [Block.lines, Head.lines, List.append_assoc, List.append_assoc, List.append_assoc,
      List.singleton_append]
    exact childIndent_key hblock.1.2.1 head.lead column _ _

end Manifest

end DartLayers
