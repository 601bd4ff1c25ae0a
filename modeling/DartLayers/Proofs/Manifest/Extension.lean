import DartLayers.Proofs.Manifest.Editing

/-!
# DartLayers — extending a manifest in block style

What an editor makes of a text in block style is a text in block style again. Its entries are those of
the text, with new ones in front of the entries under the key of the dependencies; if there is no such
key, it comes behind the others.

* **`extend_entriesAt`** — what a text is extended to.
-/

namespace DartLayers

open Yaml

namespace Manifest

variable {text : BlockText} {front inner rest : Block} {head : Head} {depth : Nat}
  {entries : List (String × String)} {isEmpty : Bool}

/-! ## Under the key -/

/-- Behind the line of the key there are the new entries and the lines that were there. -/
theorem extend_under (isEmpty : Bool) (entries : List (String × String)) {after : List (List Char)}
    (htext : text.IsWritten)
    (hlines : text.lines = front.lines 0 ++ (head.lines 0 [] ++ after)) (hfront : front.IsWritten)
    (hkeys : Dependencies.key.toList ∉ front.keys) (hkey : head.key = Dependencies.key.toList) :
    extend text.chars isEmpty entries = .ok (['\n'].intercalate (front.lines 0 ++ (head.lines 0 [] ++
      (entryRows (childIndent (keptLines after)) entries ++ if after = [] then [[]] else after)))) := by
  have hhead : ∀ more, front.lines 0 ++ (head.lines 0 [] ++ more) =
      (front.lines 0 ++ head.lead.map Margin.chars) ++ (header ++ head.tail.chars) :: more := by
    intro more
    have hline : spaces 0 ++ Dependencies.key.toList ++ ':' :: ([] ++ head.tail.chars) =
        header ++ head.tail.chars := rfl
    rw [Head.lines, hkey, hline]
    simp only [List.append_assoc, List.singleton_append]
  have hinline := BlockText.isInline_lines htext
  rw [hlines, hhead] at hinline
  rw [BlockText.chars, hlines, hhead, hhead]
  refine extend_of_header (fun line hline c hc => ?_) ?_ (isHeader_tail head.tail)
  · exact Text.not_endsLine_of_isInline (hinline line hline c hc)
  · refine List.forall_mem_append.2 ⟨isOther_lines hfront hkeys, ?_⟩
    intro line hline
    obtain ⟨margin, -, rfl⟩ := List.mem_map.1 hline
    exact isOther_margin margin

/-- Entries that can be written in front of others. -/
structure IsAddition (entries : List (String × String)) (inner : Block) : Prop where
  ne_nil : entries ≠ []
  texts : ∀ entry ∈ entries, Block.IsEntryText entry
  nodup : (entries.map Prod.fst).Nodup
  new : ∀ entry ∈ entries, entry.1.toList ∉ inner.keys

theorem IsAddition.isWritten (h : IsAddition entries inner) (hinner : inner.IsWritten) :
    Block.ofTexts entries inner ≠ .nil ∧ (Block.ofTexts entries inner).IsWritten := by
  refine ⟨?_, Block.isWritten_ofTexts h.texts h.nodup h.new hinner⟩
  obtain ⟨entry, others, rfl⟩ := List.exists_cons_of_ne_nil h.ne_nil
  rintro ⟨⟩

theorem lines_ofTexts_eq_entryRows (entries : List (String × String)) (inner : Block) (column : Nat) :
    (Block.ofTexts entries inner).lines column =
      entryRows (spaces column) entries ++ inner.lines column :=
  Block.lines_ofTexts column

/-- **Under the key** the text gets the new entries in front of those that are there. -/
theorem exists_target_under (isEmpty : Bool) (htext : text.IsWritten)
    (hlines : text.lines = front.lines 0 ++ (head.lines 0 [] ++
      (inner.lines (0 + depth + 1) ++ (rest.lines 0 ++ text.closing.map Margin.chars))))
    (hparts : front.IsWritten ∧ head.IsWritten ∧ rest.IsWritten ∧ head.key ∉ rest.keys ∧
      ∀ key ∈ front.keys, key ∉ head.key :: rest.keys) (hinner : inner.IsWritten)
    (hindent : childIndent (keptLines (inner.lines (0 + depth + 1) ++
      (rest.lines 0 ++ text.closing.map Margin.chars))) = spaces (0 + depth + 1))
    (hkeys : Dependencies.key.toList ∉ front.keys) (hkey : head.key = Dependencies.key.toList)
    (hentries : IsAddition entries inner) :
    ∃ target : BlockText, target.IsWritten ∧
      extend text.chars isEmpty entries = .ok target.chars ∧
      target.block = front.append (.nested head depth (.ofTexts entries inner) rest) := by
  have hextend := extend_under isEmpty entries htext hlines hparts.1 hkeys hkey
  rw [hindent] at hextend
  generalize hafter : inner.lines (0 + depth + 1) ++
    (rest.lines 0 ++ text.closing.map Margin.chars) = after at hextend
  -- behind a line that was the last one there is an empty line
  let closing : List Margin := if after = [] then [{}] else text.closing
  have hclosing : (if after = [] then [[]] else after) = inner.lines (0 + depth + 1) ++
      (rest.lines 0 ++ closing.map Margin.chars) := by
    simp only [closing]
    split
    · simp_all [Margin.chars, spaces]
    · rw [hafter]
  refine ⟨⟨_, closing⟩, ⟨Block.isWritten_append_nested.2 ⟨hparts, hentries.isWritten hinner⟩, ?_⟩,
    ?_, rfl⟩
  · simp only [closing]
    split
    · decide
    · exact htext.2
  · rw [hextend, hclosing, BlockText.chars, BlockText.lines, Block.lines_append, Block.lines,
      lines_ofTexts_eq_entryRows]
    simp only [List.append_assoc]

theorem exists_target_above (isEmpty : Bool) (htext : text.IsWritten)
    (hblock : text.block = front.append (.nested head depth inner rest))
    (hkeys : Dependencies.key.toList ∉ front.keys) (hkey : head.key = Dependencies.key.toList)
    (hentries : IsAddition entries inner) :
    ∃ target : BlockText, target.IsWritten ∧
      extend text.chars isEmpty entries = .ok target.chars ∧
      target.block = front.append (.nested head depth (.ofTexts entries inner) rest) := by
  have hwritten := htext.1
  rw [hblock, Block.isWritten_append_nested] at hwritten
  obtain ⟨hparts, hne, hinner⟩ := hwritten
  refine exists_target_under isEmpty htext ?_ hparts hinner ?_ hkeys hkey hentries
  · rw [BlockText.lines, hblock, Block.lines_append, Block.lines]
    simp only [List.append_assoc]
  · rw [childIndent_lines hinner hne, indentOf, if_neg (Nat.succ_ne_zero _)]

theorem exists_target_line (isEmpty : Bool) (htext : text.IsWritten)
    (hblock : text.block = front.append (.flat head none rest))
    (hkeys : Dependencies.key.toList ∉ front.keys) (hkey : head.key = Dependencies.key.toList)
    (hentries : IsAddition entries .nil) :
    ∃ target : BlockText, target.IsWritten ∧
      extend text.chars isEmpty entries = .ok target.chars ∧
      target.block = front.append (.nested head 1 (.ofTexts entries .nil) rest) := by
  have hwritten := htext.1
  rw [hblock, Block.isWritten_append_flat] at hwritten
  obtain ⟨hparts, -⟩ := hwritten
  refine exists_target_under isEmpty htext ?_ hparts trivial ?_ hkeys hkey hentries
  · rw [BlockText.lines, hblock, Block.lines_append, Block.lines, Block.lines, Block.valueChars]
    simp only [List.append_assoc, List.nil_append]
  · -- without entries under the key the entries behind it, in the first column, decide
    rw [Block.lines, List.nil_append]
    by_cases hrest : rest = .nil
    · rw [hrest, Block.lines, List.nil_append]
      exact childIndent_margins text.closing
    · rw [childIndent_lines hparts.2.2.1 hrest]
      rfl

/-! ## Without the key -/

/-- Ending the last line of a text ends each of its lines; an empty last line is none. -/
theorem append_missingFeed {lines front : List (List Char)} {last : List Char}
    (hlines : lines = front ++ [last]) (hlast : '\n' ∉ last) :
    let chars := ['\n'].intercalate lines
    chars ++ (if chars.isEmpty then [] else missingFeed chars) =
      (if last = [] then front else lines).flatMap (· ++ ['\n']) := by
  intro chars
  have hchars : chars = front.flatMap (· ++ ['\n']) ++ last := by
    have hcut := intercalate_append front (List.cons_ne_nil last [])
    rwa [List.intercalate_singleton, ← hlines] at hcut
  rw [hchars, hlines]
  rcases List.eq_nil_or_concat' last with rfl | ⟨body, c, rfl⟩
  · rcases List.eq_nil_or_concat' front with rfl | ⟨others, line, rfl⟩
    · rfl
    · simp [missingFeed]
  · have hc : c ≠ '\n' := by
      rintro rfl
      exact hlast (by simp)
    simp [missingFeed, hc]

theorem ne_nil_of_getLast?_head {column : Nat} {behind line : List Char}
    (h : (head.lines column behind).getLast? = some line) : line ≠ [] := by
  rw [Head.lines, List.getLast?_append, List.getLast?_singleton, Option.some_or] at h
  cases h
  simp

/-- The last line of entries is not empty. -/
theorem ne_nil_of_getLast?_lines {block : Block} {column : Nat} {line : List Char}
    (h : (block.lines column).getLast? = some line) : line ≠ [] := by
  induction block generalizing column with
  | nil => cases h
  | flat head value rest ih =>
    rw [Block.lines, List.getLast?_append, Option.or_eq_some_iff] at h
    rcases h with h | ⟨-, h⟩
    · exact ih h
    · exact ne_nil_of_getLast?_head h
  | nested head depth inner rest ihinner ihrest =>
    rw [Block.lines, List.getLast?_append, List.getLast?_append, Option.or_eq_some_iff,
      Option.or_eq_some_iff] at h
    rcases h with h | ⟨-, h | ⟨-, h⟩⟩
    · exact ihrest h
    · exact ihinner h
    · exact ne_nil_of_getLast?_head h

theorem feed_notMem_of_mem_lines (htext : text.IsWritten) : ∀ line ∈ text.lines, '\n' ∉ line :=
  fun line hline hmem => absurd (BlockText.isInline_lines htext line hline _ hmem) (by decide)

/-- What a key at the end of a text stands behind: the entries, and the lines behind them. -/
theorem exists_lead (htext : text.IsWritten) : ∃ lead : List Margin,
    (∀ margin ∈ lead, margin.IsWritten) ∧
      text.chars ++ (if text.chars.isEmpty then [] else missingFeed text.chars) =
        (text.block.lines 0 ++ lead.map Margin.chars).flatMap (· ++ ['\n']) := by
  have hfeed := feed_notMem_of_mem_lines htext
  obtain ⟨block, closing⟩ := text
  rcases List.eq_nil_or_concat' closing with rfl | ⟨margins, margin, rfl⟩
  · refine ⟨[], List.forall_mem_nil _, ?_⟩
    rw [BlockText.lines] at hfeed
    rw [BlockText.chars, BlockText.lines]
    rw [List.map_nil, List.append_nil] at hfeed ⊢
    rcases List.eq_nil_or_concat' (block.lines 0) with hlines | ⟨front, last, hlines⟩
    · rw [hlines]
      rfl
    · have hne : last ≠ [] := ne_nil_of_getLast?_lines (by rw [hlines, List.getLast?_concat])
      have hended := append_missingFeed hlines (hfeed last (by rw [hlines]; simp))
      rwa [if_neg hne] at hended
  · have hlines : BlockText.lines ⟨block, margins ++ [margin]⟩ =
        (block.lines 0 ++ margins.map Margin.chars) ++ [margin.chars] := by
      simp [BlockText.lines]
    have hended := append_missingFeed hlines (hfeed margin.chars (by rw [hlines]; simp))
    by_cases hempty : margin.chars = []
    · rw [if_pos hempty] at hended
      exact ⟨margins, fun other hother => htext.2 other (List.mem_append_left _ hother), hended⟩
    · rw [if_neg hempty] at hended
      exact ⟨margins ++ [margin], htext.2, hended⟩

/-- **Without the key** the text gets it with the new entries at its end. -/
theorem exists_target_behind (htext : text.IsWritten)
    (hkeys : Dependencies.key.toList ∉ text.block.keys) (hentries : IsAddition entries .nil) :
    ∃ (target : BlockText) (head : Head), target.IsWritten ∧ head.key = Dependencies.key.toList ∧
      append text.chars entries = target.chars ∧
      target.block = text.block.append (.nested head 1 (.ofTexts entries .nil) .nil) := by
  obtain ⟨lead, hlead, hended⟩ := exists_lead htext
  have hkey : IsKey Dependencies.key.toList := by decide
  have htail : Margin.IsTail {} := by decide
  have hother : ∀ key ∈ text.block.keys, key ∉ [Dependencies.key.toList] := by
    rintro key hmem hkey
    rw [List.mem_singleton.1 hkey] at hmem
    exact hkeys hmem
  have hnil : Block.IsWritten .nil := trivial
  have hclosing : ∀ margin ∈ [({} : Margin)], margin.IsWritten := by decide
  refine ⟨⟨_, [{}]⟩, { lead, key := Dependencies.key.toList },
    ⟨Block.isWritten_append_nested.2 ⟨⟨htext.1, ⟨hlead, hkey, htail⟩, hnil, List.not_mem_nil,
      hother⟩, hentries.isWritten hnil⟩, hclosing⟩, rfl, ?_, rfl⟩
  have hlines : BlockText.lines ⟨text.block.append (.nested { lead, key := Dependencies.key.toList } 1
      (.ofTexts entries .nil) .nil), [{}]⟩ = (text.block.lines 0 ++ lead.map Margin.chars ++
        [header] ++ entryRows defaultIndent entries) ++ [[]] := by
    have hline : spaces 0 ++ Dependencies.key.toList ++ ':' :: ([] ++ Margin.chars {}) = header := rfl
    have hindent : spaces (0 + 1 + 1) = defaultIndent := rfl
    have hclosed : [({} : Margin)].map Margin.chars = [[]] := rfl
    rw [BlockText.lines, Block.lines_append, Block.lines, Head.lines, lines_ofTexts_eq_entryRows, hline, hindent,
      hclosed]
    simp only [Block.lines, List.append_nil, List.append_assoc]
  rw [append, hended, BlockText.chars, hlines, intercalate_append _ (List.cons_ne_nil [] []),
    entryLines_eq_flatMap]
  simp

/-! ## What a text is extended to -/

theorem isOther_margins (margins : List Margin) :
    ∀ line ∈ margins.map Margin.chars, IsOther line := by
  intro line hline
  obtain ⟨margin, -, rfl⟩ := List.mem_map.1 hline
  exact isOther_margin margin

/-- A key with a value on its line is no header, but it looks like one. -/
theorem extend_value {gap : Nat} {leaf : Leaf} (htext : text.IsWritten)
    (hblock : text.block = front.append (.flat head (some (gap, leaf)) rest))
    (hkeys : Dependencies.key.toList ∉ front.keys) (hkey : head.key = Dependencies.key.toList) :
    extend text.chars isEmpty entries = .error .notBlock := by
  have hwritten := htext.1
  rw [hblock, Block.isWritten_append_flat] at hwritten
  obtain ⟨⟨hfront, -, hrest, hagain, -⟩, hvalue⟩ := hwritten
  have hleaf := (hvalue _ rfl).1
  let line := header ++ (spaces (gap + 1) ++ leaf.chars ++ head.tail.chars)
  have hlines : text.lines = front.lines 0 ++ (head.lead.map Margin.chars ++
      line :: (rest.lines 0 ++ text.closing.map Margin.chars)) := by
    have hline : spaces 0 ++ Dependencies.key.toList ++
        ':' :: (spaces (gap + 1) ++ leaf.chars ++ head.tail.chars) = line := rfl
    rw [BlockText.lines, hblock, Block.lines_append, Block.lines, Head.lines, Block.valueChars, hkey,
      hline]
    simp only [List.append_assoc, List.cons_append, List.nil_append]
  -- No line is a header: the other keys are different, and this one has its value behind the colon.
  have hnone : ∀ other ∈ text.lines, isHeader other = false ∧ isHeader (other ++ ['\n']) = false := by
    have hothers : ∀ {lines : List (List Char)}, (∀ other ∈ lines, IsOther other) →
        ∀ other ∈ lines, isHeader other = false ∧ isHeader (other ++ ['\n']) = false :=
      fun h other hother => isHeader_of_isOther (h other hother)
    have hvalue : isHeader line = false ∧ isHeader (line ++ ['\n']) = false := by
      have hended := isHeader_value (gap + 1) hleaf (head.tail.chars ++ ['\n'])
      refine ⟨isHeader_value _ hleaf head.tail.chars, ?_⟩
      rwa [← List.append_assoc (spaces (gap + 1) ++ leaf.chars), ← List.append_assoc header] at hended
    rw [hlines, List.forall_mem_append, List.forall_mem_append, List.forall_mem_cons,
      List.forall_mem_append]
    rw [hkey] at hagain
    exact ⟨hothers (isOther_lines hfront hkeys), hothers (isOther_margins head.lead), hvalue,
      hothers (isOther_lines hrest hagain), hothers (isOther_margins text.closing)⟩
  have hmem : line ∈ text.lines := by
    rw [hlines]
    simp
  -- Still a line starts like one, so the text is not taken for one without dependencies.
  have hstart : startsHeader text.chars = true := by
    rw [startsHeader, BlockText.chars, Text.splitOn_intercalate (List.ne_nil_of_mem hmem)
      (feed_notMem_of_mem_lines htext), List.any_eq_true]
    exact ⟨line, hmem, List.isPrefixOf_iff_prefix.2 (List.prefix_append _ _)⟩
  rw [BlockText.chars, extend_of_none (fun other hother c hc => Text.not_endsLine_of_isInline
    (BlockText.isInline_lines htext other hother c hc)) hnone, ← BlockText.chars, hstart, Bool.or_true,
    if_pos rfl]

/-- **A text in block style is extended to another one**, with the new entries in front of those under
the key of the dependencies. -/
theorem extend_entriesAt (htext : text.IsWritten)
    (hat : text.block.EntriesAt Dependencies.key.toList inner) (hentries : IsAddition entries inner)
    {extended : List Char} (h : extend text.chars isEmpty entries = .ok extended) :
    ∃ target : BlockText, target.IsWritten ∧ target.chars = extended ∧
      target.block.EntriesAt Dependencies.key.toList (.ofTexts entries inner) := by
  generalize hblock : text.block = block at hat
  -- One case for each place of the dependencies: nowhere, on the line of the key, or on lines of
  -- their own.
  cases hat with
  | nowhere hkeys =>
    rw [← hblock] at hkeys
    have hnone : ∀ line ∈ text.lines, IsOther line :=
      List.forall_mem_append.2 ⟨isOther_lines htext.1 hkeys, isOther_margins text.closing⟩
    rw [BlockText.chars, extend_of_none (fun other hother c hc => Text.not_endsLine_of_isInline
      (BlockText.isInline_lines htext other hother c hc))
      fun line hline => isHeader_of_isOther (hnone line hline), ← BlockText.chars] at h
    split at h
    · cases h
    · obtain ⟨target, head, htarget, hkey, hchars, hresult⟩ := exists_target_behind htext hkeys hentries
      cases h
      exact ⟨target, htarget, hchars.symm, hresult ▸ .above _ hkeys hkey⟩
  | @line front rest head value hkeys hkey hvalue =>
    cases value with
    | none =>
      obtain ⟨target, htarget, hextend, hresult⟩ :=
        exists_target_line isEmpty htext hblock hkeys hkey hentries
      rw [hextend] at h
      cases h
      exact ⟨target, htarget, rfl, hresult ▸ .above _ hkeys hkey⟩
    | some entry =>
      rw [extend_value htext hblock hkeys hkey] at h
      cases h
  | above front hkeys hkey =>
    obtain ⟨target, htarget, hextend, hresult⟩ :=
      exists_target_above isEmpty htext hblock hkeys hkey hentries
    rw [hextend] at h
    cases h
    exact ⟨target, htarget, rfl, hresult ▸ .above _ hkeys hkey⟩

end Manifest

end DartLayers
