import DartLayers.Proofs.Yaml.Scalars
import Mathlib.Logic.Relation

/-!
# DartLayers — the tokens of a text in block style

A scanner reads one token after another, and what it still has to read decides what it does next. At
every place of a text in block style that is known: behind a line there are margins, and behind them
the next entry, in the column of its mapping or in one of those around it. A mapping is opened by the
first of its keys; it is closed when an entry comes that is indented less, or by the end of the text.

* **`Ahead`** — what a scanner has still to read behind the end of a line.
* **`Scanner.Unwinds`**, **`Scanner.Owes`** — which tokens are due before the next entry.
* **`Scanner.Step`** — a step of the scanner to the next token.
* **`Block.isScanned`** — the entries of a block are read as their tokens.
* **`BlockText.scanTokens_chars`** — the tokens of a text.
-/

namespace DartLayers.Yaml

/-! ## What lies ahead -/

/-- What lies ahead behind the end of a line: margins on lines of their own, and a text that starts in
a column. -/
structure Ahead where
  margins : List Margin
  text : List Char
  column : Nat

namespace Ahead

/-- What lies ahead, as it is written. -/
def chars (ahead : Ahead) : List Char :=
  behind (ahead.margins.map Margin.chars) ++ ahead.text

/-- The text, if there is one, starts behind the spaces of the last margin. -/
def IsWritten (ahead : Ahead) : Prop :=
  (∀ margin ∈ ahead.margins, margin.IsWritten) ∧ StartsEntry ahead.text ∧
    (ahead.text = [] ∨ ∃ lead, ahead.margins = lead ++ [⟨ahead.column, none⟩])

end Ahead

theorem marginText_ahead (margin : Margin) (ahead : Ahead) :
    marginText margin ahead.margins ahead.text = margin.chars ++ ahead.chars := by
  rw [marginText, Ahead.chars, List.append_assoc]

/-- What lies ahead behind a line if entries in a column come first. -/
def Block.ahead (column : Nat) : Block → Ahead → Ahead
  | nil, last => last
  | flat head value rest, last => ⟨head.lead ++ [⟨column, none⟩], head.key ++ ':' ::
      (valueChars value ++ (head.tail.chars ++ (rest.ahead column last).chars)), column⟩
  | nested head depth inner rest, last => ⟨head.lead ++ [⟨column, none⟩], head.key ++ ':' ::
      (head.tail.chars ++ (inner.ahead (column + depth + 1) (rest.ahead column last)).chars), column⟩

theorem Margin.chars_spaces (width : Nat) : chars ⟨width, none⟩ = spaces width := by
  simp [chars]

/-- What lies ahead are the lines of the entries, and what is behind them. -/
theorem Block.chars_ahead (block : Block) (column : Nat) (last : Ahead) :
    (block.ahead column last).chars = behind (block.lines column) ++ last.chars := by
  induction block generalizing column last with
  | nil => rfl
  | flat head value rest ih =>
    rw [ahead, Ahead.chars, ih]
    simp [lines, Head.lines, behind, Margin.chars_spaces]
  | nested head depth inner rest ihinner ihrest =>
    rw [ahead, Ahead.chars, ihinner, ihrest]
    simp [lines, Head.lines, behind, Margin.chars_spaces]

theorem Block.isWritten_ahead {block : Block} (h : block.IsWritten) {column : Nat} {last : Ahead}
    (hlast : last.IsWritten) : (block.ahead column last).IsWritten := by
  have hhead : ∀ {head : Head} (behind : List Char), head.IsWritten →
      Ahead.IsWritten ⟨head.lead ++ [⟨column, none⟩], head.key ++ ':' :: behind, column⟩ := by
    rintro head behind ⟨hlead, hkey, -⟩
    refine ⟨fun margin hmargin => ?_, fun c hc => hkey.starts c ?_, .inr ⟨head.lead, rfl⟩⟩
    · rcases List.mem_append.1 hmargin with hmem | hmem
      · exact hlead margin hmem
      · obtain rfl := List.mem_singleton.1 hmem
        rintro text ⟨⟩
    · cases hcut : head.key with
      | nil => exact absurd hcut hkey.ne_nil
      | cons d rest => simpa [hcut] using hc
  cases block with
  | nil => exact hlast
  | flat head value rest => exact hhead _ h.1
  | nested head depth inner rest => exact hhead _ h.1

theorem lastMargin_append (margin last : Margin) (lead : List Margin) :
    lastMargin margin (lead ++ [last]) = last := by
  induction lead generalizing margin with
  | nil => rfl
  | cons other lead ih => exact ih other

theorem lastMargin_eq {margin last : Margin} {others lead : List Margin}
    (h : margin :: others = lead ++ [last]) : lastMargin margin others = last := by
  cases lead with
  | nil =>
    cases h
    rfl
  | cons first lead =>
    cases h
    exact lastMargin_append margin last lead

/-- Behind the end of a line there are margins only, up to the text that lies ahead. -/
theorem Ahead.IsWritten.between {ahead : Ahead} (h : ahead.IsWritten) {margin : Margin}
    (hmargin : margin.IsWritten) (index line place : Nat) :
    ∃ column, Between ⟨marginText margin ahead.margins ahead.text, index, line, place⟩ margin
        ahead.margins ahead.text column ∧
      (ahead.text ≠ [] → column = ahead.column ∧ ahead.margins ≠ []) := by
  obtain ⟨hmargins, hstart, hplace⟩ := h
  refine ⟨_, ⟨rfl, hmargin, hmargins, hstart, hplace.imp_right ?_, rfl⟩, fun htext => ?_⟩
  · rintro ⟨lead, hlead⟩
    rw [hlead, lastMargin_append]
  · obtain ⟨lead, hlead⟩ := hplace.resolve_left htext
    rw [hlead, lastMargin_append, Margin.chars_spaces, length_spaces, if_neg (by simp), Nat.zero_add]
    exact ⟨rfl, by simp⟩

/-- What stands behind a colon ends the key in front of it. -/
theorem endsWord_behindColon {value : Option (Nat × Leaf)} {tail : Margin} (htail : tail.IsTail)
    {ahead : Ahead} (hahead : ahead.IsWritten) :
    endsWord ((Block.valueChars value ++ (tail.chars ++ ahead.chars)).headD endOfText) = true := by
  cases value with
  | none =>
    obtain ⟨target, hbetween, htarget⟩ := hahead.between htail.1 0 0 0
    have hends := hbetween.endsWord_peek htail fun htext => (htarget htext).2
    rwa [Cursor.peek, marginText_ahead] at hends
  | some entry => rfl

/-! ## Block collections -/

/-- The first character of a key is no mark. -/
theorem IsKey.exists_cons {key : List Char} (h : IsKey key) : ∃ c rest, key = c :: rest ∧
    isIndicator c = false ∧ endsWord c = false ∧ c ≠ '.' := by
  obtain ⟨c, rest, rfl⟩ := List.exists_cons_of_ne_nil h.ne_nil
  obtain ⟨hinline, hblank, -⟩ := h.chars c List.mem_cons_self
  have hstart := h.starts c rfl
  refine ⟨c, rest, rfl, ?_, endsWord_of_isInline ⟨hinline, hblank⟩, ?_⟩
  · rw [← Bool.not_eq_true]
    intro hmark
    have hnone : [',', '[', ']', '\x7b', '\x7d', '-', '?', ':', '#', '&', '*', '!', '|', '>', '\'',
        '"', '%', '@', '\x60'].all (fun mark => !(mark.isAlpha || mark == '_')) = true := by
      decide
    have hother := List.all_eq_true.1 hnone c
      (by simpa [isIndicator, isFlowIndicator, or_assoc] using hmark)
    simp at hother
    exact hstart.elim (by simp [hother.1]) hother.2
  · rintro rfl
    revert hstart
    decide

namespace Scanner

variable {scanner : Scanner} {tokens : List Token} {indent : Int} {outer : List Int}

/-- Ending the block collections that are indented deeper than a column leads to other tokens and
other columns. -/
def Unwinds (scanner : Scanner) (column : Int) (tokens : List Token) (indent : Int)
    (outer : List Int) : Prop :=
  ∃ ended, closing column scanner.indent scanner.outer = (ended, indent, outer) ∧
    tokens = List.replicate ended .blockEnd ++ scanner.tokens

/-- The tokens and the columns are given but for block collections that are indented deeper than
`indent` and have not been ended yet. -/
def Owes (scanner : Scanner) (tokens : List Token) (indent : Int) (outer : List Int) : Prop :=
  ∀ column ≤ indent, ∀ ended next around, closing column indent outer = (ended, next, around) →
    scanner.Unwinds column (List.replicate ended .blockEnd ++ tokens) next around

theorem closing_of_le {column : Int} (h : indent ≤ column) (outer : List Int) :
    closing column indent outer = (0, indent, outer) := by
  cases outer with
  | nil => rfl
  | cons next outer => rw [closing, if_neg (by omega)]

theorem unwinds_of_le {column : Int} (h : scanner.indent ≤ column) :
    scanner.Unwinds column scanner.tokens scanner.indent scanner.outer :=
  ⟨0, closing_of_le h scanner.outer, rfl⟩

theorem Owes.unwinds (h : scanner.Owes tokens indent outer) :
    scanner.Unwinds indent tokens indent outer :=
  h indent (Int.le_refl indent) 0 indent outer (closing_of_le (Int.le_refl indent) outer)

theorem owes_self : scanner.Owes scanner.tokens scanner.indent scanner.outer :=
  fun _ _ ended _ _ hclosing => ⟨ended, hclosing, rfl⟩

/-- A block collection that has not been ended yet is owed to what is around it. -/
theorem Owes.around {deep : Int} (h : scanner.Owes tokens deep (indent :: outer))
    (hdeep : indent < deep) : scanner.Owes (.blockEnd :: tokens) indent outer := by
  intro column hcolumn ended next around hclosing
  have hended : closing column deep (indent :: outer) = (ended + 1, next, around) := by
    rw [closing, if_pos (by omega), hclosing]
  have hunwinds := h column (by omega) _ _ _ hended
  rwa [List.replicate_succ', List.append_assoc] at hunwinds

/-- Ending block collections in two steps. -/
theorem closing_closing {column deep : Int} (h : column ≤ deep) {ended more : Nat}
    {middle next : Int} {between around : List Int}
    (hdeep : closing deep indent outer = (ended, middle, between))
    (hcolumn : closing column middle between = (more, next, around)) :
    closing column indent outer = (ended + more, next, around) := by
  induction outer generalizing indent ended with
  | nil =>
    obtain ⟨rfl, rfl, rfl⟩ : ended = 0 ∧ middle = indent ∧ between = [] := by
      simpa [closing, eq_comm] using hdeep
    simpa using hcolumn
  | cons around outer ih =>
    rw [closing] at hdeep
    split at hdeep
    · rename_i hover
      rcases hrest : closing deep around outer with ⟨count, reached⟩
      rw [hrest] at hdeep
      cases hdeep
      rw [closing, if_pos (by omega), ih hrest, Nat.add_right_comm]
    · cases hdeep
      simpa using hcolumn

/-! ## Steps -/

/-- Outside flow collections the text goes on. -/
structure IsOpen (scanner : Scanner) : Prop where
  count_eq : scanner.count = scanner.tokens.length
  flowLevel_eq : scanner.flowLevel = 0
  isDone_eq : scanner.isDone = false

/-- A step adds a token and comes closer to the end of the text. -/
def Step (scanner after : Scanner) : Prop :=
  scanner.isDone = false ∧ scanner.next = .ok after ∧
    after.cursor.rest.length < scanner.cursor.rest.length

/-- **Steps do not run out**: there is at least one more than there are characters. -/
theorem scan_of_steps {scanner after : Scanner} (h : Relation.ReflTransGen Step scanner after)
    {bound : Nat} (hbound : scanner.cursor.rest.length + 2 ≤ bound) :
    ∃ left, after.cursor.rest.length + 2 ≤ left ∧ scan bound scanner = scan left after := by
  induction h using Relation.ReflTransGen.head_induction_on generalizing bound with
  | refl => exact ⟨bound, hbound, rfl⟩
  | @head _ middle hstep _ ih =>
    obtain ⟨hdone, hnext, hless⟩ := hstep
    obtain ⟨bound, rfl⟩ : ∃ n, bound = n + 1 := ⟨bound - 1, by omega⟩
    have hfewer : middle.cursor.rest.length + 2 ≤ bound := by omega
    obtain ⟨left, hleft, hscan⟩ := ih hfewer
    refine ⟨left, hleft, ?_⟩
    rw [scan, hdone, if_neg Bool.false_ne_true, hnext]
    exact hscan

theorem read_eq {α : Type} {reading : Reading α} {value : α} {stop : Cursor}
    (h : Reads reading scanner.cursor value stop) :
    scanner.read reading = .ok (value, { scanner with cursor := stop }) := by
  rw [read, StateT.run, show reading scanner.cursor = _ from h]
  rfl

/-- Candidates that can still become keys are not dropped. -/
theorem dropStale_of_fresh (hfresh : ∀ entry ∈ scanner.candidates,
    entry.2.line = scanner.cursor.line ∧ scanner.cursor.index ≤ entry.2.index + maxKeyLength) :
    scanner.dropStale = .ok scanner := by
  have hstale : ∀ entry ∈ scanner.candidates, scanner.isStale entry.2 = false := by
    intro entry hentry
    obtain ⟨hline, hindex⟩ := hfresh entry hentry
    simp only [isStale, hline, bne_self_eq_false, Bool.false_or, decide_eq_false_iff_not]
    omega
  have hpartition : scanner.candidates.partition (fun entry => scanner.isStale entry.2) =
      ([], scanner.candidates) := by
    rw [List.partition_eq_filter_filter, Prod.mk.injEq, List.filter_eq_nil_iff, List.filter_eq_self]
    exact ⟨fun entry hentry => by simp [hstale entry hentry],
      fun entry hentry => by simp [hstale entry hentry]⟩
  rw [dropStale, hpartition]
  rfl

/-- What a step comes to after spaces, comments and breaks have been passed over. -/
theorem next_eq {afterBreak : Bool} {cursor : Cursor} (hopen : scanner.IsOpen)
    (hskip : Reads (skipToToken scanner.cursor.bound false) scanner.cursor afterBreak cursor)
    (hfresh : ∀ entry ∈ scanner.candidates,
      entry.2.line = cursor.line ∧ cursor.index ≤ entry.2.index + maxKeyLength)
    (hunwinds : scanner.Unwinds cursor.column tokens indent outer) :
    scanner.next = Scanner.addToken { scanner with
      cursor, tokens, count := tokens.length, indent, outer
      allowsKey := scanner.allowsKey || afterBreak } := by
  obtain ⟨ended, hclosing, rfl⟩ := hunwinds
  have hallows : (scanner.allowsKey || (afterBreak && !inFlow { scanner with cursor })) =
      (scanner.allowsKey || afterBreak) := by
    simp [inFlow, hopen.flowLevel_eq]
  have hdrop : Scanner.dropStale { scanner with
      cursor, allowsKey := scanner.allowsKey || afterBreak } = .ok { scanner with
        cursor, allowsKey := scanner.allowsKey || afterBreak } := dropStale_of_fresh hfresh
  rw [next, read_eq hskip]
  simp only [Bind.bind, Except.bind, hallows, hdrop]
  rw [unwind, if_neg (by simp [inFlow, hopen.flowLevel_eq])]
  simp only [hclosing, hopen.count_eq, List.length_append, List.length_replicate, Nat.add_comm]

/-- What is no mark of any kind starts a plain scalar. -/
theorem addToken_plain {c : Char} (hpeek : scanner.cursor.peek = c) (hmark : isIndicator c = false)
    (hword : endsWord c = false) (hpoint : scanner.cursor.column ≠ 0 ∨ c ≠ '.') :
    scanner.addToken = scanner.addPlain := by
  have hother : ∀ mark, isIndicator mark = true → (c == mark) = false := by
    rintro mark hindicator
    rw [beq_eq_false_iff_ne]
    rintro rfl
    rw [hmark] at hindicator
    cases hindicator
  have hhyphen : scanner.cursor.atMark '-' = false :=
    Cursor.atMark_of_peek_ne (by simpa [hpeek] using hother '-' rfl)
  have hdots : (scanner.cursor.column == 0 && scanner.cursor.atMark '.') = false := by
    rcases hpoint with hcolumn | hpoint
    · simp [hcolumn]
    · rw [Cursor.atMark_of_peek_ne (hpeek ▸ hpoint), Bool.and_false]
  have hend : (c == endOfText) = false := by
    rw [beq_eq_false_iff_ne]
    rintro rfl
    cases hword
  have hstarts : scanner.startsPlain = true := by
    simp [startsPlain, hpeek, hmark, hword]
  simp only [addToken, hpeek, hhyphen, hdots, hend, hstarts, hother '%' rfl, hother '[' rfl,
    hother '\x7b' rfl, hother ']' rfl, hother '\x7d' rfl, hother ',' rfl, hother '-' rfl,
    hother '?' rfl, hother ':' rfl, hother '*' rfl, hother '&' rfl, hother '!' rfl, hother '|' rfl,
    hother '>' rfl, hother '\'' rfl, hother '"' rfl, Bool.and_false, Bool.false_and, Bool.or_false,
    Bool.false_eq_true, if_false, if_true]

/-- A colon in front of a blank ends a key. -/
theorem addToken_colon (hpeek : scanner.cursor.peek = ':')
    (hbehind : endsWord (scanner.cursor.peekAt 1) = true) :
    scanner.addToken = scanner.addValue := by
  have hhyphen : scanner.cursor.atMark '-' = false := Cursor.atMark_of_peek_ne (by simp [hpeek])
  have hdots : scanner.cursor.atMark '.' = false := Cursor.atMark_of_peek_ne (by simp [hpeek])
  simp [addToken, hpeek, hhyphen, hdots, atMark, hbehind, endOfText]

/-- A quote starts a quoted scalar. -/
theorem addToken_quote {quote : Char} (hquote : quote = '\'' ∨ quote = '"')
    (hpeek : scanner.cursor.peek = quote) :
    scanner.addToken = scanner.addNode (.scalar false <$> Reading.flowScalar quote) := by
  have hhyphen : scanner.cursor.atMark '-' = false :=
    Cursor.atMark_of_peek_ne (by rcases hquote with rfl | rfl <;> simp [hpeek])
  have hdots : scanner.cursor.atMark '.' = false :=
    Cursor.atMark_of_peek_ne (by rcases hquote with rfl | rfl <;> simp [hpeek])
  rcases hquote with rfl | rfl <;> simp [addToken, hpeek, hhyphen, hdots, endOfText]

theorem addToken_end (hrest : scanner.cursor.rest = []) : scanner.addToken = scanner.addEnd := by
  simp [addToken, Cursor.peek, hrest]

/-! ## Entries -/

/-- A place between entries: a text that starts in a column lies ahead, and a key may stand there. -/
structure IsBetween (scanner : Scanner) (text : List Char) (column : Nat) : Prop extends
    IsOpen scanner where
  candidates_eq : scanner.candidates = []
  between : ∃ margin others target, Between scanner.cursor margin others text target ∧
    (text ≠ [] → target = column ∧ (scanner.allowsKey || !others.isEmpty) = true)

/-- The scanner behind the colon of a key in a column. -/
def behindColon (behind : List Char) (index line place : Nat) (tokens : List Token) (indent : Int)
    (outer : List Int) : Scanner :=
  { cursor := ⟨behind, index, line, place⟩, tokens, count := tokens.length, indent, outer
    allowsKey := false }

/-- The tokens of a key in a column, last first; the first key of a mapping has one more. -/
def keyTokens (key : List Char) (column : Nat) (indent : Int) (tokens : List Token) : List Token :=
  [.value, .scalar true key, .key] ++ (if indent < column then [.blockMapping] else []) ++ tokens

/-- The scanner behind a key in a column, which is a candidate. -/
def behindKey (key behind : List Char) (index line column : Nat) (tokens : List Token) (indent : Int)
    (outer : List Int) : Scanner :=
  { cursor := ⟨':' :: behind, index + key.length, line, column + key.length⟩
    tokens := .scalar true key :: tokens
    count := tokens.length + 1
    indent, outer
    allowsKey := false
    candidates := [(0, ⟨tokens.length, indent == column, index, line, column⟩)] }

/-- A plain scalar becomes a candidate where a key may stand. -/
theorem addPlain_eq {cursor stop : Cursor} {text : List Char} {afterBreak : Bool} (allowsKey : Bool)
    (hreads : Reads (Reading.plainScalar false indent) cursor (text, afterBreak) stop) :
    addPlain { cursor, tokens, count := tokens.length, indent, outer, allowsKey } = .ok
      { cursor := stop
        tokens := .scalar true text :: tokens
        count := tokens.length + 1
        indent, outer
        allowsKey := afterBreak
        candidates := if allowsKey then [(0, ⟨tokens.length, indent == cursor.column, cursor.index,
          cursor.line, cursor.column⟩)] else [] } := by
  have hcandidate : addCandidate { cursor, tokens, count := tokens.length, indent, outer, allowsKey } =
      .ok { cursor, tokens, count := tokens.length, indent, outer, allowsKey
            candidates := if allowsKey then [(0, ⟨tokens.length, indent == cursor.column, cursor.index,
              cursor.line, cursor.column⟩)] else [] } := by
    cases allowsKey <;> rfl
  rw [addPlain, hcandidate]
  simp only [Bind.bind, Except.bind, inFlow, bne_self_eq_false]
  rw [read_eq hreads]
  rfl

/-- A node where no key may stand becomes no candidate. -/
theorem addNode_eq {cursor stop : Cursor} {reading : Reading Token} {token : Token}
    (hreads : Reads reading cursor token stop) :
    addNode reading { cursor, tokens, count := tokens.length, indent, outer, allowsKey := false } = .ok
      { cursor := stop
        tokens := token :: tokens
        count := tokens.length + 1
        indent, outer
        allowsKey := false } := by
  have hcandidate : addCandidate
      { cursor, tokens, count := tokens.length, indent, outer, allowsKey := false } =
        .ok { cursor, tokens, count := tokens.length, indent, outer, allowsKey := false } := rfl
  rw [addNode, hcandidate]
  simp only [Bind.bind, Except.bind]
  rw [read_eq hreads]
  rfl

theorem step_key {key behind : List Char} {column : Nat} (hkey : IsKey key)
    (hbehind : endsWord (behind.headD endOfText) = true)
    (h : scanner.IsBetween (key ++ ':' :: behind) column)
    (hunwinds : scanner.Unwinds column tokens indent outer) :
    ∃ index line,
      Step scanner (behindKey key behind index line column tokens indent outer) := by
  obtain ⟨hopen, hcandidates, margin, others, target, hbetween, htarget⟩ := h
  obtain ⟨rfl, hallows⟩ := htarget (by simp)
  obtain ⟨index, line, hskip⟩ := hbetween.reads_skipToToken (Nat.lt_succ_self _) false
  have hnext := next_eq hopen hskip (by simp [hcandidates]) hunwinds
  obtain ⟨c, rest, hcons, hmark, hword, hpoint⟩ := hkey.exists_cons
  refine ⟨index, line, hopen.isDone_eq, ?_, ?_⟩
  · rw [hnext, addToken_plain (c := c) (by simp [Cursor.peek, hcons]) hmark hword (.inr hpoint)]
    obtain ⟨cursor, before, count, flowLevel, deep, around, allowsKey, candidates, isDone⟩ := scanner
    obtain ⟨-, rfl, rfl⟩ := hopen
    obtain rfl : candidates = [] := hcandidates
    simp only [Bool.false_or, hallows]
    exact addPlain_eq true (reads_key hkey hbehind indent)
  · have hless := hbetween.length_le
    simp only [hcons, List.length_append, List.length_cons] at hless
    simp only [behindKey, List.length_cons]
    omega

theorem step_colon {key behind : List Char} {index line column : Nat} (hkey : IsKey key)
    (hbehind : endsWord (behind.headD endOfText) = true) (hindent : indent ≤ column) :
    Step (behindKey key behind index line column tokens indent outer)
      (behindColon behind (index + key.length + 1) line (column + key.length + 1)
        (keyTokens key column indent tokens) column
        (if indent < column then indent :: outer else outer)) := by
  have hskip : Reads (skipToToken (behind.length + 2) false)
      (behindKey key behind index line column tokens indent outer).cursor false
      ⟨':' :: behind, index + key.length, line, column + key.length⟩ :=
    reads_skipSpaces 0 (by rintro c ⟨⟩; decide) (Nat.succ_pos _) false
  have hunwinds : (behindKey key behind index line column tokens indent outer).Unwinds
      ((column + key.length : Nat) : Int) (.scalar true key :: tokens) indent outer :=
    unwinds_of_le (by simp only [behindKey]; omega)
  -- The key is short enough and on the same line, so it is still a candidate.
  have hfresh : key.length ≤ maxKeyLength := hkey.length_le
  have hopen : (behindKey key behind index line column tokens indent outer).IsOpen :=
    ⟨rfl, rfl, rfl⟩
  have hnext := next_eq hopen hskip (by simpa [behindKey] using hfresh) hunwinds
  refine ⟨rfl, ?_, Nat.lt_succ_self _⟩
  rw [hnext, addToken_colon rfl]
  · have hcolon : Cursor.advance 1
        ⟨':' :: behind, index + key.length, line, column + key.length⟩ =
          ⟨behind, index + key.length + 1, line, column + key.length + 1⟩ :=
      Cursor.step_inline (by decide : isInline ':' = true) behind _ line _
    have hone : tokens.length + 1 - tokens.length = 1 := by omega
    have htwo : tokens.length + 1 + 1 - tokens.length = 2 := by omega
    -- The first key of a mapping opens it, in front of the key's own token.
    by_cases hopens : indent < column
    · simp [addValue, behindKey, candidate?, confirm, insertAt, opens, hopens, inFlow, indentTo,
        pushMark, push, behindColon, keyTokens, hcolon, hone, htwo, Pure.pure, Except.pure]
    · obtain rfl : indent = column := by omega
      simp [addValue, behindKey, candidate?, confirm, insertAt, opens, inFlow,
        pushMark, push, behindColon, keyTokens, hcolon, hone, Pure.pure, Except.pure]
  · cases behind <;> exact hbehind

/-- **A key** is read with its colon. -/
theorem steps_key {key behind : List Char} {column : Nat} (hkey : IsKey key)
    (hbehind : endsWord (behind.headD endOfText) = true)
    (h : scanner.IsBetween (key ++ ':' :: behind) column)
    (hunwinds : scanner.Unwinds column tokens indent outer) (hindent : indent ≤ column) :
    ∃ index line, Relation.ReflTransGen Step scanner
      (behindColon behind index line (column + key.length + 1) (keyTokens key column indent tokens)
        column (if indent < column then indent :: outer else outer)) := by
  obtain ⟨index, line, hstep⟩ := step_key hkey hbehind h hunwinds
  exact ⟨_, line, .tail (.single hstep) (step_colon hkey hbehind hindent)⟩

/-- **A scalar** is read behind the colon of its key. -/
theorem step_value {gap index line place : Nat} {leaf : Leaf} (hleaf : leaf.IsWritten) {tail : Margin}
    (htail : tail.IsTail) {ahead : Ahead} (hahead : ahead.IsWritten)
    (hcolumn : ahead.text ≠ [] → (ahead.column : Int) ≤ indent) (hplace : indent ≤ place) :
    ∃ after, Step (behindColon (spaces (gap + 1) ++ (leaf.chars ++
        marginText tail ahead.margins ahead.text)) index line place tokens indent outer) after ∧
      after.IsBetween ahead.text ahead.column ∧ after.tokens = leaf.token :: tokens ∧
      after.indent = indent ∧ after.outer = outer := by
  generalize hstart : behindColon (spaces (gap + 1) ++ (leaf.chars ++ marginText tail ahead.margins
    ahead.text)) index line place tokens indent outer = start
  -- Behind the gap the scalar is the next token: nothing ends here, and no key waits for its colon.
  have hskip : Reads (skipToToken start.cursor.bound false) start.cursor false
      ⟨leaf.chars ++ marginText tail ahead.margins ahead.text, index + (gap + 1), line,
        place + (gap + 1)⟩ := by
    subst hstart
    refine reads_skipSpaces _ (fun c hc => ?_) (Nat.succ_pos _) false
    obtain ⟨first, rest, hchars, hblank, hmark, hbreak⟩ := hleaf.exists_cons
    obtain rfl : first = c := by simpa [hchars] using hc
    exact ⟨fun hspace => absurd (isBlank_iff.2 (.inl hspace)) (by simp [hblank]), hmark, hbreak⟩
  have hnext : start.next = Scanner.addToken
      { cursor := ⟨leaf.chars ++ marginText tail ahead.margins ahead.text, index + (gap + 1), line,
          place + (gap + 1)⟩
        tokens, count := tokens.length, indent, outer, allowsKey := false } := by
    subst hstart
    exact next_eq ⟨rfl, rfl, rfl⟩ hskip (by simp [behindColon])
      (unwinds_of_le (by simp only [behindColon]; omega))
  have hopen : start.isDone = false := by
    subst hstart
    rfl
  have hlonger : (marginText tail ahead.margins ahead.text).length < start.cursor.rest.length := by
    subst hstart
    simp only [behindColon, List.length_append, length_spaces]
    omega
  -- A plain scalar is read on across line breaks, so the text ahead says where the scanner stops; a
  -- quoted one ends with its quote.
  cases leaf with
  | plain word others =>
    obtain ⟨hword, hmark, hothers⟩ := hleaf
    obtain ⟨target, hbetween, htarget⟩ := hahead.between htail.1
      (index + (gap + 1) + (word ++ wordsBehind others).length) line
      (place + (gap + 1) + (word ++ wordsBehind others).length)
    have hdeep : indent < ((place + (gap + 1) : Nat) : Int) := by
      push_cast
      omega
    obtain ⟨broken, stop, margin', others', hreads, hstop, hbroken, hlength⟩ :=
      reads_plainScalar hword hothers htail (fun htext => (htarget htext).2) hdeep
        (fun htext => by rw [(htarget htext).1]; exact hcolumn htext) hbetween
    refine ⟨{ cursor := stop, tokens := .scalar true (word ++ wordsBehind others) :: tokens,
              count := tokens.length + 1, indent, outer, allowsKey := broken },
      ⟨hopen, ?_, Nat.lt_of_le_of_lt hlength hlonger⟩,
      ⟨⟨rfl, rfl, rfl⟩, rfl, margin', others', target, hstop, fun htext => ?_⟩, rfl, rfl, rfl⟩
    · obtain ⟨c, rest, rfl⟩ := List.exists_cons_of_ne_nil hword.1
      have hchars := hword.2.1 c List.mem_cons_self
      rw [hnext, addToken_plain (c := c) rfl (hmark c rfl) (endsWord_of_isInline hchars)
        (.inl (Nat.succ_ne_zero _))]
      exact addPlain_eq false hreads
    · refine ⟨(htarget htext).1, ?_⟩
      rw [hbroken]
      simpa using (htarget htext).2
  | quoted quote text =>
    obtain ⟨hquote, hchars⟩ := hleaf
    obtain ⟨target, hbetween, htarget⟩ := hahead.between htail.1
      (index + (gap + 1) + (text.length + 2)) line (place + (gap + 1) + (text.length + 2))
    have hends := hbetween.endsWord_peek htail fun htext => (htarget htext).2
    have hreads := (reads_flowScalar hquote hchars hends (index + (gap + 1)) line
      (place + (gap + 1))).map (Token.scalar false)
    refine ⟨{ cursor := _, tokens := .scalar false text :: tokens,
              count := tokens.length + 1, indent, outer, allowsKey := false },
      ⟨hopen, ?_, hlonger⟩,
      ⟨⟨rfl, rfl, rfl⟩, rfl, tail, ahead.margins, target, hbetween, fun htext => ?_⟩, rfl, rfl, rfl⟩
    · have hcut : (Leaf.quoted quote text).chars ++ marginText tail ahead.margins ahead.text =
          quote :: (text ++ quote :: marginText tail ahead.margins ahead.text) := by
        simp [Leaf.chars]
      rw [hnext, hcut, addToken_quote hquote rfl]
      exact addNode_eq hreads
    · exact ⟨(htarget htext).1, by simpa using (htarget htext).2⟩

/-- Without a value the end of the line comes behind the colon. -/
theorem isBetween_behindColon {index line place : Nat} {tail : Margin} (htail : tail.IsTail)
    {ahead : Ahead} (hahead : ahead.IsWritten) :
    (behindColon (tail.chars ++ ahead.chars) index line place tokens indent outer).IsBetween
      ahead.text ahead.column := by
  rw [← marginText_ahead]
  obtain ⟨target, hbetween, htarget⟩ := hahead.between htail.1 index line place
  exact ⟨⟨rfl, rfl, rfl⟩, rfl, tail, ahead.margins, target, hbetween,
    fun htext => ⟨(htarget htext).1, by simpa [behindColon] using (htarget htext).2⟩⟩

/-- **A head** is read with the value on its line, if there is one. -/
theorem steps_head {head : Head} (hhead : head.IsWritten) {value : Option (Nat × Leaf)}
    (hvalue : ∀ entry ∈ value, entry.2.IsWritten) {ahead : Ahead} (hahead : ahead.IsWritten)
    {column : Nat} (hcolumn : value ≠ none → ahead.text ≠ [] → ahead.column ≤ column)
    (h : scanner.IsBetween
      (head.key ++ ':' :: (Block.valueChars value ++ (head.tail.chars ++ ahead.chars))) column)
    (hunwinds : scanner.Unwinds column tokens indent outer) (hindent : indent ≤ column) :
    ∃ after, Relation.ReflTransGen Step scanner after ∧ after.IsBetween ahead.text ahead.column ∧
      after.tokens = (Block.valueTokens value).reverse ++ keyTokens head.key column indent tokens ∧
      after.indent = column ∧ after.outer = if indent < column then indent :: outer else outer := by
  obtain ⟨-, hkey, htail⟩ := hhead
  obtain ⟨index, line, hsteps⟩ :=
    steps_key hkey (endsWord_behindColon htail hahead) h hunwinds hindent
  cases value with
  | none => exact ⟨_, hsteps, isBetween_behindColon htail hahead, rfl, rfl, rfl⟩
  | some entry =>
    obtain ⟨gap, leaf⟩ := entry
    have hplace : (column : Int) ≤ ((column + head.key.length + 1 : Nat) : Int) := by
      push_cast
      omega
    have hless : ahead.text ≠ [] → (ahead.column : Int) ≤ (column : Int) :=
      fun htext => by exact_mod_cast hcolumn (Option.some_ne_none _) htext
    obtain ⟨after, hstep, hafter⟩ := step_value (hvalue (gap, leaf) rfl) htail hahead hless hplace
    rw [← List.append_assoc, marginText_ahead] at hstep
    exact ⟨after, hsteps.tail hstep, hafter⟩

end Scanner

theorem Block.column_ahead {block : Block} {column : Nat} {last : Ahead}
    (hlast : last.text ≠ [] → last.column ≤ column) :
    (block.ahead column last).text ≠ [] → (block.ahead column last).column ≤ column := by
  cases block with
  | nil => exact hlast
  | flat head value rest => exact fun _ => Nat.le_refl column
  | nested head depth inner rest => exact fun _ => Nat.le_refl column

namespace Block

open Scanner

/-- Entries in a column are read as their tokens, up to what lies ahead. -/
def IsScanned (block : Block) : Prop :=
  ∀ {column : Nat} {last : Ahead} {scanner : Scanner} {tokens : List Token} {indent : Int}
    {outer : List Int}, last.IsWritten → (last.text ≠ [] → last.column ≤ column) →
    scanner.IsBetween (block.ahead column last).text (block.ahead column last).column →
    scanner.Unwinds column tokens indent outer → indent ≤ column →
    ∃ after, Relation.ReflTransGen Step scanner after ∧ after.IsBetween last.text last.column ∧
      after.Owes (block.tokens.reverse ++ ((if indent < column then [.blockMapping] else []) ++ tokens))
        column (if indent < column then indent :: outer else outer)

/-- Behind an entry the mapping in its column goes on. -/
theorem IsScanned.goOn {rest : Block} (h : rest ≠ nil → rest.IsScanned) {column : Nat} {last : Ahead}
    {scanner : Scanner} {tokens : List Token} {outer : List Int} (hlast : last.IsWritten)
    (hcolumn : last.text ≠ [] → last.column ≤ column)
    (hscanner : scanner.IsBetween (rest.ahead column last).text (rest.ahead column last).column)
    (howes : scanner.Owes tokens column outer) :
    ∃ after, Relation.ReflTransGen Step scanner after ∧ after.IsBetween last.text last.column ∧
      after.Owes (rest.tokens.reverse ++ tokens) column outer := by
  rcases eq_or_ne rest nil with rfl | hne
  · exact ⟨scanner, .refl, hscanner, howes⟩
  · have hscan := h hne hlast hcolumn hscanner howes.unwinds (Int.le_refl _)
    simpa using hscan

theorem isScanned {block : Block} (hblock : block.IsWritten) (hne : block ≠ nil) :
    block.IsScanned := by
  -- The entries are scanned one by one; what the scanner owes is one end for each mapping that is
  -- open.
  induction block with
  | nil => exact absurd rfl hne
  | flat head value rest ih =>
    obtain ⟨hhead, hvalue, -, hrest⟩ := hblock
    intro column last scanner before indent outer hlast hcolumn hscanner hunwinds hindent
    obtain ⟨middle, hsteps, hmiddle, htokens, hdeep, haround⟩ :=
      steps_head hhead (fun entry hentry => (hvalue entry hentry).1) (isWritten_ahead hrest hlast)
        (fun _ => column_ahead hcolumn) hscanner hunwinds hindent
    have howes := middle.owes_self
    rw [htokens, hdeep, haround] at howes
    obtain ⟨after, hafterSteps, hafter, hafterOwes⟩ :=
      IsScanned.goOn (ih hrest) hlast hcolumn hmiddle howes
    refine ⟨after, hsteps.trans hafterSteps, hafter, ?_⟩
    simpa [tokens, keyTokens] using hafterOwes
  | nested head depth inner rest ihinner ihrest =>
    obtain ⟨hhead, hinnerNe, hinner, -, hrest⟩ := hblock
    intro column last scanner before indent outer hlast hcolumn hscanner hunwinds hindent
    have hscanner : scanner.IsBetween (head.key ++ ':' :: (valueChars none ++ (head.tail.chars ++
      (inner.ahead (column + depth + 1) (rest.ahead column last)).chars))) column := hscanner
    have hahead : (rest.ahead column last).IsWritten := isWritten_ahead hrest hlast
    obtain ⟨start, hsteps, hstart, htokens, hdeep, haround⟩ :=
      steps_head hhead (by simp) (isWritten_ahead hinner hahead) (absurd rfl) hscanner hunwinds
        hindent
    -- The inner entries open a mapping of their own, since they are indented deeper.
    have hdeeper : (column : Int) < ((column + depth + 1 : Nat) : Int) := by
      push_cast
      omega
    have hopens := unwinds_of_le (show start.indent ≤ ((column + depth + 1 : Nat) : Int) by omega)
    rw [htokens, hdeep, haround] at hopens
    obtain ⟨middle, hinnerSteps, hmiddle, hinnerOwes⟩ := ihinner hinner hinnerNe hahead
      (fun htext => by have := column_ahead hcolumn htext; omega) hstart hopens (Int.le_of_lt hdeeper)
    rw [if_pos hdeeper, if_pos hdeeper] at hinnerOwes
    obtain ⟨after, hafterSteps, hafter, hafterOwes⟩ :=
      IsScanned.goOn (ihrest hrest) hlast hcolumn hmiddle (hinnerOwes.around hdeeper)
    refine ⟨after, (hsteps.trans hinnerSteps).trans hafterSteps, hafter, ?_⟩
    simpa [tokens, keyTokens, valueTokens] using hafterOwes

end Block

/-! ## The whole text -/

namespace Scanner

variable {scanner : Scanner} {tokens : List Token} {indent : Int} {outer : List Int}

/-- At the end of a text all block collections end, too. -/
theorem addEnd_eq (hflow : scanner.flowLevel = 0) (hcandidates : scanner.candidates = [])
    (hunwinds : scanner.Unwinds (-1) tokens indent outer) :
    ∃ after, scanner.addEnd = .ok after ∧ after.isDone = true ∧
      after.tokens = .endOfText :: tokens := by
  obtain ⟨ended, hclosing, rfl⟩ := hunwinds
  have hunwind : scanner.unwind (-1) = { scanner with
      tokens := List.replicate ended .blockEnd ++ scanner.tokens
      count := scanner.count + ended, indent, outer } := by
    rw [unwind, if_neg (by simp [inFlow, hflow]), hclosing]
  have hdrop : (scanner.unwind (-1)).dropCandidate = .ok (scanner.unwind (-1)) := by
    rw [hunwind]
    simp [dropCandidate, candidate?, hcandidates]
  refine ⟨{ (scanner.unwind (-1)).push .endOfText with isDone := true }, ?_, rfl, ?_⟩
  · rw [addEnd, hdrop]
    rfl
  · rw [hunwind]
    rfl

/-- **The end of a text** is read behind what still has to end there. -/
theorem scan_end {column : Nat} (h : scanner.IsBetween [] column)
    (hunwinds : scanner.Unwinds (-1) tokens indent outer) {bound : Nat} (hbound : 2 ≤ bound) :
    scan bound scanner = tokens.reverse ++ [.endOfText] := by
  obtain ⟨bound, rfl⟩ : ∃ n, bound = n + 2 := ⟨bound - 2, by omega⟩
  obtain ⟨hopen, hcandidates, margin, others, target, hbetween, -⟩ := h
  obtain ⟨index, line, hskip⟩ := hbetween.reads_skipToToken (Nat.lt_succ_self _) false
  -- Collections end in two steps: down to the column of the end, and then all that are left.
  rcases hfirst : closing target scanner.indent scanner.outer with ⟨ended, deep, around⟩
  rcases hsecond : closing (-1) deep around with ⟨more, next, beyond⟩
  obtain ⟨all, hall, rfl⟩ := hunwinds
  rw [closing_closing (by omega) hfirst hsecond] at hall
  cases hall
  have hnext := next_eq hopen hskip (by simp [hcandidates]) ⟨ended, hfirst, rfl⟩
  obtain ⟨after, hafter, hdone, htokens⟩ : ∃ after, scanner.next = .ok after ∧ after.isDone = true ∧
      after.tokens = .endOfText :: (List.replicate (ended + more) .blockEnd ++ scanner.tokens) := by
    rw [hnext, addToken_end rfl, Nat.add_comm, ← List.replicate_append_replicate, List.append_assoc]
    exact addEnd_eq hopen.flowLevel_eq hcandidates ⟨more, hsecond, rfl⟩
  rw [scan, hopen.isDone_eq, if_neg Bool.false_ne_true, hafter]
  dsimp only
  rw [scan, hdone, if_pos rfl, htokens, List.reverse_cons]

end Scanner

theorem intercalate_cons (line : List Char) (lines : List (List Char)) :
    ['\n'].intercalate (line :: lines) = line ++ behind lines := by
  induction lines generalizing line with
  | nil => simp [behind]
  | cons next lines ih => simp [behind, List.intercalate_cons_cons, ih]

/-! ### Characters -/

theorem Leaf.IsWritten.isInline_chars {leaf : Leaf} (h : leaf.IsWritten) :
    ∀ c ∈ leaf.chars, isInline c := by
  cases leaf with
  | plain word others =>
    obtain ⟨hword, -, hothers⟩ := h
    intro c hc
    rcases List.mem_append.1 hc with hmem | hmem
    · exact (hword.2.1 c hmem).1
    · obtain ⟨other, hother, hmem⟩ := List.mem_flatMap.1 hmem
      rcases List.mem_cons.1 hmem with rfl | hmem
      · exact isInline_space
      · exact ((hothers other hother).2.1 c hmem).1
  | quoted quote text =>
    obtain ⟨hquote, htext⟩ := h
    have hmark : isInline quote = true := by
      rcases hquote with rfl | rfl <;> decide
    simpa [chars, hmark, or_imp, forall_and] using fun c hc => (isQuotable_spec (htext c hc)).1

theorem Head.IsWritten.isInline_lines {head : Head} (h : head.IsWritten) {column : Nat}
    {behind : List Char} (hbehind : ∀ c ∈ behind, isInline c) :
    ∀ line ∈ head.lines column behind, ∀ c ∈ line, isInline c := by
  obtain ⟨hlead, hkey, htail⟩ := h
  have hcolon : isInline ':' = true := by decide
  intro line hline
  rcases List.mem_append.1 hline with hmem | hmem
  · obtain ⟨margin, hmargin, rfl⟩ := List.mem_map.1 hmem
    exact (hlead margin hmargin).isInline
  · obtain rfl := List.mem_singleton.1 hmem
    simp only [List.mem_append, List.mem_cons]
    rintro c ((hc | hc) | rfl | hc | hc)
    · exact isInline_spaces column c hc
    · exact (hkey.chars c hc).1
    · exact hcolon
    · exact hbehind c hc
    · exact htail.1.isInline c hc

/-- The lines of entries hold no breaks. -/
theorem Block.isInline_lines {block : Block} (h : block.IsWritten) (column : Nat) :
    ∀ line ∈ block.lines column, ∀ c ∈ line, isInline c := by
  induction block generalizing column with
  | nil => simp [lines]
  | flat head value rest ih =>
    obtain ⟨hhead, hvalue, -, hrest⟩ := h
    have hbehind : ∀ c ∈ valueChars value, isInline c := by
      cases value with
      | none => simp [valueChars]
      | some entry =>
        intro c hc
        rcases List.mem_append.1 hc with hmem | hmem
        · exact isInline_spaces _ c hmem
        · exact (hvalue entry rfl).1.isInline_chars c hmem
    intro line hline
    exact (List.mem_append.1 hline).elim (hhead.isInline_lines hbehind line) (ih hrest column line)
  | nested head depth inner rest ihinner ihrest =>
    obtain ⟨hhead, -, hinner, -, hrest⟩ := h
    intro line hline
    rcases List.mem_append.1 hline with hline | hline
    · exact (List.mem_append.1 hline).elim (hhead.isInline_lines (by simp) line)
        (ihinner hinner _ line)
    · exact ihrest hrest column line hline

namespace BlockText

variable {text : BlockText}

theorem isInline_lines (h : text.IsWritten) : ∀ line ∈ text.lines, ∀ c ∈ line, isInline c := by
  intro line hline
  rcases List.mem_append.1 hline with hmem | hmem
  · exact Block.isInline_lines h.1 0 line hmem
  · obtain ⟨margin, hmargin, rfl⟩ := List.mem_map.1 hmem
    exact (h.2 margin hmargin).isInline

/-- A text holds line feeds and characters that stand inside a line. -/
theorem isInline_chars (h : text.IsWritten) : ∀ c ∈ text.chars, isInline c ∨ c = '\n' := by
  have hlines := isInline_lines h
  rw [chars]
  cases hcut : text.lines with
  | nil => simp
  | cons line lines =>
    rw [hcut] at hlines
    intro c hc
    rw [intercalate_cons, behind] at hc
    rcases List.mem_append.1 hc with hmem | hmem
    · exact .inl (hlines line List.mem_cons_self c hmem)
    · obtain ⟨other, hother, hmem⟩ := List.mem_flatMap.1 hmem
      exact (List.mem_cons.1 hmem).elim .inr fun hmem =>
        .inl (hlines other (List.mem_cons_of_mem _ hother) c hmem)

/-! ### Tokens -/

/-- What lies ahead in front of a text: its entries, and the lines behind them. -/
def ahead (text : BlockText) : Ahead :=
  text.block.ahead 0 ⟨text.closing, [], 0⟩

theorem isWritten_closing (h : text.IsWritten) : Ahead.IsWritten ⟨text.closing, [], 0⟩ :=
  ⟨h.2, by rintro c ⟨⟩, .inl rfl⟩

theorem isWritten_ahead (h : text.IsWritten) : text.ahead.IsWritten :=
  Block.isWritten_ahead h.1 (isWritten_closing h)

/-- The scanner in front of a text. -/
def start (text : BlockText) : Scanner :=
  { cursor := ⟨text.chars, 0, 0, 0⟩ }

/-- What lies ahead are the lines of the text. -/
theorem chars_ahead (text : BlockText) : text.ahead.chars = behind text.lines := by
  rw [ahead, Block.chars_ahead]
  simp [lines, Ahead.chars, behind]

/-- The scanner starts in front of the first entry. -/
theorem isBetween_start (h : text.IsWritten) :
    text.start.IsBetween text.ahead.text text.ahead.column := by
  have hahead := isWritten_ahead h
  have hchars := chars_ahead text
  rw [Ahead.chars] at hchars
  -- Without a margin in front of an entry the text has no line at all.
  cases hmargins : text.ahead.margins with
  | nil =>
    have htext : text.ahead.text = [] := by
      refine hahead.2.2.resolve_right ?_
      rintro ⟨lead, hlead⟩
      simp [hmargins] at hlead
    have hlines : text.lines = [] := by
      cases hlines : text.lines with
      | nil => rfl
      | cons line lines => simp [hmargins, htext, hlines, behind] at hchars
    have hnone : text.chars = [] := by rw [chars, hlines]; rfl
    rw [htext]
    refine ⟨⟨rfl, rfl, rfl⟩, rfl, {}, [], 0, ?_, absurd rfl⟩
    rw [start, hnone]
    exact ⟨rfl, by rintro comment ⟨⟩, by simp, by rintro c ⟨⟩, .inl rfl, rfl⟩
  | cons margin others =>
    have hrest : text.chars = marginText margin others text.ahead.text := by
      cases hlines : text.lines with
      | nil => simp [hmargins, hlines, behind] at hchars
      | cons line lines =>
        rw [chars, hlines, intercalate_cons]
        simpa [hmargins, hlines, behind, marginText, eq_comm] using hchars
    obtain ⟨hwritten, hbegin, hplace⟩ := hahead
    rw [hmargins, List.forall_mem_cons] at hwritten
    have hlast : text.ahead.text = [] ∨ lastMargin margin others = ⟨text.ahead.column, none⟩ := by
      refine hplace.imp_right ?_
      rintro ⟨lead, hlead⟩
      exact lastMargin_eq (hmargins ▸ hlead)
    refine ⟨⟨rfl, rfl, rfl⟩, rfl, margin, others, _, ⟨hrest, hwritten.1, hwritten.2, hbegin,
      hlast.imp_right fun hlast => by rw [hlast], rfl⟩, fun htext => ⟨?_, rfl⟩⟩
    rw [hlast.resolve_left htext, Margin.chars_spaces, length_spaces]
    simp [start]

/-- **The tokens of a text in block style.** -/
theorem scanTokens_chars (h : text.IsWritten) : scanTokens text.chars =
    (if text.block = .nil then [] else .blockMapping :: (text.block.tokens ++ [.blockEnd])) ++
      [.endOfText] := by
  -- The text does not start with a byte order mark.
  have hmark : (Cursor.peek ⟨text.chars, 0, 0, 0⟩ == byteOrderMark) = false := by
    have hchars := isInline_chars h
    rw [Cursor.peek]
    cases hcut : text.chars with
    | nil => rfl
    | cons c rest =>
      rcases hchars c (by simp [hcut]) with hc | rfl
      · simp only [isInline, Bool.and_eq_true, bne_iff_ne] at hc
        simpa using hc.2
      · rfl
  have hscan : scanTokens text.chars = Scanner.scan (text.chars.length + 2) text.start := by
    simp only [scanTokens, hmark, Bool.false_eq_true, if_false]
    rfl
  have hstart := isBetween_start h
  rw [hscan]
  split
  · rename_i hnil
    rw [ahead, hnil] at hstart
    exact Scanner.scan_end hstart (Scanner.unwinds_of_le (Int.le_refl _)) (by omega)
  · rename_i hne
    obtain ⟨after, hsteps, hafter, howes⟩ := Block.isScanned h.1 hne
      (isWritten_closing h) (absurd rfl) hstart
      (Scanner.unwinds_of_le (by simp [start])) (by simp [start])
    obtain ⟨left, hleft, hrun⟩ := Scanner.scan_of_steps hsteps (Nat.le_refl _)
    -- At the end the mapping of the text is the one that is still open.
    have hunwinds := howes (-1) (by decide) 1 (-1) [] rfl
    have hend := Scanner.scan_end hafter hunwinds (by omega : 2 ≤ left)
    rw [show text.chars = text.start.cursor.rest from rfl, hrun, hend]
    simp [start]

end BlockText

end DartLayers.Yaml
