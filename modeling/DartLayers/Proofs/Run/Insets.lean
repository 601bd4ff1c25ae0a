import DartLayers.Program
import DartLayers.Proofs.Markup.Escape
import DartLayers.Proofs.Session.Entries

/-!
# DartLayers — texts between the program's own words

Most entries of the console are the program's own words, or messages, which are escaped as a whole.
Three texts are put between words one by one: the endpoint and the output directory into a line of
their own, and the path of a file that is there into the question about it. Each of them is shown
escaped exactly if there is nothing to escape in it, as it is put there raw.

* **`LogEntry.IsGuarded`** — entries in which no text acts as markup.
* **`LogEntry.tags_of_styled`** — a message has no tags but those of its style.
* **`Inset`** — the places of the three texts, and `Inset.entry` their entries.
* **`ShowsEscaped`** — a run shows every text escaped.
* **`showsEscaped_iff_of_raw`** — what is put raw is escaped exactly if it needs no escape.
-/

namespace DartLayers

/-! ## Guarded entries -/

/-- The program's own lines. -/
def Program.ownLines : List LogEntry := [
  .print "[bold]Clean Architecture Generator[/bold]",
  .print "\n[bold green]Code generation completed successfully![/bold green]",
  Program.endpointMissing]

/-- The questions in which no text stands that the program was given. -/
def Operator.ownQuestions : List String := [
  "Enter the base URL for the API (" ++ Markup.dropHidden defaultBaseUrl ++ "): ",
  Session.confirmText "Does this endpoint require authentication?" false,
  "Enter the Authorization header value (e.g. Bearer <token>): ",
  Session.confirmText "Generate these files?" true]

/-- Entries in the program's own words, with numbers and names of methods among them. -/
inductive LogEntry.IsOwn : LogEntry → Prop where
  | line {entry : LogEntry} (h : entry ∈ Program.ownLines) : IsOwn entry
  | header {title : String} {entry : LogEntry}
      (htitle : title ∈ ["Fetching API response", "Writing files"]) (h : entry ∈ Log.header title) :
      IsOwn entry
  | outcomes {outcomes : List (String × Outcome)} {entry : LogEntry}
      (h : entry ∈ Run.outcomeTable outcomes) : IsOwn entry
  | heading (count : Nat) :
      IsOwn (.print ("[bold]" ++ toString count ++ " files will be generated:[/bold]"))
  | question {text : String} (h : text ∈ Operator.ownQuestions) : IsOwn (.ask text)
  | bodyQuestion (method : HttpMethod) :
      IsOwn (.ask ("Sample JSON body for the " ++ method.name ++ " request (Enter to send none): "))
  | rejection : IsOwn Session.rejection

/-- The styles of messages. -/
def LogEntry.styles : List String := ["bold green", "bold red", "bold yellow", "dim"]

/-- Entries in which no text acts as markup: own words, messages that are escaped as a whole, and
lines for planned files with the path escaped. -/
inductive LogEntry.IsGuarded : LogEntry → Prop where
  | own {entry : LogEntry} (h : entry.IsOwn) : IsGuarded entry
  | message {style : String} (h : style ∈ LogEntry.styles) (text : String) :
      IsGuarded (.styled style text)
  | planned (layer : Layer) (path : String) :
      IsGuarded (Operator.plannedEntry layer (Markup.escape path))

namespace LogEntry.IsGuarded

theorem success (text : String) : IsGuarded (.success text) := .message (by decide) text

theorem error (text : String) : IsGuarded (.error text) := .message (by decide) text

theorem warning (text : String) : IsGuarded (.warning text) := .message (by decide) text

theorem info (text : String) : IsGuarded (.info text) := .message (by decide) text

end LogEntry.IsGuarded

open Markup in
/-- **A message has no tags but those of its style.** -/
theorem LogEntry.tags_of_styled {style : String} (hstyle : style ∈ LogEntry.styles) (text : String) :
    ∃ markup, LogEntry.styled style text = .print markup ∧
      ∀ tag : Tag, .tag tag ∈ piecesOf markup.toList →
        tag.name = style.toList ∨ tag.name = '/' :: style.toList := by
  refine ⟨_, rfl, fun tag hmem => ?_⟩
  have hinner : (style.toList.all fun c => c != '[' && c != ']') = true ∧
      (∀ rest, isTag (style.toList ++ ']' :: rest) = true) ∧
      (∀ rest, isTag ('/' :: style.toList ++ ']' :: rest) = true) ∧
      (∀ position, (Tag.ofText position style.toList).name = style.toList) ∧
      ∀ position, (Tag.ofText position ('/' :: style.toList)).name = '/' :: style.toList := by
    simp only [LogEntry.styles, List.mem_cons, List.not_mem_nil, or_false] at hstyle
    rcases hstyle with rfl | rfl | rfl | rfl <;>
      exact ⟨by decide +kernel, fun _ => rfl, fun _ => rfl, fun _ => rfl, fun _ => rfl⟩
  obtain ⟨hplain, hopens, hcloses, hname, hother⟩ := hinner
  have hopen : ∀ c ∈ style.toList, c ≠ '[' ∧ c ≠ ']' := by simpa using hplain
  have hclose : ∀ c ∈ '/' :: style.toList, c ≠ '[' ∧ c ≠ ']' :=
    List.forall_mem_cons.2 ⟨by decide, hopen⟩
  have hmarkup : ("[" ++ style ++ "]" ++ escape text ++ "[/" ++ style ++ "]").toList =
      '[' :: (style.toList ++ ']' :: ((escape text).toList ++
        '[' :: ('/' :: style.toList ++ ']' :: []))) := by
    have hwords : "[".toList = ['['] ∧ "]".toList = [']'] ∧ "[/".toList = ['[', '/'] :=
      ⟨rfl, rfl, rfl⟩
    simp [String.toList_append, hwords]
  -- Between the two tags the escaped text is read as texts only.
  obtain ⟨texts, behind, final, place, hescaped, htexts⟩ :=
    exists_pieces_escaped text ('/' :: style.toList ++ ']' :: []) (0 + 1 + style.toList.length + 1)
  have hnone : ∀ pieces : List Piece, (∀ piece ∈ pieces, piece.isText) → .tag tag ∉ pieces :=
    fun pieces hpieces hpiece => Bool.noConfusion (hpieces _ hpiece)
  rw [hmarkup, piecesOf, piecesFrom_tag hopen (hopens _), hescaped, piecesFrom_tag hclose
    (hcloses [])] at hmem
  simp only [List.mem_append, List.mem_cons, hnone _ isText_of_mem_textPiece, hnone texts htexts,
    false_or, piecesFrom, List.reverse_nil] at hmem
  rcases hmem with hstart | hend | hfalse
  · rw [eq_of_tagPiece hstart, hname]
    exact .inl rfl
  · rw [eq_of_tagPiece hend, hother]
    exact .inr rfl
  · exact hfalse.elim

/-! ## Insets -/

/-- Where a text is put between words: the endpoint and the output directory in a line, and the path
of a file that is there in the question about it. -/
inductive Inset where
  | endpoint
  | directory
  | target
  deriving DecidableEq

namespace Inset

/-- The words in front of a text. -/
def front : Inset → String
  | .endpoint => "Analyzing endpoint: "
  | .directory => "Files generated in: "
  | .target => "File "

/-- The words behind a text. -/
def back : Inset → String
  | .endpoint | .directory => ""
  | .target => " already contains different content. Overwrite?"

/-- A text between its words, as markup. -/
def markup (inset : Inset) (text : String) : String :=
  inset.front ++ text ++ inset.back

/-- The entry for a text as it is written between its words, which the console may not be able to
show. -/
def entry (inset : Inset) (text : String) : Except Markup.Fault LogEntry :=
  match inset with
  | .endpoint | .directory => do
    Markup.check (inset.markup text)
    return .print (inset.markup text)
  | .target => do
    return .ask (Session.confirmText (← Markup.plain (inset.markup text)) false)

theorem markup_endpoint (text : String) :
    Inset.endpoint.markup text = "Analyzing endpoint: " ++ text :=
  String.append_empty

theorem markup_directory (text : String) :
    Inset.directory.markup text = "Files generated in: " ++ text :=
  String.append_empty

theorem markup_target (path : PathName) :
    Inset.target.markup path.text = Operator.overwriteQuestion path := rfl

variable {inset : Inset} {text : String} {entry : LogEntry}

theorem front_ne (inset : Inset) : ∀ c ∈ inset.front.toList, c ≠ '[' ∧ c ≠ '\\' := by
  have hfront : (inset.front.toList.all fun c => c != '[' && c != '\\') = true := by
    cases inset <;> decide +kernel
  simpa using hfront

theorem back_notMem (inset : Inset) : '[' ∉ inset.back.toList ∧ ']' ∉ inset.back.toList := by
  cases inset <;> decide +kernel

/-- **An escaped text can be shown.** -/
theorem exists_entry_of_escape_eq (inset : Inset) (h : Markup.escape text = text) :
    ∃ entry, inset.entry text = .ok entry := by
  obtain ⟨hcheck, shown, hplain⟩ :=
    Markup.check_escaped inset.front_ne inset.back_notMem text
  rw [Markup.escapeTags_of_escape_eq h, String.ofList_toList] at hcheck hplain
  cases inset with
  | target => exact ⟨_, by rw [Inset.entry, markup, hplain]; rfl⟩
  | endpoint => exact ⟨_, by rw [Inset.entry, markup, hcheck]; rfl⟩
  | directory => exact ⟨_, by rw [Inset.entry, markup, hcheck]; rfl⟩

/-- A line shows the markup that it was given. -/
theorem eq_print_of_entry (hline : inset ≠ .target) (h : inset.entry text = .ok entry) :
    entry = .print (inset.markup text) := by
  cases inset with
  | target => exact absurd rfl hline
  | endpoint =>
    obtain ⟨-, -, h⟩ := exists_ok_of_bind h
    exact (Except.ok.inj h).symm
  | directory =>
    obtain ⟨-, -, h⟩ := exists_ok_of_bind h
    exact (Except.ok.inj h).symm

/-- A question shows what its markup is read as. -/
theorem exists_shown_of_entry (h : Inset.target.entry text = .ok entry) :
    ∃ shown, Markup.plain (Inset.target.markup text) = .ok shown ∧
      entry = .ask (Session.confirmText shown false) := by
  obtain ⟨shown, hshown, h⟩ := exists_ok_of_bind h
  exact ⟨shown, hshown, (Except.ok.inj h).symm⟩

/-- **A raw text with the entry of the escaped one** needs no escape. In a question this is so of a
text that does not end in a backslash. -/
theorem escape_eq_of_entry (hlast : inset = .target → ∃ front last,
      text.toList = front ++ [last] ∧ last ≠ '\\')
    (hraw : inset.entry text = .ok entry)
    (hescaped : inset.entry (Markup.escape text) = .ok entry) : Markup.escape text = text := by
  by_cases hline : inset = .target
  · subst hline
    obtain ⟨front, last, htext, hne⟩ := hlast rfl
    obtain ⟨shown, hshown, rfl⟩ := exists_shown_of_entry hraw
    obtain ⟨other, hother, hsame⟩ := exists_shown_of_entry hescaped
    rw [LogEntry.ask.injEq, Session.confirmText, Session.confirmText, String.append_left_inj,
      String.append_left_inj, String.append_left_inj] at hsame
    rw [Markup.escape_of_last htext hne] at hother ⊢
    rw [← hsame] at hother
    rw [Markup.escapeTags_eq_of_plain_eq (front_ne .target) (back_notMem .target) hshown hother,
      String.ofList_toList]
  · have hsame := (eq_print_of_entry hline hescaped).symm.trans (eq_print_of_entry hline hraw)
    rw [LogEntry.print.injEq, markup, markup, String.append_left_inj, String.append_right_inj]
      at hsame
    exact hsame

end Inset

/-! ## Escaped texts -/

/-- A run shows every text that it was given escaped. Where it comes to show one between words, the
next entry shows it escaped; and all its entries are guarded or show such a text escaped.

Where a run comes to show a text is a relation between the place, the text, and the session so far. -/
structure ShowsEscaped (comes : Inset → String → Session → Prop) (session final : Session) :
    Prop where
  shown : ∀ inset text before, comes inset text before →
    ∃ entry, inset.entry (Markup.escape text) = .ok entry ∧ before.log ++ [entry] <+: final.log
  entries : session.Says (fun entry => entry.IsGuarded ∨ ∃ inset text before,
    comes inset text before ∧ inset.entry (Markup.escape text) = .ok entry) final

/-- What a run does instead: where it comes to show a text, the next entry shows it raw, or there is
none as the console cannot show it. -/
structure ShowsRaw (comes : Inset → String → Session → Prop) (session final : Session) :
    Prop where
  shown : ∀ inset text before, comes inset text before →
    ∀ entry, inset.entry text = .ok entry → before.log ++ [entry] <+: final.log
  unshown : ∀ inset text before, comes inset text before →
    ∀ fault, inset.entry text = .error fault → final.log = before.log
  entries : session.Says (fun entry => entry.IsGuarded ∨ ∃ inset text before,
    comes inset text before ∧ inset.entry text = .ok entry) final

variable {comes others : Inset → String → Session → Prop} {session middle final : Session}

namespace ShowsRaw

/-- Guarded entries show no text raw. -/
theorem of_guarded (h : session.Says LogEntry.IsGuarded final) :
    ShowsRaw (fun _ _ _ => False) session final :=
  ⟨fun _ _ _ hnone => hnone.elim, fun _ _ _ hnone => hnone.elim, h.mono fun _ => .inl⟩

theorem congr (h : ShowsRaw comes session final)
    (hiff : ∀ inset text before, others inset text before ↔ comes inset text before) :
    ShowsRaw others session final := by
  have hsame : others = comes := by
    funext inset text before
    exact propext (hiff inset text before)
  rwa [hsame]

/-- Two parts of a run, one after the other, unless the first one has stopped it. -/
theorem trans (h : ShowsRaw comes session middle) (hothers : ShowsRaw others middle final)
    (hstop : ∀ inset text before fault, comes inset text before →
      inset.entry text = .error fault → final.log = middle.log) :
    ShowsRaw (fun inset text before => comes inset text before ∨ others inset text before) session
      final := by
  refine ⟨fun inset text before hcomes entry hentry => ?_,
    fun inset text before hcomes fault hfault => ?_, ?_⟩
  · rcases hcomes with hfirst | hsecond
    · exact (h.shown inset text before hfirst entry hentry).trans hothers.entries.prefix_log
    · exact hothers.shown inset text before hsecond entry hentry
  · rcases hcomes with hfirst | hsecond
    · exact (hstop inset text before fault hfirst hfault).trans
        (h.unshown inset text before hfirst fault hfault)
    · exact hothers.unshown inset text before hsecond fault hfault
  · refine (h.entries.mono fun entry => .imp_right ?_).trans
      (hothers.entries.mono fun entry => .imp_right ?_)
    · rintro ⟨inset, text, before, hcomes, hentry⟩
      exact ⟨inset, text, before, .inr hcomes, hentry⟩
    · rintro ⟨inset, text, before, hcomes, hentry⟩
      exact ⟨inset, text, before, .inl hcomes, hentry⟩

/-- A line behind a guarded entry, if it can be shown. -/
theorem line (inset : Inset) (text : String) {first : LogEntry} (h : first.IsGuarded)
    (session : Session) :
    ShowsRaw (fun place shown before => place = inset ∧ shown = text ∧
        before = session.logged [first]) session
      (match inset.entry text with
        | .ok entry => session.logged [first, entry]
        | .error _ => session.logged [first]) := by
  cases hline : inset.entry text with
  | error fault =>
    refine ⟨?_, ?_, .logged session (List.forall_mem_singleton.2 (.inl h))⟩
    · rintro _ _ _ ⟨rfl, rfl, rfl⟩ entry hentry
      cases hline.symm.trans hentry
    · rintro _ _ _ ⟨rfl, rfl, rfl⟩ other hother
      rfl
  | ok entry =>
    refine ⟨?_, ?_, .logged session ?_⟩
    · rintro _ _ _ ⟨rfl, rfl, rfl⟩ other hother
      cases hline.symm.trans hother
      exact ⟨[], by simp [Session.logged]⟩
    · rintro _ _ _ ⟨rfl, rfl, rfl⟩ fault hfault
      cases hline.symm.trans hfault
    · exact List.forall_mem_cons.2 ⟨.inl h, List.forall_mem_singleton.2
        (.inr ⟨inset, text, _, ⟨rfl, rfl, rfl⟩, hline⟩)⟩

end ShowsRaw

/-- Where a session goes on with two entries, they are the same. -/
theorem entry_eq_of_prefix {before : Log} {entry other : LogEntry} {log : Log}
    (h : before ++ [entry] <+: log) (hother : before ++ [other] <+: log) : entry = other := by
  have hsame := List.prefix_of_prefix_length_le h hother (by simp)
  have hend := hsame.eq_of_length (by simp)
  exact (List.cons.inj (List.append_cancel_left hend)).1

/-- **What is put raw is escaped exactly if it needs no escape.** -/
theorem ShowsRaw.showsEscaped_iff (h : ShowsRaw comes session final)
    (hlast : ∀ text before, comes .target text before → ∃ front last,
      text.toList = front ++ [last] ∧ last ≠ '\\') :
    ShowsEscaped comes session final ↔
      ∀ inset text before, comes inset text before → Markup.escape text = text := by
  constructor
  · intro hescaped inset text before hcomes
    obtain ⟨entry, hentry, hnext⟩ := hescaped.shown inset text before hcomes
    cases hraw : inset.entry text with
    | error fault =>
      rw [h.unshown inset text before hcomes fault hraw] at hnext
      have hlength := hnext.length_le
      rw [List.length_append, List.length_singleton] at hlength
      omega
    | ok other =>
      have hsame := entry_eq_of_prefix hnext (h.shown inset text before hcomes other hraw)
      subst hsame
      refine Inset.escape_eq_of_entry (fun htarget => ?_) hraw hentry
      subst htarget
      exact hlast text before hcomes
  · intro hescape
    refine ⟨fun inset text before hcomes => ?_, h.entries.mono fun entry hentry => ?_⟩
    · have hfine := hescape inset text before hcomes
      obtain ⟨entry, hentry⟩ := inset.exists_entry_of_escape_eq hfine
      exact ⟨entry, hfine.symm ▸ hentry, h.shown inset text before hcomes entry hentry⟩
    · refine hentry.imp_right ?_
      rintro ⟨inset, text, before, hcomes, hraw⟩
      exact ⟨inset, text, before, hcomes, (hescape inset text before hcomes).symm ▸ hraw⟩

end DartLayers
