import DartLayers.Proofs.Endpoint.Query
import DartLayers.Proofs.Json.Locality
import DartLayers.Proofs.Manifest.Placement

/-!
# DartLayers — the text of null

Null has one spelling. A text without blanks around it is read as null only if it is that word, since
what the reader skips behind a value is blank in every sense.

* **`readJson_eq_null_iff`** — the text that is read as null.
-/

namespace DartLayers

/-- Nothing is left to trim. -/
theorem Text.trimWhile_trimWhile (p : Char → Bool) (text : List Char) :
    trimWhile p (trimWhile p text) = trimWhile p text := by
  have hfront : (trimWhile p text).dropWhile p = trimWhile p text := by
    obtain ⟨ending, hending⟩ := isPrefix_dropEndWhile (p := p) (text.dropWhile p)
    rw [← trimWhile] at hending
    cases htrim : trimWhile p text with
    | nil => rfl
    | cons c rest =>
      have hkept := List.head?_dropWhile_not p text
      rw [← hending, htrim] at hkept
      rw [List.dropWhile_cons_of_neg (by simpa using hkept)]
  rw [trimWhile, hfront]
  exact List.rdropWhile_idempotent p (text.dropWhile p)

open JsonReader

namespace Document

variable {text rest : List Char}

/-- A number is never null. -/
theorem readNumber_ne_null : readNumber text ≠ .ok (.null, rest) := by
  intro h
  unfold readNumber at h
  split at h
  · cases h
  · rename_i literal behind hliteral
    unfold NumberLiteral.value at h
    split at h
    · split at h <;> cases h
    · cases h

/-- Null is read from its word alone. -/
theorem of_readValue_null {bound : Nat} (h : readValue bound text = .ok (.null, rest)) :
    text = "null".toList ++ rest := by
  cases bound with
  | zero => cases h
  | succ bound =>
    rw [readValue.eq_def] at h
    dsimp only at h
    split at h
    case h_1 =>
      obtain ⟨chars, after, -, ⟨⟩⟩ := exists_of_map h
    case h_2 =>
      split at h
      · cases h
      · obtain ⟨members, after, -, ⟨⟩⟩ := exists_of_map h
    case h_3 =>
      split at h
      · cases h
      · obtain ⟨items, after, -, ⟨⟩⟩ := exists_of_map h
    case h_4 =>
      cases h
      rfl
    case h_10 => exact absurd h readNumber_ne_null
    all_goals cases h

/-- Blanks of the format are blank in every sense. -/
theorem isBlank_of_isBlank {c : Char} (h : JsonReader.isBlank c = true) : Text.isBlank c = true := by
  simp only [JsonReader.isBlank, Bool.or_eq_true, beq_iff_eq] at h
  rcases h with ((rfl | rfl) | rfl) | rfl <;> decide

/-- **A text without blanks around it is read as null** exactly if it is the word. -/
theorem readJson_eq_null_iff {text : String}
    (htrim : Text.trimWhile Text.isBlank text.toList = text.toList) :
    readJson text = .ok .null ↔ text = "null" := by
  constructor
  · intro h
    obtain ⟨hfront, hback⟩ := Text.eq_of_trimWhile_eq htrim
    have hskip : skipBlanks text.toList = text.toList := by
      cases hchars : text.toList with
      | nil => rfl
      | cons c rest =>
        rw [skipBlanks_cons_eq]
        rw [hchars, List.dropWhile_eq_self_iff] at hfront
        exact Bool.eq_false_iff.2 (mt isBlank_of_isBlank (hfront (by simp)))
    obtain ⟨rest, hread, hrest⟩ : ∃ rest,
        readValue (2 * text.toList.length + 1) text.toList = .ok (.null, rest) ∧
          skipBlanks rest = [] := by
      have hdocument : readDocument text.toList = .ok .null := by
        rw [readJson] at h
        split at h <;> simp_all
      unfold readDocument at hdocument
      split at hdocument
      · cases hdocument
      · rw [hskip] at hdocument
        split at hdocument
        · cases hdocument
        · rename_i value behind hvalue
          split at hdocument
          · rename_i hbehind
            cases hdocument
            exact ⟨behind, hvalue, hbehind⟩
          · cases hdocument
    -- what is left behind the word would have been trimmed
    have hblank : ∀ c ∈ rest, Text.isBlank c = true := fun c hc =>
      isBlank_of_isBlank (List.dropWhile_eq_nil_iff.1 hrest c hc)
    have htext := of_readValue_null hread
    rw [htext, Text.dropEndWhile_append_of_forall hblank] at hback
    rw [← String.toList_inj, htext, ← hback]
    rfl
  · rintro rfl
    rfl

end Document

end DartLayers
