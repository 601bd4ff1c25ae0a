import DartLayers.Text.Casing
import Mathlib

/-!
# DartLayers — ASCII in lower case

The lower-case form of a text is ASCII where the text is, and nearly nowhere else: two characters beyond
ASCII have a lower-case form that starts with an ASCII letter, the capital I with a dot and the Kelvin
sign. A text in lower case therefore starts with a word without these letters only if the text itself
starts with that word, in any case.

* **`lowerRuns_spec`** — where the runs of the case mapping lead.
* **`of_head?_lowerChar`** — which characters have a given ASCII character for lower-case form.
* **`prefix_lowerAfter_iff`** — the start of a text in lower case.
-/

namespace DartLayers.Text

/-! ## Characters -/

theorem toNat_lt_of_toLower {c : Char} (h : c.toLower.toNat < 0x80) : c.toNat < 0x80 := by
  unfold Char.toLower at h
  split at h
  · rename_i hupper
    have hlast : c.val.toNat ≤ 0x5A := UInt32.le_iff_toNat_le.1 hupper.2
    show c.val.toNat < 0x80
    omega
  · exact h

/-- A character that is no letter is the lower-case form of itself alone. -/
theorem eq_of_toLower_eq {c d : Char} (h : d.toLower = c) (hc : c.isAlpha = false) : d = c := by
  rw [← h, Char.isAlpha_toLower_eq_isAlpha, Char.isAlpha, Bool.or_eq_false_iff] at hc
  rw [← h, Char.toLower_eq_of_not_isUpper (by simp [hc.1])]

/-- A text without letters is the lower-case form of itself alone. -/
theorem eq_of_map_toLower_eq {text word : List Char} (h : text.map Char.toLower = word)
    (hword : ∀ c ∈ word, c.isAlpha = false) : text = word := by
  have hsame : text.map Char.toLower = text.map id := by
    apply List.map_congr_left
    intro c hc
    have hlower : c.toLower ∈ word := h ▸ List.mem_map_of_mem hc
    exact (eq_of_toLower_eq rfl (hword _ hlower)).symm
  rw [← h, hsame, List.map_id]

/-- A run of the case mapping consists of ASCII letters, or leads to characters beyond ASCII, or is the
Kelvin sign alone. -/
theorem lowerRuns_spec : ∀ run ∈ Casing.lowerRuns,
    run.last < 0x80 ∨
      (0x80 ≤ (run.first : Int) + run.shift ∧
        ((run.last : Int) + run.shift < 0xD800 ∨
          0xDFFF < (run.first : Int) + run.shift ∧ (run.last : Int) + run.shift < 0x110000)) ∨
      (run.first = 0x212A ∧ run.last = 0x212A ∧ run.shift = -8383) := by
  decide +kernel

/-- Beyond ASCII only the Kelvin sign is moved to ASCII. -/
theorem of_shifted?_lowerRuns {c d : Char} (hd : 0x80 ≤ d.toNat)
    (h : Casing.shifted? Casing.lowerRuns d = some c) : 0x80 ≤ c.toNat ∨ c = 'k' := by
  obtain ⟨run, hfound, hshift⟩ := Option.map_eq_some_iff.1 h
  have hholds := List.find?_some hfound
  simp only [Casing.Run.holds, Bool.and_eq_true, decide_eq_true_eq] at hholds
  obtain ⟨⟨hfirst, hlast⟩, -⟩ := hholds
  rcases lowerRuns_spec run (List.mem_of_find?_eq_some hfound) with
    hascii | ⟨hbeyond, hends⟩ | ⟨hstart, hend, hback⟩
  · omega
  · left
    have hvalid : Nat.isValidChar ((d.toNat : Int) + run.shift).toNat := by
      show _ < 0xD800 ∨ 0xDFFF < _ ∧ _ < 0x110000
      omega
    rw [← hshift, Char.toNat_ofNat, if_pos hvalid]
    omega
  · right
    have hcode : d.toNat = 0x212A := by omega
    rw [← hshift, hcode, hback]
    rfl

theorem lowerChar_ne_nil (c : Char) : lowerChar c ≠ [] := by
  unfold lowerChar
  split
  · exact List.cons_ne_nil _ _
  · split <;> exact List.cons_ne_nil _ _

section

variable {c d : Char} (hc : c.toNat < 0x80)

include hc

/-- An ASCII character other than the letters i and k starts the lower-case form of ASCII characters
only. -/
theorem of_head?_lowerChar (hi : c ≠ 'i') (hk : c ≠ 'k') (h : (lowerChar d).head? = some c) :
    d.toNat < 0x80 ∧ d.toLower = c := by
  unfold lowerChar at h
  split at h
  · rename_i hd
    exact ⟨hd, Option.some.inj h⟩
  · rename_i hd
    split at h
    · exact absurd (Option.some.inj h).symm hi
    · have hhead : (Casing.shifted? Casing.lowerRuns d).getD d = c := Option.some.inj h
      exfalso
      cases hshifted : Casing.shifted? Casing.lowerRuns d with
      | none =>
        rw [hshifted, Option.getD_none] at hhead
        exact hd (hhead ▸ hc)
      | some other =>
        rw [hshifted, Option.getD_some] at hhead
        rcases of_shifted?_lowerRuns (Nat.not_lt.1 hd) hshifted with hbeyond | hkelvin
        · rw [hhead] at hbeyond
          omega
        · exact hk (hhead.symm.trans hkelvin)

/-- The forms of a capital sigma are not ASCII. -/
theorem lowerSigma_ne (before after : List Char) : lowerSigma before after ≠ c := by
  have hbeyond : 0x80 ≤ (lowerSigma before after).toNat := by
    unfold lowerSigma
    split <;> decide
  rintro rfl
  omega

end

/-! ## Texts -/

/-- **A text in lower case starts with an ASCII word** without the letters i and k exactly if the text
starts with that word in any case. The induction is on the word; what stands before it matters for a
sigma only, and a sigma does not go on with the word. -/
theorem prefix_lowerAfter_iff {word : List Char}
    (hword : ∀ c ∈ word, c.toNat < 0x80 ∧ c ≠ 'i' ∧ c ≠ 'k') (before text : List Char) :
    word <+: lowerAfter before text ↔
      ∃ front rest, text = front ++ rest ∧ front.map Char.toLower = word := by
  induction word generalizing before text with
  | nil => exact iff_of_true (List.nil_prefix) ⟨[], text, rfl, rfl⟩
  | cons c word ih =>
    rw [List.forall_mem_cons] at hword
    obtain ⟨⟨hc, hi, hk⟩, hword⟩ := hword
    cases text with
    | nil => simp [lowerAfter]
    | cons d text =>
      -- Of the characters that become an ASCII letter only that letter and its capital are not
      -- excluded.
      have hstep : d.toLower = c → lowerAfter before (d :: text) = c :: lowerAfter (d :: before) text := by
        intro hlower
        have hd : d.toNat < 0x80 := toNat_lt_of_toLower (by rwa [hlower])
        have hsigma : d ≠ 'Σ' := by
          rintro rfl
          exact absurd hd (by decide)
        rw [lowerAfter, if_neg hsigma, lowerChar_of_lt hd, hlower]
        rfl
      constructor
      · intro hstarts
        have hlower : d.toLower = c := by
          rw [lowerAfter] at hstarts
          split at hstarts
          · rw [List.singleton_append, List.cons_prefix_cons] at hstarts
            exact absurd hstarts.1.symm (lowerSigma_ne hc before text)
          · obtain ⟨first, more, hchars⟩ := List.exists_cons_of_ne_nil (lowerChar_ne_nil d)
            rw [hchars, List.cons_append, List.cons_prefix_cons] at hstarts
            have hhead : (lowerChar d).head? = some c := by
              rw [hchars, hstarts.1]
              rfl
            exact (of_head?_lowerChar hc hi hk hhead).2
        rw [hstep hlower, List.cons_prefix_cons] at hstarts
        obtain ⟨front, rest, rfl, hfront⟩ := (ih hword (d :: before) text).1 hstarts.2
        exact ⟨d :: front, rest, rfl, by rw [List.map_cons, hlower, hfront]⟩
      · rintro ⟨front, rest, htext, hfront⟩
        obtain ⟨first, others, rfl, hlower, hothers⟩ := List.map_eq_cons_iff.1 hfront
        obtain ⟨rfl, rfl⟩ := List.cons.inj htext
        rw [hstep hlower, List.cons_prefix_cons]
        exact ⟨rfl, (ih hword (d :: before) _).2 ⟨others, rest, rfl, hothers⟩⟩

end DartLayers.Text
