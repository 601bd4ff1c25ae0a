import DartLayers.Dart.Identifier
import DartLayers.Proofs.Text.Cases

/-!
# DartLayers — the names of fields

A record may have any keys, also keys that are spelled alike or hold no letter at all. Its fields get
names that a class can give them: each has the form of a name, none is reserved, and no two are the
same. A name is counted up only where an earlier field has it, and counting up ends, because among one
form more than there are names before it one is free.

* **`IsFieldName`** — the form of a name.
* **`IsFirstFree`**, **`freshName_isFirstFree`** — counting up ends at the first form that is free.
* **`identifiersFrom_append`** — the names of some keys do not depend on later keys.
* **`NamesFields`**, **`fieldIdentifiers_namesFields`** — what the names of a record's keys are.
-/

namespace DartLayers.Dart

/-! ## Numbers in names -/

theorem isDigit_of_mem_toString {n : Nat} {c : Char} (h : c ∈ (toString n).toList) :
    c.isDigit = true := by
  rw [Nat.toString_eq_ofList_toDigits, String.toList_ofList] at h
  exact Nat.isDigit_of_mem_toDigits (Nat.succ_pos 9) (Nat.le_refl 10) h

theorem mem_toString_nat {n : Nat} {c : Char} (h : c ∈ (toString n).toList) :
    c.isAlphanum = true := by
  have hdigit : c.isDigit = true := isDigit_of_mem_toString h
  simp [Char.isAlphanum, hdigit]

theorem IsWord.append_nat {text : String} (h : IsWord text) (n : Nat) :
    IsWord (text ++ toString n) := by
  refine ⟨append_ne_empty_left h.1, fun c hc => ?_⟩
  rw [String.toList_append, List.mem_append] at hc
  rcases hc with htext | hnumber
  · exact h.2 c htext
  · exact .inl (mem_toString_nat hnumber)

/-- A numbered form is the name with digits behind it. -/
theorem exists_numberedName_eq (base : String) (count : Nat) :
    ∃ digits, numberedName base count = base ++ digits ∧ ∀ c ∈ digits.toList, c.isDigit = true := by
  cases count with
  | zero => exact ⟨"", by simp [numberedName], by simp⟩
  | succ count => exact ⟨toString (count + 2), rfl, fun c hc => isDigit_of_mem_toString hc⟩

/-- The forms of a name are different from each other. -/
theorem numberedName_injective (base : String) : Function.Injective (numberedName base) := by
  have hlonger : ∀ count, base ≠ numberedName base (count + 1) := by
    intro count hsame
    have hlength := congrArg String.length hsame
    rw [numberedName, String.length_append] at hlength
    have hnumber : 0 < (toString (count + 2)).length := Nat.length_repr_pos
    omega
  intro first second hsame
  cases first with
  | zero =>
    cases second with
    | zero => rfl
    | succ second => exact absurd hsame (hlonger second)
  | succ first =>
    cases second with
    | zero => exact absurd hsame.symm (hlonger first)
    | succ second =>
      have hnumber : toString (first + 2) = toString (second + 2) := (String.append_right_inj base).1 hsame
      have hcount : first + 2 = second + 2 := Nat.repr_inj.1 hnumber
      omega

/-! ## The form of a name -/

/-- A name in camel case: a small letter, then letters and digits. -/
def IsCamelName (name : String) : Prop :=
  ∃ c rest, name.toList = c :: rest ∧ c.isLower ∧ ∀ d ∈ rest, d.isAlphanum

instance (name : String) : Decidable (IsCamelName name) :=
  decidable_of_iff (name.toList.head?.any Char.isLower && name.toList.tail.all Char.isAlphanum) (by
    cases h : name.toList <;> simp [IsCamelName, h])

theorem IsCamelName.append {name suffix : String} (h : IsCamelName name)
    (hsuffix : ∀ d ∈ suffix.toList, d.isAlphanum) : IsCamelName (name ++ suffix) := by
  obtain ⟨c, rest, hname, hlower, hrest⟩ := h
  refine ⟨c, rest ++ suffix.toList, by simp [hname], hlower, fun d hd => ?_⟩
  exact (List.mem_append.1 hd).elim (hrest d) (hsuffix d)

/-- The form of a field's name: a name in camel case, an underscore or none, and digits. -/
def IsFieldName (name : String) : Prop :=
  ∃ camel mark digits, name = camel ++ mark ++ digits ∧ IsCamelName camel ∧
    (mark = "" ∨ mark = "_") ∧ ∀ c ∈ digits.toList, c.isDigit = true

theorem IsFieldName.startsSmall {name : String} (h : IsFieldName name) : StartsSmall name := by
  obtain ⟨camel, mark, digits, rfl, ⟨c, rest, hcamel, hlower, -⟩, -, -⟩ := h
  exact ⟨c, rest ++ mark.toList ++ digits.toList, by simp [hcamel], hlower⟩

theorem IsFieldName.isWord {name : String} (h : IsFieldName name) : IsWord name := by
  obtain ⟨camel, mark, digits, rfl, ⟨c, rest, hcamel, hlower, hrest⟩, hmark, hdigits⟩ := h
  refine ⟨?_, fun d hd => ?_⟩
  · rw [Ne, ← String.toList_eq_nil_iff]
    simp [hcamel]
  · rw [String.toList_append, String.toList_append, hcamel] at hd
    rcases List.mem_append.1 hd with hd | hd
    · rcases List.mem_append.1 hd with hd | hd
      · rcases List.mem_cons.1 hd with rfl | hd
        · exact .inl (Text.isAlphanum_of_isLower hlower)
        · exact .inl (hrest d hd)
      · rcases hmark with rfl | rfl
        · simp at hd
        · exact .inr (by simpa using hd)
    · exact .inl (by simp [Char.isAlphanum, hdigits d hd])

theorem plainIdentifier_isCamelName (index : Nat) (key : String) :
    IsCamelName (plainIdentifier index key) := by
  have hfield : IsCamelName "field" := by decide
  unfold plainIdentifier
  simp only
  split
  · exact hfield.append fun d hd => mem_toString_nat hd
  · rename_i hne
    split
    · refine hfield.append fun d hd => ?_
      rw [Text.toPascal, String.toList_ofList] at hd
      exact Text.isAlphanum_of_mem_pascalChars d hd
    · rename_i hdigit
      obtain ⟨first, rest, hchars⟩ := List.exists_cons_of_ne_nil
        (fun hnil : (Text.toCamel key).toList = [] => hne (String.toList_eq_nil_iff.1 hnil))
      have hcamel : Text.camelChars key.toList = first :: rest := by
        rwa [Text.toCamel, String.toList_ofList] at hchars
      have hnot : ¬ first.isDigit := by simpa [Text.startsWithDigit, hchars] using hdigit
      refine ⟨first, rest, hchars, (Text.camelChars_eq_cons hcamel).resolve_right hnot, fun d hd => ?_⟩
      exact Text.isAlphanum_of_mem_camelChars d (by rw [hcamel]; exact List.mem_cons_of_mem _ hd)

/-- A name has its form whatever number it is counted up to. -/
theorem numberedName_isFieldName (index : Nat) (key : String) (count : Nat) :
    IsFieldName (numberedName (baseIdentifier index key) count) := by
  obtain ⟨digits, hname, hdigits⟩ := exists_numberedName_eq (baseIdentifier index key) count
  have hcamel := plainIdentifier_isCamelName index key
  rw [hname, baseIdentifier]
  split
  · exact ⟨_, "_", digits, rfl, hcamel, .inr rfl, hdigits⟩
  · exact ⟨_, "", digits, by simp, hcamel, .inl rfl, hdigits⟩

/-! ## Reserved words -/

/-- The characters at the end of a name that no reserved word ends with. -/
def isEndMark (c : Char) : Bool :=
  c.isDigit || c == '_'

theorem not_mem_reservedWords {name : String} (h : name.toList.getLast?.any isEndMark = true) :
    name ∉ reservedWords := by
  have hends : ∀ word ∈ reservedWords, word.toList.getLast?.any isEndMark = false := by
    decide +kernel
  intro hmem
  rw [hends name hmem] at h
  cases h

/-- A name that is counted up ends with a digit. -/
theorem numberedName_endMark (base : String) (count : Nat) :
    (numberedName base (count + 1)).toList.getLast?.any isEndMark = true := by
  obtain ⟨digits, last, hdigits⟩ := List.eq_nil_or_concat (toString (count + 2)).toList
    |>.resolve_left (by simp [Nat.toString_eq_repr])
  have hlast : last.isDigit = true :=
    isDigit_of_mem_toString (n := count + 2) (by rw [hdigits]; simp)
  rw [numberedName, String.toList_append, hdigits]
  simp [isEndMark, hlast]

/-- **A reserved word is no name**, and counting a name up does not make one. -/
theorem numberedName_not_mem_reservedWords (index : Nat) (key : String) (count : Nat) :
    numberedName (baseIdentifier index key) count ∉ reservedWords := by
  cases count with
  | zero =>
    rw [numberedName, baseIdentifier]
    split
    · exact not_mem_reservedWords (by simp [isEndMark])
    · rename_i hplain
      simpa using hplain
  | succ count => exact not_mem_reservedWords (numberedName_endMark _ count)

/-! ## Counting up -/

/-- The first of a name and its numbered forms that is not taken. -/
def IsFirstFree (taken : List String) (base name : String) : Prop :=
  ∃ count, name = numberedName base count ∧ name ∉ taken ∧
    ∀ earlier < count, numberedName base earlier ∈ taken

/-- Among one form more than there are taken names, one is free. -/
theorem exists_free (taken : List String) (base : String) :
    ∃ count ∈ List.range (taken.length + 1), numberedName base count ∉ taken := by
  refine Classical.byContradiction fun hnone => ?_
  have htaken : (List.range (taken.length + 1)).map (numberedName base) ⊆ taken := by
    intro name hname
    obtain ⟨count, hcount, rfl⟩ := List.mem_map.1 hname
    exact Classical.byContradiction fun hfree => hnone ⟨count, hcount, hfree⟩
  have hdistinct : ((List.range (taken.length + 1)).map (numberedName base)).Nodup :=
    List.nodup_range.map (numberedName_injective base)
  have hlength := (List.subperm_of_subset hdistinct htaken).length_le
  rw [List.length_map, List.length_range] at hlength
  omega

/-- **Counting up ends at the first form that is free.** -/
theorem freshName_isFirstFree (taken : List String) (base : String) :
    IsFirstFree taken base (freshName taken base) := by
  obtain ⟨free, hrange, hfree⟩ := exists_free taken base
  have hsearch : freshName taken base =
      (((List.range (taken.length + 1)).find? fun count =>
        !taken.contains (numberedName base count)).map (numberedName base)).getD base := by
    rw [freshName, List.find?_map]
    rfl
  cases hfound : (List.range (taken.length + 1)).find? fun count =>
      !taken.contains (numberedName base count) with
  | none =>
    have hcontains := List.find?_eq_none.1 hfound free hrange
    simp [hfree] at hcontains
  | some count =>
    obtain ⟨hcount, -, hearlier⟩ := List.find?_range_eq_some.1 hfound
    rw [hsearch, hfound]
    refine ⟨count, rfl, by simpa using hcount, fun earlier hless => ?_⟩
    simpa using hearlier earlier hless

/-- A name that is free is used as it is, and only such a name is. -/
theorem IsFirstFree.eq_base_iff {taken : List String} {base name : String}
    (h : IsFirstFree taken base name) : name = base ↔ base ∉ taken := by
  obtain ⟨count, rfl, hfree, hearlier⟩ := h
  constructor
  · intro hsame
    rwa [hsame] at hfree
  · intro hbase
    cases count with
    | zero => rfl
    | succ count => exact absurd (hearlier 0 (Nat.succ_pos count)) hbase

/-- Only which names are taken matters, and not in which order. -/
theorem IsFirstFree.congr {taken others : List String} {base name : String}
    (h : IsFirstFree taken base name) (hsame : ∀ other, other ∈ taken ↔ other ∈ others) :
    IsFirstFree others base name := by
  obtain ⟨count, hname, hfree, hearlier⟩ := h
  exact ⟨count, hname, fun hmem => hfree ((hsame name).2 hmem),
    fun earlier hless => (hsame _).1 (hearlier earlier hless)⟩

/-! ## The names of several keys -/

theorem length_identifiersFrom (taken : List String) (index : Nat) (keys : List String) :
    (identifiersFrom taken index keys).length = keys.length := by
  induction keys generalizing taken index with
  | nil => rfl
  | cons key rest ih => simp [identifiersFrom, ih]

/-- **The names of some keys do not depend on later keys**, which find them taken. -/
theorem identifiersFrom_append (taken : List String) (index : Nat) (front behind : List String) :
    identifiersFrom taken index (front ++ behind) =
      identifiersFrom taken index front ++
        identifiersFrom ((identifiersFrom taken index front).reverse ++ taken)
          (index + front.length) behind := by
  induction front generalizing taken index with
  | nil => simp [identifiersFrom]
  | cons key rest ih =>
    rw [List.cons_append, identifiersFrom, identifiersFrom, ih]
    simp only [List.cons_append, List.nil_append, List.reverse_cons, List.append_assoc,
      List.length_cons]
    rw [Nat.add_assoc, Nat.add_comm 1]

/-- Names are different from each other and from those that were taken before. -/
theorem identifiersFrom_distinct (taken : List String) (index : Nat) (keys : List String) :
    (identifiersFrom taken index keys).Nodup ∧
      ∀ name ∈ identifiersFrom taken index keys, name ∉ taken := by
  induction keys generalizing taken index with
  | nil => exact ⟨List.nodup_nil, fun _ hname => nomatch hname⟩
  | cons key rest ih =>
    obtain ⟨-, -, hfree, -⟩ := freshName_isFirstFree taken (baseIdentifier index key)
    obtain ⟨hrest, hothers⟩ := ih (freshName taken (baseIdentifier index key) :: taken) (index + 1)
    rw [identifiersFrom]
    refine ⟨List.nodup_cons.2 ⟨fun hmem => hothers _ hmem List.mem_cons_self, hrest⟩, ?_⟩
    rw [List.forall_mem_cons]
    exact ⟨hfree, fun name hname htaken => hothers name hname (List.mem_cons_of_mem _ htaken)⟩

theorem fieldIdentifiers_append (front behind : List String) :
    fieldIdentifiers (front ++ behind) = fieldIdentifiers front ++
      identifiersFrom (fieldIdentifiers front).reverse front.length behind := by
  rw [fieldIdentifiers, identifiersFrom_append, List.append_nil, Nat.zero_add]
  rfl

/-- The name at a place is the first free form of what its key is called. -/
theorem fieldIdentifiers_getElem? {keys : List String} {index : Nat} {key : String}
    (h : keys[index]? = some key) : ∃ name, (fieldIdentifiers keys)[index]? = some name ∧
      IsFirstFree ((fieldIdentifiers keys).take index) (baseIdentifier index key) name := by
  obtain ⟨hless, rfl⟩ := List.getElem?_eq_some_iff.1 h
  have hfront : (fieldIdentifiers (keys.take index)).length = index := by
    rw [fieldIdentifiers, length_identifiersFrom, List.length_take, Nat.min_eq_left hless.le]
  have hsplit : keys = keys.take index ++ keys[index] :: keys.drop (index + 1) := by
    rw [← List.drop_eq_getElem_cons hless, List.take_append_drop]
  have hnames := fieldIdentifiers_append (keys.take index) (keys[index] :: keys.drop (index + 1))
  rw [← hsplit, identifiersFrom, List.length_take, Nat.min_eq_left hless.le] at hnames
  refine ⟨_, by rw [hnames, List.getElem?_append_right hfront.le, hfront, Nat.sub_self]; rfl, ?_⟩
  rw [hnames, List.take_left' hfront]
  exact (freshName_isFirstFree _ _).congr fun other => List.mem_reverse

/-- Every name is some key's, counted up or not. -/
theorem exists_numberedName_of_mem {keys : List String} {name : String}
    (h : name ∈ fieldIdentifiers keys) :
    ∃ index key count, key ∈ keys ∧ name = numberedName (baseIdentifier index key) count := by
  obtain ⟨index, hless, rfl⟩ := List.mem_iff_getElem.1 h
  have hkeys : index < keys.length := by rwa [fieldIdentifiers, length_identifiersFrom] at hless
  obtain ⟨name, hname, count, rfl, -⟩ :=
    fieldIdentifiers_getElem? (List.getElem?_eq_getElem hkeys)
  rw [List.getElem?_eq_getElem hless, Option.some_inj] at hname
  exact ⟨index, keys[index], count, List.getElem_mem hkeys, hname⟩

/-- **Every field name has the form of one**, whatever the keys. -/
theorem fieldIdentifiers_isFieldName (keys : List String) :
    ∀ name ∈ fieldIdentifiers keys, IsFieldName name := by
  intro name hname
  obtain ⟨index, key, count, -, rfl⟩ := exists_numberedName_of_mem hname
  exact numberedName_isFieldName index key count

theorem fieldIdentifiers_isWord (keys : List String) :
    ∀ name ∈ fieldIdentifiers keys, IsWord name :=
  fun name hname => (fieldIdentifiers_isFieldName keys name hname).isWord

theorem fieldIdentifiers_startsSmall (keys : List String) :
    ∀ name ∈ fieldIdentifiers keys, StartsSmall name :=
  fun name hname => (fieldIdentifiers_isFieldName keys name hname).startsSmall

/-! ## The names of a record's keys -/

/-- What the names of keys are: as many as the keys, different from each other, of the form of a name
and not reserved; the first ones are the names of the first keys alone; and each is the first form of
what its key is called that no earlier field has, so that it is not counted up without need. -/
structure NamesFields (keys names : List String) : Prop where
  length_eq : names.length = keys.length
  distinct : names.Nodup
  usable : ∀ name ∈ names, IsFieldName name ∧ name ∉ reservedWords
  front : ∀ front, front <+: keys → fieldIdentifiers front <+: names
  firstFree : ∀ index key, keys[index]? = some key → ∃ name, names[index]? = some name ∧
    IsFirstFree (names.take index) (baseIdentifier index key) name
  unchanged : ∀ index key, keys[index]? = some key →
    (names[index]? = some (baseIdentifier index key) ↔ baseIdentifier index key ∉ names.take index)

/-- **The fields of a record get names that they can have**, whatever its keys. -/
theorem fieldIdentifiers_namesFields (keys : List String) :
    NamesFields keys (fieldIdentifiers keys) where
  length_eq := length_identifiersFrom [] 0 keys
  distinct := (identifiersFrom_distinct [] 0 keys).1
  usable := by
    intro name hname
    refine ⟨fieldIdentifiers_isFieldName keys name hname, ?_⟩
    obtain ⟨index, key, count, -, rfl⟩ := exists_numberedName_of_mem hname
    exact numberedName_not_mem_reservedWords index key count
  front := by
    rintro front ⟨behind, rfl⟩
    rw [fieldIdentifiers_append]
    exact List.prefix_append _ _
  firstFree _ _ h := fieldIdentifiers_getElem? h
  unchanged := by
    intro index key h
    obtain ⟨name, hname, hfirst⟩ := fieldIdentifiers_getElem? h
    rw [hname, Option.some_inj]
    exact hfirst.eq_base_iff

example : fieldIdentifiers ["userId", "user_id", "userId2", "class", "?", "2nd", "field4"] =
    ["userId", "userId2", "userId22", "class_", "field4", "field2nd", "field42"] := by
  decide +kernel

end DartLayers.Dart
