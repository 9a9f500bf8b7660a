import CrossFilter.Column.Kind
import Mathlib.Data.List.Infix

/-!
# Type tags

The word that a tag stands for is looked up in a table, then judged by the type whose name it begins
with, and in the last resort by the names that it holds. A word may fit several of these: the table
has `datetime` itself, and `timestamp[int]` begins with one name and holds another. `Denotes` lists
which type a word is of, and `ofTag_eq_iff` says that tags are read so.

`reads_tag` gathers what follows from it. Blanks around a tag and letter case never matter
(`Text.word_of_respelled`), and behind the name of a type nothing matters.
-/

namespace CrossFilter

/-! ## Words -/

namespace Text

/-- `t` is `s` with further blanks around it, and its letters in any case. -/
def Respelled (s t : String) : Prop :=
  ∃ before core after : String, t = before ++ core ++ after ∧
    allBlank before = true ∧ allBlank after = true ∧
    core.toList.map Char.toLower = s.toList.map Char.toLower

def Starts (start s : String) : Prop := ∃ rest, s = start ++ rest

def Holds (part s : String) : Prop := ∃ before after, s = before ++ part ++ after

theorem isBlank_toLower (c : Char) : isBlank c.toLower = isBlank c := by
  have hletters : ∀ n : Fin 26, isBlank (Char.ofNat ('A'.toNat + n)).toLower =
      isBlank (Char.ofNat ('A'.toNat + n)) := by
    decide
  by_cases hc : c.val ≥ 'A'.val ∧ c.val ≤ 'Z'.val
  · obtain ⟨hA, hZ⟩ := hc
    rw [ge_iff_le, UInt32.le_iff_toNat_le] at hA
    rw [UInt32.le_iff_toNat_le] at hZ
    have hlt : c.toNat - 'A'.toNat < 26 := Nat.sub_lt_left_of_lt_add hA (Nat.lt_succ_of_le hZ)
    have hcode : 'A'.toNat + (c.toNat - 'A'.toNat) = c.toNat := Nat.add_sub_cancel' hA
    have hletter := hletters ⟨_, hlt⟩
    rwa [hcode, Char.ofNat_toNat] at hletter
  · have hsame : c.toLower = c := dif_neg hc
    rw [hsame]

theorem trimList_map_toLower (cs : List Char) :
    trimList (cs.map Char.toLower) = (trimList cs).map Char.toLower := by
  have hblank : isBlank ∘ Char.toLower = isBlank := funext isBlank_toLower
  simp only [trimList, List.dropWhile_map, ← List.map_reverse, hblank]

theorem trimList_append_blanks (cs : List Char) {after : List Char}
    (h : ∀ c ∈ after, isBlank c = true) : trimList (cs ++ after) = trimList cs := by
  induction after generalizing cs with
  | nil => rw [List.append_nil]
  | cons c after ih =>
    obtain ⟨hc, hafter⟩ := List.forall_mem_cons.1 h
    rw [List.append_cons, ih _ hafter, trimList_concat_isBlank hc]

theorem trimList_blanks_append (cs : List Char) {before : List Char}
    (h : ∀ c ∈ before, isBlank c = true) : trimList (before ++ cs) = trimList cs := by
  rw [trimList, List.dropWhile_append_of_pos h, ← trimList]

theorem toList_word (s : String) : (word s).toList = (trimList s.toList).map Char.toLower := by
  simp [word, fold, trim]

theorem word_of_respelled {s t : String} (h : Respelled s t) : word t = word s := by
  obtain ⟨before, core, after, rfl, hbefore, hafter, hcore⟩ := h
  rw [allBlank, List.all_eq_true] at hbefore hafter
  have htrim : trimList (before ++ core ++ after).toList = trimList core.toList := by
    rw [String.toList_append, String.toList_append, trimList_append_blanks _ hafter,
      trimList_blanks_append _ hbefore]
  rw [← String.toList_inj, toList_word, toList_word, htrim, ← trimList_map_toLower, hcore,
    trimList_map_toLower]

theorem startsWith_iff {start s : String} : startsWith start s = true ↔ Starts start s := by
  rw [startsWith, List.isPrefixOf_iff_prefix]
  constructor
  · rintro ⟨rest, h⟩
    exact ⟨String.ofList rest, by rw [← String.toList_inj]; simp [← h]⟩
  · rintro ⟨rest, rfl⟩
    exact ⟨rest.toList, String.toList_append.symm⟩

theorem holdsList_iff {part cs : List Char} : holdsList part cs = true ↔ part <:+: cs := by
  induction cs with
  | nil => rw [holdsList, List.isEmpty_iff, List.infix_nil]
  | cons c cs ih =>
    rw [holdsList, Bool.or_eq_true, List.isPrefixOf_iff_prefix, ih, List.infix_cons_iff]

theorem holds_iff {part s : String} : holds part s = true ↔ Holds part s := by
  rw [holds, holdsList_iff]
  constructor
  · rintro ⟨before, after, h⟩
    exact ⟨String.ofList before, String.ofList after, by rw [← String.toList_inj]; simp [← h]⟩
  · rintro ⟨before, after, rfl⟩
    exact ⟨before.toList, after.toList, by simp⟩

end Text

namespace ColumnType

open Text (Starts Holds)

/-! ## The types of words -/

def Tabled (word : String) (type : ColumnType) : Prop :=
  ∃ words, (words, type) ∈ table ∧ word ∈ words

/-- The word begins with the name of a type, and parameters may follow. -/
inductive Named (word : String) : ColumnType → Prop
  | dateTime : Starts "datetime" word ∨ Starts "timestamp" word → Named word .dateTime
  | decimal : Starts "decimal" word → Named word .decimal

/-- What the names of numbers inside a word make of it. -/
inductive Guessed (word : String) : ColumnType → Prop
  | integer : Holds "int" word → Guessed word .integer
  | decimal : ¬ Holds "int" word → Holds "float" word ∨ Holds "decimal" word ∨ Holds "num" word →
      Guessed word .decimal
  | text : ¬ Holds "int" word → ¬ (Holds "float" word ∨ Holds "decimal" word ∨ Holds "num" word) →
      Guessed word .text

/-- A word is guessed at if the table does not have it and it begins with no name. -/
inductive Denotes (word : String) (type : ColumnType) : Prop
  | tabled : Tabled word type → Denotes word type
  | named : Named word type → Denotes word type
  | guessed : (∀ other, ¬ Tabled word other) → (∀ other, ¬ Named word other) →
      Guessed word type → Denotes word type

variable {word tag : String} {type other : ColumnType}

theorem tabled?_of_mem_table : ∀ row ∈ table, ∀ word ∈ row.1, tabled? word = some row.2 := by
  decide +kernel

theorem tabled?_eq_some_iff : tabled? word = some type ↔ Tabled word type := by
  constructor
  · intro h
    obtain ⟨row, hrow, rfl⟩ := Option.map_eq_some_iff.1 h
    exact ⟨row.1, List.mem_of_find?_eq_some hrow, by simpa using List.find?_some hrow⟩
  · rintro ⟨words, hrow, hword⟩
    exact tabled?_of_mem_table _ hrow _ hword

/-- The table gives no word another type than the name that it begins with. -/
theorem Tabled.eq_of_named (h : Tabled word type) (hn : Named word other) : type = other := by
  have hall : ∀ row ∈ table, ∀ word ∈ row.1,
      (Text.startsWith "datetime" word = true ∨ Text.startsWith "timestamp" word = true →
        row.2 = .dateTime) ∧
      (Text.startsWith "decimal" word = true → row.2 = .decimal) := by
    decide +kernel
  obtain ⟨words, hrow, hword⟩ := h
  obtain ⟨hdateTime, hdecimal⟩ := hall _ hrow _ hword
  simp only [Text.startsWith_iff] at hdateTime hdecimal
  cases hn with
  | dateTime hs => exact hdateTime hs
  | decimal hs => exact hdecimal hs

theorem guess_of_named (h : Named word type) : guess word = type := by
  cases h with
  | dateTime hs => simp [guess, Text.startsWith_iff, hs]
  | decimal hs =>
    have hdateTime : Text.startsWith "datetime" word = false ∧
        Text.startsWith "timestamp" word = false := by
      obtain ⟨rest, rfl⟩ := hs
      simp [Text.startsWith, List.isPrefixOf]
    simp [guess, hdateTime, Text.startsWith_iff, hs]

theorem guess_of_guessed (hn : ∀ other, ¬ Named word other) (h : Guessed word type) :
    guess word = type := by
  have hdateTime :
      ¬ (Text.startsWith "datetime" word || Text.startsWith "timestamp" word) = true := by
    simp only [Bool.or_eq_true, Text.startsWith_iff]
    exact fun hs => hn _ (.dateTime hs)
  have hdecimal : ¬ Text.startsWith "decimal" word = true := by
    rw [Text.startsWith_iff]
    exact fun hs => hn _ (.decimal hs)
  have hparts : (Text.holds "float" word || Text.holds "decimal" word || Text.holds "num" word) =
      true ↔ Holds "float" word ∨ Holds "decimal" word ∨ Holds "num" word := by
    simp only [Bool.or_eq_true, Text.holds_iff, or_assoc]
  rw [guess, if_neg hdateTime, if_neg hdecimal]
  cases h with
  | integer hint => rw [if_pos (Text.holds_iff.2 hint)]
  | decimal hint hpart => rw [if_neg (mt Text.holds_iff.1 hint), if_pos (hparts.2 hpart)]
  | text hint hpart => rw [if_neg (mt Text.holds_iff.1 hint), if_neg (mt hparts.1 hpart)]

theorem exists_guessed (word : String) : ∃ type, Guessed word type := by
  by_cases hint : Holds "int" word
  · exact ⟨_, .integer hint⟩
  · by_cases hpart : Holds "float" word ∨ Holds "decimal" word ∨ Holds "num" word
    · exact ⟨_, .decimal hint hpart⟩
    · exact ⟨_, .text hint hpart⟩

theorem exists_denotes (word : String) : ∃ type, Denotes word type := by
  by_cases ht : ∃ type, Tabled word type
  · exact ht.imp fun _ => .tabled
  · by_cases hn : ∃ type, Named word type
    · exact hn.imp fun _ => .named
    · obtain ⟨type, hg⟩ := exists_guessed word
      exact ⟨type, .guessed (not_exists.1 ht) (not_exists.1 hn) hg⟩

/-! ## The types of tags -/

theorem ofTag_of_tabled (h : Tabled (Text.word tag) type) : ofTag tag = type := by
  rw [ofTag, tabled?_eq_some_iff.2 h, Option.getD_some]

theorem ofTag_of_untabled (h : ∀ other, ¬ Tabled (Text.word tag) other) :
    ofTag tag = guess (Text.word tag) := by
  have hnone : tabled? (Text.word tag) = none :=
    Option.eq_none_iff_forall_ne_some.2 fun other ht => h other (tabled?_eq_some_iff.1 ht)
  rw [ofTag, hnone, Option.getD_none]

theorem ofTag_of_named (h : Named (Text.word tag) type) : ofTag tag = type := by
  by_cases ht : ∃ other, Tabled (Text.word tag) other
  · obtain ⟨other, ht⟩ := ht
    rw [ofTag_of_tabled ht, ht.eq_of_named h]
  · rw [ofTag_of_untabled (not_exists.1 ht), guess_of_named h]

theorem ofTag_eq_iff : ofTag tag = type ↔ Denotes (Text.word tag) type := by
  -- Every word denotes some type, and the tag is read as any type that its word denotes.
  have hof : ∀ {other}, Denotes (Text.word tag) other → ofTag tag = other := by
    intro other h
    cases h with
    | tabled ht => exact ofTag_of_tabled ht
    | named hn => exact ofTag_of_named hn
    | guessed ht hn hg => rw [ofTag_of_untabled ht, guess_of_guessed hn hg]
  constructor
  · rintro rfl
    obtain ⟨other, h⟩ := exists_denotes (Text.word tag)
    rwa [hof h]
  · exact hof

/-- Three types are never guessed, nor named by more than a whole word. -/
theorem ofTag_eq_iff_tabled (htype : type = .date ∨ type = .boolean ∨ type = .unknown) :
    ofTag tag = type ↔ Tabled (Text.word tag) type := by
  refine ⟨fun h => ?_, ofTag_of_tabled⟩
  cases ofTag_eq_iff.1 h with
  | tabled ht => exact ht
  | named hn => cases hn <;> simp at htype
  | guessed _ _ hg => cases hg <;> simp at htype

/-- What the type of a tag depends on. -/
structure ReadsTag (tag : String) : Prop where
  respelled : ∀ other, Text.Respelled tag other → ofTag other = ofTag tag
  dateTime : Starts "datetime" (Text.word tag) ∨ Starts "timestamp" (Text.word tag) →
    ofTag tag = .dateTime
  decimal : Starts "decimal" (Text.word tag) → ofTag tag = .decimal
  date_iff : ofTag tag = .date ↔ Text.word tag = "date"
  boolean_iff : ofTag tag = .boolean ↔ Text.word tag = "boolean" ∨ Text.word tag = "bool"
  unknown_iff : ofTag tag = .unknown ↔ Text.word tag = "null" ∨ Text.word tag = "unknown"
  tabled : ∀ type, Tabled (Text.word tag) type → ofTag tag = type
  guessed_iff : (∀ type, ¬ Tabled (Text.word tag) type) → (∀ type, ¬ Named (Text.word tag) type) →
    ∀ type, ofTag tag = type ↔ Guessed (Text.word tag) type

theorem reads_tag (tag : String) : ReadsTag tag where
  respelled other h := by rw [ofTag, ofTag, Text.word_of_respelled h]
  dateTime h := ofTag_of_named (.dateTime h)
  decimal h := ofTag_of_named (.decimal h)
  date_iff := (ofTag_eq_iff_tabled (by simp)).trans (by simp [Tabled, table])
  boolean_iff := (ofTag_eq_iff_tabled (by simp)).trans (by simp [Tabled, table])
  unknown_iff := (ofTag_eq_iff_tabled (by simp)).trans (by simp [Tabled, table])
  tabled _ := ofTag_of_tabled
  guessed_iff ht hn type := by
    refine ⟨fun h => ?_, fun hg => ofTag_eq_iff.2 (.guessed ht hn hg)⟩
    cases ofTag_eq_iff.1 h with
    | tabled h => exact absurd h (ht type)
    | named h => exact absurd h (hn type)
    | guessed _ _ hg => exact hg

-- A point is no number, but its name holds that of one.
example : ofTag " Timestamp[INT] " = .dateTime ∧ ofTag "GeoPoint" = .integer := by decide +kernel

end ColumnType

end CrossFilter
