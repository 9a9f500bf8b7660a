import CrossFilter.Chart.Palette
import Mathlib.Tactic.SplitIfs

/-!
# Colour texts

A colour is written as a hash sign and six hexadecimal digits, two for each channel. The reader of
channels also takes a plus sign in place of a first digit, so that `#+1+2+3` is read as a colour,
and gets a transparency behind it like one. `parse?_eq_some_iff` lists all that is read, and
`reads_exactly_iff` says that the plus sign is all that is read beyond the written form.
-/

namespace CrossFilter

namespace Text

/-- A hexadecimal digit, in either letter case, and its value. -/
def IsHexDigit (c : Char) (n : Nat) : Prop :=
  "0123456789abcdef".toList[n]? = some c ∨ "0123456789ABCDEF".toList[n]? = some c

instance (c : Char) (n : Nat) : Decidable (IsHexDigit c n) :=
  inferInstanceAs (Decidable (_ ∨ _))

theorem toNat_lt_of_hexValue? {c : Char} {n : Nat} (h : hexValue? c = some n) : c.toNat < 128 := by
  unfold hexValue? at h
  split_ifs at h with hdigit hlower hupper
  · simp only [Char.isDigit, Bool.and_eq_true, decide_eq_true_eq, UInt32.le_iff_toNat_le] at hdigit
    exact Nat.lt_of_le_of_lt hdigit.2 (by decide)
  · simp only [Bool.and_eq_true, decide_eq_true_eq] at hlower
    exact Nat.lt_of_le_of_lt (UInt32.le_iff_toNat_le.1 hlower.2) (by decide)
  · simp only [Bool.and_eq_true, decide_eq_true_eq] at hupper
    exact Nat.lt_of_le_of_lt (UInt32.le_iff_toNat_le.1 hupper.2) (by decide)

theorem hexValue?_eq_some_iff {c : Char} {n : Nat} : hexValue? c = some n ↔ IsHexDigit c n := by
  constructor
  · intro h
    -- Only characters of ASCII have a value, and there are few enough of them to look through.
    have hall : ∀ code : Fin 128, ∀ m ∈ hexValue? (Char.ofNat code),
        IsHexDigit (Char.ofNat code) m := by
      decide +kernel
    have hc := hall ⟨c.toNat, toNat_lt_of_hexValue? h⟩ n
    rw [Char.ofNat_toNat] at hc
    exact hc h
  · have hall : ∀ m : Fin 16, hexValue? "0123456789abcdef".toList[m] = some m.val ∧
        hexValue? "0123456789ABCDEF".toList[m] = some m.val := by
      decide +kernel
    rintro (h | h)
    · obtain ⟨hn, rfl⟩ := List.getElem?_eq_some_iff.1 h
      exact (hall ⟨n, hn⟩).1
    · obtain ⟨hn, rfl⟩ := List.getElem?_eq_some_iff.1 h
      exact (hall ⟨n, hn⟩).2

end Text

namespace Chart.Palette

open Text

/-! ## Written colours -/

/-- Two hexadecimal digits, and the number they spell. -/
def IsPair (high low : Char) (n : Nat) : Prop :=
  ∃ a b, IsHexDigit high a ∧ IsHexDigit low b ∧ n = 16 * a + b

/-- A plus sign and one hexadecimal digit. -/
def IsSigned (high low : Char) (n : Nat) : Prop := high = '+' ∧ IsHexDigit low n

/-- What the reader takes for a channel. -/
def IsChannel (high low : Char) (n : Nat) : Prop := IsPair high low n ∨ IsSigned high low n

/-- A hash sign and three channels of two characters each. -/
def Spells (channel : Char → Char → Nat → Prop) (s : String) (rgb : Nat × Nat × Nat) : Prop :=
  ∃ a b c d e f, s.toList = ['#', a, b, c, d, e, f] ∧
    channel a b rgb.1 ∧ channel c d rgb.2.1 ∧ channel e f rgb.2.2

/-- The text is a colour as it is to be written. -/
def IsColor (s : String) (rgb : Nat × Nat × Nat) : Prop := Spells IsPair s rgb

/-- At least one of the three channels is a plus sign and a digit. -/
def HasSign (s : String) : Prop :=
  '+' ∈ s.toList ∧ ∃ rgb, Spells IsChannel s rgb

theorem IsPair.ne_plus {high low : Char} {n : Nat} (h : IsPair high low n) :
    high ≠ '+' ∧ low ≠ '+' := by
  obtain ⟨a, b, ha, hb, -⟩ := h
  have hplus : ∀ m, ¬ IsHexDigit '+' m := by
    intro m hm
    rw [← hexValue?_eq_some_iff] at hm
    cases hm
  exact ⟨fun h => hplus a (h ▸ ha), fun h => hplus b (h ▸ hb)⟩

/-! ## What is read -/

theorem channel?_eq_some_iff {high low : Char} {n : Nat} :
    channel? high low = some n ↔ IsChannel high low n := by
  unfold channel? IsChannel
  split_ifs with hsign
  · rw [hexValue?_eq_some_iff]
    constructor
    · exact fun h => .inr ⟨hsign, h⟩
    · rintro (h | h)
      · exact absurd hsign h.ne_plus.1
      · exact h.2
  · simp only [Option.bind_eq_bind, Option.bind_eq_some_iff, hexValue?_eq_some_iff]
    constructor
    · rintro ⟨a, ha, b, hb, hn⟩
      cases hn
      exact .inl ⟨a, b, ha, hb, rfl⟩
    · rintro (⟨a, b, ha, hb, rfl⟩ | h)
      · exact ⟨a, ha, b, hb, rfl⟩
      · exact absurd h.1 hsign

theorem parse?_eq_some_iff {s : String} {rgb : Nat × Nat × Nat} :
    parse? s = some rgb ↔ Spells IsChannel s rgb := by
  simp only [Spells, ← channel?_eq_some_iff]
  unfold parse?
  constructor
  · intro h
    split at h
    · next a b c d e f hs =>
      simp only [Option.bind_eq_bind, Option.bind_eq_some_iff] at h
      obtain ⟨r, hr, g, hg, b', hb, hrgb⟩ := h
      cases hrgb
      exact ⟨a, b, c, d, e, f, hs, hr, hg, hb⟩
    · cases h
  · rintro ⟨a, b, c, d, e, f, hs, hr, hg, hb⟩
    simp [hs, hr, hg, hb]

theorem IsColor.parse?_eq {s : String} {rgb : Nat × Nat × Nat} (h : IsColor s rgb) :
    parse? s = some rgb := by
  obtain ⟨a, b, c, d, e, f, hs, hr, hg, hb⟩ := h
  exact parse?_eq_some_iff.2 ⟨a, b, c, d, e, f, hs, .inl hr, .inl hg, .inl hb⟩

/-- A written colour has no plus sign, and what is read without one is a written colour. -/
theorem isColor_iff {s : String} {rgb : Nat × Nat × Nat} :
    IsColor s rgb ↔ parse? s = some rgb ∧ '+' ∉ s.toList := by
  constructor
  · intro h
    refine ⟨h.parse?_eq, ?_⟩
    obtain ⟨a, b, c, d, e, f, hs, hr, hg, hb⟩ := h
    simp [hs, hr.ne_plus.1.symm, hr.ne_plus.2.symm, hg.ne_plus.1.symm, hg.ne_plus.2.symm,
      hb.ne_plus.1.symm, hb.ne_plus.2.symm]
  · rintro ⟨h, hplus⟩
    obtain ⟨a, b, c, d, e, f, hs, hr, hg, hb⟩ := parse?_eq_some_iff.1 h
    have hpair : ∀ {high low : Char} {n : Nat}, high ∈ s.toList →
        IsChannel high low n → IsPair high low n := by
      rintro high low n hmem (hn | hn)
      · exact hn
      · exact absurd (hn.1 ▸ hmem) hplus
    exact ⟨a, b, c, d, e, f, hs, hpair (by simp [hs]) hr, hpair (by simp [hs]) hg,
      hpair (by simp [hs]) hb⟩

/-- The text is read as a colour just if it is one, and only colours get a transparency. -/
structure ReadsExactly (s : String) : Prop where
  parse?_iff : ∀ rgb, parse? s = some rgb ↔ IsColor s rgb
  withAlpha_color : (∃ rgb, IsColor s rgb) → ∀ alpha, withAlpha s alpha = s ++ alpha
  withAlpha_other : (¬ ∃ rgb, IsColor s rgb) → ∀ alpha, withAlpha s alpha = s

theorem withAlpha_of_parse? {s : String} {rgb : Nat × Nat × Nat} (h : parse? s = some rgb)
    (alpha : String) : withAlpha s alpha = s ++ alpha := by
  simp [withAlpha, h]

theorem withAlpha_of_parse?_none {s : String} (h : parse? s = none) (alpha : String) :
    withAlpha s alpha = s := by
  simp [withAlpha, h]

/-- The signs are all that is read beyond the written form. -/
theorem reads_exactly_iff (s : String) : ReadsExactly s ↔ ¬ HasSign s := by
  simp only [HasSign, ← parse?_eq_some_iff]
  constructor
  · rintro h ⟨hplus, rgb, hrgb⟩
    exact (isColor_iff.1 ((h.parse?_iff rgb).1 hrgb)).2 hplus
  · intro h
    have hiff : ∀ rgb, parse? s = some rgb ↔ IsColor s rgb := by
      intro rgb
      rw [isColor_iff]
      exact ⟨fun hrgb => ⟨hrgb, fun hplus => h ⟨hplus, rgb, hrgb⟩⟩, And.left⟩
    refine ⟨hiff, ?_, ?_⟩
    · rintro ⟨rgb, hrgb⟩
      exact withAlpha_of_parse? hrgb.parse?_eq
    · intro hnone
      refine withAlpha_of_parse?_none (Option.eq_none_iff_forall_ne_some.2 fun rgb hrgb => ?_)
      exact hnone ⟨rgb, (hiff rgb).1 hrgb⟩

/-- Three signed channels are read as a colour, and get a transparency, but are none. -/
theorem signed_channels_read : parse? "#+1+2+3" = some (1, 2, 3) ∧
    withAlpha "#+1+2+3" fillAlpha = "#+1+2+330" ∧ ¬ ∃ rgb, IsColor "#+1+2+3" rgb := by
  refine ⟨by decide +kernel, by decide +kernel, ?_⟩
  rintro ⟨rgb, h⟩
  exact (isColor_iff.1 h).2 (by decide +kernel)

end Chart.Palette

end CrossFilter
