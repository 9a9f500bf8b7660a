import CrossFilter.Number.Layout
import CrossFilter.Number.Literal
import CrossFilter.Proofs.Rounding
import Mathlib.Tactic.FieldSimp

/-!
# Number texts read back

A layout writes the shortest digits of a double with its point and its exponent, and the reader of
typed numbers takes such a text apart again. `real?_finite` says that what it finds is the double
that was written, sign of zero included, whatever the layout; so two finite doubles never share a
text (`finite_inj`). `Spells` is what a layout and the reader agree on: which number a text stands
for.
-/

namespace CrossFilter.Number

/-! ## Digits -/

theorem digitsValue_append (ds es : List Char) :
    digitsValue (ds ++ es) = digitsValue ds * 10 ^ es.length + digitsValue es := by
  have h : digitsValue (ds ++ es) = Nat.ofDigitChars 10 es (digitsValue ds) :=
    Nat.ofDigitChars_append 0
  rw [h, Nat.ofDigitChars_eq_ofDigitChars_zero, Nat.mul_comm]
  rfl

theorem digitsValue_natDigits (n : Nat) : digitsValue (natDigits n) = n :=
  Nat.ofDigitChars_ten_toDigits

theorem digitsValue_zeros (n : Nat) : digitsValue (List.replicate n '0') = 0 :=
  Nat.ofDigitChars_replicate_zero.trans (Nat.mul_zero _)

theorem isDigit_of_mem_natDigits {n : Nat} {c : Char} (h : c ∈ natDigits n) : c.isDigit = true :=
  Nat.isDigit_of_mem_toDigits (by decide) (by decide) h

theorem natDigits_ne_nil (n : Nat) : natDigits n ≠ [] := Nat.toDigits_ne_nil

theorem digitValue_le {c : Char} (h : c.isDigit = true) : digitValue c ≤ 9 := by
  have h' : c.toNat ≤ 57 := (Char.isDigit_iff_toNat.1 h).2
  have e : '0'.toNat = 48 := rfl
  unfold digitValue
  omega

theorem digitsValue_cons (c : Char) (ds : List Char) :
    digitsValue (c :: ds) = digitValue c * 10 ^ ds.length + digitsValue ds := by
  rw [← List.singleton_append, digitsValue_append]
  simp [digitsValue]

theorem digitsValue_lt : ∀ {ds : List Char}, (∀ c ∈ ds, c.isDigit = true) →
    digitsValue ds < 10 ^ ds.length
  | [], _ => by decide
  | c :: ds, h => by
    have hc := digitValue_le (h c List.mem_cons_self)
    have ih := digitsValue_lt fun d hd => h d (List.mem_cons_of_mem _ hd)
    rw [digitsValue_cons, List.length_cons, Nat.pow_succ]
    nlinarith

theorem digitsValue_dropZeros (ds : List Char) :
    digitsValue (ds.dropWhile (· == '0')) = digitsValue ds := by
  induction ds with
  | nil => rfl
  | cons c ds ih =>
    by_cases hc : c = '0'
    · subst hc
      rw [List.dropWhile_cons_of_pos (by rfl), ih, digitsValue_cons]
      simp [digitValue]
    · rw [List.dropWhile_cons_of_neg (by simpa using hc)]

/-- Significant digits spell a number as long as they are. -/
theorem le_digitsValue {ds : List Char} (h : ∀ c ∈ ds, c.isDigit = true)
    (hsig : ds.dropWhile (· == '0') ≠ []) :
    10 ^ ((ds.dropWhile (· == '0')).length - 1) ≤ digitsValue ds := by
  rw [← digitsValue_dropZeros ds]
  have hhead := List.head_dropWhile_not (· == '0') hsig
  have hmem : ∀ c ∈ ds.dropWhile (· == '0'), c.isDigit = true :=
    fun c hc => h c ((List.dropWhile_sublist _).mem hc)
  cases hd : ds.dropWhile (· == '0') with
  | nil => exact absurd hd hsig
  | cons c rest =>
    have hc : c ≠ '0' := by
      simp only [hd, List.head_cons] at hhead
      simpa using hhead
    have hdigit := Char.isDigit_iff_toNat.1 (hmem c (by rw [hd]; exact List.mem_cons_self))
    have hpos : 1 ≤ digitValue c := by
      have hne : c.toNat ≠ '0'.toNat := fun e => hc (Char.toNat_inj.1 e)
      have e : '0'.toNat = 48 := rfl
      unfold digitValue
      omega
    rw [digitsValue_cons, List.length_cons, Nat.add_sub_cancel]
    nlinarith [Nat.mul_le_mul_right (10 ^ rest.length) hpos]

/-! ## Reading digits -/

theorem unitsPerOne_pos : (0 : ℚ) < unitsPerOne := by
  have : 0 < unitsPerOne := by decide +kernel
  exact_mod_cast this

/-- A number that is far below half the least magnitude rounds to zero only. -/
theorem rank_eq_zero_of_lt {rank : Nat} {x : ℚ} (h : Rounds rank (inUnits x))
    (hx : x < 10 ^ (-330 : ℤ)) : rank = 0 := by
  have hpos := unitsPerOne_pos
  have hunits : (2 * unitsPerOne : ℚ) < 10 ^ (330 : ℤ) := by
    have : 2 * unitsPerOne < 10 ^ 330 := by decide +kernel
    exact_mod_cast this
  apply rank_eq_zero_of_rounds h
  unfold inUnits
  generalize (unitsPerOne : ℚ) = u at hpos hunits ⊢
  calc 2 * (x * u) = x * (2 * u) := by ring
    _ ≤ 10 ^ (-330 : ℤ) * (2 * u) := by gcongr
    _ < 10 ^ (-330 : ℤ) * 10 ^ (330 : ℤ) := by gcongr
    _ = 1 := by rw [← zpow_add₀ (by norm_num)]; norm_num

/-- A number past every finite magnitude rounds to none of their ranks. -/
theorem rankLimit_le_of_le {rank : Nat} {x : ℚ} (h : Rounds rank (inUnits x))
    (hx : 10 ^ (310 : ℤ) ≤ x) : rankLimit ≤ rank := by
  have hpos := unitsPerOne_pos
  have hlimit : (units rankLimit : ℚ) < 10 ^ (310 : ℤ) * unitsPerOne := by
    have : units rankLimit < 10 ^ 310 * unitsPerOne := by decide +kernel
    exact_mod_cast this
  by_contra hlt
  have hrank : (units rank : ℚ) ≤ units rankLimit := by
    exact_mod_cast units_strictMono.monotone (show rank ≤ rankLimit by omega)
  have hnext : (units (rank + 1) : ℚ) ≤ units rankLimit := by
    exact_mod_cast units_strictMono.monotone (show rank + 1 ≤ rankLimit by omega)
  have hbelow := h.below
  rw [inUnits, Nat.cast_add] at hbelow
  generalize (unitsPerOne : ℚ) = u at hpos hlimit hbelow
  have hle : 10 ^ (310 : ℤ) * u ≤ x * u := mul_le_mul_of_nonneg_right hx hpos.le
  linarith

theorem ofRatio_of_rounds (negative : Bool) {num den rank : Nat} (hden : 0 < den)
    (h : Rounds rank (inUnits (num / den))) :
    Binary64.ofRatio negative num den = .ofRank negative rank := by
  have e : inUnits ((num : ℚ) / den) = ((num * unitsPerOne : Nat) : ℚ) / den := by
    unfold inUnits
    push_cast
    exact div_mul_eq_mul_div _ _ _
  rw [Binary64.ofRatio, nearestRank_of_rounds hden (e ▸ h)]

theorem pow_mul_ten (len : Nat) (e : ℤ) : (10 ^ len * 10 ^ e : ℚ) = 10 ^ (e + len) := by
  rw [zpow_add₀ (by norm_num), zpow_natCast, mul_comm]

theorem scaled_lt {n len : Nat} (h : n < 10 ^ len) (e : ℤ) : (n * 10 ^ e : ℚ) < 10 ^ (e + len) := by
  rw [← pow_mul_ten]
  gcongr
  exact_mod_cast h

theorem le_scaled {n len : Nat} (h : 10 ^ len ≤ n) (e : ℤ) : 10 ^ (e + len) ≤ (n * 10 ^ e : ℚ) := by
  rw [← pow_mul_ten]
  gcongr
  exact_mod_cast h

/-- Digits and an exponent read as the rank that their number rounds to. -/
theorem nearestDecimal_of_rounds (negative : Bool) {ds : List Char} {e : ℤ} {rank : Nat}
    (hds : ∀ c ∈ ds, c.isDigit = true) (hrank : rank < rankLimit)
    (h : Rounds rank (inUnits (digitsValue ds * 10 ^ e))) :
    nearestDecimal negative ds e = .ofRank negative rank := by
  have hupper : digitsValue ds < 10 ^ (ds.dropWhile (· == '0')).length := by
    rw [← digitsValue_dropZeros ds]
    exact digitsValue_lt fun c hc => hds c ((List.dropWhile_sublist _).mem hc)
  have hlower := le_digitsValue hds
  unfold nearestDecimal
  dsimp only
  rw [digitsValue_dropZeros]
  generalize ds.dropWhile (· == '0') = significant at hupper hlower ⊢
  generalize digitsValue ds = n at h hupper hlower ⊢
  split
  · next hsmall =>
    have hx : (n * 10 ^ e : ℚ) < 10 ^ (-330 : ℤ) := by
      rcases Bool.or_eq_true _ _ ▸ hsmall with hempty | htop
      · obtain rfl := List.isEmpty_iff.1 hempty
        obtain rfl : n = 0 := by simpa using hupper
        rw [Nat.cast_zero, zero_mul]
        positivity
      · have htop : e + significant.length < -330 := by simpa using htop
        exact (scaled_lt hupper e).trans_le (zpow_le_zpow_right₀ (by norm_num) htop.le)
    rw [rank_eq_zero_of_lt h hx]
    rfl
  · next hsmall =>
    obtain ⟨hne, -⟩ : significant ≠ [] ∧ -330 ≤ e + significant.length := by
      simpa using hsmall
    have hlen := List.length_pos_iff.2 hne
    split
    · next hlarge =>
      have hx : (10 : ℚ) ^ (310 : ℤ) ≤ n * 10 ^ e :=
        (zpow_le_zpow_right₀ (by norm_num) (by omega)).trans (le_scaled (hlower hne) e)
      have := rankLimit_le_of_le h hx
      omega
    · split
      · next hnonneg =>
        apply ofRatio_of_rounds negative Nat.one_pos
        obtain ⟨k, rfl⟩ := Int.eq_ofNat_of_zero_le hnonneg
        simpa using h
      · next hneg =>
        apply ofRatio_of_rounds negative (Nat.pow_pos (by decide))
        obtain ⟨k, rfl⟩ : ∃ k : Nat, e = -k := ⟨(-e).toNat, by omega⟩
        simpa [div_eq_mul_inv] using h

/-! ## Reading texts -/

/-- The characters of a number text. -/
def isNumeric (c : Char) : Bool := c.isDigit || "+-.eE".toList.contains c

/-- A fraction with the point before it; nothing if there is no digit. -/
def pointed (fraction : List Char) : List Char :=
  if fraction.isEmpty then [] else '.' :: fraction

/-- A text that spells a number: digits, a point among them and an exponent behind them. -/
inductive Spells (cs : List Char) (x : ℚ) : Prop where
  | intro (whole fraction tail : List Char) (e : ℤ) (text : cs = whole ++ pointed fraction ++ tail)
      (nonempty : whole ≠ []) (digits : ∀ c ∈ whole ++ fraction, c.isDigit = true)
      (exponent : exponent? tail = some e)
      (value : x = digitsValue (whole ++ fraction) * 10 ^ (e - fraction.length))

/-- A longest run is taken whole, and what follows it is left. -/
theorem span_append {p : Char → Bool} {run rest : List Char} (hrun : ∀ c ∈ run, p c = true)
    (hrest : ∀ c ∈ rest.head?, p c = false) :
    (run ++ rest).takeWhile p = run ∧ (run ++ rest).dropWhile p = rest := by
  rw [List.takeWhile_append_of_pos hrun, List.dropWhile_append_of_pos hrun]
  cases rest with
  | nil => simp
  | cons c rest =>
    have hc : p c = false := hrest c rfl
    simp [hc]

/-- An exponent starts with its letter. -/
theorem head_of_exponent? {tail : List Char} {e : ℤ} (h : exponent? tail = some e) :
    ∀ c ∈ tail.head?, c = 'e' ∨ c = 'E' := by
  cases tail with
  | nil => simp
  | cons d tail =>
    intro c hc
    obtain rfl : d = c := by simpa using hc
    by_contra hne
    simp [exponent?, not_or.1 hne] at h

/-- Neither a digit nor the point stands behind the digits. -/
theorem head_of_tail {tail : List Char} {e : ℤ} (h : exponent? tail = some e) :
    ∀ c ∈ tail.head?, c.isDigit = false ∧ c ≠ '.' := by
  intro c hc
  rcases head_of_exponent? h c hc with rfl | rfl <;> decide

/-- The digits before the point are a longest run. -/
theorem span_whole {whole fraction tail : List Char} (hw : ∀ c ∈ whole, c.isDigit = true)
    (htail : ∀ c ∈ tail.head?, c.isDigit = false ∧ c ≠ '.') :
    (whole ++ (pointed fraction ++ tail)).takeWhile Char.isDigit = whole ∧
      (whole ++ (pointed fraction ++ tail)).dropWhile Char.isDigit = pointed fraction ++ tail := by
  refine span_append hw fun c hc => ?_
  cases fraction with
  | nil => exact (htail c hc).1
  | cons d ds =>
    obtain rfl : '.' = c := by simpa [pointed] using hc
    rfl

theorem mem_signed {c : Char} {cs : List Char} (h : c ∈ cs) :
    c = '-' ∨ c = '+' ∨ c ∈ (signed cs).2 := by
  unfold signed
  split
  · rcases List.mem_cons.1 h with rfl | h
    · exact .inl rfl
    · exact .inr (.inr h)
  · rcases List.mem_cons.1 h with rfl | h
    · exact .inr (.inl rfl)
    · exact .inr (.inr h)
  · exact .inr (.inr h)

theorem isNumeric_of_isDigit {c : Char} (h : c.isDigit = true) : isNumeric c = true := by
  simp [isNumeric, h]

theorem isNumeric_of_mem_exponent {tail : List Char} {e : ℤ} (h : exponent? tail = some e) :
    ∀ c ∈ tail, isNumeric c = true := by
  have hhead := head_of_exponent? h
  cases tail with
  | nil => simp
  | cons d tail =>
    intro c hc
    rcases List.mem_cons.1 hc with rfl | hc
    · rcases hhead c rfl with rfl | rfl <;> decide
    · unfold exponent? at h
      have hall : ∀ c ∈ (signed tail).2, c.isDigit = true := by
        simp only [Option.ite_none_right_eq_some, Option.ite_none_left_eq_some] at h
        exact (by simpa using h.2.1 : _ ∧ _).2
      rcases mem_signed hc with rfl | rfl | hc
      · decide
      · decide
      · exact isNumeric_of_isDigit (hall c hc)

theorem decimal?_of_spells (negative : Bool) {cs : List Char} {x : ℚ} {rank : Nat}
    (h : Spells cs x) (hrank : rank < rankLimit) (hx : Rounds rank (inUnits x)) :
    decimal? negative cs = some (.ofRank negative rank) := by
  obtain ⟨whole, fraction, tail, e, rfl, hwhole, hdigits, htail, rfl⟩ := h
  have hw : ∀ c ∈ whole, c.isDigit = true := fun c hc => hdigits c (List.mem_append_left _ hc)
  have hf : ∀ c ∈ fraction, c.isDigit = true := fun c hc => hdigits c (List.mem_append_right _ hc)
  have hread := nearestDecimal_of_rounds negative hdigits hrank hx
  have hafter := head_of_tail htail
  obtain ⟨htake, hdrop⟩ := span_append hf fun c hc => (hafter c hc).1
  obtain ⟨htake', hdrop'⟩ := span_whole hw hafter
  unfold decimal?
  dsimp only
  rw [List.append_assoc, htake', hdrop']
  cases fraction with
  | nil =>
    split
    · next heq => exact absurd rfl (hafter '.' (by simpa [pointed] using congrArg List.head? heq)).2
    · simpa [hwhole, pointed, htail] using hread
  | cons d ds =>
    simp only [pointed, List.isEmpty_cons, Bool.false_eq_true, if_false, List.cons_append]
    rw [← List.cons_append, htake, hdrop]
    simpa [htail] using hread

/-- The characters of a spelled number, of which the first is a digit. -/
theorem isNumeric_of_spells {cs : List Char} {x : ℚ} (h : Spells cs x) :
    (∀ c ∈ cs, isNumeric c = true) ∧ ∃ d ds, cs = d :: ds ∧ d.isDigit = true := by
  obtain ⟨whole, fraction, tail, e, rfl, hwhole, hdigits, htail, rfl⟩ := h
  constructor
  · intro c hc
    rcases List.mem_append.1 hc with hc | hc
    · rcases List.mem_append.1 hc with hc | hc
      · exact isNumeric_of_isDigit (hdigits c (List.mem_append_left _ hc))
      · unfold pointed at hc
        split at hc
        · cases hc
        · rcases List.mem_cons.1 hc with rfl | hc
          · decide
          · exact isNumeric_of_isDigit (hdigits c (List.mem_append_right _ hc))
    · exact isNumeric_of_mem_exponent htail c hc
  · obtain ⟨d, ds, rfl⟩ := List.exists_cons_of_ne_nil hwhole
    exact ⟨d, _, rfl, hdigits d List.mem_cons_self⟩

/-! ## Layouts -/

theorem isDigit_of_mem_zeros {n : Nat} {c : Char} (h : c ∈ List.replicate n '0') :
    c.isDigit = true := by
  rw [List.eq_of_mem_replicate h]
  rfl

section Places

variable {ds : List Char} (hne : ds ≠ []) (hdigits : ∀ c ∈ ds, c.isDigit = true)

include hdigits

/-- The point stands among the digits. -/
theorem spells_split {places : Nat} (hpos : 0 < places) (hlong : places < ds.length) :
    Spells (ds.take (ds.length - places) ++ '.' :: ds.drop (ds.length - places))
      (digitsValue ds * 10 ^ (-places : ℤ)) := by
  have hplaces : (ds.drop (ds.length - places)).length = places := by
    rw [List.length_drop]
    omega
  have hfraction : ds.drop (ds.length - places) ≠ [] := by
    rw [← List.length_pos_iff, hplaces]
    exact hpos
  refine .intro (ds.take (ds.length - places)) (ds.drop (ds.length - places)) [] 0 ?_ ?_ ?_ rfl ?_
  · simp [pointed, hfraction]
  · rw [← List.length_pos_iff, List.length_take]
    omega
  · rwa [List.take_append_drop]
  · rw [List.take_append_drop, hplaces, zero_sub]

include hne

/-- Zeros stand between the point and the digits. -/
theorem spells_led {places : Nat} (hshort : ds.length ≤ places) :
    Spells ('0' :: '.' :: List.replicate (places - ds.length) '0' ++ ds)
      (digitsValue ds * 10 ^ (-places : ℤ)) := by
  have hlen : (List.replicate (places - ds.length) '0' ++ ds).length = places := by
    rw [List.length_append, List.length_replicate]
    omega
  refine .intro ['0'] (List.replicate (places - ds.length) '0' ++ ds) [] 0 ?_ (by simp) ?_ rfl ?_
  · simp [pointed, hne]
  · intro c hc
    rcases List.mem_append.1 hc with hc | hc
    · exact isDigit_of_mem_zeros (n := 1) hc
    · rcases List.mem_append.1 hc with hc | hc
      · exact isDigit_of_mem_zeros hc
      · exact hdigits c hc
  · rw [hlen, ← List.append_assoc, digitsValue_append, digitsValue_append, digitsValue_zeros]
    simp [digitsValue, digitValue]

/-- Zeros stand behind the digits, and one more behind the point if there is one. -/
theorem spells_trailed (k : Nat) (point : Bool) :
    Spells (ds ++ List.replicate k '0' ++ (if point then ['.', '0'] else []))
      (digitsValue ds * 10 ^ (k : ℤ)) := by
  refine .intro (ds ++ List.replicate k '0') (List.replicate (if point then 1 else 0) '0') [] 0
    ?_ (by simp [hne]) ?_ rfl ?_
  · cases point <;> simp [pointed]
  · intro c hc
    rcases List.mem_append.1 hc with hc | hc
    · rcases List.mem_append.1 hc with hc | hc
      · exact hdigits c hc
      · exact isDigit_of_mem_zeros hc
    · exact isDigit_of_mem_zeros hc
  · rw [digitsValue_append, digitsValue_append, digitsValue_zeros, digitsValue_zeros,
      List.length_replicate, List.length_replicate]
    generalize (if point then 1 else 0) = j
    push_cast
    rw [zpow_sub₀ (by norm_num), zpow_natCast, zpow_natCast, zpow_zero]
    field_simp
    ring

end Places

theorem spells_positional (l : Layout) (d : Decimal) : Spells (l.positional d) d.value := by
  obtain ⟨n, e⟩ := d
  have hne := natDigits_ne_nil n
  have hvalue := digitsValue_natDigits n
  have hdigits : ∀ c ∈ natDigits n, c.isDigit = true := fun c => isDigit_of_mem_natDigits
  unfold Layout.positional Decimal.value
  dsimp only
  generalize natDigits n = ds at hne hvalue hdigits ⊢
  subst hvalue
  rcases lt_or_ge e 0 with hneg | hnonneg
  · obtain ⟨places, rfl⟩ : ∃ k : Nat, e = -k := ⟨(-e).toNat, by omega⟩
    rw [if_neg (by omega), Int.neg_neg, Int.toNat_natCast]
    split
    · next hlong => exact spells_split hdigits (by omega) hlong
    · next hshort => exact spells_led hne hdigits (Nat.le_of_not_lt hshort)
  · obtain ⟨k, rfl⟩ := Int.eq_ofNat_of_zero_le hnonneg
    rw [if_pos hnonneg, Int.toNat_natCast]
    exact spells_trailed hne hdigits k l.pointed

/-- An exponent reads as it was written. -/
theorem exponent?_signed (k : ℤ) :
    exponent? ('e' :: (if k < 0 then '-' else '+') :: natDigits k.natAbs) = some k := by
  have hread : ∀ n : Nat, (natDigits n).isEmpty = false ∧ (natDigits n).all Char.isDigit = true :=
    fun n => ⟨by simp [natDigits_ne_nil], List.all_eq_true.2 fun c => isDigit_of_mem_natDigits⟩
  rcases lt_or_ge k 0 with hneg | hnonneg
  · obtain ⟨n, rfl⟩ : ∃ n : Nat, k = -n := ⟨(-k).toNat, by omega⟩
    rw [if_pos hneg, Int.natAbs_neg, Int.natAbs_natCast]
    simp [exponent?, signed, (hread n).1, (hread n).2, digitsValue_natDigits]
  · obtain ⟨n, rfl⟩ := Int.eq_ofNat_of_zero_le hnonneg
    rw [if_neg (by omega), Int.natAbs_natCast]
    simp [exponent?, signed, (hread n).1, (hread n).2, digitsValue_natDigits]

theorem spells_scientific (d : Decimal) :
    Spells (Layout.scientific d (d.exponent + (natDigits d.digits).length - 1)) d.value := by
  obtain ⟨n, e⟩ := d
  have hne := natDigits_ne_nil n
  have hvalue := digitsValue_natDigits n
  have hdigits : ∀ c ∈ natDigits n, c.isDigit = true := fun c => isDigit_of_mem_natDigits
  unfold Layout.scientific Decimal.value
  dsimp only
  generalize natDigits n = ds at hne hvalue hdigits ⊢
  subst hvalue
  obtain ⟨d, rest, rfl⟩ := List.exists_cons_of_ne_nil hne
  generalize hk : e + (d :: rest).length - 1 = k
  have he : k - rest.length = e := by
    rw [List.length_cons] at hk
    omega
  refine .intro [d] rest ('e' :: (if k < 0 then '-' else '+') :: natDigits k.natAbs) k ?_ (by simp)
    hdigits (exponent?_signed k) ?_
  · simp [pointed]
  · rw [he]
    rfl

theorem spells_decimal (l : Layout) (d : Decimal) : Spells (l.decimal d) d.value := by
  unfold Layout.decimal
  dsimp only
  split
  · exact spells_positional l d
  · exact spells_scientific d

/-! ## Round trips -/

theorem real?_of_digit {d : Char} (hd : d.isDigit = true) (negative : Bool) (ds : List Char) :
    real? (String.ofList ((if negative then ['-'] else []) ++ d :: ds)) =
      decimal? negative (d :: ds) := by
  have hsigned : signed ((if negative then ['-'] else []) ++ d :: ds) = (negative, d :: ds) := by
    cases negative with
    | true => rfl
    | false =>
      unfold signed
      split
      · next heq => cases heq; cases hd
      · next heq => cases heq; cases hd
      · rfl
  -- No name of another double starts with a digit.
  have hlower : d.toLower = d := by
    have hle : d.toNat ≤ '9'.toNat := (Char.isDigit_iff_toNat.1 hd).2
    refine dif_neg fun h => ?_
    have hge : 'A'.toNat ≤ d.toNat := UInt32.le_iff_toNat_le.1 h.1
    exact absurd (hge.trans hle) (by decide)
  have hi : d ≠ 'i' := by rintro rfl; cases hd
  have hn : d ≠ 'n' := by rintro rfl; cases hd
  unfold real?
  rw [String.toList_ofList, hsigned]
  simp [hlower, hi, hn]

/-- Every layout writes a finite double in a way that reads back. -/
theorem real?_finite (l : Layout) (negative : Bool) (rank : Fin rankLimit) :
    real? (l.finite negative rank) = some (.finite negative rank) := by
  have hspells := spells_decimal l (shortest l.tie rank)
  obtain ⟨-, d, ds, hds, hd⟩ := isNumeric_of_spells hspells
  have hread := decimal?_of_spells negative hspells rank.isLt (rounds_shortest l.tie rank)
  rw [Layout.finite, hds, real?_of_digit hd, ← hds, hread, Binary64.ofRank, dif_pos rank.isLt]

theorem Layout.finite_inj (l : Layout) {negative negative' : Bool} {rank rank' : Fin rankLimit}
    (h : l.finite negative rank = l.finite negative' rank') :
    negative = negative' ∧ rank = rank' := by
  have hread := congrArg real? h
  rw [real?_finite, real?_finite] at hread
  simpa using hread

end CrossFilter.Number
