import CrossFilter.Number.Shortest
import Mathlib.Algebra.Order.Field.Power
import Mathlib.Data.Rat.Cast.Order
import Mathlib.Tactic.Linarith
import Mathlib.Tactic.Positivity
import Mathlib.Tactic.Ring

/-!
# Rounding

`Rounds` is what the rank search and the digit search have in common: the numbers that round to a
rank. `nearestRank_of_rounds` says that the search for the nearest rank finds it, and
`rounds_shortest` that the shortest digits of a rank are such a number. Numbers are rationals,
counted in units of `2 ^ -1074`.
-/

namespace CrossFilter.Number

/-! ## Ranks -/

/-- Within two binades above a power of two the units grow evenly. -/
theorem units_mul_add {t : Nat} (low : binade ≤ t) (high : t ≤ 2 * binade) (s : Nat) :
    units (s * binade + t) = t * 2 ^ s := by
  have hb : 0 < binade := by decide
  have hlow : ¬ s * binade + t < binade := by omega
  rw [units, if_neg hlow, Nat.pow_eq]
  rcases Nat.lt_or_eq_of_le high with hlt | rfl
  · obtain ⟨m, rfl⟩ := Nat.exists_eq_add_of_le low
    have hm : m < binade := by omega
    have e : s * binade + (binade + m) = m + binade * (s + 1) := by ring
    rw [e, Nat.add_mul_mod_self_left, Nat.mod_eq_of_lt hm, Nat.add_mul_div_left _ _ hb,
      Nat.div_eq_of_lt hm, Nat.zero_add, Nat.add_sub_cancel]
  · have e : s * binade + 2 * binade = binade * (s + 2) := by ring
    rw [e, Nat.mul_mod_right, Nat.mul_div_cancel_left _ hb, Nat.add_zero,
      show s + 2 - 1 = s + 1 by omega, Nat.pow_succ]
    ring

theorem units_of_lt {rank : Nat} (h : rank < binade) : units rank = rank := if_pos h

theorem units_strictMono : StrictMono units := strictMono_nat_of_lt_succ units_lt_units_succ

/-- The rank search finds the magnitude next below. -/
theorem floorRank_spec (u : Nat) : units (floorRank u) ≤ u ∧ u < units (floorRank u + 1) := by
  have hb : binade = 2 ^ 52 := rfl
  have hfloor : floorRank u = (Nat.log2 u - 52) * binade + u / 2 ^ (Nat.log2 u - 52) := rfl
  rw [hfloor]
  rcases Nat.lt_or_ge u binade with hu | hu
  · have hlog : Nat.log2 u - 52 = 0 := by
      by_cases h0 : u = 0
      · rw [h0, Nat.log2_zero]
      · have := (Nat.log2_lt h0).2 (hb ▸ hu)
        omega
    have hsucc := units_lt_units_succ u
    rw [units_of_lt hu] at hsucc
    simp only [hlog, Nat.zero_mul, Nat.pow_zero, Nat.div_one, Nat.zero_add]
    exact ⟨(units_of_lt hu).le, hsucc⟩
  · have h0 : u ≠ 0 := by
      have : 0 < binade := by decide
      omega
    have hlog : 52 ≤ Nat.log2 u := (Nat.le_log2 h0).2 (hb ▸ hu)
    obtain ⟨s, hs⟩ := Nat.exists_eq_add_of_le hlog
    have hle : 2 ^ (52 + s) ≤ u := hs ▸ Nat.log2_self_le h0
    have hlt : u < 2 ^ (52 + s + 1) := hs ▸ Nat.lt_log2_self
    rw [hs, Nat.add_sub_cancel_left]
    have hp : 0 < 2 ^ s := Nat.two_pow_pos s
    have low : binade ≤ u / 2 ^ s := by
      rw [Nat.le_div_iff_mul_le hp, hb, ← Nat.pow_add]
      exact hle
    have high : u / 2 ^ s < 2 * binade := by
      rw [Nat.div_lt_iff_lt_mul hp, hb, ← Nat.pow_succ', ← Nat.pow_add]
      exact lt_of_lt_of_eq hlt (by ring)
    rw [Nat.add_assoc, units_mul_add low high.le, units_mul_add (by omega) (by omega)]
    refine ⟨Nat.div_mul_le_self u _, ?_⟩
    exact Nat.lt_mul_of_div_lt (Nat.lt_succ_self _) hp


/-! ## Rounding -/

/-- A number, counted in units, rounds to a rank if it lies between the points halfway to the
neighbours, or on one of them if the rank is even. -/
structure Rounds (rank : Nat) (x : ℚ) : Prop where
  above : (units (rank - 1) + units rank : Nat) ≤ 2 * x
  below : 2 * x ≤ (units rank + units (rank + 1) : Nat)
  inside : rank % 2 = 1 → (units (rank - 1) + units rank : Nat) < 2 * x ∧
    2 * x < (units rank + units (rank + 1) : Nat)

section

variable {x : ℚ} {num den : Nat} (hden : 0 < den) (hx : 2 * x * den = num)

include hden hx

theorem le_two_mul_iff (a : Nat) : a ≤ 2 * x ↔ a * den ≤ num := by
  have hd : (0 : ℚ) < den := by exact_mod_cast hden
  rw [← mul_le_mul_iff_left₀ hd, hx]
  exact_mod_cast Iff.rfl

theorem two_mul_le_iff (a : Nat) : 2 * x ≤ a ↔ num ≤ a * den := by
  have hd : (0 : ℚ) < den := by exact_mod_cast hden
  rw [← mul_le_mul_iff_left₀ hd, hx]
  exact_mod_cast Iff.rfl

/-- The ends of the interval compared in whole numbers. -/
theorem rounds_iff {rank : Nat} :
    Rounds rank x ↔ (units (rank - 1) + units rank) * den ≤ num ∧
      num ≤ (units rank + units (rank + 1)) * den ∧
      (rank % 2 = 1 → (units (rank - 1) + units rank) * den < num ∧
        num < (units rank + units (rank + 1)) * den) := by
  have hlow := le_two_mul_iff hden hx
  have hhigh := two_mul_le_iff hden hx
  have hlow' : ∀ a : Nat, a < 2 * x ↔ a * den < num := fun a => by rw [← not_le, hhigh, not_le]
  have hhigh' : ∀ a : Nat, 2 * x < a ↔ num < a * den := fun a => by rw [← not_le, hlow, not_le]
  rw [← hlow, ← hhigh, ← hlow', ← hhigh']
  exact ⟨fun h => ⟨h.above, h.below, h.inside⟩, fun h => ⟨h.1, h.2.1, h.2.2⟩⟩

end

theorem nearestRank_of_rounds {rank num den : Nat} (hden : 0 < den)
    (h : Rounds rank ((num : ℚ) / den)) : nearestRank num den = rank := by
  have hd : (den : ℚ) ≠ 0 := by exact_mod_cast hden.ne'
  have hx : 2 * ((num : ℚ) / den) * den = (2 * num : Nat) := by
    rw [mul_assoc, div_mul_cancel₀ _ hd]
    push_cast
    rfl
  obtain ⟨above, below, inside⟩ := (rounds_iff hden hx).1 h
  obtain ⟨hfloor, hnext⟩ := floorRank_spec (num / den)
  unfold nearestRank
  generalize floorRank (num / den) = f at hfloor hnext ⊢
  replace hfloor : units f * den ≤ num := (Nat.le_div_iff_mul_le hden).1 hfloor
  replace hnext : num < units (f + 1) * den := (Nat.div_lt_iff_lt_mul hden).1 hnext
  -- The rank found is the one that the number rounds to, or the one before.
  have hle : f ≤ rank := by
    by_contra hlt
    have h1 : units (rank + 1) ≤ units f := units_strictMono.monotone (by omega)
    have h2 : units rank < units f := units_strictMono (by omega)
    nlinarith
  have hge : rank ≤ f + 1 := by
    by_contra hlt
    have h1 : units (f + 1) ≤ units (rank - 1) := units_strictMono.monotone (by omega)
    have h2 : units (f + 1) ≤ units rank := units_strictMono.monotone (by omega)
    nlinarith
  dsimp only
  rcases Nat.lt_or_eq_of_le hle with hlt | rfl
  · obtain rfl : rank = f + 1 := by omega
    rw [Nat.add_sub_cancel] at above inside
    split_ifs <;> omega
  · split_ifs <;> omega

/-- Only zero is as near to nothing. -/
theorem rank_eq_zero_of_rounds {rank : Nat} {x : ℚ} (h : Rounds rank x) (hx : 2 * x < 1) :
    rank = 0 := by
  have hzero : units (rank - 1) + units rank < 1 := by
    exact_mod_cast lt_of_le_of_lt h.above hx
  by_contra hne
  have := units_strictMono (show 0 < rank by omega)
  omega

/-! ## Shortest digits -/

def Decimal.value (d : Decimal) : ℚ := d.digits * 10 ^ d.exponent

/-- A number in units of the least magnitude. -/
def inUnits (x : ℚ) : ℚ := x * unitsPerOne

/-- A closed window holds its ends. -/
theorem Window.contains_iff (w : Window) (q : Nat) : w.contains q = true ↔
    w.low ≤ q * w.step ∧ q * w.step ≤ w.high ∧
      (w.closed = false → w.low < q * w.step ∧ q * w.step < w.high) := by
  unfold Window.contains
  cases w.closed with
  | false =>
    simp only [Bool.false_eq_true, if_false, Bool.and_eq_true, decide_eq_true_eq, true_imp_iff]
    exact ⟨fun h => ⟨h.1.le, h.2.le, h⟩, fun h => h.2.2⟩
  | true => simp

theorem window_step (rank index : Nat) :
    (window rank index).step = 2 * unitsPerOne * Nat.pow 10 (index - 1074) := by
  have e : Nat.pow 2 1075 = 2 * unitsPerOne := by decide +kernel
  rw [← e]
  rfl

/-- A point of the grid lies inside the window of a rank exactly if the number it stands for rounds
to the rank. -/
theorem contains_iff_rounds {rank index q : Nat} : (window rank index).contains q = true ↔
    Rounds rank (inUnits (Decimal.value ⟨q, (index : ℤ) - 1074⟩)) := by
  -- All of the window is scaled by this power of ten.
  have hx : 2 * inUnits (Decimal.value ⟨q, (index : ℤ) - 1074⟩) * (10 ^ (1074 - index) : Nat) =
      (q * (2 * unitsPerOne * 10 ^ (index - 1074)) : Nat) := by
    have hpow : (10 : ℚ) ^ ((index : ℤ) - 1074) * 10 ^ (1074 - index) = 10 ^ (index - 1074) := by
      rw [← zpow_natCast, ← zpow_natCast, ← zpow_add₀ (by norm_num)]
      congr 1
      omega
    unfold inUnits Decimal.value
    push_cast
    rw [← hpow]
    ring
  have hlow : (window rank index).low = (units (rank - 1) + units rank) * 10 ^ (1074 - index) := rfl
  have hhigh : (window rank index).high =
      (units rank + units (rank + 1)) * 10 ^ (1074 - index) := rfl
  have hclosed : (window rank index).closed = false ↔ rank % 2 = 1 := by
    rw [show (window rank index).closed = (rank % 2 == 0) from rfl, beq_eq_false_iff_ne]
    omega
  rw [rounds_iff (by positivity) hx, Window.contains_iff, window_step, hlow, hhigh, hclosed,
    Nat.pow_eq]

theorem contains_of_point? {w : Window} {tie : Tie} {q : Nat} (h : w.point? tie = some q) :
    w.contains q = true := by
  unfold Window.point? at h
  dsimp only at h
  split at h
  · cases h
  · next hq _ => cases h; exact hq
  · next _ hq => cases h; exact hq
  · next hq hq' =>
    split_ifs at h
    · cases h; exact hq
    · cases h; exact hq'
    · cases tie <;> (cases h; assumption)
    · cases tie <;> (cases h; assumption)

/-- A magnitude rounds to itself. -/
theorem rounds_units (rank : Nat) : Rounds rank (units rank) := by
  have hx : 2 * (units rank : ℚ) * (1 : Nat) = (2 * units rank : Nat) := by push_cast; ring
  have hbelow : units (rank - 1) ≤ units rank := units_strictMono.monotone (Nat.sub_le rank 1)
  have habove := units_lt_units_succ rank
  rw [rounds_iff Nat.one_pos hx]
  refine ⟨by omega, by omega, fun hodd => ⟨?_, by omega⟩⟩
  have hlt : units (rank - 1) < units rank := units_strictMono (by omega)
  omega

/-- On the finest grid every magnitude is a point. -/
theorem inUnits_finest (rank : Nat) :
    inUnits (Decimal.value ⟨units rank * Nat.pow 5 1074, -1074⟩) = units rank := by
  -- The exponent is kept as a variable, so that no power is worked out.
  have hpow : ∀ n : Nat,
      ((units rank * Nat.pow 5 n : Nat) : ℚ) * 10 ^ (-n : ℤ) * (Nat.pow 2 n : Nat) = units rank := by
    intro n
    have h : (5 : ℚ) ^ n * 2 ^ n * 10 ^ (-n : ℤ) = 1 := by
      rw [← mul_pow, zpow_neg, zpow_natCast]
      norm_num
    simp only [Nat.pow_eq]
    push_cast
    rw [mul_assoc, mul_assoc, mul_comm ((10 : ℚ) ^ (-n : ℤ)), ← mul_assoc (5 ^ n), h, mul_one]
  exact hpow 1074

theorem rounds_coarsest (tie : Tie) (rank index : Nat) :
    Rounds rank (inUnits (coarsest tie rank index).value) := by
  induction index with
  | zero =>
    rw [coarsest, inUnits_finest]
    exact rounds_units rank
  | succ index ih =>
    rw [coarsest]
    split
    · next q hq => exact contains_iff_rounds.1 (contains_of_point? hq)
    · exact ih

/-- The shortest digits of a rank are a number that rounds to it. -/
theorem rounds_shortest (tie : Tie) (rank : Nat) :
    Rounds rank (inUnits (shortest tie rank).value) := by
  unfold shortest
  split
  · next h =>
    have hzero : inUnits (Decimal.value ⟨0, 0⟩) = units rank := by
      rw [h, units_of_lt (by decide), inUnits, Decimal.value, Nat.cast_zero, zero_mul, zero_mul]
    rw [hzero]
    exact rounds_units rank
  · exact rounds_coarsest tie rank _

end CrossFilter.Number
