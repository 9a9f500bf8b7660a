/-!
# Doubles

A double is a number of IEEE 754's `binary64` format. Its finite magnitudes are counted upwards
from zero: rank 0 is zero and rank `r + 1` the next magnitude above rank `r`, so that the rank of
a magnitude is the number its bits spell. Every magnitude is a whole number of units of
`2 ^ -1074`; `units r` is that number, and rounding is a search for the rank whose units come
nearest. All arithmetic is exact arithmetic of naturals, followed by one rounding.

`floorRank_units` says that the rank search undoes `units`, and `nearestRank_units` that a magnitude
of the format is its own rounding.
-/

namespace CrossFilter.Number

/-- How many ranks share one power of two. -/
def binade : Nat := Nat.pow 2 52

/-- The first rank past the finite magnitudes. -/
def rankLimit : Nat := 2047 * binade

/-- One, in units of `2 ^ -1074`. -/
def unitsPerOne : Nat := Nat.pow 2 1074

inductive Binary64 where
  | finite (negative : Bool) (rank : Fin rankLimit)
  | infinite (negative : Bool)
  | nan
  deriving DecidableEq, Repr

/-- The magnitude of a rank, in units of `2 ^ -1074`. -/
def units (rank : Nat) : Nat :=
  if rank < binade then rank
  else (binade + rank % binade) * Nat.pow 2 (rank / binade - 1)

/-- The last rank whose magnitude is at most `u` units. -/
def floorRank (u : Nat) : Nat :=
  let shift := Nat.log2 u - 52
  shift * binade + u / Nat.pow 2 shift

/-- The rank nearest to `num / den` units; a value halfway between two ranks goes to the even one. -/
def nearestRank (num den : Nat) : Nat :=
  let rank := floorRank (num / den)
  let middle := (units rank + units (rank + 1)) * den
  if 2 * num < middle then rank
  else if middle < 2 * num then rank + 1
  else if rank % 2 = 0 then rank
  else rank + 1

namespace Binary64

/-- The double of a sign and a rank; a rank past the finite ones is infinity. -/
def ofRank (negative : Bool) (rank : Nat) : Binary64 :=
  if h : rank < rankLimit then .finite negative ⟨rank, h⟩ else .infinite negative

/-- The double nearest to `num / den`. -/
def ofRatio (negative : Bool) (num den : Nat) : Binary64 :=
  ofRank negative (nearestRank (num * unitsPerOne) den)

def ofNat (n : Nat) : Binary64 := ofRatio false n 1

def zero (negative : Bool) : Binary64 := ofRank negative 0

def isFinite : Binary64 → Bool
  | .finite _ _ => true
  | _ => false

/-- Equality of numbers: the two zeros are equal, and a NaN differs from everything. -/
def same : Binary64 → Binary64 → Bool
  | .finite s r, .finite t q => r == q && (s == t || r.val == 0)
  | .infinite s, .infinite t => s == t
  | _, _ => false

/-- The natural number that a double is equal to, if it is one. -/
def natural? : Binary64 → Option Nat
  | .finite negative rank =>
    let u := units rank.val
    if u % unitsPerOne = 0 ∧ (negative = false ∨ u = 0) then some (u / unitsPerOne) else none
  | _ => none

end Binary64

/-! ## Products and quotients of magnitudes -/

/-- The rank nearest to the product of two magnitudes. -/
def mulRank (a b : Nat) : Nat := nearestRank (units a * units b) unitsPerOne

/-- The rank nearest to the quotient of two magnitudes, the second not zero. -/
def divRank (a b : Nat) : Nat := nearestRank (units a * unitsPerOne) (units b)

/-- The rank nearest to a natural number. -/
def natRank (n : Nat) : Nat := nearestRank (n * unitsPerOne) 1

/-! ## Laws -/

theorem binade_eq : binade = 4503599627370496 := rfl

/-- A magnitude of a full binade has as many bits as its rank says. -/
theorem log2_binade_add_mul {m : Nat} (h : m < binade) (k : Nat) :
    Nat.log2 ((binade + m) * Nat.pow 2 k) = 52 + k := by
  have hp : 0 < 2 ^ k := Nat.two_pow_pos k
  rw [Nat.pow_eq]
  rw [binade_eq] at *
  refine (Nat.log2_eq_iff (Nat.mul_ne_zero (by omega) (by omega))).2 ⟨?_, ?_⟩
  · rw [Nat.pow_add]
    exact Nat.mul_le_mul_right _ (by omega)
  · rw [show 52 + k + 1 = 53 + k by omega, Nat.pow_add]
    exact Nat.mul_lt_mul_of_pos_right (by omega) hp

theorem floorRank_units (rank : Nat) : floorRank (units rank) = rank := by
  unfold units floorRank
  split
  · next h =>
    have hlog : Nat.log2 rank - 52 = 0 := by
      by_cases h0 : rank = 0
      · subst h0; rfl
      · have := (Nat.log2_lt h0).2 (show rank < 2 ^ 52 from h)
        omega
    simp [hlog]
  · next h =>
    have hb : 0 < rank / binade := Nat.div_pos (Nat.le_of_not_lt h) (by decide)
    have hr := Nat.div_add_mod' rank binade
    rw [log2_binade_add_mul (Nat.mod_lt _ (by decide)), Nat.add_sub_cancel_left]
    simp only [Nat.pow_eq]
    rw [Nat.mul_div_cancel _ (Nat.two_pow_pos _)]
    have e : (rank / binade - 1) * binade + binade = rank / binade * binade := by
      rw [← Nat.succ_mul, Nat.succ_eq_add_one, Nat.sub_add_cancel hb]
    omega

theorem units_lt_units_succ (rank : Nat) : units rank < units (rank + 1) := by
  unfold units
  simp only [Nat.pow_eq]
  by_cases h : rank + 1 < binade
  · rw [if_pos h, if_pos (by omega)]; omega
  · rw [if_neg h]
    by_cases h' : rank < binade
    · rw [if_pos h']
      have : rank + 1 = binade := by omega
      rw [this]
      rw [binade_eq] at *
      simp
      omega
    · rw [if_neg h']
      have hb : 0 < rank / binade := Nat.div_pos (Nat.le_of_not_lt h') (by decide)
      by_cases hm : rank % binade + 1 < binade
      · have hd : (rank + 1) / binade = rank / binade := by
          rw [binade_eq] at *; omega
        have hm' : (rank + 1) % binade = rank % binade + 1 := by
          rw [binade_eq] at *; omega
        rw [hd, hm']
        exact Nat.mul_lt_mul_of_pos_right (by omega) (Nat.two_pow_pos _)
      · have hd : (rank + 1) / binade = rank / binade + 1 := by
          rw [binade_eq] at *; omega
        have hm' : (rank + 1) % binade = 0 := by
          rw [binade_eq] at *; omega
        rw [hd, hm', show rank / binade + 1 - 1 = (rank / binade - 1) + 1 by omega, Nat.pow_succ,
          ← Nat.mul_assoc, Nat.mul_right_comm]
        refine Nat.mul_lt_mul_of_pos_right ?_ (Nat.two_pow_pos _)
        have := Nat.mod_lt rank (show 0 < binade by decide)
        omega

/-- A magnitude of the format is its own rounding. -/
theorem nearestRank_units (rank : Nat) : nearestRank (units rank) 1 = rank := by
  have h := units_lt_units_succ rank
  simp only [nearestRank, Nat.div_one, floorRank_units, Nat.mul_one]
  rw [if_pos (by omega)]

end CrossFilter.Number
