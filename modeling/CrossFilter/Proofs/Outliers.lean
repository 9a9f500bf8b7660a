import CrossFilter.Proofs.ChartOutcomes
import CrossFilter.Proofs.NumberTexts

/-!
# Boxplots and their outliers

An outlier is sent as two doubles, and the first of them has to be the number of a category.
`Binary64.value?` is the number that a double stands for, and `natural?_eq_some_iff` says that the
test for natural numbers goes by it. `Marks` is what is left of the outliers that are sent, and
`boxplot_exact` what becomes of a response that declares a boxplot.

On a machine the index is cut down to a word of 64 bits first, which every double can be, and
checked afterwards. `outlier?_eq_cast` says that the detour does no harm.
-/

namespace CrossFilter

namespace Number.Binary64

/-- The number that a finite double stands for. -/
def value? : Binary64 → Option ℚ
  | .finite negative rank =>
    some ((if negative then -1 else 1) * ((units rank.val : ℚ) / unitsPerOne))
  | _ => none

theorem natural?_eq_some_iff {d : Binary64} {n : Nat} :
    d.natural? = some n ↔ d.value? = some (n : ℚ) := by
  cases d with
  | finite negative rank =>
    have hone : (0 : ℚ) < unitsPerOne := by exact_mod_cast unitsPerOne_pos
    simp only [natural?, value?]
    generalize units rank.val = u
    generalize unitsPerOne = one at hone
    have hone' : 0 < one := by exact_mod_cast hone
    -- A whole number of units is a natural number, if it is this many times one.
    have hwhole : (u : ℚ) / one = n ↔ u % one = 0 ∧ u / one = n := by
      rw [div_eq_iff hone.ne']
      norm_cast
      constructor
      · rintro rfl
        exact ⟨Nat.mul_mod_left n one, Nat.mul_div_cancel n hone'⟩
      · rintro ⟨hmod, rfl⟩
        exact (Nat.div_mul_cancel (Nat.dvd_of_mod_eq_zero hmod)).symm
    cases negative with
    | false => simp [hwhole]
    | true =>
      have hu : (0 : ℚ) ≤ (u : ℚ) / one := by positivity
      have hn : (0 : ℚ) ≤ n := by positivity
      have hzero : -1 * ((u : ℚ) / one) = n ↔ u = 0 ∧ n = 0 := by
        constructor
        · intro h
          have hu0 : (u : ℚ) / one = 0 := by linarith
          have hn0 : (n : ℚ) = 0 := by linarith
          exact ⟨by simpa [hone.ne'] using hu0, by exact_mod_cast hn0⟩
        · rintro ⟨rfl, rfl⟩
          simp
      simp only [if_true, Option.some.injEq, hzero]
      by_cases h0 : u = 0
      · simp [h0, eq_comm]
      · simp [h0]
  | infinite negative => simp [natural?, value?]
  | nan => simp [natural?, value?]

/-! ## Words of 64 bits -/

/-- How many numbers a word can hold. -/
def words : Nat := Nat.pow 2 64

/-- The word that a double is cast to. What stands behind the point is cut off, a double that lies
outside all words goes to the nearer end, and NaN to zero. -/
def toWord : Binary64 → Nat
  | .finite negative rank => if negative then 0 else min (units rank.val / unitsPerOne) (words - 1)
  | .infinite negative => if negative then 0 else words - 1
  | .nan => 0

/-- Below zero, which neither of the two zeros is. -/
def isNegative : Binary64 → Bool
  | .finite negative rank => negative && rank.val != 0
  | .infinite negative => negative
  | .nan => false

/-- Nothing stands behind the point. -/
def isWhole : Binary64 → Bool
  | .finite _ rank => units rank.val % unitsPerOne == 0
  | _ => false

end Number.Binary64

namespace Chart

open Number

/-! ## Outliers -/

/-- What is left of the outliers that are sent: each whose index is the number of a category, at
that category and with its value, in their order. -/
inductive Marks (size : Nat) : List (Binary64 × Binary64) → List Outlier → Prop
  | nil : Marks size [] []
  | keep {index value : Binary64} {category : Nat} {sent : List (Binary64 × Binary64)}
      {outliers : List Outlier} :
      index.value? = some (category : ℚ) → category < size → Marks size sent outliers →
      Marks size ((index, value) :: sent) (⟨category, value⟩ :: outliers)
  | drop {index value : Binary64} {sent : List (Binary64 × Binary64)} {outliers : List Outlier} :
      (¬ ∃ category : Nat, index.value? = some (category : ℚ) ∧ category < size) →
      Marks size sent outliers → Marks size ((index, value) :: sent) outliers

variable {size : Nat} {index value : Binary64}

theorem outlier?_eq_some_iff {o : Outlier} : outlier? size index value = some o ↔
    (index.value? = some (o.category : ℚ) ∧ o.category < size) ∧ value = o.value := by
  rw [← Binary64.natural?_eq_some_iff, outlier?]
  cases hindex : index.natural? with
  | none => simp
  | some n =>
    obtain ⟨category, v⟩ := o
    by_cases hn : n < size
    · simp only [hn, if_true, Option.some.injEq, Outlier.mk.injEq]
      grind
    · simp only [hn, if_false, Option.some.injEq]
      grind

theorem outlier?_eq_none_iff : outlier? size index value = none ↔
    ¬ ∃ category : Nat, index.value? = some (category : ℚ) ∧ category < size := by
  constructor
  · rintro h ⟨category, hcategory⟩
    have hsome : outlier? size index value = some ⟨category, value⟩ :=
      outlier?_eq_some_iff.2 ⟨hcategory, rfl⟩
    rw [h] at hsome
    cases hsome
  · intro h
    cases ho : outlier? size index value with
    | none => rfl
    | some o => exact absurd ⟨o.category, (outlier?_eq_some_iff.1 ho).1⟩ h

theorem marks_filterMap (size : Nat) (sent : List (Binary64 × Binary64)) :
    Marks size sent (sent.filterMap fun s => outlier? size s.1 s.2) := by
  induction sent with
  | nil => exact .nil
  | cons s sent ih =>
    obtain ⟨index, value⟩ := s
    cases ho : outlier? size index value with
    | none =>
      simp only [List.filterMap_cons, ho]
      exact .drop (outlier?_eq_none_iff.1 ho) ih
    | some o =>
      simp only [List.filterMap_cons, ho]
      obtain ⟨⟨hvalue, hlt⟩, rfl⟩ := outlier?_eq_some_iff.1 ho
      exact .keep hvalue hlt ih

theorem Marks.eq_filterMap {sent : List (Binary64 × Binary64)} {outliers : List Outlier}
    (h : Marks size sent outliers) :
    outliers = sent.filterMap fun s => outlier? size s.1 s.2 := by
  induction h with
  | nil => rfl
  | @keep index value category _ _ hvalue hlt _ ih =>
    have ho : outlier? size index value = some ⟨category, value⟩ :=
      outlier?_eq_some_iff.2 ⟨⟨hvalue, hlt⟩, rfl⟩
    simp only [List.filterMap_cons, ho, ← ih]
  | drop hnone _ ih => simp only [List.filterMap_cons, outlier?_eq_none_iff.2 hnone, ← ih]

theorem Marks.lt_size {sent : List (Binary64 × Binary64)} {outliers : List Outlier}
    (h : Marks size sent outliers) : ∀ o ∈ outliers, o.category < size := by
  induction h with
  | nil => nofun
  | keep _ hlt _ ih => exact List.forall_mem_cons.2 ⟨hlt, ih⟩
  | drop _ _ ih => exact ih

/-- An outlier whose index is first cast to a word, and then found to be no category. -/
def castOutlier? (size : Nat) (index value : Binary64) : Option Outlier :=
  let category := index.toWord
  if index.isNegative || !index.isWhole || size ≤ category then none
  else some ⟨category, value⟩

/-- For no more categories than a word can number, the cast makes no difference. -/
theorem outlier?_eq_cast (hsize : size < Binary64.words) (index value : Binary64) :
    outlier? size index value = castOutlier? size index value := by
  unfold outlier? castOutlier?
  cases index with
  | finite negative rank =>
    simp only [Binary64.natural?, Binary64.toWord, Binary64.isNegative, Binary64.isWhole]
    by_cases hwhole : units rank.val % unitsPerOne = 0
    · cases negative with
      | false =>
        -- The end of the words lies behind all categories.
        have hend : ∀ n, size ≤ min n (Binary64.words - 1) ↔ ¬ n < size := by omega
        by_cases hlt : units rank.val / unitsPerOne < size
        · have hword : min (units rank.val / unitsPerOne) (Binary64.words - 1) =
              units rank.val / unitsPerOne := by omega
          simp [hwhole, hlt, hword]
        · simp [hwhole, hlt, hend]
      | true =>
        have hzero : units 0 = 0 := units_of_lt (by decide)
        by_cases hrank : rank.val = 0
        · cases size with
          | zero => simp [hrank, hzero]
          | succ size => simp [hrank, hzero]
        · have hunits : units rank.val ≠ 0 := hzero ▸ units_strictMono.injective.ne hrank
          simp [hrank, hunits]
    · simp [hwhole]
  | infinite negative => simp [Binary64.natural?, Binary64.isWhole]
  | nan => simp [Binary64.natural?, Binary64.isWhole]

/-! ## Boxplots -/

namespace Response

variable {r : Response}

/-- There is a box for each category of the response, and there are some. -/
structure SendsBoxes (r : Response) (boxes : List Box) : Prop where
  sent : r.Sends IsBox boxes
  some : boxes ≠ []
  aligned : boxes.length = r.categories.length

theorem boxplot?_eq_some_iff {yName : String} {result : Result} :
    r.boxplot? yName = some result ↔ ∃ boxes outliers, r.SendsBoxes boxes ∧
      Marks r.categories.length r.outliers outliers ∧
      result = .boxplot (r.categories.map Scalar.display) boxes outliers yName := by
  rw [boxplot?_eq, Option.bind_eq_some_iff]
  constructor
  · rintro ⟨boxes, hboxes, hresult⟩
    split at hresult
    · cases hresult
    · next h =>
      have h' : boxes ≠ [] ∧ boxes.length = r.categories.length := by simpa using h
      cases hresult
      refine ⟨boxes, _, ⟨(sends_iff fun _ _ => box?_eq_some_iff).1 hboxes, h'.1, h'.2⟩, ?_, rfl⟩
      rw [h'.2]
      exact marks_filterMap _ _
  · rintro ⟨boxes, outliers, ⟨hboxes, hsome, haligned⟩, houtliers, rfl⟩
    refine ⟨boxes, (sends_iff fun _ _ => box?_eq_some_iff).2 hboxes, ?_⟩
    rw [haligned, houtliers.eq_filterMap]
    simp [hsome]

theorem outcome_of_declares_boxplot (h : r.Declares .boxplot) (q : Request) :
    r.outcome q = .ofOption (r.boxplot? (r.yNameFor q)) := by
  rw [outcome, result?, declared?_eq_some_iff.2 h]
  rfl

/-- A boxplot is shown just if there is a box for every category, and its outliers are those that
are sent for one of them. -/
theorem boxplot_exact (h : r.Declares .boxplot) (q : Request) :
    (∀ result, r.outcome q = .data result ↔ ∃ boxes outliers, r.SendsBoxes boxes ∧
      Marks r.categories.length r.outliers outliers ∧
      result = .boxplot (r.categories.map Scalar.display) boxes outliers (r.yNameFor q)) ∧
    ((∃ result, r.outcome q = .data result) ↔ ∃ boxes, r.SendsBoxes boxes) ∧
    ∀ outliers, Marks r.categories.length r.outliers outliers →
      (∀ o ∈ outliers, o.category < r.categories.length) ∧
      (r.categories.length < Binary64.words →
        outliers = r.outliers.filterMap fun s => castOutlier? r.categories.length s.1 s.2) := by
  have hdata : ∀ result, r.outcome q = .data result ↔ ∃ boxes outliers, r.SendsBoxes boxes ∧
      Marks r.categories.length r.outliers outliers ∧
      result = .boxplot (r.categories.map Scalar.display) boxes outliers (r.yNameFor q) := by
    intro result
    rw [outcome_of_declares_boxplot h, Outcome.ofOption_eq_data_iff, boxplot?_eq_some_iff]
  refine ⟨hdata, ?_, fun outliers houtliers => ⟨houtliers.lt_size, fun hsize => ?_⟩⟩
  · simp only [hdata]
    constructor
    · rintro ⟨_, boxes, _, hboxes, -, -⟩
      exact ⟨boxes, hboxes⟩
    · rintro ⟨boxes, hboxes⟩
      exact ⟨_, boxes, _, hboxes, marks_filterMap _ _, rfl⟩
  · rw [houtliers.eq_filterMap]
    exact List.filterMap_congr fun s _ => outlier?_eq_cast hsize s.1 s.2

/-- A boxplot of two categories. Of six outliers only two are sent for one of them, the first with
the zero that has a sign for its index. -/
def strayOutliers : Response :=
  let five : Json := .array [.number (.natural 1), .number (.natural 2), .number (.natural 3),
    .number (.natural 4), .number (.natural 5)]
  { kind := some " BoxPlot"
    data := some (.array [five, five])
    categories := [.text "North", .bool true]
    outliers := [(.zero true, .ofNat 42), (.ofRatio true 1 1, .ofNat 7), (.ofRatio false 1 2, .ofNat 7),
      (.ofNat 1, .ofNat 8), (.ofNat 2, .ofNat 7), (.ofNat (Nat.pow 2 64), .ofNat 7)] }

def fiveNumbers : Box := ⟨.ofNat 1, .ofNat 2, .ofNat 3, .ofNat 4, .ofNat 5⟩

def salesByRegion : Request := ⟨"region", some "sales", .boxplot, .empty⟩

theorem boxplot_exact_strayOutliers :
    strayOutliers.Declares .boxplot ∧ strayOutliers.categories.length < Binary64.words ∧
    strayOutliers.outcome salesByRegion = .data (.boxplot ["North", "true"]
      [fiveNumbers, fiveNumbers] [⟨0, .ofNat 42⟩, ⟨1, .ofNat 8⟩] "sales") ∧
    strayOutliers.SendsBoxes [fiveNumbers, fiveNumbers] ∧
    Marks 2 strayOutliers.outliers [⟨0, .ofNat 42⟩, ⟨1, .ofNat 8⟩] ∧
    strayOutliers.outliers.filterMap (fun s => castOutlier? 2 s.1 s.2) =
      [⟨0, .ofNat 42⟩, ⟨1, .ofNat 8⟩] := by
  have hdeclares : strayOutliers.Declares .boxplot := declared?_eq_some_iff.1 (by decide +kernel)
  have hsize : strayOutliers.categories.length < Binary64.words := by decide
  have hresult : strayOutliers.outcome salesByRegion = .data (.boxplot ["North", "true"]
      [fiveNumbers, fiveNumbers] [⟨0, .ofNat 42⟩, ⟨1, .ofNat 8⟩] "sales") := by decide +kernel
  obtain ⟨hdata, -, hmarks⟩ := boxplot_exact hdeclares salesByRegion
  obtain ⟨boxes, outliers, hboxes, houtliers, heq⟩ := (hdata _).1 hresult
  cases heq
  exact ⟨hdeclares, hsize, hresult, hboxes, houtliers, ((hmarks _ houtliers).2 hsize).symm⟩

end Response

end Chart

end CrossFilter
