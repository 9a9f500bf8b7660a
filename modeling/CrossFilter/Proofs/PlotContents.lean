import CrossFilter.Chart.Plot
import CrossFilter.Proofs.Outliers

/-!
# What a plot shows

Laying out a result loses nothing of it. `Plot.result?` reads the result back from a plot, and
`Plot.Same.result?` says that plots with the same numbers in them show results with the same
numbers. Two kinds of chart may be laid out in series of one shape: an area is a line that is
filled, and the outliers of a boxplot are scattered like the points of a scatter.

An outlier is drawn at the position of its category, which is a double by then. As long as there
are fewer than `2 ^ 53` categories, every position is a double of its own: `Binary64.value?_ofNat`.
-/

namespace CrossFilter

namespace Number

/-! ## Natural numbers as doubles -/

/-- A natural number of at most 53 bits is a magnitude of the format. -/
theorem exists_units_eq {n : Nat} (hn : n < Nat.pow 2 53) :
    ∃ rank, rank < rankLimit ∧ units rank = n * unitsPerOne := by
  rcases Nat.eq_zero_or_pos n with rfl | hpos
  · exact ⟨0, by decide, by rw [units_of_lt (by decide), Nat.zero_mul]⟩
  · -- The number is shifted until it has 53 bits, and the shift taken from the power.
    have hlog : Nat.log2 n < 53 := (Nat.log2_lt hpos.ne').2 hn
    obtain ⟨shift, hshift⟩ : ∃ shift, Nat.log2 n + shift = 52 := ⟨52 - Nat.log2 n, by omega⟩
    have hlow : binade ≤ n * 2 ^ shift := by
      calc binade = 2 ^ Nat.log2 n * 2 ^ shift := by rw [← Nat.pow_add, hshift]; rfl
        _ ≤ n * 2 ^ shift := Nat.mul_le_mul_right _ (Nat.log2_self_le hpos.ne')
    have hhigh : n * 2 ^ shift ≤ 2 * binade := by
      calc n * 2 ^ shift ≤ 2 ^ (Nat.log2 n + 1) * 2 ^ shift :=
            Nat.mul_le_mul_right _ Nat.lt_log2_self.le
        _ = 2 * binade := by rw [← Nat.pow_add, Nat.add_right_comm, hshift]; rfl
    refine ⟨(1074 - shift) * binade + n * 2 ^ shift, ?_, ?_⟩
    · have hb : rankLimit = 2047 * binade := rfl
      have hs : (1074 - shift) * binade ≤ 1074 * binade := Nat.mul_le_mul_right _ (by omega)
      have hpos : 0 < binade := by decide
      omega
    · have hone : Nat.pow 2 (shift + (1074 - shift)) = unitsPerOne := by
        rw [Nat.add_sub_cancel' (by omega)]
        decide +kernel
      rw [units_mul_add hlow hhigh, Nat.mul_assoc, ← Nat.pow_add, ← Nat.pow_eq, hone]

namespace Binary64

theorem value?_ofNat {n : Nat} (hn : n < Nat.pow 2 53) : (ofNat n).value? = some (n : ℚ) := by
  obtain ⟨rank, hrank, hunits⟩ := exists_units_eq hn
  have hone : (unitsPerOne : ℚ) ≠ 0 := unitsPerOne_pos.ne'
  rw [ofNat, ofRatio, ← hunits, nearestRank_units, ofRank, dif_pos hrank]
  simp only [value?, hunits, Bool.false_eq_true, if_false, one_mul, Nat.cast_mul]
  rw [mul_div_cancel_right₀ _ hone]

/-- Equal doubles are the same number. -/
theorem value?_of_same {x y : Binary64} (h : x.same y = true) : x.value? = y.value? := by
  have hzero : units 0 = 0 := units_of_lt (by decide)
  cases x with
  | finite negative rank =>
    cases y with
    | finite negative' rank' =>
      obtain ⟨rfl, hsign⟩ : rank = rank' ∧ (negative = negative' ∨ rank.val = 0) := by
        simpa [same] using h
      rcases hsign with rfl | hrank
      · rfl
      · simp only [value?, hrank, hzero, Nat.cast_zero, zero_div, mul_zero]
    | infinite | nan => cases h
  | infinite negative =>
    cases y with
    | infinite negative' => rfl
    | finite | nan => cases h
  | nan => cases h

theorem natural?_of_same {x y : Binary64} (h : x.same y = true) : x.natural? = y.natural? := by
  ext n
  rw [natural?_eq_some_iff, natural?_eq_some_iff, value?_of_same h]

end Binary64

end Number

namespace Chart

open Number

/-! ## Equality up to that of numbers -/

/-- Equality of numbers that may be missing. -/
def SameValue : Option Binary64 → Option Binary64 → Prop := Option.Rel fun x y => x.same y = true

structure Slice.Same (a b : Slice) : Prop where
  name : a.name = b.name
  value : a.value.same b.value = true

structure Point.Same (a b : Point) : Prop where
  x : a.x.same b.x = true
  y : a.y.same b.y = true

structure Box.Same (a b : Box) : Prop where
  min : a.min.same b.min = true
  q1 : a.q1.same b.q1 = true
  median : a.median.same b.median = true
  q3 : a.q3.same b.q3 = true
  max : a.max.same b.max = true

structure Outlier.Same (a b : Outlier) : Prop where
  category : a.category = b.category
  value : a.value.same b.value = true

/-- Results that differ at most in the sign of zeros. One with a NaN is not even the same as
itself. -/
inductive Result.Same : Result → Result → Prop
  | series (shape : SeriesShape) (labels : List String) (yName : String)
      {values values' : List (Option Binary64)} : List.Forall₂ SameValue values values' →
      Same (.series shape labels values yName) (.series shape labels values' yName)
  | pie {slices slices' : List Slice} : List.Forall₂ Slice.Same slices slices' →
      Same (.pie slices) (.pie slices')
  | scatter (xName yName : String) {points points' : List Point} :
      List.Forall₂ Point.Same points points' →
      Same (.scatter points xName yName) (.scatter points' xName yName)
  | boxplot (categories : List String) (yName : String) {boxes boxes' : List Box}
      {outliers outliers' : List Outlier} : List.Forall₂ Box.Same boxes boxes' →
      List.Forall₂ Outlier.Same outliers outliers' →
      Same (.boxplot categories boxes outliers yName) (.boxplot categories boxes' outliers' yName)

namespace Plot

structure ColoredBox.Same (a b : ColoredBox) : Prop where
  box : a.box.Same b.box
  fill : a.fill = b.fill
  border : a.border = b.border

inductive Series.Same : Series → Series → Prop
  | bar (name : String) {values values' : List (Option Binary64)} :
      List.Forall₂ SameValue values values' → Same (.bar name values) (.bar name values')
  | line (name : String) (filled : Bool) {values values' : List (Option Binary64)} :
      List.Forall₂ SameValue values values' →
      Same (.line name values filled) (.line name values' filled)
  | pie {slices slices' : List Slice} : List.Forall₂ Slice.Same slices slices' →
      Same (.pie slices) (.pie slices')
  | scatter (name : String) {points points' : List Point} :
      List.Forall₂ Point.Same points points' → Same (.scatter name points) (.scatter name points')
  | boxplot (name : String) {boxes boxes' : List ColoredBox} :
      List.Forall₂ ColoredBox.Same boxes boxes' → Same (.boxplot name boxes) (.boxplot name boxes')

end Plot

structure Plot.Same (p q : Plot) : Prop where
  title : p.title = q.title
  colors : p.colors = q.colors
  tooltip : p.tooltip = q.tooltip
  legend : p.legend = q.legend
  xAxis : p.xAxis = q.xAxis
  yAxis : p.yAxis = q.yAxis
  series : List.Forall₂ Plot.Series.Same p.series q.series
  clickable : p.clickable = q.clickable

/-! ## Reading a result back -/

namespace Plot

/-- The labels of the category axis. -/
def labels? (p : Plot) : Option (List String) :=
  match p.xAxis with
  | some (.category labels) => some labels
  | _ => none

/-- The name of the value axis that points are scattered along. -/
def xName? (p : Plot) : Option String :=
  match p.xAxis with
  | some (.value name) => some name
  | _ => none

/-- The outliers that a series shows, each at the number of one of `size` categories. -/
def Series.outliers (size : Nat) : Series → List Outlier
  | .scatter _ points => points.filterMap fun p => outlier? size p.x p.y
  | _ => []

/-- The result that a plot shows, if it shows one. -/
def result? (p : Plot) : Option Result :=
  match p.series with
  | [.bar name values] => p.labels?.map fun labels => .series .bar labels values name
  | [.line name values filled] =>
    p.labels?.map fun labels => .series (if filled then .area else .line) labels values name
  | [.pie slices] => some (.pie slices)
  | [.scatter name points] => p.xName?.map fun xName => .scatter points xName name
  | .boxplot name drawn :: rest => p.labels?.map fun labels =>
    .boxplot labels (drawn.map ColoredBox.box) (rest.flatMap (Series.outliers labels.length)) name
  | _ => none

end Plot

theorem outlier?_same (size : Nat) {p q : Point} (h : p.Same q) :
    Option.Rel Outlier.Same (outlier? size p.x p.y) (outlier? size q.x q.y) := by
  unfold outlier?
  rw [Binary64.natural?_of_same h.x]
  cases q.x.natural? with
  | none => exact .none
  | some category =>
    by_cases hc : category < size
    · simp only [hc, if_true]
      exact .some ⟨rfl, h.y⟩
    · simp only [hc, if_false]
      exact .none

namespace Plot

theorem Series.Same.outliers {a b : Series} (h : a.Same b) (size : Nat) :
    List.Forall₂ Outlier.Same (a.outliers size) (b.outliers size) := by
  cases h with
  | scatter name hpoints => exact List.rel_filterMap (fun _ _ hp => outlier?_same size hp) hpoints
  | bar | line | pie | boxplot => exact .nil

/-- Results that are made the same way of what an axis says, if it says anything. -/
theorem rel_map_same {α : Type} {f g : α → Result} (h : ∀ a, (f a).Same (g a)) (x : Option α) :
    Option.Rel Result.Same (x.map f) (x.map g) := by
  cases x with
  | none => exact .none
  | some a => exact .some (h a)

/-- Plots with the same numbers in them show results with the same numbers. -/
theorem Same.result? {p q : Plot} (h : p.Same q) : Option.Rel Result.Same p.result? q.result? := by
  have hlabels : p.labels? = q.labels? := by rw [labels?, labels?, h.xAxis]
  have hxName : p.xName? = q.xName? := by rw [xName?, xName?, h.xAxis]
  have hseries := h.series
  unfold Plot.result?
  rw [hlabels, hxName]
  generalize p.series = ps at hseries
  generalize q.series = qs at hseries
  cases hseries with
  | nil => exact .none
  | cons hfirst hrest =>
    cases hfirst with
    | bar name hvalues =>
      cases hrest with
      | nil => exact rel_map_same (fun labels => .series .bar labels name hvalues) _
      | cons => exact .none
    | line name filled hvalues =>
      cases hrest with
      | nil => exact rel_map_same (fun labels => .series _ labels name hvalues) _
      | cons => exact .none
    | pie hslices =>
      cases hrest with
      | nil => exact .some (.pie hslices)
      | cons => exact .none
    | scatter name hpoints =>
      cases hrest with
      | nil => exact rel_map_same (fun xName => .scatter xName name hpoints) _
      | cons => exact .none
    | boxplot name hdrawn =>
      refine rel_map_same (fun labels => .boxplot labels name ?_ ?_) _
      · exact List.rel_map (fun _ _ hbox => ColoredBox.Same.box hbox) hdrawn
      · exact List.rel_flatMap hrest fun _ _ hs => hs.outliers labels.length

/-! ## The boxes and outliers of a plot -/

theorem map_box_colored (index : Nat) (boxes : List Box) :
    (colored index boxes).map ColoredBox.box = boxes := by
  induction boxes generalizing index with
  | nil => rfl
  | cons b boxes ih => rw [colored, List.map_cons, ih]

theorem getElem?_colored (index i : Nat) (boxes : List Box) :
    (colored index boxes)[i]? = boxes[i]?.map fun b =>
      ⟨b, Palette.withAlpha (Palette.color (index + i)) Palette.fillAlpha,
        Palette.color (index + i)⟩ := by
  induction boxes generalizing index i with
  | nil => rfl
  | cons b boxes ih =>
    cases i with
    | zero => rfl
    | succ i =>
      have hindex : index + 1 + i = index + (i + 1) := by omega
      rw [colored, List.getElem?_cons_succ, List.getElem?_cons_succ, ih, hindex]

/-- An outlier is found again at the position where it is drawn. -/
theorem outlier?_outlierPoint {size : Nat} (hsize : size < Nat.pow 2 53) {o : Outlier}
    (ho : o.category < size) : outlier? size (outlierPoint o).x (outlierPoint o).y = some o :=
  outlier?_eq_some_iff.2 ⟨⟨Binary64.value?_ofNat (ho.trans hsize), ho⟩, rfl⟩

theorem outliers_scatter {size : Nat} (hsize : size < Nat.pow 2 53) {outliers : List Outlier}
    (h : ∀ o ∈ outliers, o.category < size) (name : String) :
    (Series.scatter name (outliers.map outlierPoint)).outliers size = outliers := by
  rw [Series.outliers, List.filterMap_map]
  calc outliers.filterMap _ = outliers.filterMap some :=
        List.filterMap_congr fun o ho => outlier?_outlierPoint hsize (h o ho)
    _ = outliers := List.filterMap_some

/-- The boxes are drawn in their order. The border of a box has the colour of the palette for its
position, where the palette starts again after eight, and its filling the same colour with a
transparency. -/
structure DrawsBoxes (boxes : List Box) (drawn : List ColoredBox) : Prop where
  length : drawn.length = boxes.length
  drawn : ∀ i box, boxes[i]? = some box → ∃ color, Palette.colors[i % 8]? = some color ∧
    drawn[i]? = some ⟨box, color ++ Palette.fillAlpha, color⟩

theorem drawsBoxes_colored (boxes : List Box) : DrawsBoxes boxes (colored 0 boxes) where
  length := by rw [← List.length_map ColoredBox.box, map_box_colored]
  drawn i box hbox := by
    have hfill : ∀ c ∈ Palette.colors,
        Palette.withAlpha c Palette.fillAlpha = c ++ Palette.fillAlpha := by
      decide +kernel
    have hlt : i % 8 < Palette.colors.length := Nat.mod_lt i (by decide)
    have hcolor : Palette.color i = Palette.colors[i % 8] := (List.getElem_eq_getD "").symm
    refine ⟨Palette.color i, by rw [hcolor, List.getElem?_eq_getElem hlt], ?_⟩
    rw [getElem?_colored, hbox, Option.map_some, Nat.zero_add,
      hfill _ (hcolor ▸ List.getElem_mem hlt)]

/-- The plot shows a boxplot. There is a second series, of scattered points, just if there are
outliers, and it has a point for each, at the number of its category. -/
structure ShowsBoxes (p : Plot) (yName : String) (boxes : List Box) (outliers : List Outlier) :
    Prop where
  boxes : ∃ drawn rest, p.series = .boxplot yName drawn :: rest ∧ DrawsBoxes boxes drawn
  present : (∃ name points, Series.scatter name points ∈ p.series) ↔ outliers ≠ []
  outliers : ∀ name points, Series.scatter name points ∈ p.series → name = outliersName ∧
    List.Forall₂ (fun o q => q.x.value? = some (o.category : ℚ) ∧ q.y = o.value) outliers points

end Plot

/-- The categories whose positions the outliers of a result are drawn at. -/
def Result.outlierCategories : Result → List String
  | .boxplot categories _ _ _ => categories
  | _ => []

/-- Every outlier belongs to a category. -/
def Result.Placed : Result → Prop
  | .boxplot categories _ outliers _ => ∀ o ∈ outliers, o.category < categories.length
  | _ => True

/-- A result is read back from its plot. -/
theorem Result.Placed.result?_plot {a : Result} (h : a.Placed)
    (hsize : a.outlierCategories.length < Nat.pow 2 53) (title : Option String) :
    (a.plot title).result? = some a := by
  cases a with
  | series shape labels values yName => cases shape <;> rfl
  | pie slices => rfl
  | scatter points xName yName => rfl
  | boxplot categories boxes outliers yName =>
    have hrest : (if outliers.isEmpty then []
        else [Plot.Series.scatter Plot.outliersName (outliers.map Plot.outlierPoint)]).flatMap
          (Plot.Series.outliers categories.length) = outliers := by
      cases outliers with
      | nil => rfl
      | cons o outliers =>
        exact (List.flatMap_singleton _ _).trans (Plot.outliers_scatter hsize h _)
    simp only [Plot.result?, Result.plot, Plot.seriesOf, Plot.labels?, Plot.xAxisOf,
      Option.map_some, Plot.map_box_colored, hrest]

theorem Result.Placed.showsBoxes {categories : List String} {boxes : List Box}
    {outliers : List Outlier} {yName : String} {title : Option String}
    (h : (Result.boxplot categories boxes outliers yName).Placed)
    (hsize : categories.length < Nat.pow 2 53) :
    ((Result.boxplot categories boxes outliers yName).plot title).ShowsBoxes yName boxes
      outliers := by
  have hseries : ∀ name points, Plot.Series.scatter name points ∈
      Plot.seriesOf (.boxplot categories boxes outliers yName) ↔
      outliers ≠ [] ∧ name = Plot.outliersName ∧ points = outliers.map Plot.outlierPoint := by
    intro name points
    cases outliers <;> simp [Plot.seriesOf]
  refine ⟨⟨_, _, rfl, Plot.drawsBoxes_colored boxes⟩, ?_, fun name points hmem => ?_⟩
  · constructor
    · rintro ⟨name, points, hmem⟩
      exact ((hseries name points).1 hmem).1
    · intro hne
      exact ⟨_, _, (hseries _ _).2 ⟨hne, rfl, rfl⟩⟩
  · obtain ⟨-, rfl, rfl⟩ := (hseries name points).1 hmem
    refine ⟨rfl, List.forall₂_map_right_iff.2 (List.forall₂_same.2 fun o ho => ⟨?_, rfl⟩)⟩
    exact Binary64.value?_ofNat ((h o ho).trans hsize)

theorem Response.placed_of_outcome {r : Response} {q : Request} {a : Result}
    (h : r.outcome q = .data a) : a.Placed := by
  cases a with
  | boxplot categories boxes outliers yName =>
    rw [outcome_of_declares_boxplot (declares_of_outcome h).1, Outcome.ofOption_eq_data_iff,
      boxplot?_eq_some_iff] at h
    obtain ⟨_, _, -, hmarks, heq⟩ := h
    cases heq
    exact fun o ho => (List.length_map Scalar.display).symm ▸ hmarks.lt_size o ho
  | series | pie | scatter => trivial

/-- Nothing of a result is lost in its plot. -/
theorem plot_lossless {r s : Response} {q u : Request} {a b : Result}
    (ha : r.outcome q = .data a) (hb : s.outcome u = .data b)
    (hsize : a.outlierCategories.length < Nat.pow 2 53)
    (hsize' : b.outlierCategories.length < Nat.pow 2 53) (title : Option String) :
    ((a.plot title).Same (b.plot title) → a.Same b) ∧
    (a.plot title = b.plot title → a = b) ∧
    (a.plot title).result? = some a ∧
    ∀ categories boxes outliers yName, a = .boxplot categories boxes outliers yName →
      (a.plot title).ShowsBoxes yName boxes outliers := by
  have hplaced : a.Placed := Response.placed_of_outcome ha
  have hread : (a.plot title).result? = some a := hplaced.result?_plot hsize title
  have hread' : (b.plot title).result? = some b :=
    (Response.placed_of_outcome hb).result?_plot hsize' title
  refine ⟨fun h => ?_, fun h => ?_, hread, ?_⟩
  · have hrel := h.result?
    rw [hread, hread'] at hrel
    cases hrel with
    | some h => exact h
  · rw [h, hread'] at hread
    exact (Option.some.inj hread).symm
  · rintro categories boxes outliers yName rfl
    exact hplaced.showsBoxes hsize

/-- Two boxes, and an outlier of each. -/
def strayBoxplot : Result := .boxplot ["North", "true"] [Response.fiveNumbers, Response.fiveNumbers]
  [⟨0, .ofNat 42⟩, ⟨1, .ofNat 8⟩] "sales"

theorem plot_lossless_strayBoxplot :
    Response.strayOutliers.outcome Response.salesByRegion = .data strayBoxplot ∧
    strayBoxplot.outlierCategories.length < Nat.pow 2 53 ∧
    ((strayBoxplot.plot none).Same (strayBoxplot.plot none) → strayBoxplot.Same strayBoxplot) ∧
    (strayBoxplot.plot none).result? = some strayBoxplot ∧
    (strayBoxplot.plot none).ShowsBoxes "sales" [Response.fiveNumbers, Response.fiveNumbers]
      [⟨0, .ofNat 42⟩, ⟨1, .ofNat 8⟩] := by
  have hresult : Response.strayOutliers.outcome Response.salesByRegion = .data strayBoxplot := by
    decide +kernel
  have hsize : strayBoxplot.outlierCategories.length < Nat.pow 2 53 := by decide
  obtain ⟨hsame, -, hread, hshows⟩ := plot_lossless hresult hresult hsize hsize none
  exact ⟨hresult, hsize, hsame, hread, hshows _ _ _ _ rfl⟩

end Chart

end CrossFilter
