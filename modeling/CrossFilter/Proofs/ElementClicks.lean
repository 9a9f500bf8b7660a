import CrossFilter.Proofs.ChartOutcomes
import CrossFilter.Proofs.Clicks
import CrossFilter.Proofs.NumberTexts
import CrossFilter.Proofs.RepeatedFilters

/-!
# Clicks on the elements of a chart

A plot says whether its elements can be clicked, and a click finds out on its own what it filters
on. `clickable_agrees` says that the two never disagree, and that no click fails.

The label of an element is the text of the category that was sent for it, and a click types the
label again, after its column. `category_clicked` says that this gives the category back, numbers
down to the last bit. Null is the exception: it has the empty label, which stands for a text.
-/

namespace CrossFilter

/-! ## Labels typed after their column -/

namespace Text

theorem trim_eq_self {s : String} (h : ∀ c ∈ s.toList, isBlank c = false) : trim s = s := by
  have hdrop : ∀ cs : List Char, (∀ c ∈ cs, isBlank c = false) → cs.dropWhile isBlank = cs := by
    intro cs hcs
    cases cs with
    | nil => rfl
    | cons c cs => simp [hcs c List.mem_cons_self]
  rw [trim, trimList, hdrop _ h, hdrop _ (by simpa using h), List.reverse_reverse,
    String.ofList_toList]

end Text

namespace Number

theorem not_isBlank_of_isNumeric {c : Char} (h : isNumeric c = true) : Text.isBlank c = false := by
  have hmark : "+-.eE".toList.all (fun d => !Text.isBlank d) = true := by decide
  simp only [isNumeric, Bool.or_eq_true, List.contains_iff_mem] at h
  rcases h with hdigit | hc
  · have hrange : 48 ≤ c.toNat ∧ c.toNat ≤ 57 := Char.isDigit_iff_toNat.1 hdigit
    simp only [Text.isBlank, Text.blankRanges, List.any_cons, List.any_nil, Bool.or_eq_false_iff,
      Bool.and_eq_false_iff, decide_eq_false_iff_not, and_true]
    omega
  · simpa using List.all_eq_true.1 hmark c hc

/-- The label of a number has no blanks. -/
theorem trim_plainText (d : Binary64) : Text.trim (plainText d) = plainText d := by
  cases d with
  | nan => decide
  | infinite negative => cases negative <;> decide
  | finite negative rank =>
    refine Text.trim_eq_self fun c hc => not_isBlank_of_isNumeric ?_
    rw [plainText, Layout.finite, String.toList_ofList] at hc
    rcases List.mem_append.1 hc with hc | hc
    · cases negative with
      | true => rw [List.mem_singleton.1 hc]; rfl
      | false => cases hc
    · exact (isNumeric_of_spells (spells_decimal label _)).1 c hc

/-- Every double is read from its label, NaN and the infinities by their names. -/
theorem real?_plainText (d : Binary64) : real? (plainText d) = some d := by
  cases d with
  | nan => decide
  | infinite negative => cases negative <;> decide
  | finite negative rank => exact real?_finite label negative rank

end Number

/-- A category that a column of the type can hold: null or a value of the type. -/
inductive Scalar.Suits : Scalar → ColumnType → Prop
  | null (type : ColumnType) : Suits .null type
  | integer (d : Number.Binary64) : Suits (.number d) .integer
  | decimal (d : Number.Binary64) : Suits (.number d) .decimal
  | boolean (b : Bool) : Suits (.bool b) .boolean
  | text (s : String) {type : ColumnType} :
      type ≠ .integer → type ≠ .decimal → type ≠ .boolean → Suits (.text s) type

/-- The empty label reads as no number and as no truth value. -/
theorem typedValue_empty (type : Option ColumnType) : typedValue type "" = .text "" :=
  typedValue_eq_text (by decide) (by decide) (by decide) type

/-- A value is typed back from its label. -/
theorem Scalar.Suits.typed {s : Scalar} {type : ColumnType} (h : s.Suits type) :
    typedValue (some type) s.display = if s = .null then .text "" else s := by
  cases h with
  | null => rw [if_pos rfl]; exact typedValue_empty _
  | integer d => simp [typedValue, display, Number.trim_plainText, Number.real?_plainText]
  | decimal d => simp [typedValue, display, Number.trim_plainText, Number.real?_plainText]
  | boolean b => cases b <;> decide
  | text s hi hd hb => cases type <;> simp_all [typedValue, display]

/-! ## Elements of a chart -/

namespace Chart

/-- The labels that the elements of a chart are clicked under. -/
def Result.elements : Result → List String
  | .series _ labels _ _ => labels
  | .pie slices => slices.map Slice.name
  | _ => []

/-- The categories that a response sends for the elements of a chart, in their order: the labels of
its bars, or the names of the slices that have a value. -/
inductive Response.Categories (r : Response) : Result → List Scalar → Prop
  | series (shape : SeriesShape) (labels : List String) (values : List (Option Number.Binary64))
      (yName : String) : Categories r (.series shape labels values yName) r.labels
  | pie (slices : List Slice) {sent : List (Scalar × Option Number.Binary64)} :
      r.Sends IsSlice sent →
      Categories r (.pie slices) ((sent.filter fun s => s.2.isSome).map (·.1))

/-- Every element is labelled with the text of its category. -/
theorem Response.exists_categories {r : Response} {q : Request} {result : Result}
    (houtcome : r.outcome q = .data result) (hk : result.kind.isClickable = true) :
    ∃ categories, r.Categories result categories ∧
      result.elements = categories.map Scalar.display := by
  have hholds : r.Holds result := (declares_of_outcome houtcome).2
  cases result with
  | series shape labels values yName =>
    obtain ⟨-, -, hlabels, -⟩ := hholds
    exact ⟨r.labels, .series shape labels values yName, hlabels⟩
  | pie slices =>
    obtain ⟨-, sent, hsent, hkept⟩ := hholds
    refine ⟨_, .pie slices hsent, ?_⟩
    have hnames : List.Forall₂ (fun name s => name = s.display)
        (slices.map Slice.name) ((sent.filter fun s => s.2.isSome).map (·.1)) := by
      rw [List.forall₂_map_left_iff, List.forall₂_map_right_iff]
      exact (hkept.imp fun s slice h => h.2).flip
    have hdisplay := List.forall₂_map_right_iff.2 hnames
    rw [List.forall₂_eq_eq_eq] at hdisplay
    exact hdisplay
  | scatter points xName yName => cases hk
  | boxplot categories boxes outliers yName => cases hk

end Chart

/-! ## What a click does -/

/-- `gs` has the value on the column, unless one that is the same was there already and stays. -/
structure Filters.Upserted (fs : Filters) (column : String) (value : Scalar) (gs : Filters) : Prop
    extends fs.Sets column value gs where
  kept : ∀ v, fs.get? column = some v → v.same value = true → gs.get? column = some v
  replaced : (∀ v, fs.get? column = some v → v.same value = false) → gs.get? column = some value

theorem Filters.upserted_upsert (fs : Filters) (column : String) (value : Scalar) :
    fs.Upserted column value (fs.upsert column value) where
  toSets := fs.sets_upsert column value
  kept v hv hsame := by
    rw [upsert, if_pos (by simpa [hv] using hsame), hv]
  replaced hother := by
    have hnone : ¬ (fs.get? column).any (·.same value) = true := by
      intro h
      obtain ⟨v, hv, hsame⟩ := (Option.any_eq_true ..).1 h
      simp [hother v hv] at hsame
    rw [upsert, if_neg hnone, get?_insert, if_pos rfl]

namespace View

variable {v : View}

theorem click_of_some {column : String} (h : v.clickColumn? = some column) (label : String) :
    v.click label = v.addFilter column (typedValue (v.catalog.typeOf? column) label) := by
  rw [click, h]

theorem click_of_none (h : v.clickColumn? = none) (label : String) :
    v.click label = (.ok {}, v) := by
  rw [click, h]

/-- A click filters on the X column of the chart asked for last, where a plot offers it. -/
theorem clickColumn?_eq (v : View) : v.clickColumn? =
    (v.plot?.filter Chart.Plot.clickable).bind fun _ => v.chart.last.map (·.request.x) := by
  unfold clickColumn? plot?
  cases v.chart.slot.data? with
  | none => rfl
  | some result =>
    have hclickable : (result.plot v.chartTitle).clickable = result.kind.isClickable := rfl
    cases v.chart.last <;> cases hk : result.kind.isClickable <;>
      simp [Option.filter, hclickable, hk]

/-- A click with a label goes through. The label, as it is typed after one column, is the filter on
this column afterwards, and the filters on all others are what they were. -/
def Upserts (v : View) (label column : String) : Prop :=
  ∃ tickets w, v.click label = (.ok tickets, w) ∧
    v.filters.Upserted column (typedValue (v.catalog.typeOf? column) label) w.filters

theorem upserts_of_some {column : String} (h : v.clickColumn? = some column)
    (hknown : v.catalog.contains column = true) (label : String) : v.Upserts label column := by
  obtain ⟨tickets, w, hadd, -, hfilters, -⟩ :=
    exists_addFilter hknown (typedValue (v.catalog.typeOf? column) label)
  refine ⟨tickets, w, (click_of_some h label).trans hadd, ?_⟩
  rw [hfilters]
  exact v.filters.upserted_upsert column _

/-- Every element of a displayed chart is labelled with a category that was sent for it. A click on
the label filters on the category, or on the empty text if the category is null. -/
theorem category_clicked {r : Chart.Response} {q : Chart.Request} {result : Chart.Result}
    {x : String} (houtcome : r.outcome q = .data result)
    (hshown : v.chart.slot.data? = some result) (hx : v.clickColumn? = some x) :
    ∃ categories, r.Categories result categories ∧
      result.elements = categories.map Scalar.display ∧
      ∀ s ∈ categories, ∀ type, s.Suits type →
        typedValue (some type) s.display = (if s = .null then .text "" else s) ∧
        (v.catalog.typeOf? x = some type →
          v.click s.display = v.addFilter x (if s = .null then .text "" else s)) := by
  have hk : result.kind.isClickable = true := by
    rw [clickColumn?_eq, plot?, hshown] at hx
    obtain ⟨plot, hplot, -⟩ := Option.bind_eq_some_iff.1 hx
    obtain ⟨heq, hclickable⟩ := Option.filter_eq_some_iff.1 hplot
    cases heq
    exact hclickable
  obtain ⟨categories, hcategories, helements⟩ := Chart.Response.exists_categories houtcome hk
  refine ⟨categories, hcategories, helements, fun s _ type hs => ⟨hs.typed, fun htype => ?_⟩⟩
  rw [click_of_some hx, htype, hs.typed]

end View

namespace Record

variable {r : Record}

/-- A column that clicks filter on is the X column of a stored query, which is valid still. -/
theorem Reachable.clickColumn?_known (h : r.Reachable) {column : String}
    (hc : r.view.clickColumn? = some column) : r.view.catalog.contains column = true := by
  rw [View.clickColumn?_eq] at hc
  obtain ⟨-, -, hlast⟩ := Option.bind_eq_some_iff.1 hc
  obtain ⟨q, hq, rfl⟩ := Option.map_eq_some_iff.1 hlast
  exact (h.stored.chart q hq).x

/-- What is displayed has a query to take the column of. -/
theorem Reachable.exists_clickColumn? (h : r.Reachable) {plot : Chart.Plot}
    (hplot : r.view.plot? = some plot) (hclickable : plot.clickable = true) :
    ∃ column, r.view.clickColumn? = some column := by
  obtain ⟨result, hdata, -⟩ := Option.map_eq_some_iff.1 hplot
  have hactive := Slot.isActive_of_outcome (Slot.outcome_of_data? hdata)
  obtain ⟨q, hq⟩ : ∃ q, r.view.chart.last = some q := h.coherent.chart.exists_last hactive
  exact ⟨q.request.x, by simp [View.clickColumn?_eq, hplot, Option.filter, hclickable, hq]⟩

/-- Where a plot offers clicks, they all set the filter on one column of the catalog. Anywhere else a
click does nothing, and nowhere does one fail. -/
theorem clickable_agrees (h : r.Reachable) :
    (∀ plot, r.view.plot? = some plot → plot.clickable = true →
      ∃ column, r.view.catalog.contains column = true ∧ ∀ label, r.view.Upserts label column) ∧
    ((∀ plot, r.view.plot? = some plot → plot.clickable = false) →
      ∀ label, r.view.click label = (.ok {}, r.view)) ∧
    ∀ label cause, (r.view.click label).1 ≠ .error cause := by
  refine ⟨fun plot hplot hclickable => ?_, fun hoff => View.click_of_none ?_, ?_⟩
  · obtain ⟨column, hc⟩ := h.exists_clickColumn? hplot hclickable
    have hknown := h.clickColumn?_known hc
    exact ⟨column, hknown, View.upserts_of_some hc hknown⟩
  · have hnone : r.view.plot?.filter Chart.Plot.clickable = none := by
      rw [Option.filter_eq_none_iff]
      exact fun plot hplot => by simp [hoff plot hplot]
    rw [View.clickColumn?_eq, hnone]
    rfl
  · intro label cause herror
    cases hc : r.view.clickColumn? with
    | none =>
      rw [View.click_of_none hc] at herror
      cases herror
    | some column =>
      obtain ⟨tickets, w, hclick, -⟩ := View.upserts_of_some hc (h.clickColumn?_known hc) label
      rw [hclick] at herror
      cases herror

/-- Two categories of a column of numbers, a number and null. -/
def salesResponse : Chart.Response :=
  { kind := some "bar", labels := [.number (.ofRatio false 5 2), .null], values := [none, none] }

def salesTicket : Ticket Chart.Query :=
  ⟨2, ⟨⟨"sales", none, .bar, .empty⟩, some "Distribution of sales"⟩⟩

def salesBar : Chart.Result := .series .bar ["2.5", ""] [none, none] "count"

theorem outcome_salesResponse :
    salesResponse.outcome salesTicket.query.request = .data salesBar := by decide +kernel

/-- The chart that is made of this response is displayed. -/
def salesShown : Record := (start .default).run [.reload .sample, .setX (some "sales"), .beginChart,
  .completeChart salesTicket (.ok (.data salesBar))]

theorem clickable_agrees_salesShown : salesShown.Reachable ∧
    salesShown.view.plot?.map Chart.Plot.clickable = some true ∧
    (salesShown.view.click "2.5").2.filters.get? "sales" = some (.number (.ofRatio false 5 2)) ∧
    (∀ plot, salesShown.view.plot? = some plot → plot.clickable = true →
      ∃ column, salesShown.view.catalog.contains column = true ∧
        ∀ label, salesShown.view.Upserts label column) ∧
    ((∀ plot, salesShown.view.plot? = some plot → plot.clickable = false) →
      ∀ label, salesShown.view.click label = (.ok {}, salesShown.view)) ∧
    ∀ label cause, (salesShown.view.click label).1 ≠ .error cause := by
  have hr : salesShown.Reachable := reachable_of_legal (by decide +kernel)
  exact ⟨hr, by decide +kernel, by decide +kernel, clickable_agrees hr⟩

theorem category_clicked_salesShown :
    salesResponse.outcome salesTicket.query.request = .data salesBar ∧
    salesShown.view.chart.slot.data? = some salesBar ∧
    salesShown.view.clickColumn? = some "sales" ∧
    salesShown.view.catalog.typeOf? "sales" = some .decimal ∧
    ∃ categories, salesResponse.Categories salesBar categories ∧
      salesBar.elements = categories.map Scalar.display ∧
      ∀ s ∈ categories, ∀ type, s.Suits type →
        typedValue (some type) s.display = (if s = .null then .text "" else s) ∧
        (salesShown.view.catalog.typeOf? "sales" = some type →
          salesShown.view.click s.display =
            salesShown.view.addFilter "sales" (if s = .null then .text "" else s)) := by
  have hshown : salesShown.view.chart.slot.data? = some salesBar := by decide +kernel
  have hx : salesShown.view.clickColumn? = some "sales" := by decide +kernel
  exact ⟨outcome_salesResponse, hshown, hx, by decide +kernel,
    View.category_clicked outcome_salesResponse hshown hx⟩

/-- A click on the category null filters on the empty text, which is no category of the chart. -/
theorem null_category_clicked : salesShown.Reachable ∧
    salesResponse.outcome salesTicket.query.request = .data salesBar ∧
    salesShown.view.chart.slot.data? = some salesBar ∧
    salesShown.view.catalog.typeOf? "sales" = some .decimal ∧
    Scalar.null ∈ salesResponse.labels ∧ Scalar.null.Suits .decimal ∧
    (salesShown.run [.click Scalar.null.display]).view.filters.entries = [("sales", .text "")] ∧
    ¬ typedValue (some .decimal) Scalar.null.display = .null :=
  ⟨reachable_of_legal (by decide +kernel), outcome_salesResponse, by decide +kernel,
    by decide +kernel, by decide +kernel, .null _, by decide +kernel, by decide +kernel⟩

end Record

end CrossFilter
