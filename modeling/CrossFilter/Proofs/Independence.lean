import CrossFilter.Proofs.Requeries
import Mathlib.Data.List.Forall2

/-!
# The sections do not interfere

Neither section reads what belongs to the other: what one of them holds after a run is worked out
from its own operations and the shared ones alone, `run_chartSide` and `run_pivotSide`. A click is
the one way from the chart to the pivot table, for it filters on what the chart displays. So two
runs that differ in the operations of one section alone leave the other in the same state, with the
same tickets handed out on the way: `sections_independent`.
-/

namespace CrossFilter

namespace Operation

def isPivotOnly : Operation → Bool
  | .assign .. | .unassign _ | .toggle _ | .setAggregator .. | .resetPivot | .beginPivot
  | .completePivot .. => true
  | _ => false

/-- The operations of the chart section alone; a click is none of them. -/
def isChartOnly : Operation → Bool
  | .setX _ | .setY _ | .setKind _ | .setTitle _ | .beginChart | .completeChart .. => true
  | _ => false

def isClick : Operation → Bool
  | .click _ => true
  | _ => false

/-- Operations that are the same up to services. These need only answer the questions alike that
the operation asks. -/
inductive Alike : Operation → Operation → Prop
  | refl (op : Operation) : Alike op op
  | reload {service service' : Backend.Service Id} : service.columns = service'.columns →
      Alike (.reload service) (.reload service')
  | recast {service service' : Backend.Service Id} (changes : List (String × Recast.Target)) :
      service.columns = service'.columns → (∀ q, service.recast q = service'.recast q) →
      Alike (.recast changes service) (.recast changes service')

/-- Sequences of operations that become alike once the operations of one kind are deleted. -/
def AlikeBut (deleted : Operation → Bool) (ops ops' : List Operation) : Prop :=
  List.Forall₂ Alike (ops.filter (!deleted ·)) (ops'.filter (!deleted ·))

theorem Alike.step_eq {op op' : Operation} (h : Alike op op') (r : Record) :
    r.step op = r.step op' := by
  cases h with
  | refl => rfl
  | @reload service service' hcolumns =>
    obtain ⟨columns, chart, pivot, recast⟩ := service
    obtain ⟨columns', chart', pivot', recast'⟩ := service'
    dsimp only at hcolumns
    subst hcolumns
    rfl
  | @recast service service' changes hcolumns hrecast =>
    obtain ⟨columns, chart, pivot, recast⟩ := service
    obtain ⟨columns', chart', pivot', recast'⟩ := service'
    dsimp only at hcolumns hrecast
    subst hcolumns
    rw [show recast = recast' from funext hrecast]
    rfl

end Operation

section

variable {σ : Type} {f : σ → Operation → σ} {deleted : Operation → Bool}

theorem foldl_alike (halike : ∀ s {op op'}, op.Alike op' → f s op = f s op')
    {ops ops' : List Operation} (h : List.Forall₂ Operation.Alike ops ops') (s : σ) :
    ops.foldl f s = ops'.foldl f s := by
  induction h generalizing s with
  | nil => rfl
  | cons hop _ ih =>
    rw [List.foldl_cons, List.foldl_cons, halike s hop]
    exact ih _

/-- Operations that do nothing can be deleted. -/
theorem foldl_filter_not (hskip : ∀ s op, deleted op = true → f s op = s) (ops : List Operation)
    (s : σ) : (ops.filter (!deleted ·)).foldl f s = ops.foldl f s := by
  induction ops generalizing s with
  | nil => rfl
  | cons op ops ih =>
    cases hop : deleted op with
    | true =>
      rw [List.filter_cons_of_neg (by simp [hop]), List.foldl_cons, hskip s op hop]
      exact ih s
    | false =>
      rw [List.filter_cons_of_pos (by simp [hop]), List.foldl_cons, List.foldl_cons]
      exact ih _

theorem foldl_alikeBut (halike : ∀ s {op op'}, op.Alike op' → f s op = f s op')
    (hskip : ∀ s op, deleted op = true → f s op = s) {ops ops' : List Operation}
    (h : Operation.AlikeBut deleted ops ops') (s : σ) : ops.foldl f s = ops'.foldl f s := by
  calc ops.foldl f s
      = (ops.filter (!deleted ·)).foldl f s := (foldl_filter_not hskip ops s).symm
    _ = (ops'.filter (!deleted ·)).foldl f s := foldl_alike halike h s
    _ = ops'.foldl f s := foldl_filter_not hskip ops' s

end

/-! ## Operations on what both sections share -/

/-- What an operation does to the catalog and the filters, and to both sections by that. -/
inductive SharedEffect where
  | keep
  | load (catalog : Catalog)
  | refilter (e : FilterEdit) (changed : Bool) (fs : Filters)

namespace View

def undergo (v : View) : SharedEffect → Refresh × View
  | .keep => ({}, v)
  | .load catalog => ({}, v.applyCatalog catalog)
  | .refilter e changed fs =>
    { v with filters := fs, chart := e.leave v.chart, pivot := e.leave v.pivot }.filtersChanged changed

/-- An operation that depends, in a view like `v`, on nothing but the catalog and the filters. -/
def Shares (v : View) (act : View → Refresh × View) : Prop :=
  ∃ effect, ∀ w : View, w.catalog = v.catalog → w.filters = v.filters → act w = w.undergo effect

variable (v : View)

theorem shares_reload (service : Backend.Service Id) :
    v.Shares fun w => ({}, (w.reload (m := Id) service).2) := by
  obtain ⟨columns, _, _, _⟩ := service
  cases columns with
  | error failure => exact ⟨.keep, fun w _ _ => rfl⟩
  | ok catalog => exact ⟨.load catalog, fun w _ _ => rfl⟩

theorem shares_recast (changes : List (String × Recast.Target)) (service : Backend.Service Id) :
    v.Shares fun w => ({}, (w.recast (m := Id) service changes).2) := by
  have hrequest : ∀ w : View, w.catalog = v.catalog →
      w.recastRequest changes = v.recastRequest changes := by
    intro w hw
    rw [recastRequest, recastRequest, hw]
  unfold recast
  cases changes.isEmpty with
  | true => exact ⟨.keep, fun w _ _ => rfl⟩
  | false =>
    cases hv : v.recastRequest changes with
    | error cause =>
      refine ⟨.keep, fun w hw _ => ?_⟩
      simp only [hrequest w hw, hv]
      rfl
    | ok request =>
      cases hsent : service.recast request with
      | error failure =>
        refine ⟨.keep, fun w hw _ => ?_⟩
        simp only [hrequest w hw, hv]
        dsimp only [bind, pure]
        simp only [hsent]
        rfl
      | ok done =>
        obtain ⟨effect, heffect⟩ := v.shares_reload service
        refine ⟨effect, fun w hw hf => ?_⟩
        rw [← heffect w hw hf]
        simp only [hrequest w hw, hv]
        dsimp only [bind, pure]
        simp only [hsent]
        rfl

/-- The tickets of an edit of the filters, and the view that it leaves. -/
def refilter (v : View) (e : FilterEdit) : Refresh × View := (.ofResult (v.edit e).1, (v.edit e).2)

theorem shares_refilter (e : FilterEdit) : v.Shares fun w => w.refilter e := by
  cases he : e.edited v.catalog v.filters with
  | mk result fs =>
  cases result with
  | error cause =>
    refine ⟨.keep, fun w hw hf => ?_⟩
    rw [← hw, ← hf] at he
    show w.refilter e = _
    rw [refilter, edit_of_error (congrArg Prod.fst he)]
    rfl
  | ok changed =>
    refine ⟨.refilter e changed fs, fun w hw hf => ?_⟩
    rw [← hw, ← hf] at he
    show w.refilter e = _
    rw [refilter, edit_of_ok he]
    rfl

theorem perform_click_of_none {v : View} (h : v.clickColumn? = none) (label : String) :
    v.perform (.click label) = ({}, v) := by
  rw [perform, click, h]
  rfl

theorem perform_click_of_some {v : View} {column : String} (h : v.clickColumn? = some column)
    (label : String) : v.perform (.click label) =
      v.refilter (.add column (typedValue (v.catalog.typeOf? column) label)) := by
  rw [perform, click, h]
  rfl

end View

/-- A record after an operation that brings no answer. -/
def Record.after (r : Record) (done : Refresh × View) : Record :=
  ⟨done.2, r.charts.issue done.1.chart, r.pivots.issue done.1.pivot⟩

/-! ## The chart section -/

/-- What the chart section holds, with what it shares with the pivot table. -/
structure ChartSide where
  catalog : Catalog
  selection : Chart.Selection
  filters : Filters
  part : Section Chart.Query Chart.Result
  title : Option String
  log : Log Chart.Query Chart.Result

def Record.chartSide (r : Record) : ChartSide where
  catalog := r.view.catalog
  selection := r.view.selection
  filters := r.view.filters
  part := r.view.chart
  title := r.view.chartTitle
  log := r.charts

/-- A record with this chart side, and with nothing on the side of the pivot table. -/
def ChartSide.bare (c : ChartSide) : Record where
  view := {
    catalog := c.catalog
    selection := c.selection
    filters := c.filters
    chart := c.part
    chartTitle := c.title }
  charts := c.log

def ChartSide.step (c : ChartSide) (op : Operation) : ChartSide := (c.bare.step op).chartSide

namespace Record

variable (r : Record)

theorem chartSide_of_isPivotOnly {op : Operation} (hop : op.isPivotOnly = true) :
    (r.step op).chartSide = r.chartSide := by
  cases op with
  | assign column zone =>
    show chartSide ⟨(r.view.assign column zone).2, r.charts, r.pivots⟩ = _
    rw [View.assign_snd]
    split
    · rfl
    · rfl
  | unassign column => rfl
  | toggle column =>
    show chartSide ⟨(r.view.toggle column).2, r.charts, r.pivots⟩ = _
    rw [View.toggle_snd]
    split
    · rfl
    · rfl
  | setAggregator column aggregator => rfl
  | resetPivot => rfl
  | beginPivot =>
    show chartSide ⟨r.view.beginPivot.2, r.charts, r.pivots.issue r.view.beginPivot.1.toOption⟩ = _
    cases hq : r.view.pivotRequest with
    | ok request => rw [View.beginPivot_ok hq]; rfl
    | error cause => rw [View.beginPivot_error hq]; rfl
  | completePivot t a => rfl
  | _ => cases hop

theorem chartSide_of_shares {act : View → Refresh × View} (h : r.view.Shares act) :
    (r.after (act r.view)).chartSide =
      (r.chartSide.bare.after (act r.chartSide.bare.view)).chartSide := by
  obtain ⟨effect, heffect⟩ := h
  rw [heffect r.view rfl rfl, heffect r.chartSide.bare.view rfl rfl]
  cases effect with
  | keep => rfl
  | load catalog => rfl
  | refilter e changed fs =>
    cases changed with
    | false => rfl
    | true => rfl

/-- The chart side after an operation is made of the chart side before it. -/
theorem chartSide_step (op : Operation) : (r.step op).chartSide = r.chartSide.step op := by
  cases op with
  | reload service => exact r.chartSide_of_shares (r.view.shares_reload service)
  | recast changes service => exact r.chartSide_of_shares (r.view.shares_recast changes service)
  | setX column => rfl
  | setY column => rfl
  | setKind kind => rfl
  | setTitle title => rfl
  | beginChart =>
    show chartSide (r.after ({ chart := r.view.beginChart.1.toOption }, r.view.beginChart.2)) =
      chartSide (Record.after _ ({ chart := (View.beginChart _).1.toOption }, (View.beginChart _).2))
    cases hq : r.view.chartRequest with
    | ok request =>
      rw [View.beginChart_ok hq, View.beginChart_ok (v := r.chartSide.bare.view) hq]
      rfl
    | error cause =>
      rw [View.beginChart_error hq, View.beginChart_error (v := r.chartSide.bare.view) hq]
      rfl
  | completeChart t a => rfl
  | addFilter column value =>
    exact r.chartSide_of_shares (r.view.shares_refilter (.add column value))
  | removeFilter column => exact r.chartSide_of_shares (r.view.shares_refilter (.remove column))
  | clearFilters => exact r.chartSide_of_shares (r.view.shares_refilter .clear)
  | click label =>
    -- What a click filters on is read off the displayed chart, which is on this side.
    cases hc : r.view.clickColumn? with
    | none =>
      have hbare : r.chartSide.bare.view.clickColumn? = none := hc
      rw [step_of_perform rfl rfl (View.perform_click_of_none hc label), ChartSide.step,
        step_of_perform rfl rfl (View.perform_click_of_none hbare label)]
      rfl
    | some column =>
      have hbare : r.chartSide.bare.view.clickColumn? = some column := hc
      rw [step_of_perform rfl rfl (View.perform_click_of_some hc label), ChartSide.step,
        step_of_perform rfl rfl (View.perform_click_of_some hbare label)]
      exact r.chartSide_of_shares (r.view.shares_refilter (.add column _))
  | switchTab tab =>
    show chartSide ⟨(r.view.switchTab tab).2, r.charts, r.pivots⟩ =
      chartSide ⟨(View.switchTab _ tab).2, _, _⟩
    rw [View.switchTab_snd, View.switchTab_snd]
    rfl
  | _ =>
    rw [r.chartSide_of_isPivotOnly rfl, ChartSide.step, chartSide_of_isPivotOnly _ rfl]
    rfl

theorem run_chartSide (ops : List Operation) :
    (r.run ops).chartSide = ops.foldl ChartSide.step r.chartSide := by
  induction ops generalizing r with
  | nil => rfl
  | cons op ops ih =>
    rw [List.foldl_cons, ← chartSide_step]
    exact ih (r.step op)

end Record

namespace ChartSide

theorem step_of_isPivotOnly (c : ChartSide) {op : Operation} (hop : op.isPivotOnly = true) :
    c.step op = c := c.bare.chartSide_of_isPivotOnly hop

theorem step_alike (c : ChartSide) {op op' : Operation} (h : op.Alike op') :
    c.step op = c.step op' := by
  rw [step, h.step_eq]
  rfl

end ChartSide

/-! ## The pivot section -/

/-- What the pivot section holds, with what it shares with the chart. -/
structure PivotSide where
  catalog : Catalog
  filters : Filters
  assignment : Pivot.Assignment
  part : Section Pivot.Request Pivot.Table
  log : Log Pivot.Request Pivot.Table

def Record.pivotSide (r : Record) : PivotSide where
  catalog := r.view.catalog
  filters := r.view.filters
  assignment := r.view.assignment
  part := r.view.pivot
  log := r.pivots

/-- A record with this pivot side, and with nothing on the side of the chart. -/
def PivotSide.bare (p : PivotSide) : Record where
  view := {
    catalog := p.catalog
    filters := p.filters
    assignment := p.assignment
    pivot := p.part }
  pivots := p.log

def PivotSide.step (p : PivotSide) (op : Operation) : PivotSide := (p.bare.step op).pivotSide

namespace Record

variable (r : Record)

theorem pivotSide_of_isChartOnly {op : Operation} (hop : op.isChartOnly = true) :
    (r.step op).pivotSide = r.pivotSide := by
  cases op with
  | setX column => rfl
  | setY column => rfl
  | setKind kind => rfl
  | setTitle title => rfl
  | beginChart =>
    show pivotSide ⟨r.view.beginChart.2, r.charts.issue r.view.beginChart.1.toOption, r.pivots⟩ = _
    cases hq : r.view.chartRequest with
    | ok request => rw [View.beginChart_ok hq]; rfl
    | error cause => rw [View.beginChart_error hq]; rfl
  | completeChart t a => rfl
  | _ => cases hop

theorem pivotSide_of_shares {act : View → Refresh × View} (h : r.view.Shares act) :
    (r.after (act r.view)).pivotSide =
      (r.pivotSide.bare.after (act r.pivotSide.bare.view)).pivotSide := by
  obtain ⟨effect, heffect⟩ := h
  rw [heffect r.view rfl rfl, heffect r.pivotSide.bare.view rfl rfl]
  cases effect with
  | keep => rfl
  | load catalog => rfl
  | refilter e changed fs =>
    cases changed with
    | false => rfl
    | true => rfl

/-- The pivot side after an operation other than a click is made of the pivot side before it. -/
theorem pivotSide_step {op : Operation} (hop : op.isClick = false) :
    (r.step op).pivotSide = r.pivotSide.step op := by
  cases op with
  | reload service => exact r.pivotSide_of_shares (r.view.shares_reload service)
  | recast changes service => exact r.pivotSide_of_shares (r.view.shares_recast changes service)
  | assign column zone =>
    show pivotSide ⟨(r.view.assign column zone).2, r.charts, r.pivots⟩ =
      pivotSide ⟨(View.assign r.pivotSide.bare.view column zone).2, _, _⟩
    rw [View.assign_snd, View.assign_snd]
    show _ = pivotSide ⟨if r.view.catalog.contains column then _ else _, _, _⟩
    split
    · rfl
    · rfl
  | unassign column => rfl
  | toggle column =>
    show pivotSide ⟨(r.view.toggle column).2, r.charts, r.pivots⟩ =
      pivotSide ⟨(View.toggle r.pivotSide.bare.view column).2, _, _⟩
    have htype : r.pivotSide.bare.view.catalog.typeOf? column = r.view.catalog.typeOf? column := rfl
    rw [View.toggle_snd, View.toggle_snd, htype]
    cases r.view.catalog.typeOf? column with
    | none => rfl
    | some type => rfl
  | setAggregator column aggregator => rfl
  | resetPivot => rfl
  | beginPivot =>
    show pivotSide (r.after ({ pivot := r.view.beginPivot.1.toOption }, r.view.beginPivot.2)) =
      pivotSide (Record.after _ ({ pivot := (View.beginPivot _).1.toOption }, (View.beginPivot _).2))
    cases hq : r.view.pivotRequest with
    | ok request =>
      rw [View.beginPivot_ok hq, View.beginPivot_ok (v := r.pivotSide.bare.view) hq]
      rfl
    | error cause =>
      rw [View.beginPivot_error hq, View.beginPivot_error (v := r.pivotSide.bare.view) hq]
      rfl
  | completePivot t a => rfl
  | addFilter column value =>
    exact r.pivotSide_of_shares (r.view.shares_refilter (.add column value))
  | removeFilter column => exact r.pivotSide_of_shares (r.view.shares_refilter (.remove column))
  | clearFilters => exact r.pivotSide_of_shares (r.view.shares_refilter .clear)
  | click label => cases hop
  | switchTab tab =>
    show pivotSide ⟨(r.view.switchTab tab).2, r.charts, r.pivots⟩ =
      pivotSide ⟨(View.switchTab _ tab).2, _, _⟩
    rw [View.switchTab_snd, View.switchTab_snd]
    rfl
  | _ =>
    rw [r.pivotSide_of_isChartOnly rfl, PivotSide.step, pivotSide_of_isChartOnly _ rfl]
    rfl

theorem run_pivotSide {ops : List Operation} (hops : ∀ op ∈ ops, op.isClick = false) :
    (r.run ops).pivotSide = ops.foldl PivotSide.step r.pivotSide := by
  induction ops generalizing r with
  | nil => rfl
  | cons op ops ih =>
    rw [List.foldl_cons, ← r.pivotSide_step (hops op List.mem_cons_self)]
    exact ih (r.step op) fun op' hop' => hops op' (List.mem_cons_of_mem _ hop')

end Record

namespace PivotSide

theorem step_of_isChartOnly (p : PivotSide) {op : Operation} (hop : op.isChartOnly = true) :
    p.step op = p := p.bare.pivotSide_of_isChartOnly hop

theorem step_alike (p : PivotSide) {op op' : Operation} (h : op.Alike op') :
    p.step op = p.step op' := by
  rw [step, h.step_eq]
  rfl

end PivotSide

/-! ## Two runs -/

/-- The operations of one section alone have no effect on the other, clicks on the chart apart. -/
theorem Record.sections_independent (r : Record) (ops ops' : List Operation) :
    (Operation.AlikeBut Operation.isPivotOnly ops ops' →
      (r.run ops).chartSide = (r.run ops').chartSide) ∧
    (Operation.AlikeBut Operation.isChartOnly ops ops' →
      (∀ op ∈ ops, op.isClick = false) → (∀ op ∈ ops', op.isClick = false) →
      (r.run ops).pivotSide = (r.run ops').pivotSide) := by
  constructor
  · intro h
    rw [run_chartSide, run_chartSide]
    exact foldl_alikeBut ChartSide.step_alike (fun c _ => c.step_of_isPivotOnly) h r.chartSide
  · intro h hops hops'
    rw [r.run_pivotSide hops, r.run_pivotSide hops']
    exact foldl_alikeBut PivotSide.step_alike (fun p _ => p.step_of_isChartOnly) h r.pivotSide

/-- A chart and a pivot table are asked for in turns, and asked for again under a filter. -/
def Operation.interleaved : List Operation := [.reload .sample, .assign "city" .rows,
  .setX (some "region"), .assign "sales" .values, .beginPivot, .beginChart,
  .completeChart regionTicket (.ok .empty), .addFilter "region" (.text "North")]

def Operation.chartsAlone : List Operation := [.reload .sample, .setX (some "region"), .beginChart,
  .completeChart regionTicket (.ok .empty), .addFilter "region" (.text "North")]

/-- The columns come from a service that cannot make charts. -/
def Operation.pivotsAlone : List Operation :=
  [.reload { Backend.Service.sample with chart := fun _ => .error (.backend "no charts") },
    .assign "city" .rows, .assign "sales" .values, .beginPivot, .addFilter "region" (.text "North")]

theorem Record.sections_independent_interleaved :
    Operation.AlikeBut Operation.isPivotOnly Operation.interleaved Operation.chartsAlone ∧
    Operation.AlikeBut Operation.isChartOnly Operation.interleaved Operation.pivotsAlone ∧
    (∀ op ∈ Operation.interleaved, op.isClick = false) ∧
    (∀ op ∈ Operation.pivotsAlone, op.isClick = false) ∧
    ((start .default).run Operation.interleaved).charts.issued.map Ticket.number = [3, 2] ∧
    ((start .default).run Operation.interleaved).pivots.issued.map Ticket.number = [3, 2] ∧
    ((start .default).run Operation.interleaved).chartSide =
      ((start .default).run Operation.chartsAlone).chartSide ∧
    ((start .default).run Operation.interleaved).pivotSide =
      ((start .default).run Operation.pivotsAlone).pivotSide := by
  have hcharts :
      Operation.AlikeBut Operation.isPivotOnly Operation.interleaved Operation.chartsAlone :=
    List.forall₂_same.2 fun op _ => .refl op
  have hpivots :
      Operation.AlikeBut Operation.isChartOnly Operation.interleaved Operation.pivotsAlone :=
    .cons (.reload rfl) (List.forall₂_same.2 fun op _ => .refl op)
  have hclick : ∀ op ∈ Operation.interleaved, op.isClick = false := by
    simp [Operation.interleaved, Operation.isClick]
  have hclick' : ∀ op ∈ Operation.pivotsAlone, op.isClick = false := by
    simp [Operation.pivotsAlone, Operation.isClick]
  exact ⟨hcharts, hpivots, hclick, hclick', by decide +kernel, by decide +kernel,
    (sections_independent _ _ _).1 hcharts, (sections_independent _ _ _).2 hpivots hclick hclick'⟩

end CrossFilter
