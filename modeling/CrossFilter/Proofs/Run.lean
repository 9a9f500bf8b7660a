import CrossFilter.View.Session

/-!
# Runs of a view

A view is changed by operations that come in any order. `View.perform` carries one out, and a
`Record` keeps beside the view what the view itself forgets: every ticket that was handed out and
every answer that was taken. A run starts from a view without columns, and may answer any ticket
that was handed out before, as late and as often as it likes.

`Record.Change` lists what one operation can do to a record, and `change_step` says that it does
nothing else.
-/

namespace CrossFilter

/-- What can be done to a view. Where a service is asked, it stands in the operation. -/
inductive Operation where
  | reload (service : Backend.Service Id)
  | recast (changes : List (String × Recast.Target)) (service : Backend.Service Id)
  | setX (column : Option String)
  | setY (column : Option String)
  | setKind (kind : Chart.Kind)
  | setTitle (title : String)
  | beginChart
  | completeChart (ticket : Ticket Chart.Query) (answer : Except Failure (Outcome Chart.Result))
  | assign (column : String) (zone : Pivot.Zone)
  | unassign (column : String)
  | toggle (column : String)
  | setAggregator (column : String) (aggregator : Pivot.Aggregator)
  | resetPivot
  | beginPivot
  | completePivot (ticket : Ticket Pivot.Request) (answer : Except Failure (Outcome Pivot.Table))
  | addFilter (column : String) (value : Scalar)
  | removeFilter (column : String)
  | clearFilters
  | click (label : String)
  | switchTab (tab : Tab)

/-- The tickets of what was asked again; where that was refused there are none. -/
def Refresh.ofResult (asked : Except Rejection Refresh) : Refresh := asked.toOption.getD {}

namespace View

/-- The tickets that an operation hands out, and the view that it leaves. -/
def perform (v : View) : Operation → Refresh × View
  | .reload service => ({}, (v.reload (m := Id) service).2)
  | .recast changes service => ({}, (v.recast (m := Id) service changes).2)
  | .setX column => ({}, (v.setX column).2)
  | .setY column => ({}, (v.setY column).2)
  | .setKind kind => ({}, (v.setKind kind).2)
  | .setTitle title => ({}, v.setTitle title)
  | .beginChart => ({ chart := v.beginChart.1.toOption }, v.beginChart.2)
  | .completeChart ticket answer => ({}, (v.completeChart ticket answer).2)
  | .assign column zone => ({}, (v.assign column zone).2)
  | .unassign column => ({}, (v.unassign column).2)
  | .toggle column => ({}, (v.toggle column).2)
  | .setAggregator column aggregator => ({}, (v.setAggregator column aggregator).2)
  | .resetPivot => ({}, v.resetPivot)
  | .beginPivot => ({ pivot := v.beginPivot.1.toOption }, v.beginPivot.2)
  | .completePivot ticket answer => ({}, (v.completePivot ticket answer).2)
  | .addFilter column value =>
    (.ofResult (v.addFilter column value).1, (v.addFilter column value).2)
  | .removeFilter column => v.removeFilter column
  | .clearFilters => v.clearFilters
  | .click label => (.ofResult (v.click label).1, (v.click label).2)
  | .switchTab tab => ({}, (v.switchTab tab).2)

end View

/-! ## Records -/

/-- An answer with the ticket that it belongs to. -/
abbrev Answer (Query Data : Type) := Ticket Query × Except Failure (Outcome Data)

/-- What was handed out and taken back for one section, the newest first. -/
structure Log (Query Data : Type) where
  issued : List (Ticket Query) := []
  /-- The answers that were taken; one that came too late is not. -/
  taken : List (Answer Query Data) := []

namespace Log

variable {Query Data : Type}

def issue (l : Log Query Data) (ticket : Option (Ticket Query)) : Log Query Data :=
  { l with issued := ticket.toList ++ l.issued }

/-- Notes an answer, unless the section said that its ticket was not current. -/
def answer (l : Log Query Data) (t : Ticket Query) (a : Except Failure (Outcome Data)) :
    Except Failure Bool → Log Query Data
  | .ok false => l
  | _ => { l with taken := (t, a) :: l.taken }

@[simp] theorem issue_none (l : Log Query Data) : l.issue none = l := rfl

theorem issued_issue (l : Log Query Data) (ticket : Option (Ticket Query)) :
    l.issued <:+ (l.issue ticket).issued := List.suffix_append _ _

@[simp] theorem issued_answer (l : Log Query Data) (t : Ticket Query)
    (a : Except Failure (Outcome Data)) (current : Except Failure Bool) :
    (l.answer t a current).issued = l.issued := by
  rcases current with _ | _ | _ <;> rfl

/-- The outcome that was taken last, with its ticket. -/
def shown? (l : Log Query Data) : Option (Ticket Query × Outcome Data) :=
  l.taken.findSome? fun (t, a) => a.toOption.map fun o => (t, o)

/-- Whether a failure was taken under a ticket. -/
def Failed (l : Log Query Data) (t : Ticket Query) : Prop :=
  ∃ failure, (t, .error failure) ∈ l.taken

end Log

structure Record where
  view : View
  charts : Log Chart.Query Chart.Result := {}
  pivots : Log Pivot.Request Pivot.Table := {}

/-- Only a ticket that was handed out can be answered. -/
def Operation.Allowed (r : Record) : Operation → Prop
  | .completeChart t _ => t ∈ r.charts.issued
  | .completePivot t _ => t ∈ r.pivots.issued
  | _ => True

instance (r : Record) : DecidablePred (Operation.Allowed r)
  | .completeChart t _ => inferInstanceAs (Decidable (t ∈ r.charts.issued))
  | .completePivot t _ => inferInstanceAs (Decidable (t ∈ r.pivots.issued))
  | .reload _ | .recast .. | .setX _ | .setY _ | .setKind _ | .setTitle _ | .beginChart | .assign ..
  | .unassign _ | .toggle _ | .setAggregator .. | .resetPivot | .beginPivot | .addFilter ..
  | .removeFilter _ | .clearFilters | .click _ | .switchTab _ => .isTrue trivial

namespace Record

/-- The logs with the answer that an operation brings. -/
def chartsAfter (r : Record) : Operation → Log Chart.Query Chart.Result
  | .completeChart t a => r.charts.answer t a (r.view.completeChart t a).1
  | _ => r.charts

def pivotsAfter (r : Record) : Operation → Log Pivot.Request Pivot.Table
  | .completePivot t a => r.pivots.answer t a (r.view.completePivot t a).1
  | _ => r.pivots

def step (r : Record) (op : Operation) : Record where
  view := (r.view.perform op).2
  charts := (r.chartsAfter op).issue (r.view.perform op).1.chart
  pivots := (r.pivotsAfter op).issue (r.view.perform op).1.pivot

/-- A new view, on the tab that was active last. -/
def start (tab : Tab) : Record := { view := { tab } }

/-- `r.Run s`: operations lead from `r` to `s`. -/
inductive Run (r : Record) : Record → Prop
  | refl : Run r r
  | step {s : Record} (op : Operation) : Run r s → op.Allowed s → Run r (s.step op)

def Reachable (r : Record) : Prop := ∃ tab, (start tab).Run r

theorem Run.trans {r s t : Record} (h : r.Run s) (h' : s.Run t) : r.Run t := by
  induction h' with
  | refl => exact h
  | step op _ hop ih => exact .step op ih hop

/-- What every step preserves holds in every later state of a run. -/
theorem Run.preserves {P : Record → Prop} (hstep : ∀ s op, P s → op.Allowed s → P (s.step op))
    {r s : Record} (h : r.Run s) (hr : P r) : P s := by
  induction h with
  | refl => exact hr
  | step op _ hop ih => exact hstep _ op ih hop

/-! ### Runs of given operations -/

def run (r : Record) (ops : List Operation) : Record := ops.foldl step r

/-- Whether each of the operations is allowed when its turn comes. -/
def legal (r : Record) : List Operation → Bool
  | [] => true
  | op :: ops => decide (op.Allowed r) && (r.step op).legal ops

theorem run_of_legal {ops : List Operation} {r : Record} (h : r.legal ops = true) :
    r.Run (r.run ops) := by
  induction ops generalizing r with
  | nil => exact .refl
  | cons op ops ih =>
    simp only [legal, Bool.and_eq_true, decide_eq_true_eq] at h
    exact Run.trans (.step op .refl h.1) (ih h.2)

theorem reachable_of_legal {tab : Tab} {ops : List Operation} (h : (start tab).legal ops = true) :
    ((start tab).run ops).Reachable := ⟨tab, run_of_legal h⟩

end Record

/-- A service with a small dataset, which sample runs load. -/
def Backend.Service.sample : Backend.Service Id where
  columns := .ok (.ofList [.ofTag "region" "utf8", .ofTag "city" "utf8", .ofTag "sales" "float64"])
  chart _ := .ok {}
  pivot _ := .ok {}
  recast _ := .ok ()

/-- The ticket of a bar chart of the regions, if it is asked for right after the dataset is loaded. -/
def regionTicket : Ticket Chart.Query :=
  ⟨2, ⟨⟨"region", none, .bar, .empty⟩, some "Distribution of region"⟩⟩

/-! ## What the operations do to a view -/

namespace View

theorem assign_snd (v : View) (column : String) (zone : Pivot.Zone) :
    (v.assign column zone).2 =
      if v.catalog.contains column then { v with assignment := v.assignment.assign column zone }
      else v := by
  unfold assign
  split <;> rfl

theorem toggle_snd (v : View) (column : String) :
    (v.toggle column).2 =
      match v.catalog.typeOf? column with
      | none => v
      | some type => { v with assignment := (v.assignment.toggle column type).2 } := by
  unfold toggle
  cases v.catalog.typeOf? column <;> rfl

theorem switchTab_snd (v : View) (tab : Tab) : (v.switchTab tab).2 = { v with tab } := by
  unfold switchTab
  split
  · next h => rw [h]
  · rfl

theorem reload_cases (v : View) (service : Backend.Service Id) :
    (v.reload (m := Id) service).2 = v ∨
      ∃ catalog, (v.reload (m := Id) service).2 = v.applyCatalog catalog := by
  obtain ⟨columns, _, _, _⟩ := service
  cases columns with
  | error failure => exact .inl rfl
  | ok catalog => exact .inr ⟨catalog, rfl⟩

theorem recast_cases (v : View) (changes : List (String × Recast.Target))
    (service : Backend.Service Id) :
    (v.recast (m := Id) service changes).2 = v ∨
      ∃ catalog, (v.recast (m := Id) service changes).2 = v.applyCatalog catalog := by
  unfold recast
  split
  · exact .inl rfl
  · cases v.recastRequest changes with
    | error cause => exact .inl rfl
    | ok request =>
      dsimp only [bind, pure]
      cases service.recast request with
      | error failure => exact .inl rfl
      | ok done => exact v.reload_cases service

section

variable {v : View} {cause : Rejection}

theorem chartRequest_ok {request : Chart.Request} (h : v.chartRequest = .ok request) :
    v.selection.request v.filters = .ok request := by
  unfold chartRequest at h
  split at h
  · cases h
  · exact h

theorem pivotRequest_ok {request : Pivot.Request} (h : v.pivotRequest = .ok request) :
    v.assignment.request v.filters v.catalog = .ok request := by
  unfold pivotRequest at h
  split at h
  · cases h
  · exact h

theorem beginChart_ok {request : Chart.Request} (h : v.chartRequest = .ok request) :
    v.beginChart = (.ok (v.chart.issue ⟨request, v.selection.effectiveTitle⟩).1,
      { v with chart := (v.chart.issue ⟨request, v.selection.effectiveTitle⟩).2 }) := by
  simp only [beginChart, h]

theorem beginChart_error (h : v.chartRequest = .error cause) :
    v.beginChart = (.error cause, { v with
      chart := v.chart.reject (v.chart.slot.failAndClear cause.message)
      chartTitle := none }) := by
  simp only [beginChart, h]

theorem beginPivot_ok {request : Pivot.Request} (h : v.pivotRequest = .ok request) :
    v.beginPivot = (.ok (v.pivot.issue request).1,
      { v with pivot := (v.pivot.issue request).2 }) := by
  simp only [beginPivot, h]

theorem beginPivot_error (h : v.pivotRequest = .error cause) :
    v.beginPivot = (.error cause,
      { v with pivot := v.pivot.reject (v.pivot.slot.fail cause.message) }) := by
  simp only [beginPivot, h]

end

theorem filters_filtersChanged (v : View) (changed : Bool) :
    (v.filtersChanged changed).2.filters = v.filters := by
  cases changed <;> rfl

/-- Adding a filter on a known column goes through, and asks again just if it is a change. -/
theorem addFilter_of_contains {v : View} {column : String}
    (hc : v.catalog.contains column = true) (value : Scalar) : v.addFilter column value =
      ({ v with filters := v.filters.upsert column value }.filtersChanged
        (!(v.filters.get? column).any (Scalar.same · value))).map .ok id := by
  rw [addFilter, Filters.add_of_contains hc]
  rfl

theorem addFilter_of_not_contains {v : View} {column : String}
    (hc : v.catalog.contains column = false) (value : Scalar) :
    v.addFilter column value = (.error (.unknownColumn column), v) := by
  rw [addFilter, Filters.add_of_not_contains hc]

/-- A filter that is refused or there already asks nothing. -/
theorem addFilter_cases (v : View) (column : String) (value : Scalar) :
    v.perform (.addFilter column value) = ({}, v) ∨
      ∃ fs, v.perform (.addFilter column value) = { v with filters := fs }.reissue := by
  rw [perform]
  cases hc : v.catalog.contains column with
  | false => exact .inl (by rw [addFilter_of_not_contains hc]; rfl)
  | true =>
    rw [addFilter_of_contains hc]
    cases hsame : (v.filters.get? column).any (Scalar.same · value) with
    | false => exact .inr ⟨_, rfl⟩
    | true =>
      have hkept : v.filters.upsert column value = v.filters := if_pos hsame
      rw [hkept]
      exact .inl rfl

theorem click_cases (v : View) (label : String) :
    v.perform (.click label) = ({}, v) ∨
      ∃ fs, v.perform (.click label) = { v with filters := fs }.reissue := by
  rw [perform]
  unfold click
  split
  · exact .inl rfl
  · exact v.addFilter_cases _ _

theorem removeFilter_cases (v : View) (column : String) :
    v.removeFilter column = ({}, v) ∨ ∃ fs, v.removeFilter column = { v with filters := fs }.reissue := by
  unfold removeFilter
  cases h : (v.filters.remove column).1 with
  | false => exact .inl (by simp [filtersChanged, h, Filters.remove_eq_self h])
  | true => exact .inr ⟨_, by simp [filtersChanged, h]; rfl⟩

/-- Sections that show nothing and wait for nothing go back to idle. -/
def settled (v : View) : View := { v with chart := v.chart.settle, pivot := v.pivot.settle }

theorem clearFilters_cases (v : View) :
    v.clearFilters = ({}, v.settled) ∨ v.clearFilters = { v.settled with filters := .empty }.reissue := by
  unfold clearFilters
  cases h : v.filters.clear.1 with
  | false => exact .inl (by simp [filtersChanged, h, settled, Filters.clear_eq_self h])
  | true => exact .inr (by simp [filtersChanged, h]; rfl)

end View

namespace Record

/-- What one operation can do to a record. -/
inductive Change (r : Record) : Record → Prop
  /-- The tab, the chart selection or the pivot assignment changes, or nothing does. -/
  | edit (tab : Tab) (selection : Chart.Selection) (assignment : Pivot.Assignment) :
      Change r { r with view := { r.view with tab, selection, assignment } }
  | load (catalog : Catalog) : Change r { r with view := r.view.applyCatalog catalog }
  | resetPivot : Change r { r with view := r.view.resetPivot }
  | beginChart : Change r { r with
      view := r.view.beginChart.2
      charts := r.charts.issue r.view.beginChart.1.toOption }
  | beginPivot : Change r { r with
      view := r.view.beginPivot.2
      pivots := r.pivots.issue r.view.beginPivot.1.toOption }
  | completeChart (t : Ticket Chart.Query) (a : Except Failure (Outcome Chart.Result)) :
      t ∈ r.charts.issued → Change r { r with
        view := (r.view.completeChart t a).2
        charts := r.charts.answer t a (r.view.completeChart t a).1 }
  | completePivot (t : Ticket Pivot.Request) (a : Except Failure (Outcome Pivot.Table)) :
      t ∈ r.pivots.issued → Change r { r with
        view := (r.view.completePivot t a).2
        pivots := r.pivots.answer t a (r.view.completePivot t a).1 }
  | settle : Change r { r with view := r.view.settled }
  | refilter (v : View) (fs : Filters) : v = r.view ∨ v = r.view.settled → Change r {
      view := { v with filters := fs }.reissue.2
      charts := r.charts.issue { v with filters := fs }.reissue.1.chart
      pivots := r.pivots.issue { v with filters := fs }.reissue.1.pivot }

section

variable {r : Record} {op : Operation} (hc : r.chartsAfter op = r.charts)
  (hp : r.pivotsAfter op = r.pivots)

include hc hp

/-- An operation that brings no answer is seen from what it does to the view. -/
theorem step_of_perform {tickets : Refresh} {v : View} (h : r.view.perform op = (tickets, v)) :
    r.step op = ⟨v, r.charts.issue tickets.chart, r.pivots.issue tickets.pivot⟩ := by
  rw [step, hc, hp, h]

theorem change_of_load
    (h : (r.view.perform op).2 = r.view ∨ ∃ catalog, (r.view.perform op).2 = r.view.applyCatalog catalog)
    (quiet : (r.view.perform op).1 = {}) : r.Change (r.step op) := by
  rcases h with h | ⟨catalog, h⟩
  · rw [step_of_perform hc hp (Prod.ext quiet h)]; exact .edit ..
  · rw [step_of_perform hc hp (Prod.ext quiet h)]; exact .load catalog

theorem change_of_refilter (h : r.view.perform op = ({}, r.view) ∨
    ∃ fs, r.view.perform op = { r.view with filters := fs }.reissue) : r.Change (r.step op) := by
  rcases h with h | ⟨fs, h⟩
  · rw [step_of_perform hc hp h]; exact .edit ..
  · rw [step_of_perform hc hp h]; exact .refilter _ fs (.inl rfl)

end

theorem change_step {r : Record} {op : Operation} (hop : op.Allowed r) : r.Change (r.step op) := by
  cases op with
  | reload service => exact change_of_load rfl rfl (r.view.reload_cases service) rfl
  | recast changes service => exact change_of_load rfl rfl (r.view.recast_cases changes service) rfl
  | setX column => exact .edit _ (r.view.selection.setX r.view.catalog column).2 _
  | setY column => exact .edit _ (r.view.selection.setY r.view.catalog column).2 _
  | setKind kind => exact .edit _ (r.view.selection.setKind kind).2 _
  | setTitle title => exact .edit ..
  | beginChart => exact .beginChart
  | completeChart t a => exact .completeChart t a hop
  | assign column zone =>
    show r.Change ⟨(r.view.assign column zone).2, r.charts, r.pivots⟩
    rw [View.assign_snd]
    split
    · exact .edit ..
    · exact .edit ..
  | unassign column => exact .edit ..
  | toggle column =>
    show r.Change ⟨(r.view.toggle column).2, r.charts, r.pivots⟩
    rw [View.toggle_snd]
    split
    · exact .edit ..
    · exact .edit ..
  | setAggregator column aggregator =>
    exact .edit _ _ (r.view.assignment.setAggregator column aggregator).2
  | resetPivot => exact .resetPivot
  | beginPivot => exact .beginPivot
  | completePivot t a => exact .completePivot t a hop
  | addFilter column value => exact change_of_refilter rfl rfl (r.view.addFilter_cases column value)
  | removeFilter column => exact change_of_refilter rfl rfl (r.view.removeFilter_cases column)
  | clearFilters =>
    have hcases : r.view.perform .clearFilters = ({}, r.view.settled) ∨
      r.view.perform .clearFilters = { r.view.settled with filters := .empty }.reissue :=
        r.view.clearFilters_cases
    rcases hcases with h | h
    · rw [step_of_perform rfl rfl h]; exact .settle
    · rw [step_of_perform rfl rfl h]; exact .refilter _ .empty (.inr rfl)
  | click label => exact change_of_refilter rfl rfl (r.view.click_cases label)
  | switchTab tab =>
    show r.Change ⟨(r.view.switchTab tab).2, r.charts, r.pivots⟩
    rw [View.switchTab_snd]
    exact .edit ..

end Record

end CrossFilter
