import CrossFilter.Proofs.Run

/-!
# One section of a run

The chart and the pivot table live by the same rules. A `Track` is one of the two sections with its
log and with the catalog and the filters that both share. `Track.Step` lists all that one operation
can do to it, and `chart_step` and `pivot_step` say that the operations do nothing else: what holds
of both sections is proved of `Track.Step` alone.
-/

namespace CrossFilter

/-- Queries that are asked under filters. -/
class Filtered (Query : Type) where
  filters : Query → Filters
  refilter : Query → Filters → Query
  filters_refilter (q : Query) (fs : Filters) : filters (refilter q fs) = fs

instance : Filtered Chart.Query where
  filters q := q.request.filters
  refilter q fs := { q with request := { q.request with filters := fs } }
  filters_refilter _ _ := rfl

instance : Filtered Pivot.Request where
  filters q := q.filters
  refilter q fs := { q with filters := fs }
  filters_refilter _ _ := rfl

structure Track (Query Data : Type) where
  catalog : Catalog
  filters : Filters
  part : Section Query Data
  log : Log Query Data

namespace Record

def chartTrack (r : Record) : Track Chart.Query Chart.Result :=
  ⟨r.view.catalog, r.view.filters, r.view.chart, r.charts⟩

def pivotTrack (r : Record) : Track Pivot.Request Pivot.Table :=
  ⟨r.view.catalog, r.view.filters, r.view.pivot, r.pivots⟩

end Record

/-! ## What an operation does to a section -/

namespace Track

variable {Query Data : Type} [Filtered Query]

/-- One operation. `Fresh` holds of the queries that the operation may make up. -/
inductive Step (Fresh : Query → Prop) (k : Track Query Data) : Track Query Data → Prop
  | keep : Step Fresh k k
  | settle : Step Fresh k { k with part := k.part.settle }
  | issue (q : Query) : Fresh q → Filtered.filters q = k.filters →
      Step Fresh k { k with part := (k.part.issue q).2, log := k.log.issue (k.part.issue q).1 }
  | reject (slot : Slot Data) : slot.phase = .failed →
      slot.outcome = none ∨ slot.outcome = k.part.slot.outcome →
      Step Fresh k { k with part := k.part.reject slot }
  | reset (catalog : Catalog) (fs : Filters) :
      Step Fresh k { k with catalog, filters := fs, part := k.part.reset }
  | answer (t : Ticket Query) (a : Except Failure (Outcome Data)) : t ∈ k.log.issued →
      Step Fresh k { k with
        part := (k.part.complete t a).2
        log := k.log.answer t a (k.part.complete t a).1 }
  | refilter (fs : Filters) (part : Section Query Data) : part = k.part ∨ part = k.part.settle →
      Step Fresh k { k with
        filters := fs
        part := (part.reissue (Filtered.refilter · fs)).2
        log := k.log.issue (part.reissue (Filtered.refilter · fs)).1 }

variable {Fresh : Query → Prop} {k k' : Track Query Data}

/-- Tickets are only added, and their numbers only grow. -/
theorem Step.grows (h : Step Fresh k k') :
    k.log.issued <:+ k'.log.issued ∧ k.part.number ≤ k'.part.number := by
  cases h with
  | keep => exact ⟨List.suffix_rfl, Nat.le_refl _⟩
  | settle => exact ⟨List.suffix_rfl, by simp⟩
  | issue q _ _ => exact ⟨k.log.issued_issue _, Nat.le_succ _⟩
  | reject slot _ _ => exact ⟨List.suffix_rfl, Nat.le_succ _⟩
  | reset catalog fs => exact ⟨List.suffix_rfl, Nat.le_succ _⟩
  | answer t a _ => exact ⟨by simp, by simp⟩
  | refilter fs part hpart =>
    refine ⟨k.log.issued_issue _, ?_⟩
    have hn : k.part.number = part.number := by
      rcases hpart with rfl | rfl
      · rfl
      · simp
    rw [hn]
    exact part.number_le_reissue _

/-- A stored query was there before, or is new, or was there before under other filters. -/
theorem Step.stored (h : Step Fresh k k') {q : Query} (hq : k'.part.last = some q) :
    k'.catalog = k.catalog ∧ (k.part.last = some q ∨ Fresh q ∨
      ∃ p, k.part.last = some p ∧ q = Filtered.refilter p k'.filters) := by
  cases h with
  | keep => exact ⟨rfl, .inl hq⟩
  | settle => exact ⟨rfl, .inl (by simpa using hq)⟩
  | issue new hnew _ =>
    cases hq
    exact ⟨rfl, .inr (.inl hnew)⟩
  | reject slot _ _ => exact ⟨rfl, .inl hq⟩
  | reset catalog fs => cases hq
  | answer t a _ => exact ⟨rfl, .inl (by simpa using hq)⟩
  | refilter fs part hpart =>
    have hlast : k.part.last = part.last := by
      rcases hpart with rfl | rfl
      · rfl
      · simp
    refine ⟨rfl, ?_⟩
    rw [hlast]
    dsimp only at hq
    rcases part.reissue_cases (Filtered.refilter · fs) with hr | ⟨p, hp, hr⟩
    · rw [hr] at hq
      exact .inl hq
    · rw [hr] at hq
      cases hq
      exact .inr (.inr ⟨p, hp, rfl⟩)

/-- The query of a ticket that is handed out is stored. -/
theorem Step.stored_of_issued (h : Step Fresh k k') {t : Ticket Query}
    (ht : k'.log.issued = t :: k.log.issued) : k'.part.last = some t.query := by
  cases h with
  | keep => simp at ht
  | settle => simp at ht
  | issue q _ _ =>
    cases ht
    rfl
  | reject slot _ _ => simp at ht
  | reset catalog fs => simp at ht
  | answer u a _ => simp at ht
  | refilter fs part _ =>
    dsimp only at ht ⊢
    rcases part.reissue_cases (Filtered.refilter · fs) with hr | ⟨p, -, hr⟩
    · rw [hr] at ht
      simp at ht
    · rw [hr] at ht ⊢
      cases ht
      rfl

end Track

/-! ### The operations do nothing else -/

theorem View.chartRequest_filters {v : View} {request : Chart.Request}
    (h : v.chartRequest = .ok request) : request.filters = v.filters := by
  obtain ⟨x, -, -, rfl⟩ := Chart.Selection.request_ok (View.chartRequest_ok h)
  rfl

theorem View.pivotRequest_filters {v : View} {request : Pivot.Request}
    (h : v.pivotRequest = .ok request) : request.filters = v.filters := by
  obtain ⟨-, -, -, rfl⟩ := Pivot.Assignment.request_ok (View.pivotRequest_ok h)
  rfl

/-- The query that a view makes of its chart selection. -/
def View.NewChart (v : View) (q : Chart.Query) : Prop :=
  ∃ request, v.chartRequest = .ok request ∧ q = ⟨request, v.selection.effectiveTitle⟩

/-- The query that a view makes of its pivot assignment. -/
def View.NewPivot (v : View) (q : Pivot.Request) : Prop := v.pivotRequest = .ok q

namespace Record

variable {r s : Record}

theorem chart_step_of_change (h : r.Change s) : Track.Step r.view.NewChart r.chartTrack s.chartTrack := by
  cases h with
  | edit tab selection assignment => exact .keep
  | load catalog => exact .reset catalog _
  | resetPivot => exact .keep
  | beginChart =>
    cases hq : r.view.chartRequest with
    | ok request =>
      rw [View.beginChart_ok hq]
      exact .issue _ ⟨request, hq, rfl⟩ (View.chartRequest_filters hq)
    | error cause =>
      rw [View.beginChart_error hq]
      exact .reject _ rfl (.inl rfl)
  | beginPivot =>
    cases hq : r.view.pivotRequest with
    | ok request => rw [View.beginPivot_ok hq]; exact .keep
    | error cause => rw [View.beginPivot_error hq]; exact .keep
  | completeChart t a ht => exact .answer t a ht
  | completePivot t a ht => exact .keep
  | settle => exact .settle
  | refilter v fs hv =>
    rcases hv with rfl | rfl
    · exact .refilter fs _ (.inl rfl)
    · exact .refilter fs _ (.inr rfl)

theorem pivot_step_of_change (h : r.Change s) : Track.Step r.view.NewPivot r.pivotTrack s.pivotTrack := by
  cases h with
  | edit tab selection assignment => exact .keep
  | load catalog => exact .reset catalog _
  | resetPivot => exact .reset _ _
  | beginChart =>
    cases hq : r.view.chartRequest with
    | ok request => rw [View.beginChart_ok hq]; exact .keep
    | error cause => rw [View.beginChart_error hq]; exact .keep
  | beginPivot =>
    cases hq : r.view.pivotRequest with
    | ok request =>
      rw [View.beginPivot_ok hq]
      exact .issue request hq (View.pivotRequest_filters hq)
    | error cause =>
      rw [View.beginPivot_error hq]
      exact .reject _ rfl (.inr rfl)
  | completeChart t a ht => exact .keep
  | completePivot t a ht => exact .answer t a ht
  | settle => exact .settle
  | refilter v fs hv =>
    rcases hv with rfl | rfl
    · exact .refilter fs _ (.inl rfl)
    · exact .refilter fs _ (.inr rfl)

theorem chart_step {op : Operation} (hop : op.Allowed r) :
    Track.Step r.view.NewChart r.chartTrack (r.step op).chartTrack :=
  chart_step_of_change (change_step hop)

theorem pivot_step {op : Operation} (hop : op.Allowed r) :
    Track.Step r.view.NewPivot r.pivotTrack (r.step op).pivotTrack :=
  pivot_step_of_change (change_step hop)

end Record

end CrossFilter
