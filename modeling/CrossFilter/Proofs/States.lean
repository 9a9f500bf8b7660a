import CrossFilter.Proofs.Clicks

/-!
# States of a section

The phase of a section says what its slot holds and what was handed out for it: `Track.Consistent`.
The title of the displayed chart is kept beside the chart section and changes with it:
`Chart.Captioned` ties the two to the ticket under which the chart was answered, so that no chart is
shown under the title of another query.
-/

namespace CrossFilter

/-! ## Slots -/

/-- The phase of a slot says what is in it. -/
structure Slot.Consistent {α : Type} (s : Slot α) : Prop where
  failed : s.error.isSome = true ↔ s.phase = .failed
  idle : s.phase = .idle → s.outcome = none ∧ s.error = none
  displayed : s.phase = .displayed → s.outcome.isSome = true

namespace Slot

variable {α : Type} (s : Slot α)

theorem consistent_clear : s.clear.Consistent := ⟨by simp [clear], fun _ => ⟨rfl, rfl⟩, nofun⟩

theorem consistent_begin : s.begin.Consistent := ⟨by simp [begin], nofun, nofun⟩

theorem consistent_display (o : Outcome α) : (s.display o).Consistent :=
  ⟨by simp [display], nofun, fun _ => rfl⟩

theorem consistent_fail (message : String) : (s.fail message).Consistent :=
  ⟨by simp [fail], nofun, nofun⟩

theorem consistent_failAndClear (message : String) : (s.failAndClear message).Consistent :=
  ⟨by simp [failAndClear, fail], nofun, nofun⟩

end Slot

namespace Section

variable {Query Data : Type} {s : Section Query Data}

theorem consistent_settle (h : s.slot.Consistent) : s.settle.slot.Consistent := by
  unfold settle
  split
  · exact h
  · exact s.slot.consistent_clear

theorem consistent_complete (h : s.slot.Consistent) (t : Ticket Query)
    (a : Except Failure (Outcome Data)) : (s.complete t a).2.slot.Consistent := by
  by_cases hn : t.number = s.number
  · cases a with
    | ok o => rw [complete_ok hn]; exact s.slot.consistent_display o
    | error failure => rw [complete_error hn]; exact s.slot.consistent_fail failure.userMessage
  · rw [complete_of_ne hn]
    exact h

theorem consistent_reissue (h : s.slot.Consistent) (change : Query → Query) :
    (s.reissue change).2.slot.Consistent := by
  rcases s.reissue_cases change with hr | ⟨q, -, hr⟩
  · rw [hr]; exact h
  · rw [hr]; exact s.slot.consistent_begin

end Section

structure View.SlotsConsistent (v : View) : Prop where
  chart : v.chart.slot.Consistent
  pivot : v.pivot.slot.Consistent

namespace View.SlotsConsistent

variable {v : View}

theorem settled (h : v.SlotsConsistent) : v.settled.SlotsConsistent :=
  ⟨Section.consistent_settle h.chart, Section.consistent_settle h.pivot⟩

theorem reissue (h : v.SlotsConsistent) (fs : Filters) :
    { v with filters := fs }.reissue.2.SlotsConsistent :=
  ⟨Section.consistent_reissue h.chart _, Section.consistent_reissue h.pivot _⟩

theorem beginChart (h : v.SlotsConsistent) : v.beginChart.2.SlotsConsistent := by
  cases hq : v.chartRequest with
  | ok request => rw [beginChart_ok hq]; exact ⟨v.chart.slot.consistent_begin, h.pivot⟩
  | error cause => rw [beginChart_error hq]; exact ⟨v.chart.slot.consistent_failAndClear _, h.pivot⟩

theorem beginPivot (h : v.SlotsConsistent) : v.beginPivot.2.SlotsConsistent := by
  cases hq : v.pivotRequest with
  | ok request => rw [beginPivot_ok hq]; exact ⟨h.chart, v.pivot.slot.consistent_begin⟩
  | error cause => rw [beginPivot_error hq]; exact ⟨h.chart, v.pivot.slot.consistent_fail _⟩

end View.SlotsConsistent

theorem Record.Change.slotsConsistent {r s : Record} (hs : r.Change s)
    (h : r.view.SlotsConsistent) : s.view.SlotsConsistent := by
  cases hs with
  | edit tab selection assignment => exact ⟨h.chart, h.pivot⟩
  | load catalog => exact ⟨r.view.chart.slot.consistent_clear, r.view.pivot.slot.consistent_clear⟩
  | resetPivot => exact ⟨h.chart, r.view.pivot.slot.consistent_clear⟩
  | beginChart => exact h.beginChart
  | beginPivot => exact h.beginPivot
  | completeChart t a ht => exact ⟨Section.consistent_complete h.chart t a, h.pivot⟩
  | completePivot t a ht => exact ⟨h.chart, Section.consistent_complete h.pivot t a⟩
  | settle => exact h.settled
  | refilter v fs hv =>
    rcases hv with rfl | rfl
    · exact h.reissue fs
    · exact h.settled.reissue fs

theorem Record.Reachable.slotsConsistent {r : Record} (h : r.Reachable) :
    r.view.SlotsConsistent := by
  obtain ⟨tab, h⟩ := h
  refine h.preserves (P := fun r => r.view.SlotsConsistent) ?_ ?_
  · exact fun s op hs hop => (change_step hop).slotsConsistent hs
  · exact ⟨Slot.consistent_clear {}, Slot.consistent_clear {}⟩

/-! ## Titles -/

/-- The result of the query gets a title, in which there is something to read. -/
def Chart.Query.Titled (q : Chart.Query) : Prop :=
  ∃ title, q.title = some title ∧ Text.allBlank title = false

theorem View.NewChart.titled {v : View} {q : Chart.Query} (h : v.NewChart q) : q.Titled := by
  obtain ⟨request, hrequest, rfl⟩ := h
  obtain ⟨x, hx, -, -⟩ := Chart.Selection.request_ok (chartRequest_ok hrequest)
  exact Chart.Selection.effectiveTitle_readable hx

/-- A title belongs to the chart that a section shows: it was handed out with the query of which
that chart is the answer. Where no chart is shown, there is no title. -/
structure Chart.Captioned (part : Section Chart.Query Chart.Result) (title : Option String)
    (log : Log Chart.Query Chart.Result) : Prop where
  tickets : ∀ t ∈ log.issued, t.query.Titled
  hidden : part.slot.outcome = none → title = none
  shown : ∀ o, part.slot.outcome = some o →
    ∃ t ∈ log.issued, log.shown? = some (t, o) ∧ title = t.query.title

namespace Chart.Captioned

variable {part : Section Chart.Query Chart.Result} {title : Option String}
  {log : Log Chart.Query Chart.Result}

/-- Where no chart is shown any more, there is no title any more. -/
theorem hide (h : Captioned part title log) {part' : Section Chart.Query Chart.Result}
    (hp : part'.slot.outcome = none) : Captioned part' none log where
  tickets := h.tickets
  hidden _ := rfl
  shown o ho := by simp [hp] at ho

theorem settle (h : Captioned part title log) : Captioned part.settle title log := by
  cases ha : part.slot.isActive with
  | true => rw [Section.settle_of_active ha]; exact h
  | false =>
    have hnone : title = none := h.hidden (Option.isNone_iff_eq_none.1 (Slot.isActive_eq_false.1 ha).1)
    subst hnone
    rw [Section.settle_of_inactive ha]
    exact h.hide rfl

theorem issue (h : Captioned part title log) {q : Query} (hq : q.Titled) :
    Captioned (part.issue q).2 title (log.issue (part.issue q).1) where
  tickets t ht := by
    rcases List.mem_cons.1 ht with rfl | ht
    · exact hq
    · exact h.tickets t ht
  hidden := h.hidden
  shown o ho := by
    obtain ⟨t, ht, hshown⟩ := h.shown o ho
    exact ⟨t, List.mem_cons_of_mem _ ht, hshown⟩

theorem reissue (h : Captioned part title log) (hlast : ∀ q, part.last = some q → q.Titled)
    (fs : Filters) : Captioned (part.reissue (Filtered.refilter · fs)).2 title
      (log.issue (part.reissue (Filtered.refilter · fs)).1) := by
  rcases part.reissue_cases (Filtered.refilter · fs) with hr | ⟨q, hq, hr⟩
  · rw [hr]; exact h
  · rw [hr]
    exact h.issue (q := Filtered.refilter q fs) (hlast q hq)

/-- The title changes when a chart is displayed, and only then. -/
theorem complete (h : Captioned part title log) {t : Ticket Query} (ht : t ∈ log.issued)
    (a : Except Failure (Outcome Result)) :
    Captioned (part.complete t a).2
      (match (part.complete t a).1 with
        | .ok true => t.query.title
        | _ => title)
      (log.answer t a (part.complete t a).1) := by
  by_cases hn : t.number = part.number
  · cases a with
    | ok o =>
      rw [Section.complete_ok hn]
      exact ⟨h.tickets, nofun, fun o' ho => ⟨t, ht, by cases ho; rfl, rfl⟩⟩
    | error failure =>
      rw [Section.complete_error hn]
      exact ⟨h.tickets, h.hidden, h.shown⟩
  · rw [Section.complete_of_ne hn]
    exact h

end Chart.Captioned

namespace Record

variable {r s : Record}

/-- The stored query was handed out, so it is one with a title. -/
theorem titled_of_last (hc : r.Coherent) (h : Chart.Captioned r.view.chart r.view.chartTitle r.charts)
    {q : Chart.Query} (hq : r.view.chart.last = some q) : q.Titled := by
  obtain ⟨t, ht, rfl⟩ := hc.chart.last q hq
  exact h.tickets t (List.mem_of_mem_head? ht)

theorem Change.captioned (hs : r.Change s) (hc : r.Coherent)
    (h : Chart.Captioned r.view.chart r.view.chartTitle r.charts) :
    Chart.Captioned s.view.chart s.view.chartTitle s.charts := by
  cases hs with
  | edit tab selection assignment => exact h
  | load catalog => exact h.hide rfl
  | resetPivot => exact h
  | beginChart =>
    cases hq : r.view.chartRequest with
    | ok request =>
      have htitled : Chart.Query.Titled ⟨request, r.view.selection.effectiveTitle⟩ :=
        View.NewChart.titled ⟨request, hq, rfl⟩
      rw [View.beginChart_ok hq]
      exact h.issue htitled
    | error cause =>
      rw [View.beginChart_error hq]
      exact h.hide rfl
  | beginPivot =>
    cases hq : r.view.pivotRequest with
    | ok request => rw [View.beginPivot_ok hq]; exact h
    | error cause => rw [View.beginPivot_error hq]; exact h
  | completeChart t a ht => exact h.complete ht a
  | completePivot t a ht => exact h
  | settle => exact h.settle
  | refilter v fs hv =>
    have hlast := fun q hq => titled_of_last hc h (q := q) hq
    rcases hv with rfl | rfl
    · exact h.reissue hlast fs
    · exact h.settle.reissue (fun q hq => hlast q (by simpa [View.settled] using hq)) fs

theorem Reachable.captioned (h : r.Reachable) :
    Chart.Captioned r.view.chart r.view.chartTitle r.charts := by
  obtain ⟨tab, h⟩ := h
  have hboth : r.Coherent ∧ Chart.Captioned r.view.chart r.view.chartTitle r.charts := by
    refine h.preserves (P := fun r => r.Coherent ∧
      Chart.Captioned r.view.chart r.view.chartTitle r.charts) ?_ ?_
    · exact fun s op hs hop => ⟨hs.1.step hop, (change_step hop).captioned hs.1 hs.2⟩
    · exact ⟨coherent_start tab, nofun, fun _ => rfl, nofun⟩
  exact hboth.2

end Record

/-! ## What a state says -/

/-- What the phase of a section says of its slot, of its stored query and of its tickets. -/
structure Track.Consistent {Query Data : Type} (k : Track Query Data) : Prop where
  failed : k.part.slot.error.isSome = true ↔ k.part.slot.phase = .failed
  idle : k.part.slot.phase = .idle → k.part.slot.outcome = none ∧ k.part.slot.error = none
  displayed : k.part.slot.phase = .displayed → k.part.slot.outcome.isSome = true
  stored : k.part.slot.outcome.isSome = true ∨ k.part.slot.phase = .loading →
    k.part.last.isSome = true
  /-- Whatever was answered so far is older than the ticket that is awaited, and any answer to that
  one is taken and ends the waiting. -/
  awaited : k.part.slot.phase = .loading → ∃ t, k.log.issued.head? = some t ∧
    t.number = k.part.number ∧ (∀ e ∈ k.log.taken, e.1.number < t.number) ∧
    ∀ a, (k.part.complete t a).1 ≠ .ok false ∧ (k.part.complete t a).2.slot.phase ≠ .loading

theorem Section.complete_current {Query Data : Type} {s : Section Query Data} {t : Ticket Query}
    (h : t.number = s.number) (a : Except Failure (Outcome Data)) :
    (s.complete t a).1 ≠ .ok false ∧ (s.complete t a).2.slot.phase ≠ .loading := by
  cases a with
  | ok o => rw [complete_ok h]; simp [Slot.display]
  | error failure => rw [complete_error h]; simp [Slot.fail]

namespace Track.Coherent

variable {Query Data : Type} [Filtered Query] {k : Track Query Data}

/-- Where no answer came under the current ticket, all that came are older. -/
theorem older_of_unanswered (h : k.Coherent) {t : Ticket Query} (ht : t ∈ k.log.issued)
    (hn : t.number = k.part.number) (hopen : ∀ e ∈ k.log.taken, e.1 ≠ t) :
    ∀ e ∈ k.log.taken, e.1.number < t.number := by
  intro e he
  have hissued := h.answered e he
  have hle := h.bounded e.1 hissued
  have hne : e.1.number ≠ k.part.number := by
    intro hcurrent
    have heq : some e.1 = some t :=
      (h.head?_of_current hissued hcurrent).symm.trans (h.head?_of_current ht hn)
    exact hopen e he (Option.some.inj heq)
  omega

theorem consistent (h : k.Coherent) (hs : k.part.slot.Consistent) : k.Consistent where
  failed := hs.failed
  idle := hs.idle
  displayed := hs.displayed
  stored ha := Option.isSome_iff_exists.2 (h.exists_last (Slot.isActive_iff.2 ha))
  awaited hl := by
    obtain ⟨t, ht, hn, hopen⟩ := h.loading hl
    exact ⟨t, h.head?_of_current ht hn, hn, h.older_of_unanswered ht hn hopen,
      Section.complete_current hn⟩

end Track.Coherent

namespace Record

variable {r : Record}

/-- The title of the displayed chart came with the ticket of which the chart is the answer. -/
structure Paired (r : Record) : Prop where
  present : r.view.chartTitle.isSome = true ↔ r.view.chart.slot.outcome.isSome = true
  carried : ∀ o, r.view.chart.slot.outcome = some o →
    ∃ t, r.charts.shown? = some (t, o) ∧ r.view.chartTitle = t.query.title
  plotted : ∀ p, r.view.plot? = some p →
    ∃ t result, r.charts.shown? = some (t, .data result) ∧ p = result.plot t.query.title
  readable : ∀ title, r.view.chartTitle = some title → Text.allBlank title = false

theorem paired_of_captioned (h : Chart.Captioned r.view.chart r.view.chartTitle r.charts) :
    r.Paired := by
  have hcarried : ∀ o, r.view.chart.slot.outcome = some o →
      ∃ t, r.charts.shown? = some (t, o) ∧ r.view.chartTitle = t.query.title ∧ t.query.Titled := by
    intro o ho
    obtain ⟨t, ht, hshown, htitle⟩ := h.shown o ho
    exact ⟨t, hshown, htitle, h.tickets t ht⟩
  constructor
  case present =>
    cases ho : r.view.chart.slot.outcome with
    | none => simp [h.hidden ho]
    | some o =>
      obtain ⟨t, -, htitle, title, hs, -⟩ := hcarried o ho
      simp [htitle, hs]
  case carried =>
    intro o ho
    obtain ⟨t, hshown, htitle, -⟩ := hcarried o ho
    exact ⟨t, hshown, htitle⟩
  case plotted =>
    intro p hp
    obtain ⟨result, hdata, rfl⟩ := Option.map_eq_some_iff.1 hp
    obtain ⟨t, hshown, htitle, -⟩ := hcarried _ (Slot.outcome_of_data? hdata)
    exact ⟨t, result, hshown, by rw [htitle]⟩
  case readable =>
    intro title ht
    cases ho : r.view.chart.slot.outcome with
    | none => simp [h.hidden ho] at ht
    | some o =>
      obtain ⟨t, -, htitle, title', hs, hread⟩ := hcarried o ho
      have heq : some title = some title' := ht.symm.trans (htitle.trans hs)
      cases heq
      exact hread

theorem states_consistent (h : r.Reachable) :
    r.chartTrack.Consistent ∧ r.pivotTrack.Consistent ∧ r.Paired :=
  ⟨h.coherent.chart.consistent h.slotsConsistent.chart,
    h.coherent.pivot.consistent h.slotsConsistent.pivot, paired_of_captioned h.captioned⟩

/-- The chart of the cities is awaited while that of the regions is shown, under its own title. -/
theorem states_consistent_citiesAwaited : citiesAwaited.Reachable ∧
    citiesAwaited.view.chart.slot.phase = .loading ∧
    citiesAwaited.view.chartTitle = some "Distribution of region" ∧
    citiesAwaited.view.chart.last.bind Chart.Query.title = some "Distribution of city" ∧
    citiesAwaited.chartTrack.Consistent ∧ citiesAwaited.pivotTrack.Consistent ∧
    citiesAwaited.Paired := by
  have hr : citiesAwaited.Reachable := reachable_of_legal (by decide +kernel)
  exact ⟨hr, by decide +kernel, by decide +kernel, by decide +kernel, states_consistent hr⟩

end Record

end CrossFilter
