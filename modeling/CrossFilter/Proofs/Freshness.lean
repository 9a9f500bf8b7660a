import CrossFilter.Proofs.Coherence

/-!
# What is shown is fresh

A displayed outcome is the answer to the query that was issued last, and a section that awaits an
outcome awaits it for the present filters. A displayed outcome is one of the present filters too,
with one exception: `outdated_after_failure` shows a chart that failed, that a change of the filters
therefore left alone, and that was then answered after all. A ticket answered only once is no
exception (`Fresh.filters_of_answered_once`).
-/

namespace CrossFilter

namespace Track

variable {Query Data : Type} [Filtered Query] {k : Track Query Data}

/-- The slot holds the outcome that was handed in with the ticket issued last. -/
structure Shows (k : Track Query Data) (t : Ticket Query) (o : Outcome Data) : Prop where
  outcome : k.part.slot.outcome = some o
  handedIn : k.log.taken.head? = some (t, .ok o)
  newest : k.log.issued.head? = some t
  number : t.number = k.part.number
  last : k.part.last = some t.query

structure Fresh (k : Track Query Data) : Prop where
  displayed : k.part.slot.phase = .displayed →
    ∃ t o, k.Shows t o ∧ (Filtered.filters t.query = k.filters ∨ k.log.Failed t)
  loading : k.part.slot.phase = .loading →
    ∃ q, k.part.last = some q ∧ Filtered.filters q = k.filters

theorem Coherent.fresh (h : k.Coherent) : k.Fresh where
  displayed hd := by
    obtain ⟨t, ht, hn, o, htaken, ho⟩ := h.displayed hd
    obtain ⟨hlast, hfilters⟩ := h.current t ht hn
    exact ⟨t, o, ⟨ho, htaken, h.head?_of_current ht hn, hn, hlast⟩, hfilters.imp_left And.right⟩
  loading hl := by
    obtain ⟨t, ht, hn, hopen⟩ := h.loading hl
    obtain ⟨hlast, ⟨-, hfilters⟩ | ⟨failure, hf⟩⟩ := h.current t ht hn
    · exact ⟨t.query, hlast, hfilters⟩
    · exact absurd rfl (hopen _ hf)

/-- Where no ticket is answered twice, what is displayed is always of the present filters. -/
theorem Fresh.filters_of_answered_once (h : k.Fresh) (once : (k.log.taken.map Prod.fst).Nodup)
    (hd : k.part.slot.phase = .displayed) :
    ∃ t o, k.Shows t o ∧ Filtered.filters t.query = k.filters := by
  obtain ⟨t, o, hs, hf | ⟨failure, hf⟩⟩ := h.displayed hd
  · exact ⟨t, o, hs, hf⟩
  · have htaken := hs.handedIn
    cases hl : k.log.taken with
    | nil => simp [hl] at hf
    | cons e rest =>
      rw [hl] at once hf htaken
      cases htaken
      -- The failure is an older answer, and would be the second one under `t`.
      have hrest : (t, .error failure) ∈ rest := by simpa using hf
      have hnot := (List.nodup_cons.1 once).1
      exact absurd (List.mem_map_of_mem hrest) hnot

end Track

namespace Record

/-- What a section displays or awaits, it displays or awaits as the answer to its last query. -/
theorem sections_fresh {r : Record} (h : r.Reachable) : r.chartTrack.Fresh ∧ r.pivotTrack.Fresh :=
  ⟨h.coherent.chart.fresh, h.coherent.pivot.fresh⟩

/-- The chart is displayed, the pivot table is awaited. -/
def oneOfEach : Record := (start .default).run [.reload .sample, .setX (some "region"), .beginChart,
  .assign "city" .rows, .assign "sales" .values, .beginPivot, .completeChart regionTicket (.ok .empty)]

theorem sections_fresh_oneOfEach : oneOfEach.Reachable ∧
    oneOfEach.view.chart.slot.phase = .displayed ∧ oneOfEach.view.pivot.slot.phase = .loading ∧
    oneOfEach.chartTrack.Fresh ∧ oneOfEach.pivotTrack.Fresh := by
  have hr : oneOfEach.Reachable := reachable_of_legal (by decide +kernel)
  exact ⟨hr, by decide +kernel, by decide +kernel, sections_fresh hr⟩

/-- The ticket fails, a filter is added, and the ticket is answered a second time. -/
def answeredAfterFailure : Record := (start .default).run [.reload .sample, .setX (some "region"),
  .beginChart, .completeChart regionTicket (.error (.backend "down")),
  .addFilter "region" (.text "North"), .completeChart regionTicket (.ok .empty)]

theorem outdated_after_failure : answeredAfterFailure.Reachable ∧
    answeredAfterFailure.view.chart.slot.phase = .displayed ∧
    ¬ ∃ t o, answeredAfterFailure.chartTrack.Shows t o ∧
      Filtered.filters t.query = answeredAfterFailure.view.filters := by
  refine ⟨reachable_of_legal (by decide +kernel), by decide +kernel, ?_⟩
  rintro ⟨t, o, hs, hf⟩
  have hnewest : answeredAfterFailure.charts.issued.head? = some regionTicket := by decide +kernel
  have ht : some t = some regionTicket := hs.newest.symm.trans hnewest
  cases ht
  have hne : regionTicket.query.request.filters ≠ answeredAfterFailure.view.filters := by
    decide +kernel
  exact hne hf

end Record

end CrossFilter
