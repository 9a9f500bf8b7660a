import CrossFilter.Proofs.ChartOutcomes

/-!
# What a chart owes to its request

A response is shown as the kind that it declares, and the request that it answers lends no more to
it than names for axes that have none. `outcome_withAxes` says so of any two requests: one outcome is
the other one under other names. That the kind and the filters of the request do not matter follows
(`response_authoritative`).
-/

namespace CrossFilter.Chart

/-- The same result with other names at its axes, if it has axes. -/
def Result.withAxes (xName yName : String) : Result → Result
  | .series shape labels values _ => .series shape labels values yName
  | .pie slices => .pie slices
  | .scatter points _ _ => .scatter points xName yName
  | .boxplot categories boxes outliers _ => .boxplot categories boxes outliers yName

namespace Response

variable (r : Response) (x y xName yName : String)

/-! ## One lemma for each shape -/

theorem series?_withAxes (shape : SeriesShape) :
    (r.series? shape y).map (Result.withAxes xName yName) = r.series? shape yName := by
  unfold series?
  split
  · rfl
  · rfl

theorem pie?_withAxes : r.pie?.map (Result.withAxes xName yName) = r.pie? := by
  rw [pie?_eq, Option.map_bind]
  refine Option.bind_congr fun sent _ => ?_
  dsimp only [Function.comp_apply]
  split
  · rfl
  · rfl

theorem scatter?_withAxes :
    (r.scatter? x y).map (Result.withAxes xName yName) = r.scatter? xName yName := by
  rw [scatter?_eq, scatter?_eq, Option.map_bind]
  refine Option.bind_congr fun sent _ => ?_
  dsimp only [Function.comp_apply]
  split
  · rfl
  · rfl

theorem boxplot?_withAxes :
    (r.boxplot? y).map (Result.withAxes xName yName) = r.boxplot? yName := by
  rw [boxplot?_eq, boxplot?_eq, Option.map_bind]
  refine Option.bind_congr fun boxes _ => ?_
  dsimp only [Function.comp_apply]
  split
  · rfl
  · rfl

/-! ## All outcomes -/

theorem result?_withAxes (p q : Request) :
    r.result? q = (r.result? p).map (Result.withAxes (r.xNameFor q) (r.yNameFor q)) := by
  unfold result?
  cases r.declared? with
  | none => rfl
  | some kind =>
    cases kind with
    | bar => exact (r.series?_withAxes _ _ _ .bar).symm
    | line => exact (r.series?_withAxes _ _ _ .line).symm
    | area => exact (r.series?_withAxes _ _ _ .area).symm
    | pie => exact (r.pie?_withAxes _ _).symm
    | scatter => exact (r.scatter?_withAxes _ _ _ _).symm
    | boxplot => exact (r.boxplot?_withAxes _ _ _).symm

/-- The outcome of one request is the outcome of any other with the names for its own axes. -/
theorem outcome_withAxes (p q : Request) :
    r.outcome q = (r.outcome p).map (Result.withAxes (r.xNameFor q) (r.yNameFor q)) := by
  rw [outcome, outcome, Outcome.map_ofOption, ← r.result?_withAxes]

theorem outcome_eq_of_names {p q : Request} (hx : r.xNameFor p = r.xNameFor q)
    (hy : r.yNameFor p = r.yNameFor q) : r.outcome p = r.outcome q :=
  calc r.outcome p
      = (r.outcome p).map (Result.withAxes (r.xNameFor p) (r.yNameFor p)) := r.outcome_withAxes p p
    _ = (r.outcome p).map (Result.withAxes (r.xNameFor q) (r.yNameFor q)) := by rw [hx, hy]
    _ = r.outcome q := (r.outcome_withAxes p q).symm

theorem yNameFor_eq (q : Request) : r.yNameFor q = r.yName.getD (q.y.getD "count") := by
  unfold yNameFor
  cases r.yName with
  | none => rfl
  | some name => rfl

theorem outcome_of_declares_pie {r : Response} (h : r.Declares .pie) (q : Request) :
    r.outcome q = .ofOption r.pie? := by
  rw [outcome, result?, declared?_eq_some_iff.2 h]
  rfl

/-- Two requests get the same outcome but for the names of axes that the response leaves unnamed:
these are named after the columns of the request, and without a Y column the values are counts. -/
theorem response_authoritative (r : Response) :
    (∀ p q, r.outcome q = (r.outcome p).map
      (Result.withAxes (r.xName.getD q.x) (r.yName.getD (q.y.getD "count")))) ∧
    (∀ p q : Request, p.x = q.x → p.y = q.y → r.outcome p = r.outcome q) ∧
    (∀ xName yName, r.xName = some xName → r.yName = some yName →
      ∀ p q, r.outcome p = r.outcome q) ∧
    (r.Declares .pie → ∀ p q, r.outcome p = r.outcome q) := by
  refine ⟨fun p q => ?_, fun p q hx hy => ?_, fun xName yName hxName hyName p q => ?_,
    fun h p q => ?_⟩
  · rw [← r.yNameFor_eq]
    exact r.outcome_withAxes p q
  · apply r.outcome_eq_of_names
    · rw [xNameFor, xNameFor, hx]
    · rw [yNameFor, yNameFor, hy]
  · apply r.outcome_eq_of_names
    · rw [xNameFor, xNameFor, hxName, Option.getD_some, Option.getD_some]
    · rw [yNameFor_eq, yNameFor_eq, hyName, Option.getD_some, Option.getD_some]
  · rw [outcome_of_declares_pie h, outcome_of_declares_pie h]

/-- One response for each of the three ways not to depend on the request. -/
def countsResponse : Response :=
  { kind := some "bar", labels := [.text "North"], values := [some (.ofNat 3)] }

def namedPoints : Response :=
  { kind := some "Scatter", xName := some "cost", yName := some "sales"
    data := some (.array [.array [.number (.natural 1), .number (.natural 2)]]) }

def sharesResponse : Response :=
  { kind := some "pie"
    data := some (.array [.object [("name", .text "North"), ("value", .number (.natural 3))]]) }

def regionPie : Request := ⟨"region", none, .pie, .empty⟩

def northBars : Request := ⟨"region", none, .bar, Filters.empty.insert "region" (.text "North")⟩

def citySales : Request := ⟨"city", some "sales", .line, .empty⟩

theorem response_authoritative_asked :
    countsResponse.outcome citySales =
      (countsResponse.outcome regionPie).map (Result.withAxes "city" "sales") ∧
    (regionPie.x = northBars.x ∧ regionPie.y = northBars.y ∧
      countsResponse.outcome regionPie = countsResponse.outcome northBars) ∧
    (namedPoints.xName = some "cost" ∧ namedPoints.yName = some "sales" ∧
      namedPoints.outcome regionPie = namedPoints.outcome citySales) ∧
    (sharesResponse.Declares .pie ∧
      sharesResponse.outcome regionPie = sharesResponse.outcome citySales) := by
  have hpie : sharesResponse.Declares .pie := declared?_eq_some_iff.1 (by decide +kernel)
  exact ⟨(response_authoritative countsResponse).1 regionPie citySales,
    ⟨rfl, rfl, (response_authoritative countsResponse).2.1 regionPie northBars rfl rfl⟩,
    ⟨rfl, rfl, (response_authoritative namedPoints).2.2.1 "cost" "sales" rfl rfl regionPie citySales⟩,
    ⟨hpie, (response_authoritative sharesResponse).2.2.2 hpie regionPie citySales⟩⟩

/-- A bar chart that was asked for as a pie counts, and is named so. -/
example : countsResponse.outcome regionPie =
    .data (.series .bar ["North"] [some (.ofNat 3)] "count") := by
  decide +kernel

end Response

end CrossFilter.Chart
