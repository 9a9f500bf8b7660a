import CrossFilter.Backend.Service
import CrossFilter.Proofs.Renderings

/-!
# Request bodies

A request body says all there is to the request: `bodies_unambiguous`. Whatever stands in a name or
in a text, no two requests of one kind are sent with the same body, as long as the numbers among
their filters are finite; the others would be sent as null.
-/

namespace CrossFilter

open Number

/-! ## Finite values -/

namespace Json

theorem Finite.empty : Finite (.object []) := .object fun _ h => nomatch h

theorem Finite.member {key : String} {v : Json} {members : List (String × Json)} (hv : v.Finite)
    (h : Finite (.object members)) : Finite (.object ((key, v) :: members)) :=
  .object (List.forall_mem_cons.2 ⟨hv, h.members⟩)

theorem Finite.array_map {α : Type} {f : α → Json} (hf : ∀ a, (f a).Finite) (as : List α) :
    Finite (.array (as.map f)) := by
  refine .array fun v hv => ?_
  obtain ⟨a, -, rfl⟩ := List.mem_map.1 hv
  exact hf a

theorem texts_inj {ss ts : List String} (h : texts ss = texts ts) : ss = ts :=
  List.map_injective_iff.2 (fun _ _ => text.inj) (array.inj h)

end Json

/-! ## Filters -/

/-- A scalar that is no infinity and no NaN. -/
def Scalar.Finite (v : Scalar) : Prop := ∀ d, v = .number d → d.isFinite = true

/-- Filters that can be sent as they are. -/
def Filters.Finite (fs : Filters) : Prop := ∀ e ∈ fs.entries, e.2.Finite

namespace Scalar

theorem ofJson?_toJson {v : Scalar} (h : v.Finite) : ofJson? v.toJson = some v := by
  cases v with
  | number d =>
    rw [toJson, Json.ofReal, if_pos (h d rfl)]
    rfl
  | _ => rfl

theorem toJson_inj {v w : Scalar} (hv : v.Finite) (hw : w.Finite) (h : v.toJson = w.toJson) :
    v = w := by
  have hread := congrArg ofJson? h
  rw [ofJson?_toJson hv, ofJson?_toJson hw] at hread
  exact Option.some.inj hread

theorem finite_toJson (v : Scalar) : v.toJson.Finite := by
  cases v with
  | null => exact .null
  | bool b => exact .bool b
  | text s => exact .text s
  | number d =>
    cases d with
    | finite negative rank => exact .real negative rank
    | infinite _ => exact .null
    | nan => exact .null

end Scalar

namespace Filters

theorem finite_toJson (fs : Filters) : fs.toJson.Finite := by
  refine .object fun m hm => ?_
  obtain ⟨e, -, rfl⟩ := List.mem_map.1 hm
  exact e.2.finite_toJson

theorem entries_inj : ∀ {es es' : List (String × Scalar)}, (∀ e ∈ es, e.2.Finite) →
    (∀ e ∈ es', e.2.Finite) →
    es.map (fun (column, v) => (column, v.toJson)) =
      es'.map (fun (column, v) => (column, v.toJson)) → es = es'
  | [], [], _, _, _ => rfl
  | (c, v) :: es, (c', v') :: es', h, h', e => by
    obtain ⟨hv, hes⟩ := List.forall_mem_cons.1 h
    obtain ⟨hv', hes'⟩ := List.forall_mem_cons.1 h'
    obtain ⟨hhead, htail⟩ := List.cons.inj e
    obtain ⟨rfl, hvalue⟩ := Prod.mk.inj hhead
    obtain rfl : v = v' := Scalar.toJson_inj hv hv' hvalue
    rw [entries_inj hes hes' htail]

theorem toJson_inj {fs fs' : Filters} (h : fs.Finite) (h' : fs'.Finite)
    (e : fs.toJson = fs'.toJson) : fs = fs' := by
  have hentries := entries_inj h h' (Json.object.inj e)
  cases fs
  cases fs'
  cases hentries
  rfl

end Filters

/-! ## Requests -/

namespace Chart

theorem Kind.name_inj {k l : Kind} (h : k.name = l.name) : k = l := by
  cases k <;> cases l <;> first | rfl | (revert h; decide)

theorem Request.finite_toJson (q : Request) : q.toJson.Finite := by
  obtain ⟨x, y, kind, fs⟩ := q
  have hrest : Json.Finite (.object [("chart_type", .text kind.name), ("filters", fs.toJson)]) :=
    .member (.text _) (.member fs.finite_toJson .empty)
  cases y with
  | none => exact .member (.text x) hrest
  | some y => exact .member (.text x) (.member (.text y) hrest)

/-- A Y column that is not chosen leaves out a member, so it never looks like one that is. -/
theorem Request.toJson_inj {q r : Request} (hq : q.filters.Finite) (hr : r.filters.Finite)
    (h : q.toJson = r.toJson) : q = r := by
  obtain ⟨x, y, kind, fs⟩ := q
  obtain ⟨x', y', kind', fs'⟩ := r
  have hfields : x = x' ∧ y = y' ∧ kind.name = kind'.name ∧ fs.toJson = fs'.toJson := by
    cases y with
    | none =>
      cases y' with
      | none => simpa [toJson] using h
      | some _ => simp [toJson] at h
    | some _ =>
      cases y' with
      | none => simp [toJson] at h
      | some _ => simpa [toJson] using h
  obtain ⟨rfl, rfl, hkind, hfilters⟩ := hfields
  obtain rfl := Kind.name_inj hkind
  obtain rfl := Filters.toJson_inj hq hr hfilters
  rfl

end Chart

namespace Pivot

theorem Aggregator.name_inj {a b : Aggregator} (h : a.name = b.name) : a = b := by
  cases a <;> cases b <;> first | rfl | (revert h; decide)

theorem ValueField.finite_toJson (f : ValueField) : f.toJson.Finite :=
  .member (.text _) (.member (.text _) .empty)

theorem ValueField.toJson_inj {f g : ValueField} (h : f.toJson = g.toJson) : f = g := by
  obtain ⟨column, aggregator⟩ := f
  obtain ⟨column', aggregator'⟩ := g
  have hfields : column = column' ∧ aggregator.name = aggregator'.name := by simpa [toJson] using h
  obtain ⟨rfl, haggregator⟩ := hfields
  rw [Aggregator.name_inj haggregator]

theorem Request.finite_toJson (q : Request) : q.toJson.Finite := by
  have htexts : ∀ ss, (Json.texts ss).Finite := Json.Finite.array_map .text
  have hvalues := Json.Finite.array_map ValueField.finite_toJson q.values
  exact .member (htexts _) (.member (htexts _) (.member hvalues
    (.member q.filters.finite_toJson .empty)))

theorem Request.toJson_inj {q r : Request} (hq : q.filters.Finite) (hr : r.filters.Finite)
    (h : q.toJson = r.toJson) : q = r := by
  obtain ⟨rows, columns, values, fs⟩ := q
  obtain ⟨rows', columns', values', fs'⟩ := r
  have hfields : Json.texts rows = Json.texts rows' ∧ Json.texts columns = Json.texts columns' ∧
      values.map ValueField.toJson = values'.map ValueField.toJson ∧ fs.toJson = fs'.toJson := by
    simpa only [toJson, Json.object.injEq, Json.array.injEq, List.cons.injEq, Prod.mk.injEq,
      true_and, and_true] using h
  obtain ⟨hrows, hcolumns, hvalues, hfilters⟩ := hfields
  obtain rfl := Json.texts_inj hrows
  obtain rfl := Json.texts_inj hcolumns
  obtain rfl := List.map_injective_iff.2 (fun _ _ => ValueField.toJson_inj) hvalues
  obtain rfl := Filters.toJson_inj hq hr hfilters
  rfl

end Pivot

namespace Recast

theorem Request.finite_toJson (q : Request) : q.toJson.Finite :=
  .member (Json.Finite.array_map (fun _ => .member (.text _) (.member (.text _) .empty)) q.changes)
    .empty

theorem Request.toJson_inj {q r : Request} (h : q.toJson = r.toJson) : q = r := by
  obtain ⟨changes⟩ := q
  obtain ⟨changes'⟩ := r
  simp only [toJson, Json.object.injEq, Json.array.injEq, List.cons.injEq, Prod.mk.injEq,
    true_and, and_true] at h
  rw [List.map_injective_iff.2 ?_ h]
  rintro ⟨column, tag⟩ ⟨column', tag'⟩ e
  simpa using e

end Recast

namespace Backend

/-- Two messages have one body exactly if they hold one value. -/
theorem body_eq_iff (c : Client) (e : Endpoint) {v w : Json} (hv : v.Finite) (hw : w.Finite) :
    (c.message e (some v)).body = (c.message e (some w)).body ↔ v = w :=
  ⟨fun h => Json.render_inj hv hw (Option.some.inj h), fun h => by rw [h]⟩

/-- Requests of one type have the same body only if they are the same in every field. -/
theorem bodies_unambiguous (c : Client) :
    (∀ q r : Chart.Request, q.filters.Finite → r.filters.Finite →
      ((c.message .chart (some q.toJson)).body = (c.message .chart (some r.toJson)).body ↔
        q = r)) ∧
    (∀ q r : Pivot.Request, q.filters.Finite → r.filters.Finite →
      ((c.message .pivot (some q.toJson)).body = (c.message .pivot (some r.toJson)).body ↔
        q = r)) ∧
    ∀ q r : Recast.Request,
      (c.message .recast (some q.toJson)).body = (c.message .recast (some r.toJson)).body ↔
        q = r := by
  refine ⟨fun q r hq hr => ?_, fun q r hq hr => ?_, fun q r => ?_⟩
  · rw [body_eq_iff c .chart q.finite_toJson r.finite_toJson]
    exact ⟨Chart.Request.toJson_inj hq hr, fun h => by rw [h]⟩
  · rw [body_eq_iff c .pivot q.finite_toJson r.finite_toJson]
    exact ⟨Pivot.Request.toJson_inj hq hr, fun h => by rw [h]⟩
  · rw [body_eq_iff c .recast q.finite_toJson r.finite_toJson]
    exact ⟨Recast.Request.toJson_inj, fun h => by rw [h]⟩

/-- A name with quotes does not pass for the next member, nor a text of digits for a number. -/
theorem bodies_unambiguous_imitated :
    let c : Client := ⟨{}⟩
    let one : Filters := .ofList [("n", .number (.ofNat 1))]
    let digits : Filters := .ofList [("n", .text "1.0")]
    (c.message .chart (some (Chart.Request.mk "a\",\"y_column\":\"b" none .bar one).toJson)).body ≠
        (c.message .chart (some (Chart.Request.mk "a" (some "b") .bar one).toJson)).body ∧
      (c.message .pivot (some (Pivot.Request.mk ["a"] [] [] one).toJson)).body ≠
        (c.message .pivot (some (Pivot.Request.mk ["a"] [] [] digits).toJson)).body := by
  intro c one digits
  have hone : one.Finite := by
    intro e he d hd
    obtain rfl := List.mem_singleton.1 he
    obtain rfl := Scalar.number.inj hd
    decide +kernel
  have hdigits : digits.Finite := by
    intro e he d hd
    obtain rfl := List.mem_singleton.1 he
    cases hd
  obtain ⟨hchart, hpivot, -⟩ := bodies_unambiguous c
  exact ⟨(hchart _ _ hone hone).not.2 (by decide), (hpivot _ _ hone hdigits).not.2 (by decide)⟩

end Backend

end CrossFilter
