import CrossFilter.Proofs.Replies
import CrossFilter.View.Session

/-!
# Fields that are null and fields that are absent

Every field of a response may be absent. `null_field_iff` says where it makes no difference whether
a field is absent or null: everywhere but in the four lists of a chart response. If one of them is
null, nothing of the response is read, and the chart is empty: `null_labels_empty`.
-/

namespace CrossFilter

namespace Json

/-- Two objects that differ in one member: the first lacks it, and in the second it is null. -/
structure AddsNull (key : String) (ms ns : List (String × Json)) : Prop where
  absent : member? key ms = none
  null : member? key ns = some .null
  others : ∀ k, k ≠ key → member? k ns = member? k ms

namespace AddsNull

variable {α : Type} {key : String} {ms ns : List (String × Json)}

/-- A field of another name is the same. -/
theorem field?_of_ne (h : AddsNull key ms ns) {k : String} (hk : k ≠ key) (f : Json → Option α)
    (missing : α) : field? f missing (member? k ns) = field? f missing (member? k ms) := by
  rw [h.others k hk]

/-- A field that may be null is read in both alike. -/
theorem field?_nullable (h : AddsNull key ms ns) (k : String) (f : Json → Option α) :
    field? (nullable? f) none (member? k ns) = field? (nullable? f) none (member? k ms) := by
  by_cases hk : k = key
  · rw [hk, h.null, h.absent]
    rfl
  · exact h.field?_of_ne hk _ _

/-- A list is missing in the first, and in the second it cannot be read. -/
theorem field?_list (h : AddsNull key ms ns) (f : Json → Option α) (missing : List α) :
    field? (list? f) missing (member? key ms) = some missing ∧
      field? (list? f) missing (member? key ns) = none := by
  rw [h.null, h.absent]
  exact ⟨rfl, rfl⟩

/-- Any member that is absent can be added. -/
theorem append : ∀ {ms : List (String × Json)}, member? key ms = none →
    AddsNull key ms (ms ++ [(key, .null)])
  | [], _ => ⟨rfl, by simp [member?], fun k hk => by simp [member?, Ne.symm hk]⟩
  | (l, v) :: ms, h => by
    have hl : l ≠ key := fun hl => by simp [member?, hl] at h
    have hms : AddsNull key ms (ms ++ [(key, .null)]) := append (by simpa [member?, hl] using h)
    refine ⟨h, by simpa [member?, hl] using hms.null, fun k hk => ?_⟩
    by_cases hlk : l = k
    · simp [member?, hlk]
    · simpa [member?, hlk] using hms.others k hk

end AddsNull

end Json

open Json (AddsNull)

variable {key : String} {ms ns : List (String × Json)}

/-! ## What is read of a response -/

/-- There are no columns where the field is absent, and none where it cannot be read. -/
theorem Catalog.ofJson?_addsNull (h : AddsNull key ms ns) :
    (ofJson? (.object ns)).getD .empty = (ofJson? (.object ms)).getD .empty := by
  by_cases hk : "columns_info" = key
  · subst hk
    simp [ofJson?, Json.fields?, h.field?_list, ofList, Column.firstOfName, empty]
  · simp only [ofJson?, Json.fields?, Option.bind_eq_bind, Option.bind_some, h.field?_of_ne hk]

namespace Pivot.Response

/-- The fields of a pivot response that may be absent and not null. -/
def listNames : List String := ["headers", "rows"]

theorem ofJson?_addsNull (h : AddsNull key ms ns) (hkey : key ∉ listNames) :
    ofJson? (.object ns) = ofJson? (.object ms) := by
  simp only [listNames, List.mem_cons, List.not_mem_nil, or_false, not_or] at hkey
  simp only [ofJson?, Json.fields?, Option.bind_eq_bind, Option.bind_some, h.field?_nullable,
    h.field?_of_ne (Ne.symm hkey.1), h.field?_of_ne (Ne.symm hkey.2)]

theorem ofJson?_of_null_list (h : AddsNull key ms ns) (hkey : key ∈ listNames) :
    ofJson? (.object ns) = none := by
  simp only [listNames, List.mem_cons, List.not_mem_nil, or_false] at hkey
  rcases hkey with rfl | rfl
  · simp [ofJson?, Json.fields?, h.field?_list]
  · simp [ofJson?, Json.fields?, h.field?_list]

/-- A table without headers or without rows is empty. -/
theorem outcome_of_absent_list (h : AddsNull key ms ns) (hkey : key ∈ listNames) (q : Request) :
    ((ofJson? (.object ms)).getD {}).outcome q = .empty := by
  simp only [listNames, List.mem_cons, List.not_mem_nil, or_false] at hkey
  cases hr : ofJson? (.object ms) with
  | none => rfl
  | some r =>
    simp only [ofJson?, Json.fields?, Option.bind_eq_bind, Option.bind_some,
      Option.bind_eq_some_iff, Option.pure_def, Option.some.injEq] at hr
    obtain ⟨headers, hheaders, rows, hrows, totals, -, rowCount, -, rfl⟩ := hr
    rcases hkey with rfl | rfl
    · rw [(h.field?_list _ _).1] at hheaders
      cases hheaders
      simp [outcome]
    · rw [(h.field?_list _ _).1] at hrows
      cases hrows
      simp [outcome]

/-- Absent or null, headers and rows leave no table, and the other fields are read alike. -/
theorem outcome_addsNull (h : AddsNull key ms ns) (q : Request) :
    ((ofJson? (.object ns)).getD {}).outcome q = ((ofJson? (.object ms)).getD {}).outcome q := by
  by_cases hkey : key ∈ listNames
  · rw [ofJson?_of_null_list h hkey, outcome_of_absent_list h hkey]
    rfl
  · rw [ofJson?_addsNull h hkey]

end Pivot.Response

namespace Chart.Response

/-- The fields of a chart response that may be absent and not null. -/
def listNames : List String := ["labels", "values", "categories", "outliers"]

theorem ofJson?_addsNull (h : AddsNull key ms ns) (hkey : key ∉ listNames) :
    ofJson? (.object ns) = ofJson? (.object ms) := by
  simp only [listNames, List.mem_cons, List.not_mem_nil, or_false, not_or] at hkey
  obtain ⟨hlabels, hvalues, hcategories, houtliers⟩ := hkey
  simp only [ofJson?, Json.fields?, Option.bind_eq_bind, Option.bind_some, h.field?_nullable,
    h.field?_of_ne (Ne.symm hlabels), h.field?_of_ne (Ne.symm hvalues),
    h.field?_of_ne (Ne.symm hcategories), h.field?_of_ne (Ne.symm houtliers)]

theorem ofJson?_of_null_list (h : AddsNull key ms ns) (hkey : key ∈ listNames) :
    ofJson? (.object ns) = none := by
  simp only [listNames, List.mem_cons, List.not_mem_nil, or_false] at hkey
  rcases hkey with rfl | rfl | rfl | rfl
  · simp [ofJson?, Json.fields?, h.field?_list]
  · simp [ofJson?, Json.fields?, h.field?_list]
  · simp [ofJson?, Json.fields?, h.field?_list]
  · simp [ofJson?, Json.fields?, h.field?_list]

/-- A list that is null leaves no chart, whatever the other fields hold. -/
theorem outcome_addsNull_iff (h : AddsNull key ms ns) (q : Request) :
    ((ofJson? (.object ns)).getD {}).outcome q = ((ofJson? (.object ms)).getD {}).outcome q ↔
      key ∉ listNames ∨ ((ofJson? (.object ms)).getD {}).outcome q = .empty := by
  by_cases hkey : key ∈ listNames
  · have hempty : ((ofJson? (.object ns)).getD {}).outcome q = .empty := by
      rw [ofJson?_of_null_list h hkey]
      rfl
    rw [hempty, or_iff_right (not_not_intro hkey)]
    exact eq_comm
  · rw [ofJson?_addsNull h hkey]
    exact iff_of_true rfl (.inl hkey)

end Chart.Response

namespace Backend

/-! ## What a client makes of it -/

variable {r r' : Reply} {members : List (String × Json)}

/-- A reply that reports no failure is an answer. -/
theorem Reply.payload?_of_unreported (h : Json.ofText? r.text = some (.object members))
    (hr : ¬ r.Reports members) : r.payload? = .ok (some (.object members)) := by
  obtain ⟨hsuccess, hstatus⟩ := not_or.1 hr
  have hunreported : ∀ v, Json.ofText? r.text = some v → ¬ ReportsError v := by
    intro v hv herror
    rw [h] at hv
    cases hv
    exact hstatus herror.status
  rw [payload?_of_success (Bool.of_not_eq_false hsuccess) hunreported, h]

/-- A status that is null reports nothing. -/
theorem Reply.reports_addsNull (h : AddsNull key ms ns) (hstatus : r'.status = r.status) :
    r'.Reports ns ↔ r.Reports ms := by
  have hmember : Json.member? "status" ns = some (.text "error") ↔
      Json.member? "status" ms = some (.text "error") := by
    by_cases hk : "status" = key
    · simp [hk, h.null, h.absent]
    · rw [h.others _ hk]
  rw [Reports, Reports, isSuccess, isSuccess, hstatus, hmember]

namespace Client

/-- The service whose only answer is this reply. -/
def answering (c : Client) (r : Reply) : Service Id := c.service fun _ => .ok r

variable (c : Client)

theorem columns_answering (h : r.payload? = .ok (some (.object members))) :
    (c.answering r).columns = pure (.ok ((Catalog.ofJson? (.object members)).getD .empty)) := by
  show Except.map _ r.payload? = _
  rw [h]
  rfl

theorem askPivot_answering (h : r.payload? = .ok (some (.object members))) (q : Pivot.Request) :
    View.askPivot (c.answering r) q =
      pure (.ok (((Pivot.Response.ofJson? (.object members)).getD {}).outcome q)) := by
  show Except.map _ (Except.map _ r.payload?) = _
  rw [h]
  rfl

theorem askChart_answering (h : r.payload? = .ok (some (.object members))) (q : Chart.Request) :
    View.askChart (c.answering r) q =
      pure (.ok (((Chart.Response.ofJson? (.object members)).getD {}).outcome q)) := by
  show Except.map _ (Except.map _ r.payload?) = _
  rw [h]
  rfl

/-- In an answer a member that is null makes no difference to one that is absent, unless it is a
list of a chart response. With such a list nothing of the response is read, which makes a difference
to every chart that is not empty. -/
theorem null_field_iff (h : Json.ofText? r.text = some (.object ms))
    (h' : Json.ofText? r'.text = some (.object ns)) (hstatus : r'.status = r.status)
    (hr : ¬ r.Reports ms) (hadds : AddsNull key ms ns) :
    (c.answering r').columns = (c.answering r).columns ∧
    (∀ q, View.askPivot (c.answering r') q = View.askPivot (c.answering r) q) ∧
    ∀ q, View.askChart (c.answering r') q = View.askChart (c.answering r) q ↔
      key ∉ Chart.Response.listNames ∨ View.askChart (c.answering r) q = pure (.ok .empty) := by
  have hms : r.payload? = .ok (some (.object ms)) := Reply.payload?_of_unreported h hr
  have hns : r'.payload? = .ok (some (.object ns)) :=
    Reply.payload?_of_unreported h' (mt (Reply.reports_addsNull hadds hstatus).1 hr)
  refine ⟨?_, fun q => ?_, fun q => ?_⟩
  · rw [c.columns_answering hms, c.columns_answering hns, Catalog.ofJson?_addsNull hadds]
  · rw [c.askPivot_answering hms, c.askPivot_answering hns,
      Pivot.Response.outcome_addsNull hadds]
  · rw [c.askChart_answering hms, c.askChart_answering hns]
    have hok : ∀ a b : Outcome Chart.Result,
        (pure (.ok a) : Id (Except Failure _)) = pure (.ok b) ↔ a = b :=
      fun a b => ⟨fun h => Except.ok.inj h, fun h => h ▸ rfl⟩
    rw [hok, hok]
    exact Chart.Response.outcome_addsNull_iff hadds q

/-- A pie of one slice, and the same with a null for the labels, which a pie has no use for. -/
def slicesReply : Reply :=
  ⟨200, "\x7b\"chart_type\":\"pie\",\"data\":[\x7b\"name\":\"A\",\"value\":1\x7d]\x7d"⟩

def nullLabelsReply : Reply :=
  ⟨200, "\x7b\"chart_type\":\"pie\",\"data\":[\x7b\"name\":\"A\",\"value\":1\x7d],\"labels\":null\x7d"⟩

def slicesMembers : List (String × Json) :=
  [("chart_type", .text "pie"),
    ("data", .array [.object [("name", .text "A"), ("value", .number (.natural 1))]])]

def slicesRequest : Chart.Request := ⟨"region", none, .pie, .empty⟩

theorem text_slicesReply : Json.ofText? slicesReply.text = some (.object slicesMembers) := by
  decide +kernel

theorem text_nullLabelsReply :
    Json.ofText? nullLabelsReply.text = some (.object (slicesMembers ++ [("labels", .null)])) := by
  decide +kernel

theorem not_reports_slicesReply : ¬ slicesReply.Reports slicesMembers :=
  not_or.2 ⟨by decide, by decide⟩

theorem null_field_iff_slicesReply :
    Json.ofText? slicesReply.text = some (.object slicesMembers) ∧
    Json.ofText? nullLabelsReply.text = some (.object (slicesMembers ++ [("labels", .null)])) ∧
    nullLabelsReply.status = slicesReply.status ∧
    ¬ slicesReply.Reports slicesMembers ∧
    AddsNull "labels" slicesMembers (slicesMembers ++ [("labels", .null)]) ∧
    (answering ⟨{}⟩ nullLabelsReply).columns = (answering ⟨{}⟩ slicesReply).columns ∧
    (∀ q, View.askPivot (answering ⟨{}⟩ nullLabelsReply) q =
      View.askPivot (answering ⟨{}⟩ slicesReply) q) ∧
    ∀ q, View.askChart (answering ⟨{}⟩ nullLabelsReply) q =
        View.askChart (answering ⟨{}⟩ slicesReply) q ↔
      "labels" ∉ Chart.Response.listNames ∨
        View.askChart (answering ⟨{}⟩ slicesReply) q = pure (.ok .empty) :=
  ⟨text_slicesReply, text_nullLabelsReply, rfl, not_reports_slicesReply, .append rfl,
    null_field_iff ⟨{}⟩ text_slicesReply text_nullLabelsReply rfl not_reports_slicesReply
      (.append rfl)⟩

/-- The null takes the whole pie away. -/
theorem null_labels_empty :
    ¬ slicesReply.Reports slicesMembers ∧
    AddsNull "labels" slicesMembers (slicesMembers ++ [("labels", .null)]) ∧
    View.askChart (answering ⟨{}⟩ slicesReply) slicesRequest =
      pure (.ok (.data (.pie [⟨"A", .ofRatio false 1 1⟩]))) ∧
    View.askChart (answering ⟨{}⟩ nullLabelsReply) slicesRequest = pure (.ok .empty) ∧
    View.askChart (answering ⟨{}⟩ nullLabelsReply) slicesRequest ≠
      View.askChart (answering ⟨{}⟩ slicesReply) slicesRequest := by
  have hms : slicesReply.payload? = .ok (some (.object slicesMembers)) :=
    Reply.payload?_of_unreported text_slicesReply not_reports_slicesReply
  have hns : nullLabelsReply.payload? =
      .ok (some (.object (slicesMembers ++ [("labels", .null)]))) :=
    Reply.payload?_of_unreported text_nullLabelsReply (not_or.2 ⟨by decide, by decide⟩)
  have hpie : ((Chart.Response.ofJson? (.object slicesMembers)).getD {}).outcome slicesRequest =
      .data (.pie [⟨"A", .ofRatio false 1 1⟩]) := by decide +kernel
  have hempty : ((Chart.Response.ofJson?
      (.object (slicesMembers ++ [("labels", .null)]))).getD {}).outcome slicesRequest = .empty := by
    decide +kernel
  rw [askChart_answering _ hms, askChart_answering _ hns, hpie, hempty]
  refine ⟨not_reports_slicesReply, .append rfl, rfl, rfl, fun h => ?_⟩
  cases Except.ok.inj h

end Client

end Backend

end CrossFilter
