import CrossFilter.Proofs.AbsentFields

/-!
# What a reply is worth as an answer

A client can be asked four things, and takes every reply in one way. With success it is an answer
unless its body reports an error: what can be read of the body is the answer, and where nothing can
be read it is the empty one (`ask_of_unreported`). Without success it is a failure, of the service
if the body is JSON and of the way to it otherwise. `replies_taken` says so of every question, and
that an answer depends on nothing but the fields that are read for it.
-/

namespace CrossFilter

/-- Two objects that have the same under some keys, whatever else is in them. -/
def Json.AgreeOn (keys : List String) (ms ns : List (String × Json)) : Prop :=
  ∀ k ∈ keys, Json.member? k ns = Json.member? k ms

namespace Backend

/-- What is made of a reading is a reading, too. -/
theorem Reply.map_read {α β : Type} (r : Reply) (ofJson? : Json → Option α) (empty : α)
    (f : α → β) :
    (r.read ofJson? empty).map f = r.read (fun v => (ofJson? v).map f) (f empty) := by
  unfold read
  cases r.payload? with
  | error failure => rfl
  | ok v =>
    have hbind : (v.bind fun v => (ofJson? v).map f) = (v.bind ofJson?).map f := Option.map_bind.symm
    simp only [Except.map, hbind, Option.getD_map]

/-- What a client can be asked. -/
inductive Question where
  | columns
  | chart (request : Chart.Request)
  | pivot (request : Pivot.Request)
  | recast (request : Recast.Request)

namespace Question

def Answer : Question → Type
  | .columns => Catalog
  | .chart _ => Outcome Chart.Result
  | .pivot _ => Outcome Pivot.Table
  | .recast _ => Unit

def ask (service : Service Id) : (q : Question) → Except Failure q.Answer
  | .columns => service.columns
  | .chart request => View.askChart service request
  | .pivot request => View.askPivot service request
  | .recast request => service.recast request

/-- The answer with nothing in it. -/
def nothing : (q : Question) → q.Answer
  | .columns => Catalog.empty
  | .chart _ => Outcome.empty
  | .pivot _ => Outcome.empty
  | .recast _ => ()

/-- The fields of the record that a body has to be. -/
def fieldNames : Question → List String
  | .columns => ["columns_info"]
  | .chart _ => Chart.Response.fieldNames
  | .pivot _ => Pivot.Response.fieldNames
  | .recast _ => ["status", "message"]

/-- The answer in a body that is this record. -/
def read? : (q : Question) → Json → Option q.Answer
  | .columns => Catalog.ofJson?
  | .chart request => fun v =>
    (Chart.Response.ofJson? v).map fun response => response.outcome request
  | .pivot request => fun v =>
    (Pivot.Response.ofJson? v).map fun response => response.outcome request
  | .recast _ => fun v => (Envelope.ofJson? v).map fun _ => ()

/-- Nothing but the fields of the record is read. -/
theorem read?_of_agreeOn {q : Question} {ms ns : List (String × Json)}
    (h : Json.AgreeOn q.fieldNames ms ns) : q.read? (.object ns) = q.read? (.object ms) := by
  cases q with
  | columns =>
    have hcolumns := h "columns_info" (by simp [fieldNames])
    show Catalog.ofJson? _ = Catalog.ofJson? _
    simp only [Catalog.ofJson?, Json.fields?, Option.bind_eq_bind, Option.bind_some, hcolumns]
  | chart request =>
    simp only [Json.AgreeOn, fieldNames, Chart.Response.fieldNames, List.forall_mem_cons] at h
    simp only [read?, Chart.Response.ofJson?, Json.fields?, Option.bind_eq_bind, Option.bind_some, h]
  | pivot request =>
    simp only [Json.AgreeOn, fieldNames, Pivot.Response.fieldNames, List.forall_mem_cons] at h
    simp only [read?, Pivot.Response.ofJson?, Json.fields?, Option.bind_eq_bind, Option.bind_some, h]
  | recast request =>
    simp only [Json.AgreeOn, fieldNames, List.forall_mem_cons] at h
    simp only [read?, Envelope.ofJson?, Json.fields?, Option.bind_eq_bind, Option.bind_some, h]

variable (c : Client) (r : Reply)

/-- Every question is a reading of the reply. -/
theorem ask_answering (q : Question) : q.ask (c.answering r) = r.read q.read? q.nothing := by
  cases q with
  | columns => rfl
  | chart request => exact r.map_read Chart.Response.ofJson? {} (Chart.Response.outcome · request)
  | pivot request => exact r.map_read Pivot.Response.ofJson? {} (Pivot.Response.outcome · request)
  | recast request => rfl

variable {c r}

/-- A body that reports no error is an answer, if it is no JSON and if it is another record, too. -/
theorem ask_of_unreported (hs : r.isSuccess = true)
    (h : ∀ v, Json.ofText? r.text = some v → ¬ ReportsError v) (q : Question) :
    q.ask (c.answering r) = .ok (((Json.ofText? r.text).bind q.read?).getD q.nothing) := by
  rw [ask_answering, Reply.read, Reply.payload?_of_success hs h]
  rfl

theorem ask_ne_ok (hs : r.isSuccess = false) (q : Question) (answer : q.Answer) :
    q.ask (c.answering r) ≠ .ok answer := by
  rw [ask_answering, Reply.read]
  cases hv : r.payload? with
  | ok v => exact absurd hv (r.payload?_ne_ok hs v)
  | error failure => simp [Except.map]

/-- An object that reports no error is worth what its fields are worth. -/
theorem ask_of_object {members : List (String × Json)} (hs : r.isSuccess = true)
    (h : Json.ofText? r.text = some (.object members))
    (hstatus : Json.member? "status" members ≠ some (.text "error")) (q : Question) :
    q.ask (c.answering r) = .ok ((q.read? (.object members)).getD q.nothing) := by
  have hr : ¬ r.Reports members := not_or.2 ⟨by simp [hs], hstatus⟩
  rw [ask_answering, Reply.read, Reply.payload?_of_unreported h hr]
  rfl

variable (c r)

/-- A reply without success is never an answer, and it is a failure of the way just if its body is
no JSON. A reply with success is no such failure: unless it reports an error it is an answer, the
empty one where its body is no JSON or not the record, and of an object the members that are neither
`status` nor a field of the record may be any. -/
theorem replies_taken (q : Question) :
    ((∃ detail, q.ask (c.answering r) = .error (.transport detail)) ↔
      r.isSuccess = false ∧ Json.ofText? r.text = none) ∧
    (r.isSuccess = false → ∀ answer, q.ask (c.answering r) ≠ .ok answer) ∧
    (r.isSuccess = true →
      (∀ v, Json.ofText? r.text = some v → ¬ ReportsError v ∧ q.read? v = none) →
      q.ask (c.answering r) = .ok q.nothing) ∧
    ∀ (r' : Reply) (ms ns : List (String × Json)), r.isSuccess = true → r'.isSuccess = true →
      Json.ofText? r.text = some (.object ms) → Json.ofText? r'.text = some (.object ns) →
      Json.member? "status" ms ≠ some (.text "error") →
      Json.AgreeOn ("status" :: q.fieldNames) ms ns →
      q.ask (c.answering r') = q.ask (c.answering r) := by
  refine ⟨?_, fun hs => ask_ne_ok hs q, fun hs h => ?_, fun r' ms ns hs hs' hms hns hstatus h => ?_⟩
  · simp only [ask_answering, Reply.read_eq_error_iff, Reply.payload?_eq_transport_iff]
  · rw [ask_of_unreported hs (fun v hv => (h v hv).1)]
    cases hv : Json.ofText? r.text with
    | none => rfl
    | some v => rw [Option.bind_some, (h v hv).2, Option.getD_none]
  · obtain ⟨hkept, hfields⟩ := List.forall_mem_cons.1 h
    rw [ask_of_object hs hms hstatus, ask_of_object hs' hns (by rwa [hkept]),
      read?_of_agreeOn hfields]

/-- The page of something in between, which says that all is well. -/
def pageReply : Reply := ⟨200, "<html>ok</html>"⟩

/-- The same with the code of a gateway. -/
def gatewayReply : Reply := ⟨502, "<html>ok</html>"⟩

/-- An array is not the record of a chart. -/
def numbersReply : Reply := ⟨200, "[1,2]"⟩

/-- The pie of one slice, created and with a message of another kind. -/
def createdReply : Reply :=
  ⟨201, "\x7b\"chart_type\":\"pie\",\"data\":[\x7b\"name\":\"A\",\"value\":1\x7d],\"message\":7\x7d"⟩

def createdMembers : List (String × Json) :=
  Client.slicesMembers ++ [("message", .number (.natural 7))]

theorem text_createdReply : Json.ofText? createdReply.text = some (.object createdMembers) := by
  decide +kernel

theorem replies_taken_asked :
    gatewayReply.isSuccess = false ∧ Json.ofText? gatewayReply.text = none ∧
    (∃ detail, (chart Client.slicesRequest).ask (Client.answering ⟨{}⟩ gatewayReply) =
      .error (.transport detail)) ∧
    (∀ answer, columns.ask (Client.answering ⟨{}⟩ gatewayReply) ≠ .ok answer) ∧
    pageReply.isSuccess = true ∧ Json.ofText? pageReply.text = none ∧
    columns.ask (Client.answering ⟨{}⟩ pageReply) = .ok Catalog.empty ∧
    numbersReply.isSuccess = true ∧
    Json.ofText? numbersReply.text =
      some (.array [.number (.natural 1), .number (.natural 2)]) ∧
    (chart Client.slicesRequest).ask (Client.answering ⟨{}⟩ numbersReply) = .ok Outcome.empty ∧
    Json.member? "message" createdMembers ≠ Json.member? "message" Client.slicesMembers ∧
    (chart Client.slicesRequest).ask (Client.answering ⟨{}⟩ createdReply) =
      (chart Client.slicesRequest).ask (Client.answering ⟨{}⟩ Client.slicesReply) := by
  have hgateway : Json.ofText? gatewayReply.text = none := by decide +kernel
  have hpage : Json.ofText? pageReply.text = none := by decide +kernel
  have hnumbers : Json.ofText? numbersReply.text =
      some (.array [.number (.natural 1), .number (.natural 2)]) := by decide +kernel
  have hunread : ∀ v, Json.ofText? numbersReply.text = some v →
      ¬ ReportsError v ∧ (chart Client.slicesRequest).read? v = none := by
    intro v hv
    rw [hnumbers] at hv
    cases hv
    exact ⟨by rw [reportsError_iff]; decide, by decide +kernel⟩
  have hagree : Json.AgreeOn ("status" :: (chart Client.slicesRequest).fieldNames)
      Client.slicesMembers createdMembers := by
    simp only [Json.AgreeOn, fieldNames, Chart.Response.fieldNames, List.forall_mem_cons]
    decide
  refine ⟨rfl, hgateway, (replies_taken _ _ _).1.2 ⟨rfl, hgateway⟩,
    (replies_taken _ _ _).2.1 rfl, rfl, hpage, (replies_taken _ _ _).2.2.1 rfl ?_, rfl, hnumbers,
    (replies_taken _ _ _).2.2.1 rfl hunread, by decide, ?_⟩
  · intro v hv
    rw [hpage] at hv
    cases hv
  · exact (replies_taken _ _ _).2.2.2 _ _ _ rfl rfl Client.text_slicesReply text_createdReply
      (by decide) hagree

end Question

end Backend

end CrossFilter
