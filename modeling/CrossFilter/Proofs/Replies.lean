import CrossFilter.Backend.Service

/-!
# Failures that a reply reports

A reply reports a failure by its status code or by the member `status` of its body, and the member
`message` says what went wrong. `Reply.Surfaces` says that a client hands on what is reported, and
nothing else as a failure of the service.

Both members are read at once. If one of them is neither a text nor null, the other is lost with it:
`surfaces_iff` says when that shows, and `report_lost` has a reply for each of the two ways.
-/

namespace CrossFilter.Backend

/-! ## Reading the envelope -/

/-- A member that is a text, or null, or missing. -/
def Legible (key : String) (members : List (String × Json)) : Prop :=
  ∀ v, Json.member? key members = some v → v = .null ∨ ∃ s, v = .text s

/-- The text of a member, if it is one. -/
def textMember? (key : String) (members : List (String × Json)) : Option String :=
  (Json.member? key members).bind Json.text?

variable {members : List (String × Json)}

theorem field?_of_legible {key : String} (h : Legible key members) :
    Json.field? (Json.nullable? Json.text?) none (Json.member? key members) =
      some (textMember? key members) := by
  unfold textMember?
  cases hv : Json.member? key members with
  | none => rfl
  | some v =>
    rcases h v hv with rfl | ⟨s, rfl⟩
    · rfl
    · rfl

theorem legible_of_member?_eq {key : String} {v : Json} (hv : Json.member? key members = some v)
    (h : v = .null ∨ ∃ s, v = .text s) : Legible key members := by
  intro w hw
  rw [hv] at hw
  cases hw
  exact h

theorem field?_of_not_legible {key : String} (h : ¬ Legible key members) :
    Json.field? (Json.nullable? Json.text?) none (Json.member? key members) = none := by
  cases hv : Json.member? key members with
  | none => exact absurd (fun v hv' => by simp [hv] at hv') h
  | some v =>
    cases v with
    | null => exact absurd (legible_of_member?_eq hv (.inl rfl)) h
    | text s => exact absurd (legible_of_member?_eq hv (.inr ⟨s, rfl⟩)) h
    | bool b => rfl
    | number n => rfl
    | array items => rfl
    | object members => rfl

theorem Envelope.ofJson?_of_legible (hs : Legible "status" members)
    (hm : Legible "message" members) : Envelope.ofJson? (.object members) =
      some ⟨textMember? "status" members, textMember? "message" members⟩ := by
  have hstatus := field?_of_legible hs
  have hmessage := field?_of_legible hm
  simp [Envelope.ofJson?, Json.fields?, hstatus, hmessage]

/-- One member of another type, and none is read. -/
theorem Envelope.ofJson?_of_not_legible
    (h : ¬ (Legible "status" members ∧ Legible "message" members)) :
    Envelope.ofJson? (.object members) = none := by
  by_cases hs : Legible "status" members
  · have hstatus := field?_of_legible hs
    have hmessage := field?_of_not_legible fun hm => h ⟨hs, hm⟩
    simp [Envelope.ofJson?, Json.fields?, hstatus, hmessage]
  · have hstatus := field?_of_not_legible hs
    simp [Envelope.ofJson?, Json.fields?, hstatus]

/-! ## What is reported and what comes of it -/

/-- The message that an object gives for a failure: its own, or a general one if that says nothing. -/
def statedMessage (members : List (String × Json)) : String :=
  match Json.member? "message" members with
  | some (.text m) => if Text.allBlank m then "generation failed" else m
  | _ => "generation failed"

theorem failureMessage_of_text {e : Envelope} (h : e.message = textMember? "message" members) :
    Reply.failureMessage e = statedMessage members := by
  unfold Reply.failureMessage statedMessage
  rw [h, textMember?]
  cases Json.member? "message" members with
  | none => rfl
  | some v =>
    cases v with
    | text m =>
      cases hm : Text.allBlank m with
      | true => simp [Json.text?, Option.filter, hm, genericFailure]
      | false => simp [Json.text?, Option.filter, hm]
    | null => rfl
    | bool b => rfl
    | number n => rfl
    | array items => rfl
    | object members => rfl

theorem textMember?_eq_some {key s : String} :
    textMember? key members = some s ↔ Json.member? key members = some (.text s) := by
  unfold textMember?
  cases Json.member? key members with
  | none => simp
  | some v => cases v <;> simp [Json.text?]

/-- A body that reports an error by its member `status`, and whose message can be read, too. -/
def ReportsError (v : Json) : Prop :=
  ∃ message, Envelope.ofJson? v = some ⟨some "error", message⟩

theorem reportsError_iff {v : Json} :
    ReportsError v ↔ ((Envelope.ofJson? v).getD {}).status = some "error" := by
  unfold ReportsError
  cases Envelope.ofJson? v with
  | none => simp
  | some e =>
    obtain ⟨status, message⟩ := e
    simp

theorem ReportsError.status (h : ReportsError (.object members)) :
    Json.member? "status" members = some (.text "error") := by
  obtain ⟨message, henvelope⟩ := h
  by_cases hl : Legible "status" members ∧ Legible "message" members
  · rw [Envelope.ofJson?_of_legible hl.1 hl.2, Option.some.injEq, Envelope.mk.injEq] at henvelope
    exact textMember?_eq_some.1 henvelope.1
  · rw [Envelope.ofJson?_of_not_legible hl] at henvelope
    cases henvelope

namespace Reply

/-- A reply with these members reports a failure. -/
def Reports (r : Reply) (members : List (String × Json)) : Prop :=
  r.isSuccess = false ∨ Json.member? "status" members = some (.text "error")

/-- Whatever a client asks, it takes this reply for a failure of the service just if one is
reported, and hands on the stated message. -/
def Surfaces (r : Reply) (members : List (String × Json)) : Prop :=
  ∀ {α : Type} (c : Client) (e : Endpoint) (body : Option Json) (ofJson? : Json → Option α)
    (empty : α) (message : String),
    c.ask (m := Id) (fun _ => .ok r) e body ofJson? empty = .error (.backend message) ↔
      r.Reports members ∧ message = statedMessage members

variable {r : Reply} {message : String}

/-- With success, a body that reports no error is handed on, or none if it is no JSON. -/
theorem payload?_of_success (hs : r.isSuccess = true)
    (h : ∀ v, Json.ofText? r.text = some v → ¬ ReportsError v) :
    r.payload? = .ok (Json.ofText? r.text) := by
  unfold payload?
  cases hv : Json.ofText? r.text with
  | none => simp [hs]
  | some v =>
    have hstatus : ¬ ((Envelope.ofJson? v).getD {}).status = some "error" :=
      fun hstatus => h v hv (reportsError_iff.2 hstatus)
    simp [hs, hstatus]

/-- Without success nothing is handed on. -/
theorem payload?_ne_ok (hs : r.isSuccess = false) (v : Option Json) : r.payload? ≠ .ok v := by
  unfold payload?
  cases Json.ofText? r.text with
  | none => simp [hs]
  | some v => simp [hs]

/-- Only a reply that has neither success nor a JSON body is not of the service. -/
theorem payload?_eq_transport_iff : (∃ detail, r.payload? = .error (.transport detail)) ↔
    r.isSuccess = false ∧ Json.ofText? r.text = none := by
  unfold payload?
  cases Json.ofText? r.text with
  | none => cases r.isSuccess <;> simp
  | some v =>
    dsimp only
    split
    · simp
    · simp

/-- Whatever is read of a reply, it fails where the payload does. -/
theorem read_eq_error_iff {α : Type} {ofJson? : Json → Option α} {empty : α} {failure : Failure} :
    r.read ofJson? empty = .error failure ↔ r.payload? = .error failure := by
  unfold read
  cases r.payload? with
  | ok v => simp [Except.map]
  | error f => simp [Except.map]

theorem surfaces_iff_payload? : r.Surfaces members ↔ ∀ message,
    r.payload? = .error (.backend message) ↔ r.Reports members ∧ message = statedMessage members := by
  constructor
  · intro h message
    exact read_eq_error_iff.symm.trans (h ⟨{}⟩ .columns none (fun _ => some ()) () message)
  · intro h α c e body ofJson? empty message
    exact read_eq_error_iff.trans (h message)

/-- Where both members can be read, a report is taken for what it says. -/
theorem payload?_of_legible (h : Json.ofText? r.text = some (.object members))
    (hs : Legible "status" members) (hm : Legible "message" members) :
    r.payload? = .error (.backend message) ↔
      r.Reports members ∧ message = statedMessage members := by
  unfold payload? Reports
  rw [h, ← textMember?_eq_some]
  dsimp only
  rw [Envelope.ofJson?_of_legible hs hm, Option.getD_some, failureMessage_of_text rfl]
  by_cases hstatus : textMember? "status" members = some "error"
  · simpa [hstatus] using eq_comm
  · cases r.isSuccess with
    | true => simp [hstatus]
    | false => simpa [hstatus] using eq_comm

/-- Otherwise only the status code counts, and the message is lost. -/
theorem payload?_of_not_legible (h : Json.ofText? r.text = some (.object members))
    (hn : ¬ (Legible "status" members ∧ Legible "message" members)) :
    r.payload? = .error (.backend message) ↔
      r.isSuccess = false ∧ message = "generation failed" := by
  unfold payload?
  rw [h]
  dsimp only
  rw [Envelope.ofJson?_of_not_legible hn, Option.getD_none]
  cases r.isSuccess with
  | true => simp
  | false => simpa [failureMessage, genericFailure] using eq_comm

/-- What is reported comes through just if both members can be read, or if the status code reports
it and there is no message to lose. -/
theorem surfaces_iff (h : Json.ofText? r.text = some (.object members)) :
    r.Surfaces members ↔ Legible "status" members ∧ Legible "message" members ∨
      (r.Reports members → r.isSuccess = false ∧ statedMessage members = "generation failed") := by
  by_cases hl : Legible "status" members ∧ Legible "message" members
  · have hs : r.Surfaces members :=
      surfaces_iff_payload?.2 fun _ => payload?_of_legible h hl.1 hl.2
    exact iff_of_true hs (.inl hl)
  · rw [or_iff_right hl, surfaces_iff_payload?]
    constructor
    · intro hs hr
      exact (payload?_of_not_legible h hl).1 ((hs _).2 ⟨hr, rfl⟩)
    · intro hr message
      rw [payload?_of_not_legible h hl]
      constructor
      · rintro ⟨hcode, rfl⟩
        exact ⟨.inl hcode, (hr (.inl hcode)).2.symm⟩
      · rintro ⟨hreports, rfl⟩
        exact hr hreports

/-- The status code says that something failed and the message says what, but `status` is a number. -/
def numberedStatus : Reply := ⟨500, "\x7b\"status\":500,\"message\":\"boom\"\x7d"⟩

def numberedMembers : List (String × Json) :=
  [("status", .number (.natural 500)), ("message", .text "boom")]

theorem text_numberedStatus : Json.ofText? numberedStatus.text = some (.object numberedMembers) := by
  decide +kernel

theorem surfaces_iff_numberedStatus :
    Json.ofText? numberedStatus.text = some (.object numberedMembers) ∧
      (numberedStatus.Surfaces numberedMembers ↔
        Legible "status" numberedMembers ∧ Legible "message" numberedMembers ∨
          (numberedStatus.Reports numberedMembers → numberedStatus.isSuccess = false ∧
            statedMessage numberedMembers = "generation failed")) :=
  ⟨text_numberedStatus, surfaces_iff text_numberedStatus⟩

/-- The member `status` says that something failed, but `message` is an array. -/
def listedMessages : Reply := ⟨200, "\x7b\"status\":\"error\",\"message\":[\"boom\"]\x7d"⟩

def listedMembers : List (String × Json) :=
  [("status", .text "error"), ("message", .array [.text "boom"])]

theorem text_listedMessages : Json.ofText? listedMessages.text = some (.object listedMembers) := by
  decide +kernel

/-- The first of these replies loses its message, and the second is no failure at all. -/
theorem report_lost :
    Json.ofText? numberedStatus.text = some (.object numberedMembers) ∧
      ¬ numberedStatus.Surfaces numberedMembers ∧
    Json.ofText? listedMessages.text = some (.object listedMembers) ∧
      ¬ listedMessages.Surfaces listedMembers := by
  have hnumbered : ¬ (Legible "status" numberedMembers ∧ Legible "message" numberedMembers) := by
    rintro ⟨hs, -⟩
    rcases hs _ rfl with h | ⟨s, h⟩
    · cases h
    · cases h
  have hlisted : ¬ (Legible "status" listedMembers ∧ Legible "message" listedMembers) := by
    rintro ⟨-, hm⟩
    rcases hm _ rfl with h | ⟨s, h⟩
    · cases h
    · cases h
  refine ⟨text_numberedStatus, fun hs => ?_, text_listedMessages, fun hs => ?_⟩
  · have hboom := (surfaces_iff_payload?.1 hs "boom").2 ⟨.inl rfl, rfl⟩
    have heq : "boom" = "generation failed" :=
      ((payload?_of_not_legible text_numberedStatus hnumbered).1 hboom).2
    exact absurd heq (by decide)
  · have hgeneric := (surfaces_iff_payload?.1 hs "generation failed").2 ⟨.inr rfl, rfl⟩
    have hcode : listedMessages.isSuccess = false :=
      ((payload?_of_not_legible text_listedMessages hlisted).1 hgeneric).1
    exact absurd hcode (by decide)

end Reply

end CrossFilter.Backend
