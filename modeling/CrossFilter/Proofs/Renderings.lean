import CrossFilter.Json.Printer
import CrossFilter.Json.Token
import CrossFilter.Proofs.NumberTexts

/-!
# Compact JSON texts

A compact text has no blanks that could part one value from the next, and still it is the text of
one value only: `render_inj`. The first character of a value tells its form, a bare word ends where
a separator follows, and inside a string literal neither a quote nor a backslash stands for itself,
so nothing that a name or a text holds can pass for structure. Doubles have to be finite, since the
others have no text but null.
-/

namespace CrossFilter.Json

open Number

/-- A value all of whose doubles are finite. -/
inductive Finite : Json → Prop where
  | null : Finite .null
  | bool (b : Bool) : Finite (.bool b)
  | natural (n : Nat) : Finite (.number (.natural n))
  | negative (n : Nat) : Finite (.number (.negative n))
  | real (negative : Bool) (rank : Fin rankLimit) :
      Finite (.number (.real (.finite negative rank)))
  | text (s : String) : Finite (.text s)
  | array {items : List Json} (h : ∀ v ∈ items, Finite v) : Finite (.array items)
  | object {members : List (String × Json)} (h : ∀ m ∈ members, Finite m.2) :
      Finite (.object members)

theorem Finite.items {items : List Json} : Finite (.array items) → ∀ v ∈ items, Finite v
  | .array h => h

theorem Finite.members {members : List (String × Json)} :
    Finite (.object members) → ∀ m ∈ members, Finite m.2
  | .object h => h

/-! ## Strings -/

/-- Takes the first character off the inside of a string literal, which a quote ends. -/
def unescape? : List Char → Option (Nat × List Char)
  | '\\' :: 'u' :: a :: b :: c :: d :: rest => (unit? a b c d).map (·, rest)
  | '\\' :: c :: rest => (escaped? c).map (·, rest)
  | c :: rest => if c = '"' then none else some (c.toNat, rest)
  | [] => none

/-- A control character is spelled by its number. -/
theorem unit?_control {c : Char} (h : c.toNat < 0x20) :
    unit? '0' '0' (Text.hexChar (c.toNat / 16)) (Text.hexChar (c.toNat % 16)) = some c.toNat := by
  have hzero : Text.hexValue? '0' = some 0 := rfl
  rw [unit?, hzero, Text.hexValue?_hexChar (by omega), Text.hexValue?_hexChar (by omega)]
  simp
  omega

theorem unescape?_escape (c : Char) (rest : List Char) :
    unescape? (escape c ++ rest) = some (c.toNat, rest) := by
  unfold escape
  split_ifs with h1 h2 h3 h4 h5 h6 h7 h8
  · subst h1; rfl
  · subst h2; rfl
  · subst h3; rfl
  · subst h4; rfl
  · subst h5; rfl
  · subst h6; rfl
  · subst h7; rfl
  · simp [unescape?, unit?_control h8]
  · rw [List.singleton_append]
    unfold unescape?
    split
    · next heq => exact absurd (List.cons.inj heq).1 h2
    · next heq => exact absurd (List.cons.inj heq).1 h2
    · next heq =>
      obtain ⟨rfl, rfl⟩ := List.cons.inj heq
      rw [if_neg h1]
    · next heq => cases heq

theorem escape_inj {c d : Char} {rest rest' : List Char}
    (h : escape c ++ rest = escape d ++ rest') : c = d ∧ rest = rest' := by
  have hread := congrArg unescape? h
  rw [unescape?_escape, unescape?_escape] at hread
  obtain ⟨hc, hrest⟩ := Prod.mk.inj (Option.some.inj hread)
  exact ⟨Char.toNat_inj.1 hc, hrest⟩

/-- No character is spelled like the end of a literal. -/
theorem escape_ne_quote (c : Char) (rest rest' : List Char) :
    escape c ++ rest ≠ '"' :: rest' := by
  intro h
  have hread := congrArg unescape? h
  rw [unescape?_escape, show unescape? ('"' :: rest') = none from rfl] at hread
  cases hread

theorem escapes_inj : ∀ {cs ds rest rest' : List Char},
    cs.flatMap escape ++ '"' :: rest = ds.flatMap escape ++ '"' :: rest' → cs = ds ∧ rest = rest'
  | [], [], _, _, h => ⟨rfl, (List.cons.inj h).2⟩
  | [], d :: ds, rest, rest', h => by
    rw [List.flatMap_cons, List.append_assoc] at h
    exact absurd h.symm (escape_ne_quote d _ _)
  | c :: cs, [], _, _, h => by
    rw [List.flatMap_cons, List.append_assoc] at h
    exact absurd h (escape_ne_quote c _ _)
  | c :: cs, d :: ds, _, _, h => by
    rw [List.flatMap_cons, List.flatMap_cons, List.append_assoc, List.append_assoc] at h
    obtain ⟨rfl, htail⟩ := escape_inj h
    obtain ⟨rfl, hrest⟩ := escapes_inj htail
    exact ⟨rfl, hrest⟩

theorem quote_inj {s t : String} {rest rest' : List Char} (h : quote s ++ rest = quote t ++ rest') :
    s = t ∧ rest = rest' := by
  simp only [quote, List.cons_append, List.append_assoc, List.cons.injEq, true_and] at h
  obtain ⟨hs, hrest⟩ := escapes_inj h
  exact ⟨String.toList_inj.1 hs, hrest⟩

/-! ## Numbers -/

theorem natDigits_inj {m n : Nat} (h : natDigits m = natDigits n) : m = n := by
  rw [← digitsValue_natDigits m, h, digitsValue_natDigits]

/-- A double always shows that it is one. -/
theorem exists_mark_wire (d : Decimal) : ∃ c ∈ wire.decimal d, c = '.' ∨ c = 'e' := by
  have hpointed : wire.pointed = true := rfl
  unfold Layout.decimal
  dsimp only
  split
  · refine ⟨'.', ?_, .inl rfl⟩
    unfold Layout.positional
    dsimp only
    split_ifs <;> simp
  · exact ⟨'e', by simp [Layout.scientific], .inr rfl⟩

theorem chars_real (negative : Bool) (rank : Fin rankLimit) :
    (Numeral.real (.finite negative rank)).chars =
      (if negative then ['-'] else []) ++ wire.decimal (shortest wire.tie rank) := by
  exact String.toList_ofList

/-- A number is a sign and a text that starts with a digit. -/
theorem chars_eq_signed {n : Json.Numeral} (h : Finite (.number n)) :
    ∃ (negative : Bool) (d : Char) (ds : List Char),
      n.chars = (if negative then ['-'] else []) ++ d :: ds ∧ d.isDigit = true ∧
        ∀ c ∈ d :: ds, isNumeric c = true := by
  have hnat : ∀ m : Nat, ∃ d ds, natDigits m = d :: ds ∧ d.isDigit = true ∧
      ∀ c ∈ d :: ds, isNumeric c = true := by
    intro m
    obtain ⟨d, ds, e⟩ := List.exists_cons_of_ne_nil (natDigits_ne_nil m)
    have hdigits : ∀ c ∈ d :: ds, c.isDigit = true := fun c hc => isDigit_of_mem_natDigits (e ▸ hc)
    exact ⟨d, ds, e, hdigits d List.mem_cons_self, fun c hc => isNumeric_of_isDigit (hdigits c hc)⟩
  cases h with
  | natural m =>
    obtain ⟨d, ds, e, h⟩ := hnat m
    exact ⟨false, d, ds, e, h⟩
  | negative m =>
    obtain ⟨d, ds, e, h⟩ := hnat m
    exact ⟨true, d, ds, congrArg ('-' :: ·) e, h⟩
  | real negative rank =>
    obtain ⟨hall, d, ds, e, hd⟩ :=
      isNumeric_of_spells (spells_decimal wire (shortest wire.tie rank))
    rw [e] at hall
    exact ⟨negative, d, ds, by rw [chars_real, e], hd, hall⟩

theorem isNumeric_of_mem_chars {n : Json.Numeral} (h : Finite (.number n)) :
    ∀ c ∈ n.chars, isNumeric c = true := by
  obtain ⟨negative, d, ds, e, -, hall⟩ := chars_eq_signed h
  intro c hc
  rw [e] at hc
  rcases List.mem_append.1 hc with hc | hc
  · cases negative with
    | true => rw [List.mem_singleton.1 hc]; rfl
    | false => cases hc
  · exact hall c hc

/-- A whole number never looks like a double. -/
theorem exists_mark_iff {n : Json.Numeral} (h : Finite (.number n)) :
    (∃ c ∈ n.chars, c = '.' ∨ c = 'e') ↔ ∃ d, n = .real d := by
  have hnat : ∀ m, ∀ c ∈ natDigits m, ¬ (c = '.' ∨ c = 'e') := by
    rintro m c hc (rfl | rfl) <;> cases isDigit_of_mem_natDigits hc
  cases h with
  | natural m =>
    refine ⟨fun ⟨c, hc, hmark⟩ => absurd hmark (hnat m c hc), fun ⟨d, hd⟩ => by cases hd⟩
  | negative m =>
    refine ⟨fun ⟨c, hc, hmark⟩ => ?_, fun ⟨d, hd⟩ => by cases hd⟩
    rcases List.mem_cons.1 hc with rfl | hc
    · rcases hmark with h | h <;> cases h
    · exact absurd hmark (hnat m c hc)
  | real negative rank =>
    refine ⟨fun _ => ⟨_, rfl⟩, fun _ => ?_⟩
    obtain ⟨c, hc, hmark⟩ := exists_mark_wire (shortest wire.tie rank)
    exact ⟨c, by rw [chars_real]; exact List.mem_append_right _ hc, hmark⟩

theorem chars_inj {m n : Json.Numeral} (hm : Finite (.number m)) (hn : Finite (.number n))
    (h : m.chars = n.chars) : m = n := by
  have hreal : (∃ d, m = .real d) ↔ ∃ d, n = .real d := by
    rw [← exists_mark_iff hm, ← exists_mark_iff hn, h]
  have hsign : ∀ k l : Nat, natDigits k ≠ '-' :: natDigits l := by
    intro k l e
    have : '-' ∈ natDigits k := by rw [e]; exact List.mem_cons_self
    cases isDigit_of_mem_natDigits this
  cases hm with
  | natural k =>
    cases hn with
    | natural l => rw [natDigits_inj h]
    | negative l => exact absurd h (hsign k l)
    | real => cases hreal.2 ⟨_, rfl⟩ with | intro _ e => cases e
  | negative k =>
    cases hn with
    | natural l => exact absurd h.symm (hsign l k)
    | negative l => rw [natDigits_inj (List.cons.inj h).2]
    | real => cases hreal.2 ⟨_, rfl⟩ with | intro _ e => cases e
  | real negative rank =>
    cases hn with
    | real negative' rank' =>
      obtain ⟨rfl, rfl⟩ := wire.finite_inj (String.toList_inj.1 h)
      rfl
    | _ => cases hreal.1 ⟨_, rfl⟩ with | intro _ e => cases e

/-! ## Forms -/

/-- What the first character of a text says of its value. -/
inductive Form where
  | null
  | bool (b : Bool)
  | number
  | text
  | array
  | object
  deriving DecidableEq

def form : Json → Form
  | .null => .null
  | .bool b => .bool b
  | .number _ => .number
  | .text _ => .text
  | .array _ => .array
  | .object _ => .object

def Form.ofChar? (c : Char) : Option Form :=
  if c.isDigit || c == '-' then some .number
  else if c = 'n' then some .null
  else if c = 't' then some (.bool true)
  else if c = 'f' then some (.bool false)
  else if c = '"' then some .text
  else if c = '[' then some .array
  else if c = '\x7b' then some .object
  else none

theorem compact_starts {v : Json} (h : v.Finite) :
    ∃ c cs, v.compact = c :: cs ∧ Form.ofChar? c = some v.form := by
  cases v with
  | null => exact ⟨'n', _, rfl, rfl⟩
  | bool b => cases b <;> exact ⟨_, _, rfl, rfl⟩
  | number n =>
    obtain ⟨negative, d, ds, e, hd, -⟩ := chars_eq_signed h
    cases negative with
    | true => exact ⟨'-', d :: ds, e, rfl⟩
    | false => exact ⟨d, ds, e, by simp [Form.ofChar?, hd, form]⟩
  | text s => exact ⟨'"', _, rfl, rfl⟩
  | array items => cases items <;> exact ⟨'[', _, rfl, rfl⟩
  | object members => rcases members with _ | ⟨⟨k, v⟩, rest⟩ <;> exact ⟨'\x7b', _, rfl, rfl⟩

theorem form_eq_of_compact {v w : Json} {rest rest' : List Char} (hv : v.Finite) (hw : w.Finite)
    (h : v.compact ++ rest = w.compact ++ rest') : v.form = w.form := by
  obtain ⟨c, cs, e, hc⟩ := compact_starts hv
  obtain ⟨d, ds, e', hd⟩ := compact_starts hw
  rw [e, e'] at h
  rw [(List.cons.inj h).1, hd] at hc
  exact (Option.some.inj hc).symm

/-- No value starts with the bracket that closes an array. -/
theorem compact_ne_close {v : Json} (hv : v.Finite) (rest rest' : List Char) :
    v.compact ++ rest ≠ ']' :: rest' := by
  intro h
  obtain ⟨c, cs, e, hc⟩ := compact_starts hv
  rw [e] at h
  rw [(List.cons.inj h).1] at hc
  cases hc

/-! ## Values -/

/-- A character that may stand behind a value. -/
def isSeparator (c : Char) : Bool := c == ',' || c == ']' || c == '\x7d'

/-- A text in which no bare word that comes before it goes on. -/
def Closes (rest : List Char) : Prop := ∀ c ∈ rest.head?, isSeparator c = true

theorem closes_items (vs : List Json) (rest : List Char) : Closes (compactItems vs ++ rest) := by
  cases vs with
  | nil => intro c hc; cases hc; rfl
  | cons v vs => intro c hc; cases hc; rfl

theorem closes_members (ms : List (String × Json)) (rest : List Char) :
    Closes (compactMembers ms ++ rest) := by
  rcases ms with _ | ⟨⟨k, v⟩, ms⟩
  · intro c hc; cases hc; rfl
  · intro c hc; cases hc; rfl

theorem chars_append_inj {m n : Json.Numeral} {rest rest' : List Char} (hm : Finite (.number m))
    (hn : Finite (.number n)) (hrest : Closes rest) (hrest' : Closes rest')
    (h : m.chars ++ rest = n.chars ++ rest') : m = n ∧ rest = rest' := by
  have hnot : ∀ c, isNumeric c = true → (!isSeparator c) = true := by
    intro c hc
    rw [Bool.not_eq_true', Bool.eq_false_iff]
    intro hsep
    have hsep : (c = ',' ∨ c = ']') ∨ c = '\x7d' := by simpa [isSeparator] using hsep
    rcases hsep with (rfl | rfl) | rfl <;> cases hc
  have hstop : ∀ {r : List Char}, Closes r → ∀ c ∈ r.head?, (!isSeparator c) = false := by
    intro r hr c hc
    rw [hr c hc]
    rfl
  obtain ⟨htake, hdrop⟩ := span_append (fun c hc => hnot c (isNumeric_of_mem_chars hm c hc))
    (hstop hrest)
  obtain ⟨htake', hdrop'⟩ := span_append (fun c hc => hnot c (isNumeric_of_mem_chars hn c hc))
    (hstop hrest')
  rw [h] at htake hdrop
  exact ⟨chars_inj hm hn (htake.symm.trans htake'), hdrop.symm.trans hdrop'⟩

/-- Behind the bracket an array is written like the items behind a comma. -/
theorem items_of_array {vs ws : List Json} {rest rest' : List Char} (hv : ∀ v ∈ vs, v.Finite)
    (hw : ∀ w ∈ ws, w.Finite) (h : compact (.array vs) ++ rest = compact (.array ws) ++ rest') :
    compactItems vs ++ rest = compactItems ws ++ rest' := by
  match vs, ws, h with
  | [], [], h => exact (List.cons.inj h).2
  | [], w :: ws, h =>
    have htail : w.compact ++ (compactItems ws ++ rest') = ']' :: rest := by
      simpa [compact] using h.symm
    exact absurd htail (compact_ne_close (hw w List.mem_cons_self) _ _)
  | v :: vs, [], h =>
    have htail : v.compact ++ (compactItems vs ++ rest) = ']' :: rest' := by
      simpa [compact] using h
    exact absurd htail (compact_ne_close (hv v List.mem_cons_self) _ _)
  | v :: vs, w :: ws, h => exact congrArg (',' :: ·) (List.cons.inj h).2

theorem members_of_object {ms ns : List (String × Json)} {rest rest' : List Char}
    (h : compact (.object ms) ++ rest = compact (.object ns) ++ rest') :
    compactMembers ms ++ rest = compactMembers ns ++ rest' := by
  match ms, ns, h with
  | [], [], h => exact (List.cons.inj h).2
  | [], (l, w) :: ns, h => cases (List.cons.inj (List.cons.inj h).2).1
  | (k, v) :: ms, [], h => cases (List.cons.inj (List.cons.inj h).2).1
  | (k, v) :: ms, (l, w) :: ns, h => exact congrArg (',' :: ·) (List.cons.inj h).2

mutual

/-- What a value is and where its text ends, both can be told from any text that starts with it. -/
theorem compact_inj : ∀ (v w : Json) {rest rest' : List Char}, v.Finite → w.Finite → Closes rest →
    Closes rest' → v.compact ++ rest = w.compact ++ rest' → v = w ∧ rest = rest'
  | .null, w, _, _, hv, hw, _, _, h => by
    have hform := form_eq_of_compact hv hw h
    cases w with
    | null => exact ⟨rfl, List.append_cancel_left h⟩
    | _ => cases hform
  | .bool b, w, _, _, hv, hw, _, _, h => by
    have hform := form_eq_of_compact hv hw h
    cases w with
    | bool b' =>
      obtain rfl := Form.bool.inj hform
      exact ⟨rfl, List.append_cancel_left h⟩
    | _ => cases hform
  | .number n, w, _, _, hv, hw, hrest, hrest', h => by
    have hform := form_eq_of_compact hv hw h
    cases w with
    | number n' =>
      obtain ⟨rfl, e⟩ := chars_append_inj hv hw hrest hrest' h
      exact ⟨rfl, e⟩
    | _ => cases hform
  | .text s, w, _, _, hv, hw, _, _, h => by
    have hform := form_eq_of_compact hv hw h
    cases w with
    | text s' =>
      obtain ⟨rfl, e⟩ := quote_inj h
      exact ⟨rfl, e⟩
    | _ => cases hform
  | .array vs, w, _, _, hv, hw, _, _, h => by
    have hform := form_eq_of_compact hv hw h
    cases w with
    | array ws =>
      have hvs := hv.items
      have hws := hw.items
      obtain ⟨rfl, e⟩ := items_inj vs ws hvs hws (items_of_array hvs hws h)
      exact ⟨rfl, e⟩
    | _ => cases hform
  | .object ms, w, _, _, hv, hw, _, _, h => by
    have hform := form_eq_of_compact hv hw h
    cases w with
    | object ns =>
      obtain ⟨rfl, e⟩ := members_inj ms ns hv.members hw.members (members_of_object h)
      exact ⟨rfl, e⟩
    | _ => cases hform

theorem items_inj : ∀ (vs ws : List Json) {rest rest' : List Char}, (∀ v ∈ vs, v.Finite) →
    (∀ w ∈ ws, w.Finite) → compactItems vs ++ rest = compactItems ws ++ rest' →
    vs = ws ∧ rest = rest'
  | [], [], _, _, _, _, h => ⟨rfl, (List.cons.inj h).2⟩
  | [], w :: ws, _, _, _, _, h => nomatch (List.cons.inj h).1
  | v :: vs, [], _, _, _, _, h => nomatch (List.cons.inj h).1
  | v :: vs, w :: ws, _, _, hv, hw, h => by
    obtain ⟨hv, hvs⟩ := List.forall_mem_cons.1 hv
    obtain ⟨hw, hws⟩ := List.forall_mem_cons.1 hw
    simp only [compactItems, List.cons_append, List.append_assoc, List.cons.injEq, true_and] at h
    obtain ⟨rfl, htail⟩ := compact_inj v w hv hw (closes_items vs _) (closes_items ws _) h
    obtain ⟨rfl, e⟩ := items_inj vs ws hvs hws htail
    exact ⟨rfl, e⟩

theorem members_inj : ∀ (ms ns : List (String × Json)) {rest rest' : List Char},
    (∀ m ∈ ms, m.2.Finite) → (∀ n ∈ ns, n.2.Finite) →
    compactMembers ms ++ rest = compactMembers ns ++ rest' → ms = ns ∧ rest = rest'
  | [], [], _, _, _, _, h => ⟨rfl, (List.cons.inj h).2⟩
  | [], (l, w) :: ns, _, _, _, _, h => nomatch (List.cons.inj h).1
  | (k, v) :: ms, [], _, _, _, _, h => nomatch (List.cons.inj h).1
  | (k, v) :: ms, (l, w) :: ns, _, _, hv, hw, h => by
    obtain ⟨hv, hvs⟩ := List.forall_mem_cons.1 hv
    obtain ⟨hw, hws⟩ := List.forall_mem_cons.1 hw
    simp only [compactMembers, List.cons_append, List.append_assoc, List.cons.injEq, true_and] at h
    obtain ⟨rfl, hvalue⟩ := quote_inj h
    obtain ⟨rfl, htail⟩ := compact_inj v w hv hw (closes_members ms _) (closes_members ns _)
      (List.cons.inj hvalue).2
    obtain ⟨rfl, e⟩ := members_inj ms ns hvs hws htail
    exact ⟨rfl, e⟩

end

/-- Two values with one text are one value. -/
theorem render_inj {v w : Json} (hv : v.Finite) (hw : w.Finite) (h : v.render = w.render) :
    v = w := by
  have hnil : Closes [] := by intro c hc; cases hc
  have hcompact : v.compact ++ [] = w.compact ++ [] := by
    rw [String.ofList_inj.1 h]
  exact (compact_inj v w hv hw hnil hnil hcompact).1

end CrossFilter.Json
