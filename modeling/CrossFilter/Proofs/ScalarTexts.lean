import CrossFilter.Filters
import CrossFilter.Proofs.Bodies

/-!
# Values sent and read back

A scalar goes to the service as a JSON text. `typedValue_received_iff` says which of the values that
can be typed or clicked are read from that text as they were sent: texts, truth values and finite
numbers. NaN and the infinities can be typed, too, by name or as a number out of range, and are
received as null.

Readers of numbers differ in the last bit of some of them, so the reader is a parameter here.
`ReadsBack` is all that is asked of it, and the reader that takes the nearest double answers it for
every double (`readsBack_nearest`).
-/

namespace CrossFilter

namespace Json

open Number

/-! ## String literals -/

/-- One character of a literal, however it is spelled. -/
theorem scan_escape (read : List Token) (points : List Nat) (c : Char) (rest : List Char) :
    scan read (.quoted points) (escape c ++ rest) =
      scan read (.quoted (c.toNat :: points)) rest := by
  unfold escape
  split_ifs with h1 h2 h3 h4 h5 h6 h7 h8
  · subst h1; rfl
  · subst h2; rfl
  · subst h3; rfl
  · subst h4; rfl
  · subst h5; rfl
  · subst h6; rfl
  · subst h7; rfl
  · simp [scan, unit?_control h8]
  · simp [scan, h2, h8]

theorem scan_escapes (read : List Token) (cs rest : List Char) (points : List Nat) :
    scan read (.quoted points) (cs.flatMap escape ++ rest) =
      scan read (.quoted ((cs.map Char.toNat).reverse ++ points)) rest := by
  induction cs generalizing points with
  | nil => rfl
  | cons c cs ih =>
    rw [List.flatMap_cons, List.append_assoc, scan_escape, ih]
    simp

/-- No character is one half of a surrogate pair. -/
theorem textOf?_toNat (cs : List Char) : textOf? (cs.map Char.toNat) = some cs := by
  induction cs with
  | nil => rfl
  | cons c cs ih =>
    have hc : c.toNat < 0xd800 ∨ 0xdfff < c.toNat := c.valid.imp id fun h => h.1
    have hhigh : ¬ (0xd800 ≤ c.toNat ∧ c.toNat < 0xdc00) := by omega
    have hlow : ¬ (0xdc00 ≤ c.toNat ∧ c.toNat < 0xe000) := by omega
    unfold textOf?
    simp [hhigh, hlow, ih]

/-- A text is read from its literal. -/
theorem ofText?_quote (s : String) :
    Tree.ofText? (String.ofList (quote s)) = some (.string (some s)) := by
  have htokens : Token.ofText? (String.ofList (quote s)) =
      some [.string (s.toList.map Char.toNat)] := by
    rw [Token.ofText?, String.toList_ofList, quote]
    show scan [] (.quoted []) (s.toList.flatMap escape ++ ['"']) = _
    rw [scan_escapes]
    simp [scan, finish]
  have hspelled : Tree.spelled (s.toList.map Char.toNat) = some s := by
    rw [Tree.spelled, textOf?_toNat, Option.map_some, String.ofList_toList]
  rw [Tree.ofText?, htokens, ← hspelled]
  rfl

/-! ## Bare words -/

/-- The characters of a bare word. -/
structure IsBare (c : Char) : Prop where
  quote : c ≠ '"'
  space : isSpace c = false
  punctuation : punctuation? c = none

theorem isBare_of_isNumeric {c : Char} (h : isNumeric c = true) : IsBare c := by
  refine ⟨?_, ?_, ?_⟩
  · rintro rfl
    cases h
  · cases hs : isSpace c with
    | false => rfl
    | true =>
      simp only [isSpace, Bool.or_eq_true, beq_iff_eq] at hs
      rcases hs with ((rfl | rfl) | rfl) | rfl <;> cases h
  · unfold punctuation?
    split
    all_goals first | rfl | cases h

theorem scan_bare (read : List Token) {cs : List Char} (h : ∀ c ∈ cs, IsBare c)
    (word : List Char) :
    scan read (.bare word) cs = (finish (cs.reverse ++ word) read).map List.reverse := by
  induction cs generalizing word with
  | nil => rfl
  | cons c cs ih =>
    have hc := h c List.mem_cons_self
    rw [scan, hc.space, hc.punctuation]
    simp only [beq_iff_eq, hc.quote, if_false, Bool.false_eq_true]
    rw [ih fun d hd => h d (List.mem_cons_of_mem _ hd)]
    simp

/-- A text that can only be a number is read as the number it spells. -/
theorem ofText?_number {cs : List Char} (hne : cs ≠ []) (h : ∀ c ∈ cs, isNumeric c = true) :
    Tree.ofText? (String.ofList cs) = (literal? cs).map .number := by
  have hword : word? cs = (literal? cs).map .number := by
    have hname : ∀ name : String, (name.toList.any fun c => !isNumeric c) = true →
        (cs == name.toList) = false := by
      intro name hbad
      rw [beq_eq_false_iff_ne]
      rintro rfl
      obtain ⟨c, hc, hnot⟩ := List.any_eq_true.1 hbad
      simp [h c hc] at hnot
    rw [word?, hname "null" (by decide), hname "true" (by decide), hname "false" (by decide)]
    rfl
  have htokens : Token.ofText? (String.ofList cs) = (word? cs).map fun t => [t] := by
    rw [Token.ofText?, String.toList_ofList,
      scan_bare [] fun c hc => isBare_of_isNumeric (h c hc)]
    cases hw : word? cs <;> simp [finish, hne, hw]
  rw [Tree.ofText?, htokens, hword]
  cases literal? cs with
  | none => rfl
  | some l => rfl

/-! ## Numbers -/

/-- The power of ten that an exponent stands for. -/
def exponentValue : Option (Bool × List Char) → ℤ
  | none => 0
  | some (negative, ds) => if negative then -digitsValue ds else digitsValue ds

/-- The number that a literal spells, its sign aside. -/
def Literal.value (l : Literal) : ℚ :=
  digitsValue (l.whole ++ l.fraction) * 10 ^ (exponentValue l.exponent - l.fraction.length)

/-- Typed numbers and literals have the same exponents. -/
theorem exists_exponentPart? {tail : List Char} {e : ℤ} (h : exponent? tail = some e) :
    ∃ part, exponentPart? tail = some part ∧ exponentValue part = e := by
  cases tail with
  | nil => exact ⟨none, rfl, Option.some.inj h⟩
  | cons c cs =>
    have hpart : exponentPart? (c :: cs) = if c == 'e' || c == 'E' then
        (if (signed cs).2.isEmpty || !(signed cs).2.all Char.isDigit then none
          else some (some (signed cs))) else none := rfl
    simp only [exponent?, Option.ite_none_right_eq_some, Option.ite_none_left_eq_some,
      Option.some.injEq] at h
    obtain ⟨hletter, hdigits, rfl⟩ := h
    rw [hpart, if_pos hletter, if_neg hdigits]
    exact ⟨_, rfl, rfl⟩

theorem fractionPart?_pointed {fraction tail : List Char}
    (hf : ∀ c ∈ fraction, c.isDigit = true)
    (htail : ∀ c ∈ tail.head?, c.isDigit = false ∧ c ≠ '.') :
    fractionPart? (pointed fraction ++ tail) = some (fraction, tail) := by
  cases fraction with
  | nil =>
    show fractionPart? tail = _
    unfold fractionPart?
    split
    · exact absurd rfl (htail '.' rfl).2
    · rfl
  | cons d ds =>
    obtain ⟨htake, hdrop⟩ := span_append hf fun c hc => (htail c hc).1
    simp only [pointed, List.isEmpty_cons, Bool.false_eq_true, if_false, List.cons_append,
      fractionPart?]
    rw [← List.cons_append, htake, hdrop]
    rfl

theorem natDigits_head {n : Nat} {rest : List Char} (h : natDigits n = '0' :: rest) : n = 0 := by
  have hvalue : digitsValue rest = n := by
    rw [← digitsValue_natDigits n, h, digitsValue_cons]
    simp [digitValue]
  cases rest with
  | nil => exact hvalue.symm
  | cons c ds =>
    have hlt : n < 10 ^ (c :: ds).length := hvalue ▸ digitsValue_lt fun d hd =>
      isDigit_of_mem_natDigits (n := n) (h ▸ List.mem_cons_of_mem _ hd)
    have hle : (natDigits n).length ≤ (c :: ds).length :=
      (Nat.length_toDigits_le_iff (by decide) (by simp)).2 hlt
    rw [h] at hle
    simp at hle

/-- A zero before another digit, which no JSON number starts with. -/
def Padded (cs : List Char) : Prop := ∃ c rest, cs = '0' :: c :: rest ∧ c.isDigit = true

theorem not_padded_scientific (d : Decimal) (k : ℤ) : ¬ Padded (Layout.scientific d k) := by
  rintro ⟨c, rest, h, hc⟩
  obtain ⟨a, ds, ha⟩ := List.exists_cons_of_ne_nil (natDigits_ne_nil d.digits)
  unfold Layout.scientific at h
  dsimp only at h
  rw [ha] at h
  cases ds with
  | nil =>
    obtain rfl : 'e' = c := (List.cons.inj (List.cons.inj h).2).1
    cases hc
  | cons b ds =>
    obtain rfl : '.' = c := (List.cons.inj (List.cons.inj h).2).1
    cases hc

theorem not_padded_positional (l : Layout) {d : Decimal} (hd : d.digits = 0 → d.exponent = 0) :
    ¬ Padded (l.positional d) := by
  rintro ⟨c, rest, h, hc⟩
  obtain ⟨n, e⟩ := d
  rcases eq_or_ne n 0 with rfl | hn
  · obtain rfl : e = 0 := hd rfl
    have hzero : '0' :: (if l.pointed then ['.', '0'] else []) = '0' :: c :: rest := h
    cases hp : l.pointed with
    | false => simp [hp] at hzero
    | true =>
      obtain ⟨rfl, -⟩ : '.' = c ∧ ['0'] = rest := by simpa [hp] using hzero
      cases hc
  · obtain ⟨a, ds, ha⟩ := List.exists_cons_of_ne_nil (natDigits_ne_nil n)
    have hhead : a ≠ '0' := fun h0 => hn (natDigits_head (h0 ▸ ha))
    unfold Layout.positional at h
    dsimp only at h
    rw [ha] at h
    split at h
    · exact hhead (List.cons.inj h).1
    · split at h
      · next hplaces =>
        obtain ⟨k, hk⟩ : ∃ k, (a :: ds).length - (-e).toNat = k + 1 :=
          Nat.exists_eq_succ_of_ne_zero (Nat.sub_ne_zero_of_lt hplaces)
        rw [hk, List.take_succ_cons] at h
        exact hhead (List.cons.inj h).1
      · obtain rfl : '.' = c := (List.cons.inj (List.cons.inj h).2).1
        cases hc

theorem shortest_digits (tie : Tie) (rank : Nat) (h : (shortest tie rank).digits = 0) :
    (shortest tie rank).exponent = 0 := by
  have hrounds := rounds_shortest tie rank
  obtain rfl : rank = 0 := by
    apply rank_eq_zero_of_rounds hrounds
    rw [inUnits, Decimal.value, h, Nat.cast_zero, zero_mul, zero_mul, mul_zero]
    exact zero_lt_one
  rfl

/-- Digits that are not padded are a whole part. -/
theorem whole_of_not_padded {whole rest : List Char} (hne : whole ≠ [])
    (hw : ∀ c ∈ whole, c.isDigit = true) (hpad : ¬ Padded (whole ++ rest)) :
    (whole.isEmpty || (whole.head? == some '0' && decide (1 < whole.length))) = false := by
  cases whole with
  | nil => exact absurd rfl hne
  | cons a ds =>
    cases ds with
    | nil => simp
    | cons c ds =>
      have ha : a ≠ '0' := by
        rintro rfl
        exact hpad ⟨c, _, rfl, hw c (by simp)⟩
      simp [ha]

/-- What spells a number for the reader of typed numbers is a literal of the same number, unless it
is padded. -/
theorem literal?_of_spells {cs : List Char} {x : ℚ} (h : Spells cs x) (hpad : ¬ Padded cs)
    (negative : Bool) :
    ∃ l, literal? ((if negative then ['-'] else []) ++ cs) = some l ∧ l.negative = negative ∧
      (∀ c ∈ l.whole ++ l.fraction, c.isDigit = true) ∧ l.value = x := by
  obtain ⟨whole, fraction, tail, e, rfl, hwhole, hdigits, htail, rfl⟩ := h
  have hw : ∀ c ∈ whole, c.isDigit = true := fun c hc => hdigits c (List.mem_append_left _ hc)
  have hf : ∀ c ∈ fraction, c.isDigit = true := fun c hc => hdigits c (List.mem_append_right _ hc)
  obtain ⟨part, hpart, rfl⟩ := exists_exponentPart? htail
  have hafter := head_of_tail htail
  have hfraction := fractionPart?_pointed hf hafter
  rw [List.append_assoc] at hpad ⊢
  have hshort := whole_of_not_padded hwhole hw hpad
  obtain ⟨htake, hdrop⟩ := @span_whole whole fraction tail hw hafter
  refine ⟨⟨negative, whole, fraction, part⟩, ?_, rfl, hdigits, rfl⟩
  -- A text that starts with a digit has no sign.
  have hminus : ∀ cs, whole ++ (pointed fraction ++ tail) ≠ '-' :: cs := by
    intro cs hcs
    rw [hcs] at htake
    exact hwhole htake.symm
  generalize whole ++ (pointed fraction ++ tail) = body at htake hdrop hminus ⊢
  cases negative with
  | true => simp [literal?, htake, hdrop, hshort, hfraction, hpart]
  | false => simp [literal?, htake, hdrop, hshort, hfraction, hpart]

/-- The text of a finite double is a literal of its shortest digits. -/
theorem exists_literal (negative : Bool) (rank : Fin rankLimit) :
    ∃ l, literal? (wire.finite negative rank).toList = some l ∧ l.negative = negative ∧
      (∀ c ∈ l.whole ++ l.fraction, c.isDigit = true) ∧
      l.value = (shortest wire.tie rank).value := by
  rw [Layout.finite, String.toList_ofList]
  refine literal?_of_spells (spells_decimal wire _) ?_ negative
  unfold Layout.decimal
  dsimp only
  split
  · exact not_padded_positional wire (shortest_digits wire.tie rank)
  · exact not_padded_scientific _ _

/-! ## Readers of numbers -/

/-- A reader of literals that takes the text of a double for this double. NaN and the infinities have
no text. -/
def ReadsBack (read : Literal → Option Json.Numeral) (d : Binary64) : Prop :=
  ∀ text l, jsonText? d = some text → literal? text.toList = some l →
    (read l).map Numeral.toReal = some d

/-- The reader that takes the nearest double. -/
def Numeral.nearest (l : Literal) : Json.Numeral :=
  .real (nearestDecimal l.negative (l.whole ++ l.fraction)
    (exponentValue l.exponent - l.fraction.length))

/-- Shortest digits are enough for the nearest double. -/
theorem readsBack_nearest (d : Binary64) : ReadsBack (fun l => some (.nearest l)) d := by
  intro text l htext hl
  cases d with
  | nan => cases htext
  | infinite negative => cases htext
  | finite negative rank =>
    cases htext
    obtain ⟨l', hl', rfl, hdigits, hvalue⟩ := exists_literal negative rank
    rw [hl] at hl'
    cases hl'
    have hrounds := rounds_shortest wire.tie rank
    rw [← hvalue] at hrounds
    have hread := nearestDecimal_of_rounds l.negative hdigits rank.isLt hrounds
    simp [Numeral.nearest, Numeral.toReal, hread, Binary64.ofRank, rank.isLt]

end Json

/-! ## Scalars -/

open Json Number

namespace Scalar

/-- The scalar of a tree, its numbers read by `read`. -/
def ofTree? (read : Literal → Option Json.Numeral) : Tree → Option Scalar
  | .null => some .null
  | .bool b => some (.bool b)
  | .number l => (read l).map fun n => .number n.toReal
  | .string s => s.map .text
  | _ => none

/-- The scalar that a JSON text spells to a reader of numbers. -/
def readWith? (read : Literal → Option Json.Numeral) (s : String) : Option Scalar :=
  (Tree.ofText? s).bind (ofTree? read)

/-- Arrays and objects are no scalars, however deep they are. -/
theorem ofTree?_ofLiteral? (t : Tree) : ofTree? Numeral.ofLiteral? t = t.value?.bind ofJson? := by
  cases t with
  | null => rfl
  | bool b => rfl
  | number l =>
    show Option.map _ _ = (Option.map Json.number _).bind ofJson?
    rw [Option.bind_map]
    exact Option.map_eq_bind
  | string s => cases s <;> rfl
  | array items =>
    show none = (Option.map Json.array _).bind ofJson?
    rw [Option.bind_map]
    exact (Option.bind_fun_none _).symm
  | object members =>
    show none = (Option.map (fun ms => Json.object (keepLast ms)) _).bind ofJson?
    rw [Option.bind_map]
    exact (Option.bind_fun_none _).symm

/-- With the library's own reader of numbers this is its reader of scalars. -/
theorem readWith?_ofLiteral? (s : String) : readWith? Numeral.ofLiteral? s = ofText? s := by
  show (Tree.ofText? s).bind _ = ((Tree.ofText? s).bind Tree.value?).bind ofJson?
  rw [Option.bind_assoc, funext ofTree?_ofLiteral?]

variable {read : Literal → Option Json.Numeral}

/-- What a scalar is to its reader: NaN and the infinities have become null. -/
def received : Scalar → Scalar
  | .number d => if d.isFinite then .number d else .null
  | v => v

theorem received_eq_self_iff {v : Scalar} : v.received = v ↔ v.Finite := by
  unfold Finite
  cases v with
  | null => simp [received]
  | bool b => simp [received]
  | text s => simp [received]
  | number d => cases h : d.isFinite <;> simp [received, h]

theorem readWith?_null : readWith? read "null" = some .null := rfl

theorem readWith?_finite {negative : Bool} {rank : Fin rankLimit}
    (hread : ReadsBack read (.finite negative rank)) :
    readWith? read (number (.finite negative rank)).toJson.render =
      some (.number (.finite negative rank)) := by
  obtain ⟨l, hl, -⟩ := exists_literal negative rank
  obtain ⟨sign, d, ds, hchars, -, -⟩ := chars_eq_signed (.real negative rank)
  have hne : (Numeral.real (.finite negative rank)).chars ≠ [] := by simp [hchars]
  have htree : Tree.ofText? (number (.finite negative rank)).toJson.render = some (.number l) := by
    have hl' : literal? (Numeral.real (.finite negative rank)).chars = some l := hl
    show Tree.ofText? (String.ofList (Numeral.real (.finite negative rank)).chars) = _
    rw [ofText?_number hne (isNumeric_of_mem_chars (.real negative rank)), hl']
    rfl
  obtain ⟨n, hn, hreal⟩ := Option.map_eq_some_iff.1 (hread _ l rfl hl)
  rw [readWith?, htree, Option.bind_some, ofTree?, hn, Option.map_some, hreal]

/-- A scalar is read back from its text, unless it is a number that is not finite. -/
theorem readWith?_toJson {v : Scalar} (hread : ∀ d, v = .number d → ReadsBack read d) :
    readWith? read v.toJson.render = some v.received := by
  cases v with
  | null => exact readWith?_null
  | bool b => cases b <;> rfl
  | text s =>
    show readWith? read (String.ofList (quote s)) = _
    rw [readWith?, ofText?_quote]
    rfl
  | number d =>
    cases d with
    | nan => exact readWith?_null
    | infinite negative => exact readWith?_null
    | finite negative rank => exact readWith?_finite (hread _ rfl)

/-- Only a column of numbers takes a text for a number. -/
theorem finite_typedValue_iff {type : Option ColumnType} {raw : String} :
    (typedValue type raw).Finite ↔ (type.any ColumnType.isNumeric = true →
      ∀ d, real? (Text.trim raw) = some d → d.isFinite = true) := by
  have hnumeric : (((real? (Text.trim raw)).map Scalar.number).getD (.text raw)).Finite ↔
      ∀ d, real? (Text.trim raw) = some d → d.isFinite = true := by
    cases real? (Text.trim raw) with
    | none => simp [Finite]
    | some d => simp [Finite]
  cases type with
  | none => simp [typedValue, Finite]
  | some type =>
    cases type with
    | integer => simpa [typedValue, ColumnType.isNumeric] using hnumeric
    | decimal => simpa [typedValue, ColumnType.isNumeric] using hnumeric
    | boolean =>
      unfold typedValue
      dsimp only
      split_ifs <;> simp [Finite, ColumnType.isNumeric]
    | _ => simp [typedValue, Finite, ColumnType.isNumeric]

/-- What is typed or clicked means the same to the service as to the view, unless a column of numbers
takes it for NaN or an infinity. -/
theorem typedValue_received_iff {type : Option ColumnType} {raw : String}
    (hread : ∀ d, typedValue type raw = .number d → ReadsBack read d) :
    readWith? read (typedValue type raw).toJson.render = some (typedValue type raw) ↔
      (type.any ColumnType.isNumeric = true →
        ∀ d, real? (Text.trim raw) = some d → d.isFinite = true) := by
  rw [readWith?_toJson hread, Option.some.injEq, received_eq_self_iff, finite_typedValue_iff]

/-- A tenth, typed with blanks around it. The reader of numbers need not be exact everywhere. -/
theorem typedValue_received_iff_tenth :
    typedValue (some .decimal) " 0.1 " = .number (.ofRatio false 1 10) ∧
    ReadsBack Numeral.ofLiteral? (.ofRatio false 1 10) ∧
    (readWith? Numeral.ofLiteral? (typedValue (some .decimal) " 0.1 ").toJson.render =
        some (typedValue (some .decimal) " 0.1 ") ↔
      ((some ColumnType.decimal).any ColumnType.isNumeric = true →
        ∀ d, real? (Text.trim " 0.1 ") = some d → d.isFinite = true)) := by
  have htyped : typedValue (some .decimal) " 0.1 " = .number (.ofRatio false 1 10) := by
    decide +kernel
  have hread : ReadsBack Numeral.ofLiteral? (.ofRatio false 1 10) := by
    have htext : jsonText? (.ofRatio false 1 10) = some "0.1" := by decide +kernel
    have hliteral : literal? "0.1".toList = some ⟨false, ['0'], ['1'], none⟩ := by decide
    intro text l ht hl
    obtain rfl : "0.1" = text := Option.some.inj (htext.symm.trans ht)
    obtain rfl := Option.some.inj (hliteral.symm.trans hl)
    decide +kernel
  refine ⟨htyped, hread, typedValue_received_iff fun d hd => ?_⟩
  obtain rfl : Binary64.ofRatio false 1 10 = d := number.inj (htyped.symm.trans hd)
  exact hread

/-- NaN and a number out of range are typed as numbers, and every reader gets null. -/
theorem nan_received_as_null :
    typedValue (some .decimal) "NaN" = .number .nan ∧
    typedValue (some .decimal) "1e999" = .number (.infinite false) ∧
    ∀ raw ∈ ["NaN", "1e999"],
      (∀ read, readWith? read (typedValue (some .decimal) raw).toJson.render = some .null) ∧
      ofText? (typedValue (some .decimal) raw).toJson.render ≠
        some (typedValue (some .decimal) raw) := by
  have hnan : typedValue (some .decimal) "NaN" = .number .nan := by decide +kernel
  have hlarge : typedValue (some .decimal) "1e999" = .number (.infinite false) := by decide +kernel
  refine ⟨hnan, hlarge, fun raw hraw => ?_⟩
  have hnull : (typedValue (some .decimal) raw).toJson.render = "null" ∧
      typedValue (some .decimal) raw ≠ .null := by
    rcases List.mem_pair.1 hraw with rfl | rfl
    · rw [hnan]
      exact ⟨rfl, by simp⟩
    · rw [hlarge]
      exact ⟨rfl, by simp⟩
  rw [hnull.1, ← readWith?_ofLiteral?, readWith?_null]
  exact ⟨fun read => readWith?_null, fun h => hnull.2 (Option.some.inj h).symm⟩

end Scalar

end CrossFilter
