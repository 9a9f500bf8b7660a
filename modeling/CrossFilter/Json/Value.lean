import CrossFilter.Number.Binary64

/-!
# JSON values

The values of a JSON text. A number without point and exponent is a whole number as long as 64
bits hold it, with or without sign; every other number is a double. Members are kept in order, and
equality takes their order into account.
-/

namespace CrossFilter

open Number

inductive Json.Numeral where
  /-- A whole number from zero up, below `2 ^ 64`. -/
  | natural (n : Nat)
  /-- The negative of a whole number from one up to `2 ^ 63`. -/
  | negative (n : Nat)
  | real (d : Binary64)
  deriving DecidableEq, Repr

inductive Json where
  | null
  | bool (b : Bool)
  | number (n : Json.Numeral)
  | text (s : String)
  | array (items : List Json)
  | object (members : List (String × Json))
  deriving Repr

namespace Json

/-- The double that a number stands for. -/
def Numeral.toReal : Json.Numeral → Binary64
  | .natural n => .ofRatio false n 1
  | .negative n => .ofRatio true n 1
  | .real d => d

/-- A double; JSON writes the infinities and NaN as null. -/
def ofReal (d : Binary64) : Json := if d.isFinite then .number (.real d) else .null

def ofNat (n : Nat) : Json := .number (.natural n)

def texts (ss : List String) : Json := .array (ss.map .text)

/-- An absent value is null. -/
def orNull {α : Type} (f : α → Json) : Option α → Json
  | none => .null
  | some a => f a

/-- The member of a key, in an object whose keys are distinct. -/
def member? (key : String) : List (String × Json) → Option Json
  | [] => none
  | (k, v) :: rest => if k == key then some v else member? key rest

/-! ## Equality -/

mutual

/-- Whether two values are equal, read off their constructors. -/
def same : Json → Json → Bool
  | .null, .null => true
  | .bool a, .bool b => a = b
  | .number m, .number n => m = n
  | .text s, .text t => s = t
  | .array xs, .array ys => sameItems xs ys
  | .object ms, .object ns => sameMembers ms ns
  | _, _ => false

def sameItems : List Json → List Json → Bool
  | [], [] => true
  | x :: xs, y :: ys => same x y && sameItems xs ys
  | _, _ => false

def sameMembers : List (String × Json) → List (String × Json) → Bool
  | [], [] => true
  | (k, v) :: ms, (l, w) :: ns => k = l && same v w && sameMembers ms ns
  | _, _ => false

end

mutual

theorem eq_of_same : ∀ v w : Json, same v w = true → v = w
  | .null, w, h => by cases w <;> simp_all [same]
  | .bool a, w, h => by cases w <;> simp_all [same]
  | .number n, w, h => by cases w <;> simp_all [same]
  | .text s, w, h => by cases w <;> simp_all [same]
  | .array xs, w, h => by
    cases w with
    | array ys => rw [eq_of_sameItems xs ys (by simpa [same] using h)]
    | _ => simp [same] at h
  | .object ms, w, h => by
    cases w with
    | object ns => rw [eq_of_sameMembers ms ns (by simpa [same] using h)]
    | _ => simp [same] at h

theorem eq_of_sameItems : ∀ xs ys : List Json, sameItems xs ys = true → xs = ys
  | [], [], _ => rfl
  | [], _ :: _, h => by simp [sameItems] at h
  | _ :: _, [], h => by simp [sameItems] at h
  | x :: xs, y :: ys, h => by
    simp only [sameItems, Bool.and_eq_true] at h
    rw [eq_of_same x y h.1, eq_of_sameItems xs ys h.2]

theorem eq_of_sameMembers : ∀ ms ns : List (String × Json), sameMembers ms ns = true → ms = ns
  | [], [], _ => rfl
  | [], _ :: _, h => by simp [sameMembers] at h
  | _ :: _, [], h => by simp [sameMembers] at h
  | (k, v) :: ms, (l, w) :: ns, h => by
    simp only [sameMembers, Bool.and_eq_true, decide_eq_true_eq] at h
    rw [h.1.1, eq_of_same v w h.1.2, eq_of_sameMembers ms ns h.2]

end

mutual

theorem same_self : ∀ v : Json, same v v = true
  | .null => rfl
  | .bool a => by simp [same]
  | .number n => by simp [same]
  | .text s => by simp [same]
  | .array xs => by rw [same, sameItems_self xs]
  | .object ms => by rw [same, sameMembers_self ms]

theorem sameItems_self : ∀ xs : List Json, sameItems xs xs = true
  | [] => rfl
  | x :: xs => by rw [sameItems, same_self x, sameItems_self xs]; rfl

theorem sameMembers_self : ∀ ms : List (String × Json), sameMembers ms ms = true
  | [] => rfl
  | (k, v) :: ms => by simp [sameMembers, same_self v, sameMembers_self ms]

end

instance : DecidableEq Json := fun v w =>
  decidable_of_iff (same v w = true) ⟨eq_of_same v w, fun h => h ▸ same_self v⟩

end Json

end CrossFilter
