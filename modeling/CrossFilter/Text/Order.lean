/-!
# The order of texts

Texts are ordered by their code points: at the first difference, or else the shorter one comes
first. `precedes_trans`, `not_precedes_self` and `eq_or_precedes` say that this is a strict total
order.
-/

namespace CrossFilter.Text

def precedesList : List Char → List Char → Bool
  | _, [] => false
  | [], _ :: _ => true
  | a :: as, b :: bs => a.toNat < b.toNat || (a.toNat == b.toNat && precedesList as bs)

/-- Whether `a` comes before `b`. -/
def precedes (a b : String) : Bool := precedesList a.toList b.toList

/-! ## Laws -/

theorem precedesList_cons (a b : Char) (as bs : List Char) :
    precedesList (a :: as) (b :: bs) = true ↔
      a.toNat < b.toNat ∨ a.toNat = b.toNat ∧ precedesList as bs = true := by
  simp [precedesList]

theorem not_precedesList_self : ∀ as : List Char, precedesList as as = false
  | [] => rfl
  | a :: as => by simp [precedesList, not_precedesList_self as]

theorem precedesList_trans : ∀ {as bs cs : List Char},
    precedesList as bs = true → precedesList bs cs = true → precedesList as cs = true
  | _, [], _, h, _ => by simp [precedesList] at h
  | _, _ :: _, [], _, h => by simp [precedesList] at h
  | [], _ :: _, _ :: _, _, _ => rfl
  | a :: as, b :: bs, c :: cs, h, h' => by
    rw [precedesList_cons] at h h' ⊢
    rcases h with h | ⟨e, h⟩ <;> rcases h' with h' | ⟨e', h'⟩
    · exact .inl (Nat.lt_trans h h')
    · exact .inl (e' ▸ h)
    · exact .inl (e ▸ h')
    · exact .inr ⟨e.trans e', precedesList_trans h h'⟩

theorem eq_or_precedesList : ∀ as bs : List Char,
    as = bs ∨ precedesList as bs = true ∨ precedesList bs as = true
  | [], [] => .inl rfl
  | [], _ :: _ => .inr (.inl rfl)
  | _ :: _, [] => .inr (.inr rfl)
  | a :: as, b :: bs => by
    rw [precedesList_cons, precedesList_cons]
    rcases Nat.lt_trichotomy a.toNat b.toNat with h | h | h
    · exact .inr (.inl (.inl h))
    · rcases eq_or_precedesList as bs with e | h' | h'
      · exact .inl (by rw [Char.toNat_inj.1 h, e])
      · exact .inr (.inl (.inr ⟨h, h'⟩))
      · exact .inr (.inr (.inr ⟨h.symm, h'⟩))
    · exact .inr (.inr (.inl h))

theorem not_precedes_self (a : String) : precedes a a = false := not_precedesList_self a.toList

theorem precedes_trans {a b c : String} (h : precedes a b = true) (h' : precedes b c = true) :
    precedes a c = true := precedesList_trans h h'

theorem eq_or_precedes (a b : String) : a = b ∨ precedes a b = true ∨ precedes b a = true := by
  rcases eq_or_precedesList a.toList b.toList with h | h
  · exact .inl (String.toList_inj.1 h)
  · exact .inr h

end CrossFilter.Text
