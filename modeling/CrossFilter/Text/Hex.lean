/-!
# Hexadecimal digits

The sixteen values of the digits, read in either letter case and written in lower case.
-/

namespace CrossFilter.Text

def hexValue? (c : Char) : Option Nat :=
  if c.isDigit then some (c.toNat - '0'.toNat)
  else if 'a' ≤ c && c ≤ 'f' then some (c.toNat - 'a'.toNat + 10)
  else if 'A' ≤ c && c ≤ 'F' then some (c.toNat - 'A'.toNat + 10)
  else none

def hexChar (n : Nat) : Char := Char.ofNat (if n < 10 then '0'.toNat + n else 'a'.toNat + (n - 10))

theorem hexValue?_hexChar {n : Nat} (h : n < 16) : hexValue? (hexChar n) = some n := by
  have : ∀ m : Fin 16, hexValue? (hexChar m) = some m.val := by decide
  exact this ⟨n, h⟩

end CrossFilter.Text
