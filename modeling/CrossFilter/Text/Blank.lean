/-!
# Blank characters and letter case

Names, tags and numbers typed by a user are read after their surrounding blanks are cut off, and
words of a fixed vocabulary are compared without regard to letter case. A blank is any character
of the Unicode property `White_Space`; letter case is that of the letters A to Z alone, every
other character stands for itself.

`trimList_concat_isBlank` says that padding on the right never shows.
-/

namespace CrossFilter.Text

/-- The code points of `White_Space`, as closed ranges in ascending order. -/
def blankRanges : List (Nat × Nat) :=
  [(0x09, 0x0d), (0x20, 0x20), (0x85, 0x85), (0xa0, 0xa0), (0x1680, 0x1680), (0x2000, 0x200a),
   (0x2028, 0x2029), (0x202f, 0x202f), (0x205f, 0x205f), (0x3000, 0x3000)]

def isBlank (c : Char) : Bool :=
  blankRanges.any fun r => r.1 ≤ c.toNat && c.toNat ≤ r.2

/-- Drops the blanks at both ends. -/
def trimList (cs : List Char) : List Char :=
  ((cs.dropWhile isBlank).reverse.dropWhile isBlank).reverse

def trim (s : String) : String := String.ofList (trimList s.toList)

/-- A text with no character but blanks, the empty text included. -/
def allBlank (s : String) : Bool := s.toList.all isBlank

/-- Lower case for the letters A to Z. -/
def fold (s : String) : String := s.map Char.toLower

/-- The word that a padded text in any letter case stands for. -/
def word (s : String) : String := fold (trim s)

def startsWith (start s : String) : Bool := start.toList.isPrefixOf s.toList

def holdsList (part : List Char) : List Char → Bool
  | [] => part.isEmpty
  | c :: cs => part.isPrefixOf (c :: cs) || holdsList part cs

/-- Whether `part` stands somewhere inside `s`. -/
def holds (part s : String) : Bool := holdsList part.toList s.toList

/-- Cuts every leading `c`. -/
def dropLeading (c : Char) (s : String) : String := String.ofList (s.toList.dropWhile (· == c))

/-- Cuts every trailing `c`. -/
def dropTrailing (c : Char) (s : String) : String :=
  String.ofList (s.toList.reverse.dropWhile (· == c)).reverse

/-- The texts before and after the first `c`, if there is one. -/
def splitFirst? (c : Char) (s : String) : Option (String × String) :=
  match s.toList.dropWhile (· != c) with
  | [] => none
  | _ :: rest => some (String.ofList (s.toList.takeWhile (· != c)), String.ofList rest)

/-- The pieces between the occurrences of `c`, empty ones included. -/
def pieces (c : Char) : List Char → List (List Char)
  | [] => [[]]
  | d :: rest =>
    if d == c then [] :: pieces c rest
    else match pieces c rest with
      | [] => [[d]]
      | p :: ps => (d :: p) :: ps

def split (c : Char) (s : String) : List String := (pieces c s.toList).map String.ofList

/-! ## Laws -/

theorem allBlank_eq_false {s : String} {c : Char} (hc : c ∈ s.toList) (hb : isBlank c = false) :
    allBlank s = false := by
  rw [allBlank, List.all_eq_false]
  exact ⟨c, hc, by simp [hb]⟩

theorem dropWhile_isBlank_concat {c : Char} (h : isBlank c = true) :
    ∀ cs : List Char, (cs ++ [c]).dropWhile isBlank = [] ∧ cs.dropWhile isBlank = [] ∨
      (cs ++ [c]).dropWhile isBlank = cs.dropWhile isBlank ++ [c]
  | [] => by simp [h]
  | d :: cs => by
    by_cases hd : isBlank d = true
    · simpa [hd] using dropWhile_isBlank_concat h cs
    · simp [hd]

theorem trimList_concat_isBlank {c : Char} (h : isBlank c = true) (cs : List Char) :
    trimList (cs ++ [c]) = trimList cs := by
  unfold trimList
  rcases dropWhile_isBlank_concat h cs with ⟨e, e'⟩ | e
  · rw [e, e']
  · rw [e]; simp [h]

end CrossFilter.Text
