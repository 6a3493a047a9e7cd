import SqlScript.Text.CodePoint

/-!
White space and the words that it separates, parts of a text between signed offsets, and the ends of
lines. A negative offset counts from the end, and one beyond either end stands for that end; a
carriage return, alone or before a line feed, ends a line as a line feed does.
-/

set_option autoImplicit false

namespace SqlScript.Text

def blankRanges : List CodeRange :=
  [(0x9, 0xD), (0x1C, 0x20), (0x85, 0x85), (0xA0, 0xA0), (0x1680, 0x1680), (0x2000, 0x200A),
   (0x2028, 0x2029), (0x202F, 0x202F), (0x205F, 0x205F), (0x3000, 0x3000)]

def isBlank (c : Char) : Bool := inRanges blankRanges c

def words : List Char → List (List Char)
  | [] => []
  | [c] => if isBlank c then [] else [[c]]
  | c :: d :: r =>
    if isBlank c then words (d :: r)
    else if isBlank d then [c] :: words (d :: r)
    else match words (d :: r) with
      | [] => [[c]]
      | w :: ws => (c :: w) :: ws

def unwords (ws : List (List Char)) : List Char := [' '].intercalate ws

def trim (s : List Char) : List Char :=
  ((s.dropWhile isBlank).reverse.dropWhile isBlank).reverse

/-- The place in a text of the given length that a signed offset names. -/
def place (length : Nat) (i : Int) : Nat :=
  if i < 0 then (length + i).toNat else min i.toNat length

@[simp] theorem place_natCast (length n : Nat) : place length (n : Int) = min n length := by
  have h : ¬ ((n : Int) < 0) := by omega
  simp [place, h]

def slice (s : List Char) (i j : Int) : List Char :=
  let first := place s.length i
  (s.drop first).take (place s.length j - first)

theorem slice_natCast (s : List Char) (i j : Nat) (hj : j ≤ s.length) :
    slice s i j = (s.drop i).take (j - i) := by
  simp only [slice, place_natCast, Nat.min_eq_left hj]
  by_cases h : i ≤ s.length
  · rw [Nat.min_eq_left h]
  · have hi : s.length ≤ i := by omega
    rw [Nat.min_eq_right hi, List.drop_length, List.drop_eq_nil_of_le hi]
    simp

def ellipsis : List Char := ['.', '.', '.']

/-- The words of the text on one line. A line that is too wide is cut so that it takes the given
width with the marks at its end; the place of the cut is a signed offset, so that a width below
three cuts from the end. -/
def shorten (s : List Char) (width : Int) : List Char :=
  let line := unwords (words s)
  if (line.length : Int) ≤ width then line else slice line 0 (width - 3) ++ ellipsis

def unifyNewlines : List Char → List Char
  | [] => []
  | '\r' :: '\n' :: r => '\n' :: unifyNewlines r
  | '\r' :: r => '\n' :: unifyNewlines r
  | c :: r => c :: unifyNewlines r

end SqlScript.Text
