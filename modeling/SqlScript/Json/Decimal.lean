import SqlScript.Json.Reader
import SqlScript.Text.Spelling

/-!
Numbers with a fraction. A number is the nearest one of 53 binary digits, zero and infinity with
their signs. It shows by decimal digits: by a given number of them, by a given number of places
behind the point, or by the fewest that mean it.
-/

set_option autoImplicit false

namespace SqlScript.Json

open Float.Model (UnpackedFloat)

def exponentValue : List Char → Int
  | '-' :: ds => -(digitsValue ds : Int)
  | '+' :: ds => digitsValue ds
  | ds => digitsValue ds

/-- The number that a spelling means. A zero keeps its sign, and what is too large is infinite. -/
def realValue (spelling : List Char) : UnpackedFloat :=
  let unsigned := match spelling with
    | '-' :: r => r
    | r => r
  let whole := unsigned.takeWhile Char.isDigit
  let rest := unsigned.dropWhile Char.isDigit
  let fraction := match rest with
    | '.' :: r => r.takeWhile Char.isDigit
    | _ => []
  let exponent := exponentValue ((rest.dropWhile fun c => c != 'e' && c != 'E').drop 1)
  let x := (Float.Model.ofScientific (digitsValue (whole ++ fraction))
    (exponent - fraction.length)).unpack
  if spelling.head? = some '-' then x.neg else x

/-- Decimal digits, and the exponent of ten that belongs to the first of them. -/
structure Decimal where
  digits : List Char
  exponent : Int
  deriving DecidableEq, Repr

namespace Decimal

/-- The whole number that is nearest to a quotient, the even one of two. -/
def nearest (n d : Nat) : Nat :=
  (UnpackedFloat.accuracyOfFraction (n % d) d).roundToNearestEven (n / d)

def powerOfTen (k : Int) : Nat := Nat.pow 10 k.toNat

/-- The whole number that is nearest to `m * 2 ^ e * 10 ^ k`. -/
def scaled (m : Nat) (e k : Int) : Nat :=
  nearest ((m <<< e.toNat) * powerOfTen k) ((1 <<< (-e).toNat) * powerOfTen (-k))

def leadingExponent (m : Nat) (e : Int) : Int :=
  let n := m <<< e.toNat
  let d := 1 <<< (-e).toNat
  -- The lengths leave two exponents, one apart.
  let k : Int := (Text.decimal n).length - (Text.decimal d).length
  if d * powerOfTen k ≤ n * powerOfTen (-k) then k else k - 1

/-- `m * 2 ^ e` in a number of digits. Where it is rounded up to the next power of ten, there is one
digit more, and it is left out. -/
def rounded (m : Nat) (e : Int) (count : Nat) : Decimal :=
  if m = 0 then ⟨List.replicate count '0', 0⟩
  else
    let k := leadingExponent m e
    let digits := Text.decimal (scaled m e (count - 1 - k))
    ⟨digits.take count, k + (digits.length - count)⟩

def withoutZeros (digits : List Char) : List Char :=
  (digits.reverse.dropWhile (· == '0')).reverse

def isMagnitude (m : Nat) (e : Int) : UnpackedFloat → Bool
  | .finite _ m' e' _ => m' == m && e' == e
  | _ => false

/-- A number of `more + 1` digits that means `m * 2 ^ e`, if there is one. The next number counts
too, as those above a power of two lie further apart than those below. -/
def meaning? (m : Nat) (e : Int) (more : Nat) : Option Nat :=
  let k := leadingExponent m e
  let near := scaled m e (more - k)
  [near, near + 1].find? fun n => isMagnitude m e (Float.Model.ofScientific n (k - more)).unpack

def shortest (m : Nat) (e : Int) : Decimal :=
  match (List.range 17).findSome? fun more => (meaning? m e more).map (·, more) with
  | some (n, more) =>
    let digits := Text.decimal n
    ⟨withoutZeros digits, leadingExponent m e - more + (digits.length - 1)⟩
  | none => rounded m e 17

def parts (d : Decimal) : List Char × List Char :=
  if d.exponent < 0 then
    (['0'], List.replicate (-d.exponent - 1).toNat '0' ++ d.digits)
  else
    let width := d.exponent.toNat + 1
    (d.digits.take width ++ List.replicate (width - d.digits.length) '0', d.digits.drop width)

def join (keepsPoint : Bool) (p : List Char × List Char) : List Char :=
  if p.2.isEmpty && !keepsPoint then p.1 else p.1 ++ '.' :: p.2

def fixed (keepsPoint : Bool) (places m : Nat) (e : Int) : List Char :=
  let digits := (Text.decimal (scaled m e places)).leftpad (places + 1) '0'
  join keepsPoint (digits.take (digits.length - places), digits.drop (digits.length - places))

def scientific (keepsPoint : Bool) (letter : Char) (d : Decimal) : List Char :=
  join keepsPoint (d.digits.take 1, d.digits.drop 1) ++
    letter :: (if d.exponent < 0 then '-' else '+') ::
      (Text.decimal d.exponent.natAbs).leftpad 2 '0'

/-- With an exponent where that is far from zero, and without zeros at the end unless they are
kept. -/
def general (keepsZeros : Bool) (letter : Char) (count m : Nat) (e : Int) : List Char :=
  let d := rounded m e count
  let d := if keepsZeros then d else { d with digits := withoutZeros d.digits }
  if -4 ≤ d.exponent ∧ d.exponent < count then join keepsZeros d.parts
  else d.scientific keepsZeros letter

end Decimal

def signText : UnpackedFloat.Sign → List Char
  | .positive => []
  | .negative => ['-']

def realText : UnpackedFloat → List Char
  | .notANumber => "nan".toList
  | .infinity s => signText s ++ "inf".toList
  | .zero s => signText s ++ "0.0".toList
  | .finite s m e _ =>
    let d := Decimal.shortest m e
    if -4 ≤ d.exponent ∧ d.exponent < 16 then
      let (whole, fraction) := d.parts
      signText s ++ whole ++ '.' :: if fraction.isEmpty then ['0'] else fraction
    else signText s ++ d.scientific false 'e'

end SqlScript.Json
