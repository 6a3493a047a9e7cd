import SqlScript.Journal.Entry
import SqlScript.Json.Display

/-!
Records of the journal: entries whose messages still have their places to fill. A place begins with
a percent sign. Behind it may stand a key in brackets, flags, a width, a precision and a size without
a meaning; the letter of a conversion ends it. Two percent signs are one.
-/

set_option autoImplicit false

namespace SqlScript.Template

open Float.Model (UnpackedFloat)
open Json (Decimal)

inductive FillError where
  | tooFewValues
  | tooManyValues
  | noMapping
  | openKey
  | missingKey (key : List Char)
  | notCount
  | hugeWidth
  | hugePrecision
  | hugeCount (type : String)
  | incomplete
  | unsupported (letter : Char) (offset : Nat)
  | notNumber (letter : Char) (typeName : String)
  | notInteger (letter : Char) (typeName : String)
  | notReal (typeName : String)
  | infinite
  | notANumber
  | hugeInteger
  | notCharacter
  | noCode
  /-- The code of half a character: no text holds it. -/
  | halfCode
  deriving DecidableEq, Repr

namespace FillError

def className : FillError → String
  | .missingKey _ => "KeyError"
  | .openKey | .hugeWidth | .hugePrecision | .incomplete | .unsupported _ _ | .notANumber =>
    "ValueError"
  | .hugeCount _ | .infinite | .hugeInteger | .noCode => "OverflowError"
  | .halfCode => "UnicodeEncodeError"
  | _ => "TypeError"

def shownLetter (c : Char) : Char := if 31 ≤ c.toNat ∧ c.toNat ≤ 126 then c else '?'

def message : FillError → List Char
  | .tooFewValues => "not enough arguments for format string".toList
  | .tooManyValues => "not all arguments converted during string formatting".toList
  | .noMapping => "format requires a mapping".toList
  | .openKey => "incomplete format key".toList
  | .missingKey key => Text.quoted key
  | .notCount => "* wants int".toList
  | .hugeWidth => "width too big".toList
  | .hugePrecision => "precision too big".toList
  | .hugeCount type => "Python int too large to convert to C ".toList ++ type.toList
  | .incomplete => "incomplete format".toList
  | .unsupported letter offset =>
    "unsupported format character '".toList ++ [shownLetter letter] ++ "' (0x".toList ++
      Nat.toDigits 16 letter.toNat ++ ") at index ".toList ++ Text.decimal offset
  | .notNumber letter typeName =>
    '%' :: letter :: " format: a real number is required, not ".toList ++ typeName.toList
  | .notInteger letter typeName =>
    '%' :: letter :: " format: an integer is required, not ".toList ++ typeName.toList
  | .notReal typeName => "must be real number, not ".toList ++ typeName.toList
  | .infinite => "cannot convert float infinity to integer".toList
  | .notANumber => "cannot convert float NaN to integer".toList
  | .hugeInteger => "int too large to convert to float".toList
  | .notCharacter => "%c requires int or char".toList
  | .noCode => "%c arg not in range(0x110000)".toList
  | .halfCode => "surrogates not allowed".toList

end FillError

/-! ## Places -/

inductive Key where
  | closed (name : List Char)
  | unclosed
  deriving DecidableEq, Repr

inductive Count where
  | given (n : Nat)
  | taken
  deriving DecidableEq, Repr

/-- What stands behind a percent sign. Without a letter the message ends within the place. -/
structure Place where
  key : Option Key := none
  flags : List Char := []
  width : Option Count := none
  precision : Option Count := none
  letter : Option Char := none
  deriving DecidableEq, Repr

def splitKey : Nat → List Char → Option (List Char × List Char)
  | _, [] => none
  | 0, ')' :: r => some ([], r)
  | depth + 1, ')' :: r => (splitKey depth r).map fun p => (')' :: p.1, p.2)
  | depth, '(' :: r => (splitKey (depth + 1) r).map fun p => ('(' :: p.1, p.2)
  | depth, c :: r => (splitKey depth r).map fun p => (c :: p.1, p.2)

def readKey : List Char → Option Key × List Char
  | '(' :: r =>
    match splitKey 0 r with
    | some (name, rest) => (some (.closed name), rest)
    | none => (some .unclosed, [])
  | s => (none, s)

def isFlag (c : Char) : Bool := c == '-' || c == '+' || c == ' ' || c == '#' || c == '0'

def readCount : List Char → Option Count × List Char
  | '*' :: r => (some .taken, r)
  | s =>
    match s.takeWhile Char.isDigit with
    | [] => (none, s)
    | ds => (some (.given (Json.digitsValue ds)), s.dropWhile Char.isDigit)

def readPrecision : List Char → Option Count × List Char
  | '.' :: r => ((readCount r).1.getD (.given 0), (readCount r).2)
  | s => (none, s)

def skipSize : List Char → List Char
  | 'h' :: r | 'l' :: r | 'L' :: r => r
  | s => s

/-- The place behind a percent sign, and what follows it. -/
def readPlace (s : List Char) : Place × List Char :=
  let (key, s) := readKey s
  let flags := s.takeWhile isFlag
  let (width, s) := readCount (s.dropWhile isFlag)
  let (precision, s) := readPrecision s
  let s := skipSize s
  (⟨key, flags, width, precision, s.head?⟩, s.tail)

theorem length_behind_cons (c : Char) {r : List Char} {split : Option (List Char × List Char)}
    (h : ∀ p ∈ split, p.2.length ≤ r.length) :
    ∀ p ∈ split.map fun p => (c :: p.1, p.2), p.2.length ≤ (c :: r).length := by
  intro p hp
  obtain ⟨q, hq, rfl⟩ := Option.map_eq_some_iff.1 hp
  exact Nat.le_succ_of_le (h q hq)

theorem length_splitKey (depth : Nat) (s : List Char) :
    ∀ p ∈ splitKey depth s, p.2.length ≤ s.length := by
  fun_induction splitKey depth s with
  | case1 => simp
  | case2 r => simp
  | case3 depth r ih => exact length_behind_cons ')' ih
  | case4 depth r ih => exact length_behind_cons '(' ih
  | case5 depth c r _ _ _ ih => exact length_behind_cons c ih

theorem length_readKey (s : List Char) : (readKey s).2.length ≤ s.length := by
  unfold readKey
  split
  · split
    · rename_i hsplit
      exact Nat.le_succ_of_le (length_splitKey 0 _ _ hsplit)
    · simp
  · exact Nat.le_refl _

theorem length_dropWhile (p : Char → Bool) (s : List Char) :
    (s.dropWhile p).length ≤ s.length :=
  (List.dropWhile_suffix p).length_le

theorem length_readCount (s : List Char) : (readCount s).2.length ≤ s.length := by
  unfold readCount
  split
  · exact Nat.le_succ _
  · split
    · exact Nat.le_refl _
    · exact length_dropWhile _ _

theorem length_readPrecision (s : List Char) : (readPrecision s).2.length ≤ s.length := by
  unfold readPrecision
  split
  · exact Nat.le_succ_of_le (length_readCount _)
  · exact Nat.le_refl _

theorem length_skipSize (s : List Char) : (skipSize s).length ≤ s.length := by
  unfold skipSize
  split <;> simp

theorem length_readPlace (s : List Char) : (readPlace s).2.length ≤ s.length := by
  have hkey := length_readKey s
  have hflags := length_dropWhile isFlag (readKey s).2
  have hwidth := length_readCount ((readKey s).2.dropWhile isFlag)
  have hprecision := length_readPrecision (readCount ((readKey s).2.dropWhile isFlag)).2
  have hsize := length_skipSize (readPrecision (readCount ((readKey s).2.dropWhile isFlag)).2).2
  simp only [readPlace, List.length_tail]
  omega

inductive Segment where
  | text (c : Char)
  | place (p : Place) (offset : Nat)
  deriving DecidableEq, Repr

def segmentsFrom (offset : Nat) (s : List Char) : List Segment :=
  match s with
  | [] => []
  | '%' :: '%' :: r => .text '%' :: segmentsFrom (offset + 2) r
  | '%' :: r =>
    let last := offset + (r.length - (readPlace r).2.length)
    .place (readPlace r).1 last :: segmentsFrom (last + 1) (readPlace r).2
  | c :: r => .text c :: segmentsFrom (offset + 1) r
termination_by s.length
decreasing_by
  · exact Nat.lt_succ_of_lt (Nat.lt_succ_self r.length)
  · exact Nat.lt_succ_of_le (length_readPlace r)
  · exact Nat.lt_succ_self r.length

/-! ## Values -/

/-- The values that are left. Those of a mapping are taken by their keys as well. -/
structure Supply where
  fields? : Option Json.Fields
  left : List Json

namespace Supply

def ofValues : List Json → Supply
  | [.obj (f :: fs)] => ⟨some (f :: fs), [.obj (f :: fs)]⟩
  | values => ⟨none, values⟩

def next (s : Supply) : Except FillError (Json × Supply) :=
  match s.left with
  | [] => .error .tooFewValues
  | v :: r => .ok (v, { s with left := r })

def enter (s : Supply) (key : Option Key) : Except FillError Supply :=
  match key, s.fields? with
  | none, _ => .ok s
  | some _, none => .error .noMapping
  | some .unclosed, some _ => .error .openKey
  | some (.closed name), some fs =>
    match fs.get? name with
    | some v => .ok { s with left := [v] }
    | none => .error (.missingKey name)

end Supply

def wholeOf? : Json → Option Int
  | .int n => some n
  | .bool b => some b.toNat
  | _ => none

/-- The greatest count of a type, the type, and the error for what is written beyond that. -/
structure CountType where
  greatest : Int
  name : String
  tooBig : FillError

def widthType : CountType := ⟨0x7fffffffffffffff, "ssize_t", .hugeWidth⟩

def precisionType : CountType := ⟨0x7fffffff, "int", .hugePrecision⟩

def Supply.count (s : Supply) (t : CountType) (count : Option Count) :
    Except FillError (Option Int × Supply) :=
  match count with
  | none => .ok (none, s)
  | some (.given n) => if n ≤ t.greatest then .ok (some n, s) else .error t.tooBig
  | some .taken => do
    let (v, s) ← s.next
    match wholeOf? v with
    | none => .error .notCount
    | some i =>
      if -t.greatest - 1 ≤ i ∧ i ≤ t.greatest then .ok (some i, s) else .error (.hugeCount t.name)

/-! ## Conversions -/

structure Layout where
  flags : List Char
  width : Nat
  precision : Option Nat
  deriving DecidableEq, Repr

namespace Layout

def ofCounts (flags : List Char) (width precision : Option Int) : Layout where
  flags := if width.any (· < 0) then '-' :: flags else flags
  width := (width.getD 0).natAbs
  precision := precision.map Int.toNat

def has (l : Layout) (flag : Char) : Bool := l.flags.contains flag

def pad (l : Layout) (s : List Char) : List Char :=
  let gap := List.replicate (l.width - s.length) ' '
  if l.has '-' then s ++ gap else gap ++ s

def text (l : Layout) (s : List Char) : List Char :=
  l.pad (match l.precision with
    | some n => s.take n
    | none => s)

/-- A number by its sign, the mark of its base and its digits. Zeros that fill the width stand
behind the mark. -/
def number (l : Layout) (negative : Bool) (mark digits : List Char) : List Char :=
  let sign := if negative then ['-'] else if l.has '+' then ['+'] else if l.has ' ' then [' '] else []
  let front := sign ++ mark
  if l.has '0' && !l.has '-' then front ++ digits.leftpad (l.width - front.length) '0'
  else l.pad (front ++ digits)

def integer (l : Layout) (n : Int) (mark digits : List Char) : List Char :=
  l.number (n < 0) mark (digits.leftpad (l.precision.getD 0) '0')

def real (l : Layout) (letter : Char) (x : UnpackedFloat) : List Char :=
  let precision := l.precision.getD 6
  let magnitude (m : Nat) (e : Int) : List Char :=
    match letter.toLower with
    | 'f' => Decimal.fixed (l.has '#') precision m e
    | 'e' => (Decimal.rounded m e (precision + 1)).scientific (l.has '#') letter
    | _ => Decimal.general (l.has '#') (if letter.isUpper then 'E' else 'e') (max precision 1) m e
  let name (s : String) : List Char := (if letter.isUpper then s.toUpper else s).toList
  match x with
  | .notANumber => l.number false [] (name "nan")
  | .infinity s => l.number (s == .negative) [] (name "inf")
  | .zero s => l.number (s == .negative) [] (magnitude 0 0)
  | .finite s m e _ => l.number (s == .negative) [] (magnitude m e)

end Layout

def wholeNumber (letter : Char) : Json → Except FillError Int
  | .int n => .ok n
  | .bool b => .ok b.toNat
  | .real spelling =>
    match Json.realValue spelling with
    | .notANumber => .error .notANumber
    | .infinity _ => .error .infinite
    | x => .ok (x.toInt 0 0)
  | v => .error (.notNumber letter v.typeName)

def realNumber : Json → Except FillError UnpackedFloat
  | .real spelling => .ok (Json.realValue spelling)
  | v =>
    match wholeOf? v with
    | none => .error (.notReal v.typeName)
    | some n =>
      let x := (Float.Model.ofInt n).unpack
      if x.isInf then .error .hugeInteger else .ok x

def character : Json → Except FillError Char
  | .str [c] => .ok c
  | v =>
    match wholeOf? v with
    | none => .error .notCharacter
    | some n =>
      if n < 0 ∨ 0x110000 ≤ n then .error .noCode
      else if n.toNat.isValidChar then .ok (Char.ofNat n.toNat)
      else .error .halfCode

def basedDigits (letter : Char) (n : Nat) : List Char × List Char :=
  let digits := Nat.toDigits (if letter == 'o' then 8 else 16) n
  (['0', letter], if letter == 'X' then digits.map Char.toUpper else digits)

def asciiOnly (s : List Char) : List Char :=
  s.flatMap fun c => if c.toNat < 128 then [c] else Text.escapeCode c.toNat

def Layout.convert (l : Layout) (letter : Char) (offset : Nat) (v : Json) :
    Except FillError (List Char) :=
  match letter with
  | 's' => .ok (l.text v.display)
  | 'r' => .ok (l.text v.literal)
  | 'a' => .ok (l.text (asciiOnly v.literal))
  | 'c' => do
    let c ← character v
    pure (l.pad [c])
  | 'd' | 'i' | 'u' => do
    let n ← wholeNumber letter v
    pure (l.integer n [] (Text.decimal n.natAbs))
  | 'o' | 'x' | 'X' =>
    match wholeOf? v with
    | none => .error (.notInteger letter v.typeName)
    | some n =>
      let (mark, digits) := basedDigits letter n.natAbs
      .ok (l.integer n (if l.has '#' then mark else []) digits)
  | 'e' | 'E' | 'f' | 'F' | 'g' | 'G' => do
    let x ← realNumber v
    pure (l.real letter x)
  | _ => .error (.unsupported letter offset)

/-! ## Filling -/

/-- What stands in a place, and the values that are left. Those of a mapping leave none behind a
place. -/
def Place.fill (p : Place) (offset : Nat) (s : Supply) : Except FillError (List Char × Supply) := do
  let s ← s.enter p.key
  let (width, s) ← s.count widthType p.width
  let (precision, s) ← s.count precisionType p.precision
  let (shown, s) ← match p.letter with
    | none => .error .incomplete
    | some letter => do
      let (v, s) ← s.next
      let shown ← (Layout.ofCounts p.flags width precision).convert letter offset v
      pure (shown, s)
  if s.fields?.isSome && !s.left.isEmpty then .error .tooManyValues else pure (shown, s)

def fillSegments : List Segment → Supply → Except FillError (List Char)
  | [], s => if s.fields?.isNone && !s.left.isEmpty then .error .tooManyValues else .ok []
  | .text c :: r, s => do
    let rest ← fillSegments r s
    pure (c :: rest)
  | .place p offset :: r, s => do
    let (shown, s) ← p.fill offset s
    let rest ← fillSegments r s
    pure (shown ++ rest)

/-- The message with its places filled. Without values it is taken as it stands. -/
def fill (message : List Char) (values : List Json) : Except FillError (List Char) :=
  if values.isEmpty then .ok message
  else fillSegments (segmentsFrom 0 message) (.ofValues values)

end Template

structure Record where
  entry : Entry
  values : List Json

namespace Record

def filled (r : Record) : Except Template.FillError Entry := do
  let message ← Template.fill r.entry.message r.values
  pure { r.entry with message }

def structuredLine (time : List Char) (id : Option (List Char)) (r : Record) :
    Except Template.FillError (List Char) := do
  let e ← r.filled
  pure (e.structuredLine time id)

end Record

end SqlScript
