import SqlScript.Json.Value

/-!
Reading JSON text. The reader takes what the grammar derives, white space between the parts
included, and refuses a surrogate that stands alone.
-/

set_option autoImplicit false

namespace SqlScript.Json

def isSpace (c : Char) : Bool := c == ' ' || c == '\t' || c == '\n' || c == '\r'

def skipSpace (s : List Char) : List Char := s.dropWhile isSpace

def hexDigit? (c : Char) : Option Nat :=
  if '0' ≤ c ∧ c ≤ '9' then some (c.toNat - 48)
  else if 'a' ≤ c ∧ c ≤ 'f' then some (c.toNat - 87)
  else if 'A' ≤ c ∧ c ≤ 'F' then some (c.toNat - 55)
  else none

def hexCode? (a b c d : Char) : Option Nat := do
  let a ← hexDigit? a
  let b ← hexDigit? b
  let c ← hexDigit? c
  let d ← hexDigit? d
  pure (((a * 16 + b) * 16 + c) * 16 + d)

def simpleEscape? : Char → Option Char
  | '"' => some '"'
  | '\\' => some '\\'
  | '/' => some '/'
  | 'b' => some '\x08'
  | 'f' => some '\x0c'
  | 'n' => some '\n'
  | 'r' => some '\r'
  | 't' => some '\t'
  | _ => none

def readCodes : List Char → Option (List Nat × List Char)
  | [] => none
  | '"' :: r => some ([], r)
  | '\\' :: 'u' :: a :: b :: c :: d :: r => do
    let n ← hexCode? a b c d
    let (ns, rest) ← readCodes r
    pure (n :: ns, rest)
  | '\\' :: e :: r => do
    let c ← simpleEscape? e
    let (ns, rest) ← readCodes r
    pure (c.toNat :: ns, rest)
  | c :: r =>
    if c.toNat < 0x20 || c == '\\' then none
    else do
      let (ns, rest) ← readCodes r
      pure (c.toNat :: ns, rest)

def isHighSurrogate (n : Nat) : Bool := 0xD800 ≤ n && n < 0xDC00

def isLowSurrogate (n : Nat) : Bool := 0xDC00 ≤ n && n < 0xE000

/-- The characters of a list of codes, in which a pair of surrogates stands for one character. -/
def charsOfCodes : List Nat → Option (List Char)
  | [] => some []
  | [n] => if isHighSurrogate n || isLowSurrogate n then none else some [Char.ofNat n]
  | n :: m :: r =>
    if isHighSurrogate n then
      if isLowSurrogate m then
        (charsOfCodes r).map (Char.ofNat (0x10000 + (n - 0xD800) * 0x400 + (m - 0xDC00)) :: ·)
      else none
    else if isLowSurrogate n then none
    else (charsOfCodes (m :: r)).map (Char.ofNat n :: ·)

def readString (s : List Char) : Option (List Char × List Char) := do
  let (codes, rest) ← readCodes s
  let chars ← charsOfCodes codes
  pure (chars, rest)

def digitsValue (ds : List Char) : Nat := ds.foldl (fun n d => n * 10 + (d.toNat - 48)) 0

def isNatural : List Char → Bool
  | [] => false
  | [d] => d.isDigit
  | d :: ds => d.isDigit && d != '0' && ds.all Char.isDigit

def integer? : List Char → Option Int
  | '-' :: ds => if isNatural ds then some (-(digitsValue ds : Int)) else none
  | ds => if isNatural ds then some (digitsValue ds) else none

def isExponent : List Char → Bool
  | [] => true
  | e :: r =>
    let digits := match r with
      | '+' :: ds => ds
      | '-' :: ds => ds
      | ds => ds
    (e == 'e' || e == 'E') && !digits.isEmpty && digits.all Char.isDigit

def isReal (literal : List Char) : Bool :=
  let unsigned := match literal with
    | '-' :: r => r
    | r => r
  let rest := unsigned.dropWhile Char.isDigit
  isNatural (unsigned.takeWhile Char.isDigit) &&
    match rest with
    | '.' :: r => r.head?.any Char.isDigit && isExponent (r.dropWhile Char.isDigit)
    | r => !r.isEmpty && isExponent r

def isNumberChar (c : Char) : Bool :=
  c.isDigit || c == '-' || c == '+' || c == '.' || c == 'e' || c == 'E'

def readNumber (s : List Char) : Option (Json × List Char) :=
  let literal := s.takeWhile isNumberChar
  match integer? literal with
  | some n => some (.int n, s.dropWhile isNumberChar)
  | none => if isReal literal then some (.real literal, s.dropWhile isNumberChar) else none

mutual

def readValueFuel : Nat → List Char → Option (Json × List Char)
  | 0, _ => none
  | fuel + 1, s =>
    match skipSpace s with
    | 'n' :: 'u' :: 'l' :: 'l' :: r => some (.null, r)
    | 't' :: 'r' :: 'u' :: 'e' :: r => some (.bool true, r)
    | 'f' :: 'a' :: 'l' :: 's' :: 'e' :: r => some (.bool false, r)
    | '"' :: r => (readString r).map fun p => (.str p.1, p.2)
    | '[' :: r =>
      match skipSpace r with
      | ']' :: rest => some (.arr [], rest)
      | rest => (readItemsFuel fuel rest).map fun p => (.arr p.1, p.2)
    | '{' :: r =>
      match skipSpace r with
      | '}' :: rest => some (.obj [], rest)
      | rest => (readFieldsFuel fuel rest).map fun p => (.obj p.1, p.2)
    | r => readNumber r

def readItemsFuel : Nat → List Char → Option (List Json × List Char)
  | 0, _ => none
  | fuel + 1, s => do
    let (v, r) ← readValueFuel fuel s
    match skipSpace r with
    | ',' :: r => (readItemsFuel fuel r).map fun p => (v :: p.1, p.2)
    | ']' :: r => some ([v], r)
    | _ => none

def readFieldsFuel : Nat → List Char → Option (List (List Char × Json) × List Char)
  | 0, _ => none
  | fuel + 1, s =>
    match skipSpace s with
    | '"' :: r => do
      let (k, r) ← readString r
      match skipSpace r with
      | ':' :: r => do
        let (v, r) ← readValueFuel fuel r
        match skipSpace r with
        | ',' :: r => (readFieldsFuel fuel r).map fun p => ((k, v) :: p.1, p.2)
        | '}' :: r => some ([(k, v)], r)
        | _ => none
      | _ => none
    | _ => none

end

/-- The value that a text denotes. A bracket and the item behind it take two steps, so twice the
length of the text is fuel enough. -/
def read (s : List Char) : Option Json :=
  match readValueFuel (2 * s.length + 2) s with
  | some (v, r) => if (skipSpace r).isEmpty then some v else none
  | none => none

end SqlScript.Json
