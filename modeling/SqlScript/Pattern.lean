import SqlScript.Text.WordChar
import SqlScript.Text.Words
import SqlScript.Token

/-!
The lexical forms of a script. A form says how many characters at the front of a text it covers,
none when the text does not begin with it. No form looks at what stands before.
-/

set_option autoImplicit false

namespace SqlScript

/-- A quoting style: where `doubles` holds a closing character written twice stands for itself,
where `backslash` holds a backslash does so for the character behind it. -/
structure Quoting where
  opening : Char
  closing : Char
  doubles : Bool
  backslash : Bool
  deriving DecidableEq, Repr

/-- The length of what follows the opening character, its closing character included. A quotation
that is never closed takes all of the text. -/
def Quoting.bodyLength (q : Quoting) : List Char → Nat
  | [] => 0
  | [_] => 1
  | c :: d :: r =>
    if q.backslash && c == '\\' then 2 + q.bodyLength r
    else if c == q.closing then
      if q.doubles && d == q.closing then 2 + q.bodyLength r else 1
    else 1 + q.bodyLength (d :: r)

theorem Quoting.bodyLength_le (q : Quoting) (s : List Char) : q.bodyLength s ≤ s.length := by
  fun_induction q.bodyLength s <;> simp_all <;> omega

def lengthThrough (mark : List Char) : List Char → Nat
  | [] => 0
  | c :: r => if mark.isPrefixOf (c :: r) then mark.length else 1 + lengthThrough mark r

theorem lengthThrough_le (mark s : List Char) : lengthThrough mark s ≤ s.length := by
  induction s with
  | nil => simp [lengthThrough]
  | cons c r ih =>
    rw [lengthThrough]
    split
    · next h => exact (List.isPrefixOf_iff_prefix.1 h).length_le
    · simp only [List.length_cons]; omega

def isTagChar (c : Char) : Bool := c.isAlphanum || c == '_'

def dollarTag? : List Char → Option (List Char)
  | '$' :: r =>
    let name := r.takeWhile isTagChar
    match name.head?, r.dropWhile isTagChar with
    | none, '$' :: _ => some ['$', '$']
    | some c, '$' :: _ => if c.isDigit then none else some ('$' :: name ++ ['$'])
    | _, _ => none
  | _ => none

inductive Pattern where
  | blanks
  | lineComment (mark : List Char)
  | blockComment
  | quoted (q : Quoting)
  | dollarQuoted
  | semicolon
  | word
  | anyChar
  deriving DecidableEq, Repr

def Pattern.kind : Pattern → TokenKind
  | .blanks => .whitespace
  | .lineComment _ => .lineComment
  | .blockComment => .blockComment
  | .quoted _ | .dollarQuoted => .string
  | .semicolon => .semicolon
  | .word => .keyword
  | .anyChar => .other

def Pattern.kindOf (p : Pattern) (text : List Char) : TokenKind :=
  if p = .word ∧ Keyword.ofWord? text = none then .other else p.kind

/-- The number of characters at the front of the text that the form covers. -/
def Pattern.extent : Pattern → List Char → Nat
  | .blanks, s => (s.takeWhile Text.isBlank).length
  | .lineComment mark, s =>
    if mark.isPrefixOf s then
      mark.length + ((s.drop mark.length).takeWhile (· != '\n')).length
    else 0
  | .blockComment, '/' :: '*' :: r => 2 + lengthThrough ['*', '/'] r
  | .blockComment, _ => 0
  | .quoted q, c :: r => if c == q.opening then 1 + q.bodyLength r else 0
  | .quoted _, [] => 0
  | .dollarQuoted, s =>
    match dollarTag? s with
    | some tag => tag.length + lengthThrough tag (s.drop tag.length)
    | none => 0
  | .semicolon, ';' :: _ => 1
  | .semicolon, _ => 0
  | .word, c :: r =>
    if Text.isWordChar c then
      1 + (r.takeWhile fun d => Text.isWordChar d || d == '$').length
    else 0
  | .word, [] => 0
  | .anyChar, _ :: _ => 1
  | .anyChar, [] => 0

end SqlScript
