import SqlScript.Dialect
import SqlScript.Text.Spelling
import SqlScript.Text.Words

/-!
From text to tokens. The token at the front of a text is that of the first form that covers at least
one character; the tokens of a script follow each other without a gap.
-/

set_option autoImplicit false

namespace SqlScript

def lexeme (forms : List Pattern) (s : List Char) : TokenKind × Nat :=
  match forms.find? (fun p => 0 < p.extent s) with
  | some p => let n := p.extent s; (p.kindOf (s.take n), n)
  | none => (.other, 1)

theorem lexeme_pos (forms : List Pattern) (s : List Char) : 0 < (lexeme forms s).2 := by
  unfold lexeme
  split
  · next p h => simpa using List.find?_some h
  · exact Nat.one_pos

def frontToken (forms : List Pattern) (start : Nat) (s : List Char) : Token :=
  let (kind, n) := lexeme forms s
  ⟨kind, s.take n, start, start + n⟩

def tokensFrom (forms : List Pattern) (start : Nat) (s : List Char) : List Token :=
  match s with
  | [] => []
  | c :: r =>
    let n := (lexeme forms (c :: r)).2
    frontToken forms start (c :: r) :: tokensFrom forms (start + n) ((c :: r).drop n)
termination_by s.length
decreasing_by
  have := lexeme_pos forms (c :: r)
  simp only [List.length_drop, List.length_cons]
  omega

@[simp] theorem tokensFrom_nil (forms : List Pattern) (start : Nat) :
    tokensFrom forms start [] = [] := by
  simp only [tokensFrom]

theorem tokensFrom_cons (forms : List Pattern) (start : Nat) (c : Char) (r : List Char) :
    tokensFrom forms start (c :: r) =
      frontToken forms start (c :: r) ::
        tokensFrom forms (start + (lexeme forms (c :: r)).2)
          ((c :: r).drop (lexeme forms (c :: r)).2) := by
  rw [tokensFrom]

def tokenize (d : Dialect) (script : List Char) : List Token := tokensFrom d.patterns 0 script

structure ScanError where
  position : Int
  length : Nat
  deriving DecidableEq, Repr

def ScanError.message (e : ScanError) : List Char :=
  "Cannot scan a token at position ".toList ++ Text.signedDecimal e.position ++
    " of a ".toList ++ Text.decimal e.length ++ " character script".toList

def tokenAt (d : Dialect) (script : List Char) (position : Int) : Except ScanError Token :=
  if position < 0 ∨ (script.length : Int) ≤ position then .error ⟨position, script.length⟩
  else .ok (frontToken d.patterns position.toNat (script.drop position.toNat))

structure OffsetError where
  position : Int
  deriving DecidableEq, Repr

def OffsetError.message (_ : OffsetError) : List Char :=
  "Python int too large to convert to C ssize_t".toList

def atOffset (position : Int) (find : Int → Option Token) : Except OffsetError (Option Token) :=
  if -0x8000000000000000 ≤ position ∧ position < 0x8000000000000000 then .ok (find position)
  else .error ⟨position⟩

/-- The word at an offset of a script, if one starts there. An offset before the script is kept as
the token's start, while the word is that at the script's front. -/
def wordAt (script : List Char) (position : Int) : Except OffsetError (Option Token) :=
  atOffset position fun position =>
    let rest := script.drop position.toNat
    match Pattern.word.extent rest with
    | 0 => none
    | n =>
      let text := rest.take n
      some ⟨Pattern.word.kindOf text, text, position, position.toNat + n⟩

/-- The dollar quotation at an offset of a script, if one starts there. Its text is the slice of the
script between the token's offsets. -/
def dollarQuotedAt (script : List Char) (position : Int) : Except OffsetError (Option Token) :=
  atOffset position fun position =>
    match Pattern.dollarQuoted.extent (script.drop position.toNat) with
    | 0 => none
    | n =>
      let stop : Int := position.toNat + n
      some ⟨.string, Text.slice script position stop, position, stop⟩

end SqlScript
