import SqlScript.Text.Upper

/-!
Reserved words and tokens. A word is reserved when its upper case is, so that letters with an ASCII
capital count beside the ASCII letters. A token carries its text and its place: the offset of its
first character and the offset just behind its last one.
-/

set_option autoImplicit false

namespace SqlScript

inductive Keyword where
  | select | insert | update | delete | truncate | create | drop
  | table | database | trigger | function
  | begin | end_ | if_ | loop | case_
  | or | replace | definer | language
  deriving DecidableEq, Repr

def Keyword.spelling : Keyword → String
  | .select => "SELECT"
  | .insert => "INSERT"
  | .update => "UPDATE"
  | .delete => "DELETE"
  | .truncate => "TRUNCATE"
  | .create => "CREATE"
  | .drop => "DROP"
  | .table => "TABLE"
  | .database => "DATABASE"
  | .trigger => "TRIGGER"
  | .function => "FUNCTION"
  | .begin => "BEGIN"
  | .end_ => "END"
  | .if_ => "IF"
  | .loop => "LOOP"
  | .case_ => "CASE"
  | .or => "OR"
  | .replace => "REPLACE"
  | .definer => "DEFINER"
  | .language => "LANGUAGE"

def Keyword.all : List Keyword :=
  [.select, .insert, .update, .delete, .truncate, .create, .drop, .table, .database, .trigger,
   .function, .begin, .end_, .if_, .loop, .case_, .or, .replace, .definer, .language]

def Keyword.ofWord? (word : List Char) : Option Keyword :=
  let capitals := Text.upper word
  Keyword.all.find? fun k => k.spelling.toList == capitals

theorem Keyword.upper_of_ofWord? {word : List Char} {k : Keyword}
    (h : Keyword.ofWord? word = some k) : Text.upper word = k.spelling.toList := by
  unfold Keyword.ofWord? at h
  have found := List.find?_some h
  exact (beq_iff_eq.1 found).symm

inductive TokenKind where
  | whitespace | lineComment | blockComment | string | semicolon | keyword | other
  deriving DecidableEq, Repr

def TokenKind.name : TokenKind → String
  | .whitespace => "whitespace"
  | .lineComment => "comment-inline"
  | .blockComment => "comment-block"
  | .string => "string"
  | .semicolon => "semicolon"
  | .keyword => "keyword"
  | .other => "unknown"

def TokenKind.all : List TokenKind :=
  [.whitespace, .lineComment, .blockComment, .string, .semicolon, .keyword, .other]

def TokenKind.isBlank : TokenKind → Bool
  | .whitespace | .lineComment | .blockComment => true
  | .string | .semicolon | .keyword | .other => false

structure Token where
  kind : TokenKind
  text : List Char
  start : Int
  stop : Int
  deriving DecidableEq, Repr

def Token.isBlank (t : Token) : Bool := t.kind.isBlank

/-- The reserved word that the token's text spells, whatever its kind. -/
def Token.word? (t : Token) : Option Keyword := Keyword.ofWord? t.text

def Token.keyword? (t : Token) : Option Keyword :=
  if t.kind = .keyword then t.word? else none

end SqlScript
