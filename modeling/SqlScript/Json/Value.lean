/-!
JSON values. An object keeps its fields in the order in which they were written, and a number that
is not an integer keeps its spelling.
-/

set_option autoImplicit false

namespace SqlScript

inductive Json where
  | null
  | bool (b : Bool)
  | int (n : Int)
  | real (literal : List Char)
  | str (s : List Char)
  | arr (items : List Json)
  | obj (fields : List (List Char × Json))
  deriving Repr, Inhabited

namespace Json

abbrev Fields := List (List Char × Json)

def Fields.keys (fs : Fields) : List (List Char) := fs.map Prod.fst

/-- Writes a field: one that is there already keeps its place, a new one comes last. -/
def Fields.put (key : List Char) (value : Json) : Fields → Fields
  | [] => [(key, value)]
  | (k, v) :: r => if k = key then (key, value) :: r else (k, v) :: Fields.put key value r

def Fields.putAll (fs more : Fields) : Fields := more.foldl (fun acc f => acc.put f.1 f.2) fs

def Fields.get? (key : List Char) (fs : Fields) : Option Json :=
  (fs.find? (·.1 == key)).map Prod.snd

def field? (v : Json) (key : String) : Option Json :=
  match v with
  | .obj fs => Fields.get? key.toList fs
  | _ => none

def ofString (s : String) : Json := .str s.toList

end Json

end SqlScript
