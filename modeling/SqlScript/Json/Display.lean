import SqlScript.Json.Decimal

/-!
How a value shows in a message: texts as they are where they stand alone, and in quotes within a
list or an object.
-/

set_option autoImplicit false

namespace SqlScript.Json

def typeName : Json → String
  | .null => "NoneType"
  | .bool _ => "bool"
  | .int _ => "int"
  | .real _ => "float"
  | .str _ => "str"
  | .arr _ => "list"
  | .obj _ => "dict"

def isGiven : Json → Bool
  | .null => false
  | .bool b => b
  | .int n => n != 0
  | .real spelling => match realValue spelling with
    | .zero _ => false
    | _ => true
  | .str s => !s.isEmpty
  | .arr items => !items.isEmpty
  | .obj fields => !fields.isEmpty

mutual

/-- The value as it stands within another. -/
def literal : Json → List Char
  | .null => "None".toList
  | .bool true => "True".toList
  | .bool false => "False".toList
  | .int n => Text.signedDecimal n
  | .real spelling => realText (realValue spelling)
  | .str s => Text.quoted s
  | .arr items => '[' :: [',', ' '].intercalate (literalItems items) ++ [']']
  | .obj fields => '{' :: [',', ' '].intercalate (literalFields fields) ++ ['}']

def literalItems : List Json → List (List Char)
  | [] => []
  | v :: r => v.literal :: literalItems r

def literalFields : List (List Char × Json) → List (List Char)
  | [] => []
  | (k, v) :: r => (Text.quoted k ++ ':' :: ' ' :: v.literal) :: literalFields r

end

def display : Json → List Char
  | .str s => s
  | v => v.literal

end SqlScript.Json
