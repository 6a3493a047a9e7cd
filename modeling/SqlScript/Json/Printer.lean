import SqlScript.Json.Value
import SqlScript.Text.Spelling

/-!
The encoder of JSON is not part of the program. This is the format that is assumed of it: no white
space, fields in their order, quotes, backslashes and control characters escaped, and every other
character as it stands.
-/

set_option autoImplicit false

namespace SqlScript.Json

def escapeChar (c : Char) : List Char :=
  if c == '"' then ['\\', '"']
  else if c == '\\' then ['\\', '\\']
  else if c == '\x08' then ['\\', 'b']
  else if c == '\t' then ['\\', 't']
  else if c == '\n' then ['\\', 'n']
  else if c == '\x0c' then ['\\', 'f']
  else if c == '\r' then ['\\', 'r']
  else if c.toNat < 0x20 then '\\' :: 'u' :: Text.hexField 4 c.toNat
  else [c]

def renderString (s : List Char) : List Char := '"' :: s.flatMap escapeChar ++ ['"']

def renderBool : Bool → List Char
  | true => ['t', 'r', 'u', 'e']
  | false => ['f', 'a', 'l', 's', 'e']

mutual

def render : Json → List Char
  | .null => ['n', 'u', 'l', 'l']
  | .bool b => renderBool b
  | .int n => Text.signedDecimal n
  | .real literal => literal
  | .str s => renderString s
  | .arr items => '[' :: [','].intercalate (renderItems items) ++ [']']
  | .obj fields => '{' :: [','].intercalate (renderFields fields) ++ ['}']

def renderItems : List Json → List (List Char)
  | [] => []
  | v :: r => v.render :: renderItems r

def renderFields : List (List Char × Json) → List (List Char)
  | [] => []
  | (k, v) :: r => (renderString k ++ ':' :: v.render) :: renderFields r

end

end SqlScript.Json
