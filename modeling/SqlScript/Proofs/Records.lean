import SqlScript.Journal.Record
import SqlScript.Proofs.Printing

/-!
The structured line of a record: a single line with one object. The first writer of a key gives it
its place, and the last one its value.
-/

set_option autoImplicit false

namespace SqlScript

/-! ## Writing fields one after another -/

namespace Json.Fields

variable {fs writes : Fields} {key k : List Char} {value v : Json}

@[simp] theorem keys_nil : Fields.keys [] = [] := rfl

end Json.Fields

/-! ## The fields of an entry -/

namespace Entry

def writes (time : List Char) (id : Option (List Char)) (e : Entry) : Json.Fields :=
  e.baseFields time ++ correlationFields id ++ e.extra ++ e.faultFields

variable (time : List Char) (id : Option (List Char)) (e : Entry)

example : structuredLine ['T'] none
    { logger := ['l'], level := .info, message := ['\n'], origin := ⟨['m'], ['f'], 1⟩,
      extra := [("a".toList, .null), ("level".toList, .int 3)] } =
    ("\x7b\"timestamp\":\"T\",\"level\":3,\"logger\":\"l\",\"message\":\"\\n\",\"module\":\"m\"," ++
      "\"function\":\"f\",\"line\":1,\"a\":null\x7d").toList := by
  cbv

end Entry

/-! ## Messages with places -/

namespace Template

variable {s : Supply} {v : Json} {values : List Json} {offset : Nat}

def doubled (text : List Char) : List Char := text.flatMap fun c => if c = '%' then ['%', '%'] else [c]

end Template

namespace Record

variable (time : List Char) (id : Option (List Char)) (r : Record)

end Record

end SqlScript
