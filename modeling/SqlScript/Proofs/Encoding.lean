import SqlScript.Listing
import SqlScript.Proofs.Printing

/-!
Findings as JSON text, and how they are read back from it.
-/

set_option autoImplicit false

namespace SqlScript

def StatementType.ofName? (name : List Char) : Option StatementType :=
  all.find? fun t => t.name.toList == name

theorem StatementType.ofName?_name (t : StatementType) : ofName? t.name.toList = some t := by
  cases t <;> rfl

def ExecutionType.ofName? (name : List Char) : Option ExecutionType :=
  all.find? fun t => t.name.toList == name

theorem ExecutionType.ofName?_name (t : ExecutionType) : ofName? t.name.toList = some t := by
  cases t <;> rfl

/-- The finding in a record. Each of its parts is looked up by its key. -/
def Finding.ofJson? (v : Json) : Option Finding :=
  match v.field? "start", v.field? "end", v.field? "text", v.field? "type",
    v.field? "executionType" with
  | some (.int start), some (.int stop), some (.str text), some (.str type),
      some (.str execution) => do
    let type ← StatementType.ofName? type
    let execution ← ExecutionType.ofName? execution
    pure ⟨start, stop, text, type, execution⟩
  | _, _, _, _, _ => none

theorem Finding.ofJson?_json (f : Finding) : ofJson? f.json = some f := by
  have hstart : f.json.field? "start" = some (.int f.start) := rfl
  have hstop : f.json.field? "end" = some (.int f.stop) := rfl
  have htext : f.json.field? "text" = some (.str f.text) := rfl
  have htype : f.json.field? "type" = some (.str f.type.name.toList) := rfl
  have hexecution : f.json.field? "executionType" = some (.str f.execution.name.toList) := rfl
  rw [ofJson?, hstart, hstop, htext, htype, hexecution]
  simp [StatementType.ofName?_name, ExecutionType.ofName?_name]

def findingsOf? : Json → Option (List Finding)
  | .arr records => records.mapM Finding.ofJson?
  | _ => none

theorem findingsOf?_json (fs : List Finding) :
    findingsOf? (.arr (fs.map Finding.json)) = some fs := by
  rw [findingsOf?]
  induction fs with
  | nil => rfl
  | cons f fs ih => simp [Finding.ofJson?_json, ih]

theorem isProper_findings (fs : List Finding) :
    (Json.arr (fs.map Finding.json)).isProper = true := by
  rw [Json.isProper, Json.itemsProper_iff]
  intro v hv
  obtain ⟨f, -, rfl⟩ := List.mem_map.1 hv
  rfl

/-- What can be said of findings as JSON text. -/
structure ReadsBack (fs : List Finding) : Prop where
  denotes : ∀ v, Json.Denotes (encode fs) v ↔ v = .arr (fs.map Finding.json)
  read : (Json.read (encode fs)).bind findingsOf? = some fs
  unique : ∀ gs, encode gs = encode fs → gs = fs
  plain : ∀ c ∈ encode fs, 0x20 ≤ c.toNat
  oneLine : '\n' ∉ encode fs ∧ '\r' ∉ encode fs

theorem read_encode (fs : List Finding) :
    (Json.read (encode fs)).bind findingsOf? = some fs := by
  rw [encode, Json.read_render (isProper_findings fs), Option.bind_some, findingsOf?_json]

theorem readsBack (fs : List Finding) : ReadsBack fs where
  denotes := Json.denotes_render (isProper_findings fs)
  read := read_encode fs
  unique gs h := by
    have hgs := read_encode gs
    rw [h, read_encode fs] at hgs
    exact (Option.some.inj hgs).symm
  plain := Json.plain_render _ (isProper_findings fs)
  oneLine := (Json.plain_render _ (isProper_findings fs)).oneLine

example : encode [⟨-1, 7, "\"\\\n\x01😀".toList, .dropTable, .modification⟩] =
    ("[\x7b\"start\":-1,\"end\":7,\"text\":\"\\\"\\\\\\n\\u0001😀\",\"type\":\"DROP_TABLE\"," ++
      "\"executionType\":\"MODIFICATION\"\x7d]").toList := by
  cbv

end SqlScript
