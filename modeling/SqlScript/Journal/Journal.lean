import SqlScript.Journal.Entry
import SqlScript.Trace

/-!
The journal: named loggers below one root, which is set up once for all of them. Every logger that is
asked for by name carries the filter that adds the correlation identifier, once. A run that succeeds
writes a summary into the journal, and before it the events if it is observed.
-/

set_option autoImplicit false

namespace SqlScript

/-- The state of the journal. `handlers` are the styles in which the root writes, and `filtered` the
names of the loggers that carry the filter, each as often as it does. -/
structure Journal where
  correlationId : Option (List Char) := none
  level : Level := .notset
  handlers : List Style := []
  propagates : Bool := true
  filtered : List (List Char) := []
  deriving DecidableEq, Repr

namespace Journal

def rootName : List Char := "sqlident".toList

def fullName (name : List Char) : List Char :=
  if rootName.isPrefixOf name then name else rootName ++ '.' :: name

def governs (logger : List Char) : Bool :=
  logger == rootName || (rootName ++ ['.']).isPrefixOf logger

def filterCount (j : Journal) (logger : List Char) : Nat := j.filtered.count logger

def request (j : Journal) (name : Option (List Char)) : Journal × List Char :=
  match name with
  | none => (j, rootName)
  | some name =>
    let logger := fullName name
    if j.filtered.contains logger then (j, logger)
    else ({ j with filtered := j.filtered ++ [logger] }, logger)

def filter (j : Journal) : Bool × Option (List Char) :=
  match j.correlationId with
  | none | some [] => (true, none)
  | some id => (true, some id)

def admits (j : Journal) (logger : List Char) : Bool := j.filterCount logger == 0 || j.filter.1

@[simp] theorem admits_eq (j : Journal) (logger : List Char) : j.admits logger = true := by
  have hfilter : j.filter.1 = true := by
    unfold filter
    split <;> rfl
  rw [admits, hfilter, Bool.or_true]

def defaultThreshold : Nat := Level.warning.weight

def threshold (j : Journal) (logger : List Char) : Nat :=
  if governs logger && j.level != .notset then j.level.weight else defaultThreshold

/-- What is written for an entry, each line with its end. A logger for which no one writes shows the
bare line, if it is a warning at least. -/
def write (j : Journal) (time : List Char) (e : Entry) : List Char :=
  if e.level.weight < j.threshold e.logger then []
  else
    match governs e.logger, j.handlers with
    | true, style :: more =>
      (style :: more).flatMap fun style => e.line style time j.correlationId ++ ['\n']
    | _, _ => if e.level.weight < defaultThreshold then [] else e.bareLine ++ ['\n']

def configuredEntry (level style : List Char) (handlers : Nat) : Entry where
  logger := rootName
  level := .debug
  message := "sqlident logging configured".toList
  origin := ⟨"logging".toList, "configure_logging".toList, 156⟩
  extra := [("level".toList, .str level), ("format_style".toList, .str style),
    ("handlers_count".toList, .int handlers)]

/-- Sets the level and the style. A name that is no level's changes nothing. The new setup is the first to
write, and writes about itself. -/
def configure (j : Journal) (time level style : List Char) :
    Except Level.Refusal (Journal × List Char) := do
  let set ← Level.ofName level
  let j := { j with level := set, handlers := [Style.ofName style], propagates := false }
  pure (j, j.write time (configuredEntry level style j.handlers.length))

/-! ## Runs -/

def traceEntry (d : Dialect) (e : Event) : Entry where
  logger := "sqlident.trace".toList
  level := .debug
  message := (e.toTrace d).line
  origin := ⟨"_observer".toList, "logging_trace_observer".toList, 79⟩
  extra := (e.toTrace d).fields

def summaryEntry (set : Settings) (p : Parsed) : Entry where
  logger := "sqlident.core.parser".toList
  level := .debug
  message := "Parsed ".toList ++ Text.decimal p.body.length ++ " statement(s) from ".toList ++
    Text.decimal p.tokens.length ++ " token(s)".toList
  origin := ⟨"parser".toList, "parse_with_config".toList, 108⟩
  extra := [("dialect".toList, .ofString set.dialect.name), ("strict".toList, .bool set.strict)]

def runEntries (set : Settings) (script : List Char) : List Entry :=
  (if set.observed then (events set script).map (traceEntry set.dialect) else []) ++
    match parse set script with
    | .ok p => [summaryEntry set p]
    | .error _ => []

def writeRun (j : Journal) (time : List Char) (set : Settings) (script : List Char) : List Char :=
  (runEntries set script).flatMap (j.write time)

/-! ## Calls -/

inductive Call where
  | identify (id : Option (List Char))
  | request (name : Option (List Char))
  | configure (time level style : List Char)
  | log (time : List Char) (name : Option (List Char)) (e : Entry)

inductive Reply where
  | logger (name : List Char)
  | written (lines : List Char)
  | refused (r : Level.Refusal)
  deriving DecidableEq, Repr

def answer (j : Journal) : Call → Journal × Reply
  | .identify id => ({ j with correlationId := id }, .written [])
  | .request name =>
    let (j, logger) := j.request name
    (j, .logger logger)
  | .configure time level style =>
    match j.configure time level style with
    | .ok (j, lines) => (j, .written lines)
    | .error r => (j, .refused r)
  | .log time name e =>
    let (j, logger) := j.request name
    (j, .written (if j.admits logger then j.write time { e with logger } else []))

def behind (calls : List Call) : Journal :=
  calls.foldl (fun j c => (j.answer c).1) {}

end Journal

end SqlScript
