import Mathlib.Data.List.Induction
import Mathlib.Data.List.Nodup
import SqlScript.Journal.Journal

/-!
Which loggers the root's setup governs, whatever calls have been made. The last setup that was
accepted counts, and it reaches every logger that is asked for by name, but for those whose names go
on behind that of the root without a dot: they stay outside, and nothing but the bare line is
written of what they are handed.
-/

set_option autoImplicit false

namespace SqlScript

/-! ## Levels -/

def Level.Named (given : List Char) (level : Level) : Prop :=
  ∃ name, (name, level) ∈ Level.names ∧ name.toList = Text.upper given

theorem Level.names_functional : ∀ p ∈ Level.names, ∀ q ∈ Level.names,
    p.1.toList = q.1.toList → p.2 = q.2 := by
  decide

theorem Level.ofName_eq_ok_iff {given : List Char} {level : Level} :
    Level.ofName given = .ok level ↔ Named given level := by
  simp only [ofName]
  cases hfind : names.find? (fun p => p.1.toList == Text.upper given) with
  | some p =>
    have hmem := List.mem_of_find?_eq_some hfind
    have hname : p.1.toList = Text.upper given := by simpa using List.find?_some hfind
    constructor
    · intro h
      obtain rfl : p.2 = level := Except.ok.inj h
      exact ⟨p.1, hmem, hname⟩
    · rintro ⟨name, hnamed, heq⟩
      exact congrArg Except.ok (names_functional p hmem _ hnamed (hname.trans heq.symm))
  | none =>
    constructor
    · intro h
      cases hother : otherNames.find? (fun p => p.1.toList == Text.upper given) <;>
        simp [hother] at h
    · rintro ⟨name, hnamed, heq⟩
      exact absurd heq (by simpa using List.find?_eq_none.1 hfind _ hnamed)

theorem Level.ofName_refuses {given : List Char} (h : ∀ level, ¬ Named given level) :
    ∃ r, Level.ofName given = .error r := by
  cases hname : ofName given with
  | ok level => exact absurd (ofName_eq_ok_iff.1 hname) (h level)
  | error r => exact ⟨r, rfl⟩

namespace Journal

variable {j : Journal} {calls : List Call} {c : Call} {name : Option (List Char)}
variable {level : Level} {style : Style} {e : Entry}

/-! ## Names -/

/-- A logger of the namespace: the root, or one whose name goes on behind a dot. -/
def Within (logger : List Char) : Prop :=
  logger = rootName ∨ ∃ rest, logger = rootName ++ '.' :: rest

/-- A name that goes on behind that of the root without a dot. -/
def Astray (name : List Char) : Prop :=
  ∃ c rest, c ≠ '.' ∧ name = rootName ++ c :: rest

theorem governs_iff {logger : List Char} : governs logger = true ↔ Within logger := by
  rw [governs, Bool.or_eq_true, beq_iff_eq, List.isPrefixOf_iff_prefix]
  refine or_congr_right ⟨?_, ?_⟩
  · rintro ⟨rest, rfl⟩
    exact ⟨rest, by simp⟩
  · rintro ⟨rest, rfl⟩
    exact ⟨rest, by simp⟩

theorem within_fullName_iff {name : List Char} : Within (fullName name) ↔ ¬ Astray name := by
  unfold fullName
  split
  · rename_i hprefix
    obtain ⟨rest, rfl⟩ := List.isPrefixOf_iff_prefix.1 hprefix
    cases rest with
    | nil => simp [Within, Astray]
    | cons c rest =>
      by_cases hc : c = '.'
      · simp [Within, Astray, hc]
      · simp [Within, Astray, hc]
  · rename_i hprefix
    have hother : ¬ Astray name := by
      rintro ⟨c, rest, -, rfl⟩
      exact hprefix (List.isPrefixOf_iff_prefix.2 (List.prefix_append _ _))
    exact iff_of_true (.inr ⟨name, rfl⟩) hother

/-! ## What calls leave -/

def Call.name? : Call → Option (List Char)
  | .request name | .log _ name _ => name
  | .identify _ | .configure _ _ _ => none

def Call.id? : Call → Option (Option (List Char))
  | .identify id => some id
  | _ => none

def Call.setup? : Call → Option (Level × Style)
  | .configure _ level style => (Level.ofName level).toOption.map (·, Style.ofName style)
  | _ => none

def asked (calls : List Call) : List (List Char) := calls.filterMap Call.name?

def lastId (calls : List Call) : Option (List Char) := (calls.filterMap Call.id?).getLast?.join

def lastSetup? (calls : List Call) : Option (Level × Style) :=
  (calls.filterMap Call.setup?).getLast?

theorem asked_concat (calls : List Call) (c : Call) :
    asked (calls ++ [c]) = asked calls ++ c.name?.toList := by
  cases h : c.name? <;> simp [asked, h]

theorem asked_of_nameless (h : c.name? = none) : asked (calls ++ [c]) = asked calls := by
  rw [asked_concat, h, Option.toList_none, List.append_nil]

theorem lastId_concat (calls : List Call) (c : Call) :
    lastId (calls ++ [c]) = c.id?.getD (lastId calls) := by
  cases h : c.id? <;> simp [lastId, h]

theorem lastSetup?_concat (calls : List Call) (c : Call) :
    lastSetup? (calls ++ [c]) = c.setup?.or (lastSetup? calls) := by
  cases h : c.setup? <;> simp [lastSetup?, h]

def reply (calls : List Call) (c : Call) : Reply := ((behind calls).answer c).2

theorem behind_concat (calls : List Call) (c : Call) :
    behind (calls ++ [c]) = ((behind calls).answer c).1 := by
  simp [behind]

/-- Asking for a logger changes nothing but the filters: it adds one where there is none. -/
theorem request_eq (j : Journal) (name : Option (List Char)) :
    ∃ filtered, j.request name = ({ j with filtered }, name.elim rootName fullName) ∧
      (j.filtered.Nodup → filtered.Nodup) ∧ (∀ logger ∈ j.filtered, logger ∈ filtered) ∧
        ∀ given ∈ name, fullName given ∈ filtered := by
  cases name with
  | none => exact ⟨j.filtered, rfl, id, fun _ h => h, by simp⟩
  | some given =>
    by_cases h : fullName given ∈ j.filtered
    · exact ⟨j.filtered, by simp [request, h], id, fun _ h => h, by simpa using h⟩
    · refine ⟨j.filtered ++ [fullName given], by simp [request, h], fun hnodup => ?_,
        fun _ => List.mem_append_left _, by simp⟩
      exact List.nodup_append.2 ⟨hnodup, by simp, fun a ha b hb hab => by simp_all⟩

theorem answer_configure_refused (j : Journal) {given : List Char} {r : Level.Refusal}
    (h : Level.ofName given = .error r) (time style : List Char) :
    j.answer (.configure time given style) = (j, .refused r) := by
  simp only [answer, configure, h]
  rfl

theorem answer_configure_accepted (j : Journal) {given : List Char}
    (h : Level.ofName given = .ok level) (time style : List Char) :
    let set := { j with level, handlers := [Style.ofName style], propagates := false }
    j.answer (.configure time given style) =
      (set, .written (set.write time (configuredEntry given style 1))) := by
  simp only [answer, configure, h]
  rfl

theorem answer_configure_kept (j : Journal) (time given style : List Char) :
    (j.answer (.configure time given style)).1.correlationId = j.correlationId ∧
      (j.answer (.configure time given style)).1.filtered = j.filtered := by
  cases hlevel : Level.ofName given with
  | error r =>
    rw [answer_configure_refused j hlevel]
    exact ⟨rfl, rfl⟩
  | ok level =>
    rw [answer_configure_accepted j hlevel]
    exact ⟨rfl, rfl⟩

def SetUp (j : Journal) : Option (Level × Style) → Prop
  | none => j.level = .notset ∧ j.handlers = [] ∧ j.propagates = true
  | some (level, style) => j.level = level ∧ j.handlers = [style] ∧ j.propagates = false

/-- The journal is what the calls make of it. -/
structure Stands (calls : List Call) (j : Journal) : Prop where
  id : j.correlationId = lastId calls
  setup : j.SetUp (lastSetup? calls)
  once : j.filtered.Nodup
  named : ∀ name ∈ asked calls, fullName name ∈ j.filtered

theorem stands_fresh : Stands [] {} where
  id := rfl
  setup := ⟨rfl, rfl, rfl⟩
  once := List.nodup_nil
  named := by simp [asked]

namespace Stands

theorem request (h : Stands calls j) (hid : c.id? = none) (hsetup : c.setup? = none) :
    Stands (calls ++ [c]) (j.request c.name?).1 := by
  obtain ⟨filtered, heq, hnodup, hkept, hnew⟩ := j.request_eq c.name?
  rw [heq]
  constructor
  · rw [lastId_concat, hid]
    exact h.id
  · rw [lastSetup?_concat, hsetup]
    exact h.setup
  · exact hnodup h.once
  · intro name hname
    rw [asked_concat] at hname
    rcases List.mem_append.1 hname with hold | hlast
    · exact hkept _ (h.named name hold)
    · exact hnew name (by simpa using hlast)

theorem configure (h : Stands calls j) (time given style : List Char) :
    Stands (calls ++ [.configure time given style])
      (j.answer (.configure time given style)).1 := by
  obtain ⟨hid, hfiltered⟩ := answer_configure_kept j time given style
  constructor
  · rw [hid, lastId_concat]
    exact h.id
  · rw [lastSetup?_concat, Call.setup?]
    cases hlevel : Level.ofName given with
    | error r =>
      rw [answer_configure_refused j hlevel]
      exact h.setup
    | ok level =>
      rw [answer_configure_accepted j hlevel]
      exact ⟨rfl, rfl, rfl⟩
  · rw [hfiltered]
    exact h.once
  · rw [hfiltered, asked_of_nameless rfl]
    exact h.named

theorem answer (h : Stands calls j) (c : Call) : Stands (calls ++ [c]) (j.answer c).1 := by
  cases c with
  | identify id =>
    constructor
    · rw [lastId_concat]
      rfl
    · rw [lastSetup?_concat]
      exact h.setup
    · exact h.once
    · rw [asked_of_nameless rfl]
      exact h.named
  | request name => exact h.request rfl rfl
  | configure time given style => exact h.configure time given style
  | log time name e => exact h.request rfl rfl

end Stands

theorem stands_behind (calls : List Call) : Stands calls (behind calls) := by
  induction calls using List.reverseRecOn with
  | nil => exact stands_fresh
  | append_singleton calls c ih =>
    rw [behind_concat]
    exact ih.answer c

/-! ## What is written -/

theorem threshold_within {logger : List Char} (h : Within logger) :
    j.threshold logger =
      if j.level = .notset then Level.warning.weight else j.level.weight := by
  by_cases hlevel : j.level = .notset <;> simp [threshold, governs_iff, h, hlevel, defaultThreshold]

theorem write_within {time : List Char} (hhandlers : j.handlers = [style])
    (hlogger : Within e.logger) :
    j.write time e = if j.threshold e.logger ≤ e.level.weight then
      e.line style time j.correlationId ++ ['\n'] else [] := by
  simp only [write, governs_iff.2 hlogger, hhandlers, ← Nat.not_le, ite_not, List.flatMap_cons,
    List.flatMap_nil, List.append_nil]

/-- The last resort writes for a logger outside, and for all of them before the first setup. -/
theorem write_bare {time : List Char} (h : ¬ Within e.logger ∨ j.SetUp none) :
    j.write time e =
      if Level.warning.weight ≤ e.level.weight then e.bareLine ++ ['\n'] else [] := by
  have hthreshold : j.threshold e.logger = Level.warning.weight := by
    rcases h with houtside | ⟨hlevel, -⟩
    · simp [threshold, governs_iff, houtside, defaultThreshold]
    · simp [threshold, hlevel, defaultThreshold]
  simp only [write, hthreshold, defaultThreshold, ← Nat.not_le, ite_not]
  refine ite_congr rfl (fun hlow => ?_) fun _ => rfl
  split
  · rename_i hgoverns hhandlers
    rcases h with houtside | ⟨-, hnone, -⟩
    · exact absurd (governs_iff.1 hgoverns) houtside
    · rw [hnone] at hhandlers
      contradiction
  · exact if_pos hlow

/-! ## The next call -/

theorem filterCount_behind {name : List Char} (h : name ∈ asked calls) :
    (behind calls).filterCount (fullName name) = 1 :=
  have hstands := stands_behind calls
  List.count_eq_one_of_mem hstands.once (hstands.named name h)

theorem setUp_behind {made : Option (Level × Style)} (h : lastSetup? calls = made) :
    (behind calls).SetUp made :=
  h ▸ (stands_behind calls).setup

theorem reply_request (calls : List Call) (name : Option (List Char)) :
    reply calls (.request name) = .logger (name.elim rootName fullName) := by
  obtain ⟨filtered, heq, -⟩ := (behind calls).request_eq name
  simp only [reply, answer, heq]

theorem reply_log (time : List Char) (e : Entry) {logger : List Char}
    (h : reply calls (.request name) = .logger logger) :
    reply calls (.log time name e) = .written ((behind calls).write time { e with logger }) := by
  obtain ⟨filtered, heq, -⟩ := (behind calls).request_eq name
  obtain rfl : name.elim rootName fullName = logger :=
    Reply.logger.inj ((reply_request calls name).symm.trans h)
  simp only [reply, answer, heq, admits_eq, if_true]
  rfl

theorem reply_configure {given : List Char} (h : Level.Named given level) (time style : List Char) :
    reply calls (.configure time given style) = .written (if level = .debug then
      (configuredEntry given style 1).line (Style.ofName style) time (lastId calls) ++ ['\n']
      else []) := by
  have hthreshold :
      (if level = .notset then Level.warning.weight else level.weight) ≤ Level.debug.weight ↔
        level = .debug := by
    cases level <;> decide
  have hlogger : Within (configuredEntry given style 1).logger := .inl rfl
  rw [reply, answer_configure_accepted _ (Level.ofName_eq_ok_iff.2 h),
    write_within rfl hlogger, threshold_within hlogger, ← (stands_behind calls).id]
  exact congrArg Reply.written (ite_congr (propext hthreshold) (fun _ => rfl) fun _ => rfl)

/-- What the next call comes to, when the given ones have been made. -/
structure Governed (calls : List Call) : Prop where
  named : ∀ name, reply calls (.request (some name)) = .logger (fullName name) ∧
    (Within (fullName name) ↔ ¬ Astray name) ∧
      (behind (calls ++ [.request (some name)])).filterCount (fullName name) = 1
  filtered : ∀ name ∈ asked calls, (behind calls).filterCount (fullName name) = 1
  setUp : ∀ level style, lastSetup? calls = some (level, style) →
    (behind calls).level = level ∧ (behind calls).handlers = [style] ∧
      (behind calls).propagates = false
  accepted : ∀ time given style level, Level.Named given level →
    lastSetup? (calls ++ [.configure time given style]) = some (level, Style.ofName style) ∧
      reply calls (.configure time given style) = .written (if level = .debug then
        (configuredEntry given style 1).line (Style.ofName style) time (lastId calls) ++ ['\n']
        else [])
  refused : ∀ time given style, (∀ level, ¬ Level.Named given level) →
    ∃ r, (behind calls).answer (.configure time given style) = (behind calls, .refused r)
  written : ∀ level style, lastSetup? calls = some (level, style) → level ≠ .notset →
    ∀ time name logger e, reply calls (.request name) = .logger logger → Within logger →
      reply calls (.log time name e) = .written (if level.weight ≤ e.level.weight then
        { e with logger }.line style time (lastId calls) ++ ['\n'] else [])
  bare : ∀ time name logger e, reply calls (.request name) = .logger logger →
    ¬ Within logger ∨ lastSetup? calls = none →
      reply calls (.log time name e) = .written
        (if Level.warning.weight ≤ e.level.weight then e.bareLine ++ ['\n'] else [])

theorem governed (calls : List Call) : Governed calls where
  named name := ⟨reply_request calls (some name), within_fullName_iff,
    filterCount_behind (by simp [asked_concat, Call.name?])⟩
  filtered _ := filterCount_behind
  setUp _ _ := setUp_behind
  accepted time given style level h := by
    refine ⟨?_, reply_configure h time style⟩
    rw [lastSetup?_concat, Call.setup?, Level.ofName_eq_ok_iff.2 h]
    rfl
  refused time given style h := by
    obtain ⟨r, hr⟩ := Level.ofName_refuses h
    exact ⟨r, answer_configure_refused _ hr time style⟩
  written level style hsetup hlevel time name logger e hlogger hwithin := by
    obtain ⟨hlast, hhandlers, -⟩ := setUp_behind hsetup
    rw [reply_log time e hlogger, write_within hhandlers hwithin, threshold_within hwithin,
      (stands_behind calls).id, hlast, if_neg hlevel]
  bare time name logger e hlogger h := by
    rw [reply_log time e hlogger, write_bare (h.imp_right setUp_behind)]
    rfl

def greeting : Entry where
  logger := rootName
  level := .info
  message := "m".toList
  origin := ⟨"mod".toList, "fn".toList, 1⟩

example :
    reply [.request (some "core".toList), .configure "T".toList "info".toList "simple".toList,
        .configure "T".toList "loud".toList "structured".toList]
      (.log "T".toList (some "core".toList) greeting) =
        .written "T - sqlident.core - INFO - m\n".toList := by
  decide

/-- What is handed to a logger outside is lost, though its level was set. -/
theorem astray_entry_lost :
    let calls : List Call := [.configure "T".toList "INFO".toList "simple".toList]
    lastSetup? calls = some (.info, .simple) ∧
      reply calls (.request (some "sqlidentX".toList)) = .logger "sqlidentX".toList ∧
        ¬ Within "sqlidentX".toList ∧ Level.info.weight ≤ greeting.level.weight ∧
          reply calls (.log "T".toList (some "sqlidentX".toList) greeting) = .written [] := by
  refine ⟨by decide, by decide, fun h => ?_, by decide, by decide⟩
  exact absurd (governs_iff.2 h) (by decide)

end Journal

end SqlScript
