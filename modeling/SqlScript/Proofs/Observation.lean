import SqlScript.Proofs.Refusals

/-!
What an observer of a run is told. A token is told when it has been pulled and before it is taken,
so a refused one is the last thing that is told; a statement is told once it is sealed, as it is
reported. An observer that does nothing but record changes neither of the two.
-/

set_option autoImplicit false

namespace SqlScript

def toldTokens (es : List Event) : List Token :=
  es.filterMap fun
    | .token t => some t
    | .statement _ => none

def toldStatements (es : List Event) : List Statement :=
  es.filterMap fun
    | .token _ => none
    | .statement s => some s

@[simp] theorem toldTokens_token (t : Token) (es : List Event) :
    toldTokens (.token t :: es) = t :: toldTokens es := rfl

@[simp] theorem toldTokens_sealed (sealed : Option Statement) (es : List Event) :
    toldTokens ((sealed.map Event.statement).toList ++ es) = toldTokens es := by
  cases sealed <;> rfl

@[simp] theorem toldStatements_token (t : Token) (es : List Event) :
    toldStatements (.token t :: es) = toldStatements es := rfl

@[simp] theorem toldStatements_sealed (sealed : Option Statement) (es : List Event) :
    toldStatements ((sealed.map Event.statement).toList ++ es) =
      sealed.toList ++ toldStatements es := by
  cases sealed <;> rfl

structure Taken (t : Token) (next : Option Classifier) (sealed : Option Statement) : Prop where
  underWay : ∀ c, next = some c → c.statement.terminated = false
  ended : ∀ s, sealed = some s →
    s.terminated = true ∧ t.kind = .semicolon ∧ s.stop = t.stop - 1

namespace Classifier

variable {c b : Classifier} {t : Token} {next : Option Classifier} {sealed : Option Statement}

theorem taken_of_take (h : c.take t = .ok (next, sealed)) : Taken t next sealed := by
  obtain ⟨b, hf, ⟨hb, rfl, rfl⟩ | ⟨hb, rfl, rfl⟩⟩ := feed_of_take h
  · refine ⟨fun c hc => ?_, fun s hs => by contradiction⟩
    rw [← Option.some.inj hc, hb]
  · refine ⟨fun c hc => by contradiction, fun s hs => ?_⟩
    rw [← Option.some.inj hs, Statement.seal_terminated, Statement.seal_stop]
    exact ⟨hb, ((outcome_of_feed hf).terminated_iff.1 hb).1, rfl⟩

theorem take_lenient (h : c.take t = .ok (next, sealed)) :
    c.lenient.take t = .ok (next.map lenient, sealed) := by
  obtain ⟨b, hf, ⟨hb, rfl, rfl⟩ | ⟨hb, rfl, rfl⟩⟩ := feed_of_take h
  · have hb' : b.lenient.statement.terminated = false := hb
    rw [take_eq (feed_lenient hf), hb']
    rfl
  · have hb' : b.lenient.statement.terminated = true := hb
    rw [take_eq (feed_lenient hf), hb']
    rfl

end Classifier

section

variable {set : Settings} {last : Int} {current next : Option Classifier} {t : Token}
  {ts : List Token} {sealed : Option Statement} {e : StatementError}

theorem advance_none (h : advance set none t = .ok (next, sealed)) :
    (t.isBlank = true ∧ next = none ∧ sealed = none) ∨
      t.isBlank = false ∧ ∃ c, Classifier.ofFirst set.dialect set.strict t = .ok c ∧
        c.take t = .ok (next, sealed) := by
  cases hb : t.isBlank with
  | true =>
    have ha : advance set none t = .ok (none, none) := by simp [advance, hb]
    obtain ⟨hnext, hsealed⟩ := Prod.mk.inj (Except.ok.inj (h.symm.trans ha))
    exact .inl ⟨rfl, hnext, hsealed⟩
  | false =>
    cases ho : Classifier.ofFirst set.dialect set.strict t with
    | error e => simp [advance, hb, ho, bind, Except.bind] at h
    | ok c =>
      have ha : advance set none t = c.take t := by simp [advance, hb, ho, bind, Except.bind]
      exact .inr ⟨rfl, c, rfl, ha.symm.trans h⟩

theorem taken_of_advance (h : advance set current t = .ok (next, sealed)) :
    Taken t next sealed := by
  cases current with
  | some c => exact Classifier.taken_of_take h
  | none =>
    obtain ⟨-, rfl, rfl⟩ | ⟨-, c, -, ht⟩ := advance_none h
    · exact ⟨fun c hc => by contradiction, fun s hs => by contradiction⟩
    · exact Classifier.taken_of_take ht

theorem advance_lenient (h : advance set current t = .ok (next, sealed)) :
    advance { set with strict := false } (current.map Classifier.lenient) t =
      .ok (next.map Classifier.lenient, sealed) := by
  cases current with
  | some c => exact Classifier.take_lenient h
  | none =>
    obtain ⟨hb, rfl, rfl⟩ | ⟨hb, c, hc, ht⟩ := advance_none h
    · simp [advance, hb]
    · simp [advance, hb, Classifier.ofFirst_lenient hc, bind, Except.bind,
        Classifier.take_lenient ht]

theorem eventsFrom_error (ts : List Token) (h : advance set current t = .error e) :
    eventsFrom set last current (t :: ts) = [.token t] := by
  rw [eventsFrom, h]

theorem eventsFrom_cons (ts : List Token) (h : advance set current t = .ok (next, sealed)) :
    eventsFrom set last current (t :: ts) =
      .token t :: ((sealed.map Event.statement).toList ++ eventsFrom set last next ts) := by
  rw [eventsFrom, h]

theorem told_of_ok {body : List Statement} (h : statementsFrom set last current ts = .ok body) :
    toldTokens (eventsFrom set last current ts) = ts ∧
      toldStatements (eventsFrom set last current ts) = body := by
  induction ts generalizing current body with
  | nil =>
    obtain rfl := Except.ok.inj h
    cases current <;> exact ⟨rfl, rfl⟩
  | cons t ts ih =>
    cases ha : advance set current t with
    | error e => simp [statementsFrom_error ts ha] at h
    | ok p =>
      obtain ⟨next, sealed⟩ := p
      rw [statementsFrom_cons ha] at h
      obtain ⟨rest, hrest, rfl⟩ := ok_of_map h
      obtain ⟨htokens, hbody⟩ := ih hrest
      rw [eventsFrom_cons ts ha]
      simp [htokens, hbody]

structure Offends (set : Settings) (last : Int) (current : Option Classifier) (pre : List Token)
    (t : Token) (e : StatementError) : Prop where
  taken : ∃ body, statementsFrom set last current pre = .ok body
  refused : ∀ post, statementsFrom set last current (pre ++ t :: post) = .error e

theorem Offends.cons {pre : List Token} {u : Token}
    (ha : advance set current t = .ok (next, sealed)) (h : Offends set last next pre u e) :
    Offends set last current (t :: pre) u e := by
  obtain ⟨body, hbody⟩ := h.taken
  refine ⟨⟨sealed.toList ++ body, ?_⟩, fun post => ?_⟩
  · rw [statementsFrom_cons ha, hbody]
    rfl
  · rw [List.cons_append, statementsFrom_cons ha, h.refused post]
    rfl

theorem told_of_error (h : statementsFrom set last current ts = .error e) :
    ∃ pre t post, ts = pre ++ t :: post ∧ Offends set last current pre t e ∧
      toldTokens (eventsFrom set last current ts) = pre ++ [t] := by
  induction ts generalizing current with
  | nil => contradiction
  | cons t ts ih =>
    cases ha : advance set current t with
    | error e' =>
      rw [statementsFrom_error ts ha] at h
      obtain rfl := Except.error.inj h
      refine ⟨[], t, ts, rfl, ⟨⟨_, rfl⟩, fun post => statementsFrom_error post ha⟩, ?_⟩
      rw [eventsFrom_error ts ha]
      rfl
    | ok p =>
      obtain ⟨next, sealed⟩ := p
      rw [statementsFrom_cons ha] at h
      obtain ⟨pre, u, post, rfl, hu, htokens⟩ := ih (error_of_map h)
      refine ⟨t :: pre, u, post, rfl, hu.cons ha, ?_⟩
      rw [eventsFrom_cons _ ha]
      simp [htokens]

/-- Where a statement stands among the events: right behind the token of the semicolon that ends it,
or behind everything else if nothing ends it. -/
inductive Told (ts : List Token) (before : List Event) (s : Statement) (behind : List Event) : Prop
  where
  | ended {a : List Event} {z : Token} : before = a ++ [.token z] → z.kind = .semicolon →
      s.terminated = true → s.stop = z.stop - 1 → Told ts before s behind
  | last : s.terminated = false → behind = [] → toldTokens before = ts → Told ts before s behind

theorem Told.cons {a b : List Event} {s : Statement} (sealed : Option Statement)
    (h : Told ts a s b) :
    Told (t :: ts) (.token t :: ((sealed.map Event.statement).toList ++ a)) s b := by
  cases h with
  | @ended a z ha hz hs hstop =>
    refine .ended (a := .token t :: ((sealed.map Event.statement).toList ++ a)) ?_ hz hs hstop
    simp [ha]
  | last hs hb ha => exact .last hs hb (by simp [ha])

theorem told_of_eventsFrom {a b : List Event} {s : Statement}
    (hcurrent : ∀ c, current = some c → c.statement.terminated = false)
    (h : eventsFrom set last current ts = a ++ .statement s :: b) : Told ts a s b := by
  induction ts generalizing current a with
  | nil =>
    cases current with
    | none => simp [eventsFrom] at h
    | some c =>
      have hlast : [Event.statement (c.statement.seal last)] = a ++ .statement s :: b := h
      cases a with
      | cons x a => simp at hlast
      | nil =>
        obtain ⟨hs, hb⟩ := List.cons.inj hlast
        rw [← Event.statement.inj hs]
        exact .last (by simpa using hcurrent c rfl) hb.symm rfl
  | cons t ts ih =>
    cases ha : advance set current t with
    | error e =>
      rw [eventsFrom_error ts ha] at h
      cases a <;> simp at h
    | ok p =>
      obtain ⟨next, sealed⟩ := p
      have hp := taken_of_advance ha
      rw [eventsFrom_cons ts ha] at h
      cases a with
      | nil => simp at h
      | cons x a =>
        obtain ⟨rfl, hrest⟩ := List.cons.inj h
        cases sealed with
        | none => exact (ih hp.underWay hrest).cons none
        | some s' =>
          cases a with
          | nil =>
            obtain ⟨hs, -⟩ := List.cons.inj hrest
            obtain ⟨hend, hk, hstop⟩ := hp.ended s' rfl
            rw [← Event.statement.inj hs]
            exact .ended (a := []) rfl hk hend hstop
          | cons x a =>
            obtain ⟨rfl, hbehind⟩ := List.cons.inj hrest
            exact (ih hp.underWay hbehind).cons (some s')

/-- Non-strict mode tells what strict mode does, and goes on where that one stops. -/
theorem eventsFrom_isPrefix_lenient (set : Settings) (last : Int) (current : Option Classifier)
    (ts : List Token) :
    eventsFrom set last current ts <+:
      eventsFrom { set with strict := false } last (current.map Classifier.lenient) ts := by
  induction ts generalizing current with
  | nil => cases current <;> exact List.prefix_rfl
  | cons t ts ih =>
    cases ha : advance set current t with
    | error e =>
      rw [eventsFrom_error ts ha, eventsFrom]
      exact (List.prefix_cons_inj _).2 List.nil_prefix
    | ok p =>
      obtain ⟨next, sealed⟩ := p
      rw [eventsFrom_cons ts ha, eventsFrom_cons ts (advance_lenient ha)]
      exact (List.prefix_cons_inj _).2 ((List.prefix_append_right_inj _).2 (ih next))

end

/-- A run as `Drives` with an observer, whose state each event changes. The last part is its state
in the end. -/
inductive Watched {σ : Type} (tell : σ → Event → σ) (set : Settings) (script : List Char) :
    Int → Option Classifier → σ → Except Halt (List Token × List Statement) → σ → Prop where
  | finished {i : Int} {current : Option Classifier} {w : σ} : (script.length : Int) ≤ i →
      Watched tell set script i current w
        (.ok ([], (current.map fun c => c.statement.seal (lastOffset script)).toList))
        ((current.map fun c => Event.statement (c.statement.seal (lastOffset script))).toList.foldl
          tell w)
  | unscanned {i : Int} {current : Option Classifier} {w : σ} {e : ScanError} :
      i < script.length → tokenAt set.dialect script i = .error e →
      Watched tell set script i current w (.error (.scanner e)) w
  | refused {i : Int} {current : Option Classifier} {w : σ} {t : Token} {e : StatementError} :
      i < script.length → tokenAt set.dialect script i = .ok t →
      advance set current t = .error e →
      Watched tell set script i current w (.error (.statement e)) (tell w (.token t))
  | taken {i : Int} {current next : Option Classifier} {sealed : Option Statement} {w w' : σ}
      {t : Token} {r : Except Halt (List Token × List Statement)} : i < script.length →
      tokenAt set.dialect script i = .ok t → advance set current t = .ok (next, sealed) →
      Watched tell set script t.stop next
        ((sealed.map Event.statement).toList.foldl tell (tell w (.token t))) r w' →
      Watched tell set script i current w (r.map fun q => (t :: q.1, sealed.toList ++ q.2)) w'

section

variable {σ : Type} {tell : σ → Event → σ} {set : Settings} {script : List Char} {i : Int}
  {current : Option Classifier} {w w' : σ} {r : Except Halt (List Token × List Statement)}

theorem Watched.drives (h : Watched tell set script i current w r w') :
    Drives set script i current r := by
  induction h with
  | finished hi => exact .finished hi
  | unscanned hlt ht => exact .unscanned hlt ht
  | refused hlt ht ha => exact .refused hlt ht ha
  | taken hlt ht ha _ ih => exact .taken hlt ht ha ih

theorem Drives.exists_watched (h : Drives set script i current r) (w : σ) :
    ∃ w', Watched tell set script i current w r w' := by
  induction h generalizing w with
  | finished hi => exact ⟨_, .finished hi⟩
  | unscanned hlt ht => exact ⟨_, .unscanned hlt ht⟩
  | refused hlt ht ha => exact ⟨_, .refused hlt ht ha⟩
  | taken hlt ht ha _ ih =>
    obtain ⟨w', hw⟩ := ih _
    exact ⟨w', .taken hlt ht ha hw⟩

theorem Watched.eq_foldl (h : Watched tell set script i current w r w') {ts : List Token}
    (hp : Pulls set.dialect script i ts) :
    w' = (eventsFrom set (lastOffset script) current ts).foldl tell w := by
  induction h generalizing ts with
  | finished hi =>
    cases hp with
    | done => rfl
    | token hlt => omega
  | unscanned hlt ht =>
    cases hp with
    | done hi => omega
    | token _ ht' => simp [ht] at ht'
  | refused hlt ht ha =>
    cases hp with
    | done hi => omega
    | token _ ht' _ =>
      obtain rfl := Except.ok.inj (ht.symm.trans ht')
      rw [eventsFrom_error _ ha]
      rfl
  | taken hlt ht ha _ ih =>
    cases hp with
    | done hi => omega
    | token _ ht' hrest =>
      obtain rfl := Except.ok.inj (ht.symm.trans ht')
      rw [ih hrest, eventsFrom_cons _ ha, List.foldl_cons, List.foldl_append]

theorem watched_iff : Watched tell set script 0 none w r w' ↔
    Drives set script 0 none r ∧ w' = (events set script).foldl tell w := by
  constructor
  · intro h
    exact ⟨h.drives, h.eq_foldl (pulls_iff.2 rfl)⟩
  · rintro ⟨h, rfl⟩
    obtain ⟨w', hw⟩ : ∃ w', Watched tell set script 0 none w r w' := h.exists_watched w
    obtain rfl := hw.eq_foldl (pulls_iff.2 rfl)
    exact hw

end

/-- What an observer learns of a script. -/
structure Accounts (set : Settings) (script : List Char) : Prop where
  watched : ∀ {σ : Type} (tell : σ → Event → σ) (w : σ)
    (r : Except Halt (List Token × List Statement)) (w' : σ),
    Watched tell set script 0 none w r w' ↔
      r = ((parse set script).map fun p => (p.tokens, p.body)).mapError .statement ∧
        w' = (events set script).foldl tell w
  complete : ∀ p, parse set script = .ok p →
    toldTokens (events set script) = tokenize set.dialect script ∧
      p.tokens = tokenize set.dialect script ∧ toldStatements (events set script) = p.body
  cutOff : ∀ e, parse set script = .error e →
    ∃ pre t post, tokenize set.dialect script = pre ++ t :: post ∧
      Offends set (lastOffset script) none pre t e ∧ toldTokens (events set script) = pre ++ [t]
  placed : ∀ a s b, events set script = a ++ .statement s :: b →
    Told (tokenize set.dialect script) a s b
  strictPart : events set script <+: events { set with strict := false } script

/-- The events are an exact account of the run. -/
theorem accounts (set : Settings) (script : List Char) : Accounts set script where
  watched _ _ _ _ := watched_iff.trans (and_congr_left fun _ => drives_iff)
  complete p h := by
    rw [parse_eq] at h
    obtain ⟨body, hbody, rfl⟩ := ok_of_map h
    obtain ⟨htokens, hstatements⟩ := told_of_ok hbody
    exact ⟨htokens, rfl, hstatements⟩
  cutOff e h := by
    rw [parse_eq] at h
    exact told_of_error (error_of_map h)
  placed _ _ _ h := told_of_eventsFrom (by simp) h
  strictPart :=
    eventsFrom_isPrefix_lenient set (lastOffset script) none (tokenize set.dialect script)

end SqlScript
