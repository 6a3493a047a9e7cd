import SqlScript.Classifier

/-!
What one token does to a statement, and from it what a list of tokens does. Everything about the
classifier is derived from `feed_outcome`, which lists the five outcomes of a token.
-/

set_option autoImplicit false

namespace SqlScript

theorem Dialect.trackWord_eq {d : Dialect} {f : Bool} {k : Keyword} {s s' : Statement}
    (h : d.trackWord f k s = some s') :
    s' = { s with canEnd := s'.canEnd, openBlocks := s'.openBlocks } := by
  unfold trackWord at h
  split at h
  · split at h <;> (cases h; rfl)
  · split at h
    · split at h <;> (cases h; rfl)
    · split at h <;> cases h
      rfl

theorem DefinerState.advance_of_left {state : DefinerState} {mayBegin : Bool} {t : Token}
    (h : (state.advance mayBegin t).2 = false) : state.advance mayBegin t = (.inactive, false) := by
  cases state <;> grind [advance]

namespace Classifier

theorem trackBody_of_blank {c : Classifier} {t : Token} (h : t.isBlank = true) :
    c.trackBody t = (c, false) := by simp [trackBody, h]

theorem trackBody_of_bodyless {c : Classifier} (t : Token)
    (h : c.dialect.hasBody c.statement = false) : c.trackBody t = (c, false) := by
  simp [trackBody, h]

theorem trackBody_of_body {c : Classifier} {t : Token} (hb : t.isBlank = false)
    (h : c.dialect.hasBody c.statement = true) :
    c.trackBody t =
      match t.keyword?.bind fun k =>
        c.dialect.trackWord (c.lastBodyWord.any c.dialect.blockEnders.contains) k c.statement with
      | some s => ({ c with lastBodyWord := t.keyword?, statement := s }, true)
      | none => ({ c with lastBodyWord := t.keyword? }, false) := by
  simp only [trackBody, hb, h]
  rfl

theorem trackBody_fst_of_body {c : Classifier} {t : Token} (hb : t.isBlank = false)
    (h : c.dialect.hasBody c.statement = true) :
    (c.trackBody t).1 = { c with
      lastBodyWord := t.keyword?
      statement := (t.keyword?.bind fun k => c.dialect.trackWord
        (c.lastBodyWord.any c.dialect.blockEnders.contains) k c.statement).getD c.statement } := by
  rw [trackBody_of_body hb h]
  split
  · rename_i s hs
    rw [hs]
    rfl
  · rename_i hs
    rw [hs]
    rfl

theorem trackBody_of_untyped {c : Classifier} (t : Token) (h : c.statement.type = none) :
    c.trackBody t = (c, false) := trackBody_of_bodyless t (by rw [Dialect.hasBody, h])

theorem trackBody_eq (c : Classifier) (t : Token) :
    ∃ w e o, (c.trackBody t).1 = { c with
      lastBodyWord := w, statement := { c.statement with canEnd := e, openBlocks := o } } := by
  unfold trackBody
  split
  · exact ⟨c.lastBodyWord, c.statement.canEnd, c.statement.openBlocks, rfl⟩
  · dsimp only
    split
    · rename_i s h
      obtain ⟨k, _, hk⟩ := Option.bind_eq_some_iff.1 h
      refine ⟨t.keyword?, s.canEnd, s.openBlocks, ?_⟩
      rw [← Dialect.trackWord_eq hk]
    · exact ⟨t.keyword?, c.statement.canEnd, c.statement.openBlocks, rfl⟩

/-- Why a step refuses a token, if it does. -/
def refusal? (c : Classifier) (p : Step) (t : Token) : Option StatementError :=
  if c.strict && !p.hasRequiredBefore c.previous then
    some (.missingBefore p.requiredBefore t.text c.stepIndex)
  else if c.strict && !p.accepts t then
    some (.unaccepted p.accepted t.kind t.text c.stepIndex)
  else none

theorem takeStep_of_none {c : Classifier} (t : Token) (hp : c.steps[c.stepIndex]? = none) :
    c.takeStep t = .ok c := by
  simp only [takeStep, hp]

theorem takeStep_of_step {c : Classifier} {p : Step} (t : Token)
    (hp : c.steps[c.stepIndex]? = some p) :
    c.takeStep t =
      match c.refusal? p t with
      | some e => .error e
      | none =>
        let s := p.effect.apply t c.statement
        .ok { c with
          statement := { s with execution := some (executionOf s.type) }
          stepIndex := c.stepIndex + 1 } := by
  simp only [takeStep, hp, Step.givesWay_eq, Bool.false_and, Bool.false_eq_true, if_false,
    Option.getD_some, Step.isOver_eq, if_true, refusal?]
  split
  · rfl
  · split <;> rfl

def afterPass (c : Classifier) (previous : Option Token) (definer : DefinerState) : Classifier :=
  { c with previous := previous, statement := { c.statement with definer := definer } }

section

variable {c : Classifier} {t : Token} {definer : DefinerState}

theorem feedHead_of_option (hs : c.skipsOption t = true) :
    c.feedHead t = (c.afterPass (some t) c.statement.definer, none) := by
  rw [feedHead, hs]
  rfl

theorem feedHead_of_clause (hs : c.skipsOption t = false)
    (hd : c.statement.definer.advance (c.dialect.supportsDefiner && c.inHead) t =
      (definer, true)) :
    c.feedHead t = (c.afterPass c.previous definer, none) := by
  rw [feedHead, hs, hd]
  rfl

theorem feedHead_of_blank (hs : c.skipsOption t = false)
    (hd : c.statement.definer.advance (c.dialect.supportsDefiner && c.inHead) t =
      (definer, false)) (hb : t.isBlank = true) :
    c.feedHead t = (c.afterPass (some t) definer, none) := by
  rw [feedHead, hs, hd, hb]
  rfl

theorem feedHead_of_typed (hs : c.skipsOption t = false)
    (hd : c.statement.definer.advance (c.dialect.supportsDefiner && c.inHead) t =
      (definer, false)) (hb : t.isBlank = false) (hu : c.untyped = false) :
    c.feedHead t = (c.afterPass c.previous definer, none) := by
  have hu : (c.afterPass c.previous definer).untyped = false := hu
  rw [feedHead, hs, hd, hb]
  simp only [afterPass] at hu
  simp only [hu]
  rfl

theorem feedHead_of_untyped (hs : c.skipsOption t = false)
    (hd : c.statement.definer.advance (c.dialect.supportsDefiner && c.inHead) t =
      (definer, false)) (hb : t.isBlank = false) (hu : c.untyped = true) :
    c.feedHead t =
      match (c.afterPass c.previous definer).takeStep t with
      | .error e => (c.afterPass c.previous definer, some e)
      | .ok b => ({ b with previous := some t }, none) := by
  have hu : (c.afterPass c.previous definer).untyped = true := hu
  rw [feedHead, hs, hd, hb]
  simp only [afterPass] at hu
  simp only [hu]
  rfl

end

def afterStep (c : Classifier) (p : Step) (definer : DefinerState) (t : Token) : Classifier :=
  let s := p.effect.apply t { c.statement with definer := definer }
  { c with
    statement := { s with execution := some (executionOf s.type) }
    stepIndex := c.stepIndex + 1
    previous := some t }

/-- What a token does to a statement: a terminated one takes none, a semicolon may end it, and of
the others only one that comes before the type is known can take a step or be refused. -/
inductive Outcome (c : Classifier) (t : Token) : Classifier → Option StatementError → Prop where
  | terminated : c.statement.terminated = true → Outcome c t c (some .alreadyTerminated)
  | semicolon : c.statement.terminated = false → t.kind = .semicolon →
      Outcome c t c.feedSemicolon none
  | passed (previous : Option Token) (definer : DefinerState) :
      c.statement.terminated = false → t.kind ≠ .semicolon →
      Outcome c t ((c.trackBody t).1.afterPass previous definer) none
  | stepped (p : Step) (definer : DefinerState) :
      c.statement.terminated = false → t.kind ≠ .semicolon → t.isBlank = false →
      c.statement.type = none → c.steps[c.stepIndex]? = some p →
      c.refusal? p t = none →
      Outcome c t (c.afterStep p definer t) none
  | refused (p : Step) (definer : DefinerState) (e : StatementError) :
      c.statement.terminated = false → t.kind ≠ .semicolon → t.isBlank = false →
      c.statement.type = none → c.steps[c.stepIndex]? = some p →
      c.refusal? p t = some e →
      Outcome c t (c.afterPass c.previous definer) (some e)

theorem feedHead_typed_outcome {c : Classifier} (t : Token) (h : c.untyped = false) :
    ∃ previous definer, c.feedHead t = (c.afterPass previous definer, none) := by
  have hs : c.skipsOption t = false := by simp [skipsOption, inHead, h]
  cases hd : c.statement.definer.advance (c.dialect.supportsDefiner && c.inHead) t with
  | mk definer taken =>
    cases taken with
    | true => exact ⟨_, _, feedHead_of_clause hs hd⟩
    | false =>
      cases hb : t.isBlank with
      | true => exact ⟨_, _, feedHead_of_blank hs hd hb⟩
      | false => exact ⟨_, _, feedHead_of_typed hs hd hb h⟩

theorem feedHead_untyped_outcome {c : Classifier} {t : Token}
    (ht : c.statement.terminated = false) (hk : t.kind ≠ .semicolon)
    (hu : c.statement.type = none) : Outcome c t (c.feedHead t).1 (c.feedHead t).2 := by
  have pass (previous : Option Token) (definer : DefinerState) :
      Outcome c t (c.afterPass previous definer) none := by
    have h := Outcome.passed (c := c) previous definer ht hk
    rwa [trackBody_of_untyped t hu] at h
  cases hs : c.skipsOption t with
  | true =>
    rw [feedHead_of_option hs]
    exact pass _ _
  | false =>
    cases hd : c.statement.definer.advance (c.dialect.supportsDefiner && c.inHead) t with
    | mk definer taken =>
      cases taken with
      | true =>
        rw [feedHead_of_clause hs hd]
        exact pass _ _
      | false =>
        cases hb : t.isBlank with
        | true =>
          rw [feedHead_of_blank hs hd hb]
          exact pass _ _
        | false =>
          rw [feedHead_of_untyped hs hd hb (by simp [untyped, hu])]
          cases hp : c.steps[c.stepIndex]? with
          | none =>
            have hp' : (c.afterPass c.previous definer).steps[(c.afterPass c.previous
              definer).stepIndex]? = none := hp
            rw [takeStep_of_none t hp']
            exact pass (some t) definer
          | some p =>
            have hp' : (c.afterPass c.previous definer).steps[(c.afterPass c.previous
              definer).stepIndex]? = some p := hp
            rw [takeStep_of_step t hp']
            cases hr : c.refusal? p t with
            | some e =>
              have hr' : (c.afterPass c.previous definer).refusal? p t = some e := hr
              rw [hr']
              exact .refused p definer e ht hk hb hu hp hr
            | none =>
              have hr' : (c.afterPass c.previous definer).refusal? p t = none := hr
              rw [hr']
              exact .stepped p definer ht hk hb hu hp hr

theorem feed_outcome (c : Classifier) (t : Token) : Outcome c t (c.feed t).1 (c.feed t).2 := by
  unfold feed
  split
  · rename_i h
    exact .terminated h
  · rename_i ht
    have ht := Bool.eq_false_iff.2 ht
    split
    · rename_i hk
      exact .semicolon ht hk
    · rename_i hk
      -- a body is followed and the head is read on the two sides of the type's being told
      by_cases hu : c.statement.type = none
      · rw [trackBody_of_untyped t hu]
        exact feedHead_untyped_outcome ht hk hu
      · obtain ⟨w, e, o, hb⟩ := trackBody_eq c t
        cases hr : c.trackBody t with
        | mk b taken =>
          rw [hr] at hb
          cases taken with
          | true =>
            have h := Outcome.passed (c := c) b.previous b.statement.definer ht hk
            rw [hr] at h
            exact h
          | false =>
            have hbt : b.statement.type = c.statement.type := congrArg (·.statement.type) hb
            have hbu : b.untyped = false := by
              simp [untyped, hbt, Option.isSome_iff_ne_none, hu]
            obtain ⟨previous, definer, hf⟩ := feedHead_typed_outcome t hbu
            have h := Outcome.passed (c := c) previous definer ht hk
            rw [hr] at h
            simp only [hf]
            exact h

/-- A token that is not refused ends the statement just if it is a semicolon outside of a body. -/
theorem Outcome.terminated_iff {c c' : Classifier} {t : Token} (h : Outcome c t c' none) :
    c'.statement.terminated = true ↔
      t.kind = .semicolon ∧ c.dialect.suppresses c.statement = false := by
  obtain ⟨w, e, o, hb⟩ := trackBody_eq c t
  cases h with
  | semicolon ht hk => simp [feedSemicolon, hk]
  | passed previous definer ht hk => simp [afterPass, hb, ht, hk]
  | stepped p definer ht hk =>
    cases he : p.effect <;> simp [afterStep, Effect.apply, he, ht, hk]

theorem Outcome.dialect_eq {c c' : Classifier} {t : Token} {e : Option StatementError}
    (h : Outcome c t c' e) : c'.dialect = c.dialect := by
  obtain ⟨w, e, o, hb⟩ := trackBody_eq c t
  cases h with
  | passed previous definer => simp [afterPass, hb]
  | _ => rfl

theorem Outcome.strict_eq {c c' : Classifier} {t : Token} {e : Option StatementError}
    (h : Outcome c t c' e) : c'.strict = c.strict := by
  obtain ⟨w, e, o, hb⟩ := trackBody_eq c t
  cases h with
  | passed previous definer => simp [afterPass, hb]
  | _ => rfl

theorem Outcome.steps_eq {c c' : Classifier} {t : Token} {e : Option StatementError}
    (h : Outcome c t c' e) : c'.steps = c.steps := by
  obtain ⟨w, e, o, hb⟩ := trackBody_eq c t
  cases h with
  | passed previous definer => simp [afterPass, hb]
  | _ => rfl

theorem Outcome.underWay {c c' : Classifier} {t : Token} (h : Outcome c t c' none) :
    c.statement.terminated = false := by
  cases h <;> assumption

theorem Outcome.type_eq {c c' : Classifier} {t : Token} {type : StatementType}
    (h : Outcome c t c' none) (ht : c.statement.type = some type) :
    c'.statement.type = some type := by
  obtain ⟨w, e, o, hb⟩ := trackBody_eq c t
  cases h with
  | semicolon => exact ht
  | passed previous definer => simp [afterPass, hb, ht]
  | stepped p definer _ _ _ hu => simp [hu] at ht

structure Unopened (c : Classifier) : Prop where
  canEnd : c.statement.canEnd = false
  lastBodyWord : c.lastBodyWord = none
  openBlocks : c.dialect.tracksBlocks = true → c.statement.openBlocks = some 0

theorem Unopened.outcome {c c' : Classifier} {t : Token} (h : c.Unopened)
    (hu : c.statement.type = none) (ho : Outcome c t c' none) : c'.Unopened := by
  obtain ⟨hc, hw, hb⟩ := h
  cases ho with
  | semicolon => exact ⟨hc, rfl, hb⟩
  | passed previous definer =>
    rw [trackBody_of_untyped t hu]
    exact ⟨hc, hw, hb⟩
  | stepped p definer =>
    refine ⟨?_, hw, ?_⟩
    · cases he : p.effect <;> simpa [afterStep, he, Effect.apply] using hc
    · cases he : p.effect <;> simpa [afterStep, he, Effect.apply] using hb

/-- What holds of a statement behind its first token and any further ones. -/
structure Begun (first : Token) (c : Classifier) : Prop where
  opening : ∃ o : Opening, c.steps = o.steps
  start : c.statement.start = first.start
  past : c.statement.terminated = true ∨ 0 < c.stepIndex
  execution : ∀ type, c.statement.type = some type →
    c.statement.execution = some type.execution
  uncounted : c.dialect.tracksBlocks = false → c.statement.openBlocks = none

end Classifier

theorem Opening.assignsObject {o : Opening} {i : Nat} {p : Step} (h : o.steps[i + 1]? = some p) :
    ∃ types, p.effect = .assignObject types := by
  cases o <;> cases i <;> simp [steps] at h
  · exact ⟨createdObjects, by rw [← h]; rfl⟩
  · exact ⟨droppedObjects, by rw [← h]; rfl⟩

theorem Opening.opensAtToken (o : Opening) :
    ∃ p, o.steps[0]? = some p ∧ (p.effect = .markStart ∨ ∃ type, p.effect = .assign type) := by
  cases o <;> simp [steps, Step.keyword, Step.leading]

theorem Dialect.trackWord_openBlocks {d : Dialect} {f : Bool} {k : Keyword} {s s' : Statement}
    (h : d.trackWord f k s = some s') (hd : d.tracksBlocks = false) :
    s'.openBlocks = s.openBlocks := by
  simp only [trackWord, hd, Bool.false_and, Bool.false_eq_true, if_false] at h
  split at h
  · cases h
    rfl
  · split at h <;> cases h
    rfl

namespace Classifier

theorem trackBody_openBlocks {c : Classifier} (t : Token) (hd : c.dialect.tracksBlocks = false) :
    (c.trackBody t).1.statement.openBlocks = c.statement.openBlocks := by
  unfold trackBody
  split
  · rfl
  · dsimp only
    split
    · rename_i s h
      obtain ⟨k, _, hk⟩ := Option.bind_eq_some_iff.1 h
      exact Dialect.trackWord_openBlocks hk hd
    · rfl

theorem Begun.outcome {first t : Token} {c c' : Classifier} {e : Option StatementError}
    (h : Begun first c) (ho : Outcome c t c' e) : Begun first c' := by
  obtain ⟨hopen, hstart, hpast, hexec, hcount⟩ := h
  cases ho with
  | terminated => exact ⟨hopen, hstart, hpast, hexec, hcount⟩
  | semicolon ht hk =>
    exact ⟨hopen, hstart, .inr (hpast.resolve_left (by simp [ht])), hexec, hcount⟩
  | passed previous definer ht hk =>
    obtain ⟨w, e, o, hb⟩ := trackBody_eq c t
    refine ⟨?_, ?_, ?_, ?_, ?_⟩
    · simpa [afterPass, hb] using hopen
    · simpa [afterPass, hb] using hstart
    · simpa [afterPass, hb] using hpast
    · simpa [afterPass, hb] using hexec
    · intro hd
      have hd' : c.dialect.tracksBlocks = false := by simpa [afterPass, hb] using hd
      exact (trackBody_openBlocks t hd').trans (hcount hd')
  | stepped p definer ht hk hb hu hp =>
    have hpos : 0 < c.stepIndex := hpast.resolve_left (by simp [ht])
    obtain ⟨o, ho⟩ := hopen
    have hi : c.stepIndex - 1 + 1 = c.stepIndex := by omega
    rw [ho, ← hi] at hp
    obtain ⟨types, he⟩ := Opening.assignsObject hp
    refine ⟨⟨o, ho⟩, ?_, .inr (Nat.succ_pos _), ?_, ?_⟩
    · simpa [afterStep, he, Effect.apply] using hstart
    · intro type hty
      simp only [afterStep] at hty ⊢
      rw [hty]
      rfl
    · simpa [afterStep, he, Effect.apply] using hcount
  | refused p definer e => exact ⟨hopen, hstart, hpast, hexec, hcount⟩

theorem feed_of_semicolon {c : Classifier} {t : Token} (ht : c.statement.terminated = false)
    (hk : t.kind = .semicolon) : c.feed t = (c.feedSemicolon, none) := by
  simp [feed, ht, hk]

theorem feed_of_fresh {d : Dialect} {strict : Bool} {o : Opening} {i : Int} {t : Token}
    (hk : t.kind ≠ .semicolon) (hb : t.isBlank = false) :
    (fresh d strict o i).feed t =
      match (fresh d strict o i).takeStep t with
      | .error e => (fresh d strict o i, some e)
      | .ok c => ({ c with previous := some t }, none) := by
  have hs : (fresh d strict o i).skipsOption t = false := by simp [skipsOption, inHead, fresh]
  have hd : (fresh d strict o i).statement.definer.advance
      (d.supportsDefiner && (fresh d strict o i).inHead) t = (.inactive, false) := by
    simp [DefinerState.advance, inHead, fresh]
  rw [feed, if_neg (by simp [fresh]), if_neg hk, trackBody_of_untyped t rfl]
  exact feedHead_of_untyped hs hd hb rfl

theorem begun_fresh {d : Dialect} {strict : Bool} {o : Opening} {t : Token} {c : Classifier}
    (hb : t.isBlank = false) (hf : (fresh d strict o t.start).feed t = (c, none)) :
    Begun t c := by
  by_cases hk : t.kind = .semicolon
  · rw [feed_of_semicolon rfl hk] at hf
    obtain ⟨rfl, -⟩ := Prod.mk.inj hf
    refine ⟨⟨o, rfl⟩, rfl, .inl rfl, ?_, ?_⟩ <;> simp_all [fresh, feedSemicolon]
  · obtain ⟨p, hp, he⟩ := o.opensAtToken
    have hp : (fresh d strict o t.start).steps[(fresh d strict o t.start).stepIndex]? = some p := hp
    rw [feed_of_fresh hk hb, takeStep_of_step t hp] at hf
    cases hr : (fresh d strict o t.start).refusal? p t with
    | some e => simp [hr] at hf
    | none =>
      simp only [hr] at hf
      obtain ⟨rfl, -⟩ := Prod.mk.inj hf
      refine ⟨⟨o, rfl⟩, ?_, .inr Nat.one_pos, ?_, ?_⟩
      · obtain he | ⟨type, he⟩ := he <;> simp [he, Effect.apply]
      · intro type hty
        simp only at hty ⊢
        rw [hty]
        rfl
      · obtain he | ⟨type, he⟩ := he <;> simp [he, Effect.apply, fresh]

theorem unopened_fresh (d : Dialect) (strict : Bool) (o : Opening) (i : Int) :
    (fresh d strict o i).Unopened :=
  ⟨rfl, rfl, fun h => by simp only [fresh] at h ⊢; simp [h]⟩

def feedAll (c : Classifier) : List Token → Except StatementError Classifier
  | [] => .ok c
  | t :: ts =>
    match c.feed t with
    | (c, none) => c.feedAll ts
    | (_, some e) => .error e

theorem feedAll_cons_ok {c c' : Classifier} {t : Token} {ts : List Token} :
    c.feedAll (t :: ts) = .ok c' ↔ ∃ b, c.feed t = (b, none) ∧ b.feedAll ts = .ok c' := by
  rw [feedAll]
  split
  · rename_i b h
    simp [h]
  · rename_i b e h
    simp [h]

theorem feedAll_append_ok {c c' : Classifier} {ts us : List Token} :
    c.feedAll (ts ++ us) = .ok c' ↔ ∃ b, c.feedAll ts = .ok b ∧ b.feedAll us = .ok c' := by
  induction ts generalizing c with
  | nil => simp [feedAll]
  | cons t ts ih =>
    simp only [List.cons_append, feedAll_cons_ok, ih]
    constructor
    · rintro ⟨a, ha, b, hb, hc⟩
      exact ⟨b, ⟨a, ha, hb⟩, hc⟩
    · rintro ⟨b, ⟨a, ha, hb⟩, hc⟩
      exact ⟨a, ha, b, hb, hc⟩

theorem feedAll_refused {a b c : Classifier} {ts : List Token} {t : Token} {e : StatementError}
    (us : List Token) (hts : c.feedAll ts = .ok a) (ht : a.feed t = (b, some e)) :
    c.feedAll (ts ++ t :: us) = .error e := by
  induction ts generalizing c with
  | nil =>
    obtain rfl := Except.ok.inj hts
    rw [List.nil_append, feedAll, ht]
  | cons u ts ih =>
    obtain ⟨b, hf, hr⟩ := feedAll_cons_ok.1 hts
    rw [List.cons_append, feedAll, hf]
    exact ih hr

theorem outcome_of_feed {c c' : Classifier} {t : Token} {e : Option StatementError}
    (h : c.feed t = (c', e)) : Outcome c t c' e := by
  have ho := feed_outcome c t
  rwa [h] at ho

/-- Only before its type is told a statement can refuse a token. -/
theorem feed_of_typed {c : Classifier} {type : StatementType} (t : Token)
    (hty : c.statement.type = some type) (ht : c.statement.terminated = false) :
    ∃ b, c.feed t = (b, none) := by
  cases hf : c.feed t with
  | mk b e =>
    have ho := outcome_of_feed hf
    cases ho with
    | terminated hend => simp [ht] at hend
    | refused p definer e _ _ _ hu => simp [hty] at hu
    | _ => exact ⟨_, rfl⟩

theorem feedAll_terminated {c c' : Classifier} {ts : List Token}
    (hc : c.statement.terminated = true) (h : c.feedAll ts = .ok c') : ts = [] ∧ c' = c := by
  cases ts with
  | nil => exact ⟨rfl, (Except.ok.inj h).symm⟩
  | cons t ts =>
    obtain ⟨b, hb, _⟩ := feedAll_cons_ok.1 h
    have hu := (outcome_of_feed hb).underWay
    rw [hc] at hu
    contradiction

/-- Whatever each token keeps, a list of tokens keeps. -/
theorem feedAll_induction {motive : Classifier → Prop} {c c' : Classifier} {ts : List Token}
    (h : c.feedAll ts = .ok c') (start : motive c)
    (step : ∀ a b t, t ∈ ts → motive a → a.feed t = (b, none) → motive b) : motive c' := by
  induction ts generalizing c with
  | nil => exact Except.ok.inj h ▸ start
  | cons t ts ih =>
    obtain ⟨b, hb, hr⟩ := feedAll_cons_ok.1 h
    exact ih hr (step c b t List.mem_cons_self start hb)
      fun a b u hu => step a b u (List.mem_cons_of_mem t hu)

theorem unopened_feedAll {a b : Classifier} {ts : List Token} (ha : a.Unopened)
    (hr : a.feedAll ts = .ok b) (hb : b.statement.type = none) : b.Unopened := by
  refine feedAll_induction (motive := fun c => c.statement.type = none → c.Unopened) hr
    (fun _ => ha) ?_ hb
  intro c c' t _ hc hf hu
  have ho := outcome_of_feed hf
  cases hty : c.statement.type with
  | none => exact (hc hty).outcome hty ho
  | some type => simp [ho.type_eq hty] at hu

theorem feedAll_type {a b : Classifier} {ts : List Token} {type : StatementType}
    (hr : a.feedAll ts = .ok b) (ha : a.statement.type = some type) :
    b.statement.type = some type :=
  feedAll_induction (motive := fun c => c.statement.type = some type) hr ha
    fun _ _ _ _ hc hf => (outcome_of_feed hf).type_eq hc

theorem type_eq_none_of_feedAll {a b : Classifier} {ts : List Token} (hr : a.feedAll ts = .ok b)
    (hb : b.statement.type = none) : a.statement.type = none := by
  cases hty : a.statement.type with
  | none => rfl
  | some type => simp [feedAll_type hr hty] at hb

theorem feedAll_dialect {a b : Classifier} {ts : List Token} (hr : a.feedAll ts = .ok b) :
    b.dialect = a.dialect :=
  feedAll_induction (motive := fun c => c.dialect = a.dialect) hr rfl
    fun _ _ _ _ hc hf => (outcome_of_feed hf).dialect_eq.trans hc

end Classifier

end SqlScript
