import SqlScript.Proofs.Guards
import SqlScript.Proofs.Heads
import SqlScript.Proofs.Pulling

/-!
What a script can be refused for. Non-strict mode refuses none; strict mode refuses the first token
of a statement, or the token that it takes for the object behind `CREATE` or `DROP`. The scanner is
never asked for a token outside of the script, and no token is fed to a statement that has ended.
-/

set_option autoImplicit false

namespace SqlScript

theorem Opening.object_of_step {k : Keyword} {o : Opening} {i : Nat} {p : Step}
    (ho : Opening.ofKeyword? k = some o) (hp : o.steps[i + 1]? = some p) :
    i = 0 ∧ (k = .create ∨ k = .drop) ∧ p = .object k.objectTypes := by
  cases k <;> cases ho <;> cases i <;> simp [steps] at hp <;> simp [← hp, Keyword.objectTypes]

namespace Classifier

variable {set : Settings} {c b : Classifier} {t x : Token} {us : List Token} {e : StatementError}

theorem ofFirst_eq_error {d : Dialect} {strict : Bool} (h : ofFirst d strict t = .error e) :
    t.keyword?.bind Opening.ofKeyword? = none ∧ e = .unrecognizedStart t.text t.start := by
  unfold ofFirst at h
  split at h
  · contradiction
  · rename_i hnone
    split at h
    · exact ⟨hnone, (Except.error.inj h).symm⟩
    · contradiction

theorem feed_of_ofFirst (h : ofFirst set.dialect set.strict t = .ok c) :
    ∃ b, c.feed t = (b, none) := by
  obtain ⟨o, rfl, ⟨-, hs⟩ | ⟨k, hk, ho⟩⟩ := opening_of_ofFirst h
  · exact feed_of_lenient hs rfl t
  · obtain ⟨p, hp, -⟩ := o.opensAtToken
    obtain ⟨a, ha, hf⟩ := behind_nil.1 (behind_first set hk ho hp)
    obtain rfl := Except.ok.inj (h.symm.trans ha)
    exact ⟨_, hf⟩

theorem feedAll_steps {a b : Classifier} {ts : List Token} (hr : a.feedAll ts = .ok b) :
    b.steps = a.steps :=
  feedAll_induction (motive := fun c => c.steps = a.steps) hr rfl
    fun _ _ _ _ hc hf => (outcome_of_feed hf).steps_eq.trans hc

theorem refusal?_eq_some {p : Step} (h : c.refusal? p t = some e) :
    e = .missingBefore p.requiredBefore t.text c.stepIndex ∨
      e = .unaccepted p.accepted t.kind t.text c.stepIndex := by
  unfold refusal? at h
  split at h
  · exact .inl (Option.some.inj h).symm
  · split at h
    · exact .inr (Option.some.inj h).symm
    · contradiction

/-- Behind its first token a statement that is under way refuses at most its object. -/
theorem refused_behind (hb : t.isBlank = false) (hc : behind set t us = .ok c)
    (hopen : c.statement.terminated = false) (hf : c.feed x = (b, some e)) :
    ∃ k, t.keyword? = some k ∧ (k = .create ∨ k = .drop) ∧
      (e = .missingBefore [.whitespace] x.text 1 ∨
        e = .unaccepted k.objects x.kind x.text 1) := by
  have ho := outcome_of_feed hf
  cases ho with
  | terminated hend => simp [hopen] at hend
  | refused p definer e _ _ _ _ hp hr =>
    obtain ⟨a, ha, hrun⟩ := behind_ok.1 hc
    obtain ⟨o, rfl, hfirst⟩ := opening_of_ofFirst ha
    have hpos := (begun_behind hb hc).past.resolve_left (by simp [hopen])
    obtain ⟨i, hi⟩ := Nat.exists_eq_add_one_of_ne_zero (Nat.pos_iff_ne_zero.1 hpos)
    have hstep : o.steps[i + 1]? = some p := by
      rw [← hi, ← hp, feedAll_steps hrun]
      rfl
    rcases hfirst with ⟨rfl, -⟩ | ⟨k, hk, ho⟩
    · simp [Opening.steps] at hstep
    · obtain ⟨rfl, hlead, rfl⟩ := Opening.object_of_step ho hstep
      have hwhy := refusal?_eq_some hr
      rw [hi] at hwhy
      have haccepted : (Step.object k.objectTypes).accepted = k.objects := k.map_objectTypes
      rw [haccepted] at hwhy
      exact ⟨k, hk, hlead, hwhy⟩

end Classifier

theorem statementsFrom_cons_error {set : Settings} {last : Int} {c : Classifier} {t : Token}
    {ts : List Token} {e : StatementError}
    (h : statementsFrom set last (some c) (t :: ts) = .error e) :
    (∃ b, c.feed t = (b, some e)) ∨ ∃ b, c.feed t = (b, none) ∧
      ((b.statement.terminated = false ∧ statementsFrom set last (some b) ts = .error e) ∨
       (b.statement.terminated = true ∧ statementsFrom set last none ts = .error e)) := by
  cases ha : advance set (some c) t with
  | error e' =>
    obtain rfl := Except.error.inj ((statementsFrom_error ts ha).symm.trans h)
    exact .inl (Classifier.feed_of_take_error ha)
  | ok p =>
    obtain ⟨next, sealed⟩ := p
    rw [statementsFrom_cons ha] at h
    have hrest := error_of_map h
    obtain ⟨b, hf, ⟨hb, rfl, rfl⟩ | ⟨hb, rfl, rfl⟩⟩ := Classifier.feed_of_take ha
    · exact .inr ⟨b, hf, .inl ⟨hb, hrest⟩⟩
    · exact .inr ⟨b, hf, .inr ⟨hb, hrest⟩⟩

def Complete (set : Settings) (ts : List Token) : Prop :=
  ∃ last body, Splits set last ts body ∧ ∀ s ∈ body, s.terminated = true

/-- How the tokens of a script come to be refused. -/
inductive Refused (set : Settings) (ts : List Token) : StatementError → Prop where
  | start {pre post : List Token} {t : Token} : ts = pre ++ t :: post → Complete set pre →
      t.isBlank = false → t.keyword?.bind Opening.ofKeyword? = none →
      Refused set ts (.unrecognizedStart t.text t.start)
  | object {pre us post : List Token} {t x : Token} {k : Keyword} {c : Classifier}
      {e : StatementError} : ts = pre ++ (t :: us ++ x :: post) → Complete set pre →
      t.keyword? = some k → k = .create ∨ k = .drop → Classifier.behind set t us = .ok c →
      c.statement.terminated = false → (c.feed x).2 = some e →
      e = .missingBefore [.whitespace] x.text 1 ∨ e = .unaccepted k.objects x.kind x.text 1 →
      Refused set ts e

theorem Complete.append {set : Settings} {pre ts : List Token} (h : Complete set pre)
    (ht : Complete set ts) : Complete set (pre ++ ts) := by
  obtain ⟨last, front, hfront, hends⟩ := h
  obtain ⟨last', body, hsplit, hall⟩ := ht
  induction hfront with
  | nil => exact ⟨last', body, hsplit, hall⟩
  | blank hb _ ih =>
    obtain ⟨last', body, hsplit, hall⟩ := ih hends
    exact ⟨last', body, .blank hb hsplit, hall⟩
  | @ended t us pre c front hb hc hend _ ih =>
    obtain ⟨last', body, hsplit, hall⟩ := ih (List.forall_mem_cons.1 hends).2
    refine ⟨last', c.statement.seal ((us.getLastD t).stop - 1) :: body, ?_,
      List.forall_mem_cons.2 ⟨by simpa using hend, hall⟩⟩
    rw [List.append_assoc]
    exact .ended hb hc hend hsplit
  | underWay _ _ hopen =>
    have hend := (List.forall_mem_cons.1 hends).1
    simp [hopen] at hend

theorem Refused.append {set : Settings} {pre ts : List Token} {e : StatementError}
    (h : Refused set ts e) (hpre : Complete set pre) : Refused set (pre ++ ts) e := by
  cases h with
  | start hts hfront hb hnone =>
    exact .start (by rw [hts, List.append_assoc]) (hpre.append hfront) hb hnone
  | object hts hfront hk hlead hc hopen hf hwhy =>
    exact .object (by rw [hts, List.append_assoc]) (hpre.append hfront) hk hlead hc hopen hf hwhy

theorem complete_nil (set : Settings) : Complete set [] := ⟨0, [], .nil, by simp⟩

theorem complete_blank (set : Settings) {t : Token} (hb : t.isBlank = true) : Complete set [t] :=
  ⟨0, [], .blank hb .nil, by simp⟩

theorem complete_ended {set : Settings} {t : Token} {us : List Token} {c : Classifier}
    (hb : t.isBlank = false) (hc : Classifier.behind set t us = .ok c)
    (hend : c.statement.terminated = true) : Complete set (t :: us) := by
  have hsplit := @Splits.ended set 0 t us [] c [] hb hc hend .nil
  rw [List.append_nil] at hsplit
  exact ⟨0, _, hsplit, by simpa using hend⟩

/-- Every refused run is refused so. The statement under way is given with the tokens that it has
taken. -/
theorem refused_of_statementsFrom {set : Settings} {last : Int} {e : StatementError}
    (ts : List Token) :
    (statementsFrom set last none ts = .error e → Refused set ts e) ∧
    (∀ t us c, t.isBlank = false → Classifier.behind set t us = .ok c →
      c.statement.terminated = false → statementsFrom set last (some c) ts = .error e →
      Refused set (t :: us ++ ts) e) := by
  induction ts with
  | nil => exact ⟨fun h => by contradiction, fun t us c _ _ _ h => by contradiction⟩
  | cons z ts ih =>
    obtain ⟨ihNone, ihSome⟩ := ih
    constructor
    · intro h
      cases hz : z.isBlank with
      | true =>
        rw [statementsFrom_blank ts hz] at h
        exact (ihNone h).append (complete_blank set hz)
      | false =>
        cases ho : Classifier.ofFirst set.dialect set.strict z with
        | error e' =>
          obtain ⟨hnone, rfl⟩ := Classifier.ofFirst_eq_error ho
          have ha : advance set none z = .error (.unrecognizedStart z.text z.start) := by
            simp [advance, hz, ho, bind, Except.bind]
          obtain rfl := Except.error.inj ((statementsFrom_error ts ha).symm.trans h)
          have hfirst : z :: ts = [] ++ z :: ts := rfl
          exact .start hfirst (complete_nil set) hz hnone
        | ok a =>
          obtain ⟨b, hf⟩ := Classifier.feed_of_ofFirst ho
          have hc : Classifier.behind set z [] = .ok b := Classifier.behind_nil.2 ⟨a, ho, hf⟩
          rw [statementsFrom_first ts hz ho] at h
          obtain ⟨b', hf'⟩ | ⟨b', hf', hr⟩ := statementsFrom_cons_error h
          · simp [hf] at hf'
          · obtain rfl := (Prod.mk.inj (hf.symm.trans hf')).1
            obtain ⟨hopen, hr⟩ | ⟨hend, hr⟩ := hr
            · exact ihSome z [] b hz hc hopen hr
            · exact (ihNone hr).append (complete_ended hz hc hend)
    · intro t us c ht hc hopen h
      obtain ⟨b, hf⟩ | ⟨b, hf, hr⟩ := statementsFrom_cons_error h
      · obtain ⟨k, hk, hlead, hwhy⟩ := Classifier.refused_behind ht hc hopen hf
        have hfirst : t :: us ++ z :: ts = [] ++ (t :: us ++ z :: ts) := rfl
        exact .object hfirst (complete_nil set) hk hlead hc hopen (by rw [hf]) hwhy
      · have hb : Classifier.behind set t (us ++ [z]) = .ok b :=
          Classifier.behind_append.2 ⟨c, hc, Classifier.feedAll_cons_ok.2 ⟨b, hf, rfl⟩⟩
        have hts : t :: us ++ z :: ts = t :: (us ++ [z]) ++ ts := by simp
        rw [hts]
        obtain ⟨hopen, hr⟩ | ⟨hend, hr⟩ := hr
        · exact ihSome t (us ++ [z]) b ht hb hopen hr
        · exact (ihNone hr).append (complete_ended ht hb hend)

theorem Refused.ne_alreadyTerminated {set : Settings} {ts : List Token} {e : StatementError}
    (h : Refused set ts e) : e ≠ .alreadyTerminated := by
  cases h with
  | start => simp
  | object _ _ _ _ _ _ _ hwhy => rcases hwhy with rfl | rfl <;> simp

inductive Halt where
  | scanner (e : ScanError)
  | statement (e : StatementError)
  deriving DecidableEq, Repr

/-- A run that asks the scanner for a token only when the one before it has been taken, from an
offset on and with a statement under way, and what comes of it. -/
inductive Drives (set : Settings) (script : List Char) :
    Int → Option Classifier → Except Halt (List Token × List Statement) → Prop where
  | finished {i : Int} {current : Option Classifier} : (script.length : Int) ≤ i →
      Drives set script i current
        (.ok ([], (current.map fun c => c.statement.seal (lastOffset script)).toList))
  | unscanned {i : Int} {current : Option Classifier} {e : ScanError} : i < script.length →
      tokenAt set.dialect script i = .error e →
      Drives set script i current (.error (.scanner e))
  | refused {i : Int} {current : Option Classifier} {t : Token} {e : StatementError} :
      i < script.length → tokenAt set.dialect script i = .ok t →
      advance set current t = .error e → Drives set script i current (.error (.statement e))
  | taken {i : Int} {current next : Option Classifier} {sealed : Option Statement} {t : Token}
      {r : Except Halt (List Token × List Statement)} : i < script.length →
      tokenAt set.dialect script i = .ok t → advance set current t = .ok (next, sealed) →
      Drives set script t.stop next r →
      Drives set script i current (r.map fun q => (t :: q.1, sealed.toList ++ q.2))

theorem Drives.of_token {set : Settings} {script : List Char} {i : Int}
    {current : Option Classifier} {r : Except Halt (List Token × List Statement)} {t : Token}
    (h : Drives set script i current r) (hlt : i < script.length)
    (ht : tokenAt set.dialect script i = .ok t) :
    (∃ e, advance set current t = .error e ∧ r = .error (.statement e)) ∨
      ∃ next sealed r', advance set current t = .ok (next, sealed) ∧
        Drives set script t.stop next r' ∧
        r = r'.map fun q => (t :: q.1, sealed.toList ++ q.2) := by
  cases h with
  | finished hi => omega
  | unscanned _ ht' => simp [ht] at ht'
  | refused _ ht' ha =>
    obtain rfl := Except.ok.inj (ht.symm.trans ht')
    exact .inl ⟨_, ha, rfl⟩
  | taken _ ht' ha hrest =>
    obtain rfl := Except.ok.inj (ht.symm.trans ht')
    exact .inr ⟨_, _, _, ha, hrest, rfl⟩

theorem Pulls.drives_iff {set : Settings} {script : List Char} {i : Int} {ts : List Token}
    (h : Pulls set.dialect script i ts) (current : Option Classifier)
    (r : Except Halt (List Token × List Statement)) :
    Drives set script i current r ↔
      r = ((statementsFrom set (lastOffset script) current ts).map (ts, ·)).mapError .statement := by
  induction h generalizing current r with
  | done hi =>
    constructor
    · intro hr
      cases hr with
      | finished => rfl
      | unscanned | refused | taken => omega
    · rintro rfl
      exact .finished hi
  | @token i t ts hlt ht _ ih =>
    cases ha : advance set current t with
    | error e =>
      rw [statementsFrom_error ts ha]
      constructor
      · intro hr
        obtain ⟨e', ha', rfl⟩ | ⟨_, _, _, ha', -⟩ := hr.of_token hlt ht
        · rw [Except.error.inj (ha.symm.trans ha')]
          rfl
        · simp [ha] at ha'
      · rintro rfl
        exact .refused hlt ht ha
    | ok next =>
      obtain ⟨next, sealed⟩ := next
      have hstep (x : Except StatementError (List Statement)) :
          ((x.map (sealed.toList ++ ·)).map (t :: ts, ·)).mapError Halt.statement =
            ((x.map (ts, ·)).mapError Halt.statement).map
              fun q => (t :: q.1, sealed.toList ++ q.2) := by
        cases x <;> rfl
      rw [statementsFrom_cons ha, hstep]
      constructor
      · intro hr
        obtain ⟨_, ha', -⟩ | ⟨_, _, r', ha', hrest, rfl⟩ := hr.of_token hlt ht
        · simp [ha] at ha'
        · obtain ⟨rfl, rfl⟩ := Prod.mk.inj (Except.ok.inj (ha.symm.trans ha'))
          rw [(ih _ r').1 hrest]
      · rintro rfl
        exact .taken hlt ht ha ((ih next _).2 rfl)

theorem drives_iff {set : Settings} {script : List Char}
    {r : Except Halt (List Token × List Statement)} : Drives set script 0 none r ↔
      r = ((parse set script).map fun p => (p.tokens, p.body)).mapError .statement := by
  rw [(pulls_iff.2 rfl).drives_iff, parse_eq]
  cases statementsFrom set (lastOffset script) none (tokenize set.dialect script) <;> rfl

/-- What can become of a script. -/
structure RefusesOnly (set : Settings) (script : List Char) : Prop where
  driven : ∀ r, Drives set script 0 none r ↔
    r = ((parse set script).map fun p => (p.tokens, p.body)).mapError .statement
  lenient : set.strict = false → ∃ p, parse set script = .ok p
  refused : ∀ e, parse set script = .error e → Refused set (tokenize set.dialect script) e
  unreached : ∀ r, Drives set script 0 none r →
    (∀ e, r ≠ .error (.scanner e)) ∧ r ≠ .error (.statement .alreadyTerminated)

theorem refusesOnly (set : Settings) (script : List Char) : RefusesOnly set script := by
  have hrefused (e : StatementError) (h : parse set script = .error e) :
      Refused set (tokenize set.dialect script) e := by
    rw [parse_eq] at h
    exact (refused_of_statementsFrom _).1 (error_of_map h)
  refine ⟨fun r => drives_iff, fun hs => ?_, hrefused, fun r hr => ?_⟩
  · obtain ⟨body, hbody⟩ := exists_statementsFrom hs (lastOffset script)
      (tokenize set.dialect script) none (by simp)
    rw [parse_eq, hbody]
    exact ⟨_, rfl⟩
  · obtain rfl := drives_iff.1 hr
    cases hp : parse set script with
    | ok p => exact ⟨nofun, nofun⟩
    | error e =>
      refine ⟨nofun, fun h => ?_⟩
      have he : e = .alreadyTerminated := Halt.statement.inj (Except.error.inj h)
      exact (hrefused e hp).ne_alreadyTerminated he

end SqlScript
