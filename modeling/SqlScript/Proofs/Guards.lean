import SqlScript.Proofs.Splitting

/-!
What strictness and the token before count for. Both are looked at only where a step may refuse its
token; as long as none does, a run goes the same way whatever they are.
-/

set_option autoImplicit false

namespace SqlScript

namespace Classifier

/-- The same statement under other checks. -/
def guarded (strict : Bool) (previous : Option Token) (c : Classifier) : Classifier :=
  { c with strict := strict, previous := previous }

section

variable {c b : Classifier} {t : Token} (strict : Bool) (previous : Option Token)

theorem trackBody_guarded (c : Classifier) (t : Token) :
    (c.guarded strict previous).trackBody t =
      ((c.trackBody t).1.guarded strict previous, (c.trackBody t).2) := by
  cases hb : t.isBlank with
  | true => rw [trackBody_of_blank hb, trackBody_of_blank hb]
  | false =>
    cases h : c.dialect.hasBody c.statement with
    | false =>
      rw [trackBody_of_bodyless t h, trackBody_of_bodyless (c := c.guarded strict previous) t h]
    | true =>
      rw [trackBody_of_body hb h, trackBody_of_body (c := c.guarded strict previous) hb h]
      cases t.keyword? with
      | none => rfl
      | some k =>
        simp only [Option.bind_some, guarded]
        cases c.dialect.trackWord _ k c.statement <;> rfl

inductive Remembers (t : Token) : Option Token → Option Token → Option Token → Option Token → Prop
  where
  | token (p p' : Option Token) : Remembers t p p' (some t) (some t)
  | kept (p p' : Option Token) : Remembers t p p' p p'

theorem feedHead_guarded (hf : c.feedHead t = (b, none))
    (hr : ∀ p, c.steps[c.stepIndex]? = some p → c.refusal? p t = none →
      (c.guarded strict previous).refusal? p t = none) :
    ∃ previous', (c.guarded strict previous).feedHead t = (b.guarded strict previous', none) ∧
      Remembers t c.previous previous b.previous previous' := by
  cases hs : c.skipsOption t with
  | true =>
    have hs' : (c.guarded strict previous).skipsOption t = true := hs
    rw [feedHead_of_option hs] at hf
    obtain ⟨rfl, -⟩ := Prod.mk.inj hf
    exact ⟨_, feedHead_of_option hs', .token _ _⟩
  | false =>
    have hs' : (c.guarded strict previous).skipsOption t = false := hs
    cases hd : c.statement.definer.advance (c.dialect.supportsDefiner && c.inHead) t with
    | mk definer taken =>
      have hd' : (c.guarded strict previous).statement.definer.advance
          ((c.guarded strict previous).dialect.supportsDefiner &&
            (c.guarded strict previous).inHead) t = (definer, taken) := hd
      cases taken with
      | true =>
        rw [feedHead_of_clause hs hd] at hf
        obtain ⟨rfl, -⟩ := Prod.mk.inj hf
        exact ⟨_, feedHead_of_clause hs' hd', .kept _ _⟩
      | false =>
        cases hb : t.isBlank with
        | true =>
          rw [feedHead_of_blank hs hd hb] at hf
          obtain ⟨rfl, -⟩ := Prod.mk.inj hf
          exact ⟨_, feedHead_of_blank hs' hd' hb, .token _ _⟩
        | false =>
          cases hu : c.untyped with
          | false =>
            have hu' : (c.guarded strict previous).untyped = false := hu
            rw [feedHead_of_typed hs hd hb hu] at hf
            obtain ⟨rfl, -⟩ := Prod.mk.inj hf
            exact ⟨_, feedHead_of_typed hs' hd' hb hu', .kept _ _⟩
          | true =>
            have hu' : (c.guarded strict previous).untyped = true := hu
            have hpass : (c.guarded strict previous).afterPass
                (c.guarded strict previous).previous definer =
                (c.afterPass c.previous definer).guarded strict previous := rfl
            rw [feedHead_of_untyped hs hd hb hu] at hf
            rw [feedHead_of_untyped hs' hd' hb hu', hpass]
            cases hp : c.steps[c.stepIndex]? with
            | none =>
              rw [takeStep_of_none (c := c.afterPass c.previous definer) t hp] at hf
              obtain ⟨rfl, -⟩ := Prod.mk.inj hf
              rw [takeStep_of_none (c := (c.afterPass c.previous definer).guarded _ _) t hp]
              exact ⟨_, rfl, .token _ _⟩
            | some p =>
              rw [takeStep_of_step (c := c.afterPass c.previous definer) t hp] at hf
              rw [takeStep_of_step (c := (c.afterPass c.previous definer).guarded _ _) t hp]
              cases hq : (c.afterPass c.previous definer).refusal? p t with
              | some e => simp [hq] at hf
              | none =>
                have hr' : ((c.afterPass c.previous definer).guarded strict previous).refusal? p t =
                    none := hr p hp hq
                rw [hq] at hf
                obtain ⟨rfl, -⟩ := Prod.mk.inj hf
                rw [hr']
                exact ⟨_, rfl, .token _ _⟩

/-- A token that is not refused, and would not be under the other checks, does the same under
them. -/
theorem feed_guarded (hf : c.feed t = (b, none))
    (hr : ∀ p, c.steps[c.stepIndex]? = some p → c.refusal? p t = none →
      (c.guarded strict previous).refusal? p t = none) :
    ∃ previous', (c.guarded strict previous).feed t = (b.guarded strict previous', none) ∧
      Remembers t c.previous previous b.previous previous' := by
  have ht := (outcome_of_feed hf).underWay
  have ht' : (c.guarded strict previous).statement.terminated = false := ht
  by_cases hk : t.kind = .semicolon
  · rw [feed_of_semicolon ht hk] at hf
    obtain ⟨rfl, -⟩ := Prod.mk.inj hf
    exact ⟨_, feed_of_semicolon ht' hk, .kept _ _⟩
  · rw [feed, ht, if_neg (by simp), if_neg hk] at hf
    rw [feed, ht', if_neg (by simp), if_neg hk, trackBody_guarded]
    obtain ⟨w, e, o, hbody⟩ := trackBody_eq c t
    cases htrack : c.trackBody t with
    | mk a taken =>
      rw [htrack] at hf hbody
      obtain rfl : a = _ := hbody
      cases taken with
      | true =>
        obtain ⟨rfl, -⟩ := Prod.mk.inj hf
        exact ⟨_, rfl, .kept _ _⟩
      | false => exact feedHead_guarded strict previous hf hr

end

def lenient (c : Classifier) : Classifier := c.guarded false c.previous

variable {set : Settings} {c b : Classifier} {t : Token} {us : List Token}

theorem refusal?_of_lenient (hs : c.strict = false) (p : Step) (t : Token) :
    c.refusal? p t = none := by
  simp [refusal?, hs]

theorem feed_of_lenient (hs : c.strict = false) (ht : c.statement.terminated = false) (t : Token) :
    ∃ b, c.feed t = (b, none) := by
  cases hf : c.feed t with
  | mk b e =>
    have ho := outcome_of_feed hf
    cases ho with
    | terminated hend => simp [ht] at hend
    | refused p definer e _ _ _ _ _ hr => simp [refusal?_of_lenient hs] at hr
    | _ => exact ⟨_, rfl⟩

theorem feed_lenient (hf : c.feed t = (b, none)) : c.lenient.feed t = (b.lenient, none) := by
  obtain ⟨previous', hf', hp⟩ := feed_guarded false c.previous hf
    fun p _ _ => refusal?_of_lenient rfl p t
  have heq : previous' = b.previous := by
    generalize b.previous = q at hp
    cases hp <;> rfl
  rwa [heq] at hf'

theorem feedAll_lenient (hr : c.feedAll us = .ok b) : c.lenient.feedAll us = .ok b.lenient := by
  induction us generalizing c with
  | nil => exact congrArg (fun b => Except.ok (lenient b)) (Except.ok.inj hr)
  | cons u us ih =>
    obtain ⟨a, hf, hr⟩ := feedAll_cons_ok.1 hr
    exact feedAll_cons_ok.2 ⟨a.lenient, feed_lenient hf, ih hr⟩

/-- Once the type is told both modes take the same tokens. -/
theorem feedAll_of_typed {type : StatementType} (hty : c.statement.type = some type)
    (hr : c.lenient.feedAll us = .ok b) : ∃ a, c.feedAll us = .ok a ∧ a.lenient = b := by
  induction us generalizing c with
  | nil => exact ⟨c, rfl, Except.ok.inj hr⟩
  | cons u us ih =>
    obtain ⟨a, hf, hr⟩ := feedAll_cons_ok.1 hr
    obtain ⟨a', hf'⟩ := feed_of_typed u hty (outcome_of_feed hf).underWay
    obtain rfl := (Prod.mk.inj (hf.symm.trans (feed_lenient hf'))).1
    obtain ⟨b', hr', hb⟩ := ih ((outcome_of_feed hf').type_eq hty) hr
    exact ⟨b', feedAll_cons_ok.2 ⟨a', hf', hr'⟩, hb⟩

theorem ofFirst_lenient {d : Dialect} {strict : Bool} (h : ofFirst d strict t = .ok c) :
    ofFirst d false t = .ok c.lenient := by
  unfold ofFirst at h ⊢
  split at h
  · rw [← Except.ok.inj h]
    rfl
  · split at h
    · contradiction
    · rw [← Except.ok.inj h]
      rfl

theorem behind_lenient (h : behind set t us = .ok c) :
    behind { set with strict := false } t us = .ok c.lenient := by
  obtain ⟨a, ha, hr⟩ := behind_ok.1 h
  exact behind_ok.2 ⟨a.lenient, ofFirst_lenient ha, feedAll_lenient hr⟩

section

variable {a : Classifier} {vs : List Token}

theorem lenient_eq (ha : behind { set with strict := true } t us = .ok a)
    (hc : behind { set with strict := false } t us = .ok c) : a.lenient = c := by
  have h := behind_lenient ha
  exact Except.ok.inj (h.symm.trans hc)

theorem behind_of_typed {type : StatementType}
    (ha : behind { set with strict := true } t vs = .ok a)
    (hty : a.statement.type = some type)
    (hc : behind { set with strict := false } t (vs ++ us) = .ok c) :
    ∃ b, behind { set with strict := true } t (vs ++ us) = .ok b ∧ b.lenient = c := by
  obtain ⟨c', hc', hr⟩ := behind_append.1 hc
  rw [← lenient_eq ha hc'] at hr
  obtain ⟨b, hb, hbc⟩ := feedAll_of_typed hty hr
  exact ⟨b, behind_append.2 ⟨a, ha, hb⟩, hbc⟩

end

end Classifier

/-- What a run yields, it yields in non-strict mode as well. -/
theorem Splits.lenient {set : Settings} {last : Int} {ts : List Token} {body : List Statement}
    (h : Splits set last ts body) : Splits { set with strict := false } last ts body := by
  induction h with
  | nil => exact .nil
  | blank hb _ ih => exact .blank hb ih
  | @ended t us ts c body hb hc hend _ ih =>
    exact .ended (c := c.lenient) hb (Classifier.behind_lenient hc) hend ih
  | @underWay t us c hb hc hopen =>
    exact .underWay (c := c.lenient) hb (Classifier.behind_lenient hc) hopen

theorem statementsFrom_lenient {set : Settings} {last : Int} {ts : List Token}
    {body : List Statement} (h : statementsFrom set last none ts = .ok body) :
    statementsFrom { set with strict := false } last none ts = .ok body :=
  statementsFrom_of_splits ((splits_of_statementsFrom ts).1 body h).lenient

theorem exists_statementsFrom {set : Settings} (hs : set.strict = false) (last : Int)
    (ts : List Token) (current : Option Classifier)
    (hc : ∀ c, current = some c → c.strict = false ∧ c.statement.terminated = false) :
    ∃ body, statementsFrom set last current ts = .ok body := by
  have take {c : Classifier} (t : Token) (hstrict : c.strict = false)
      (hopen : c.statement.terminated = false) : ∃ next sealed, c.take t = .ok (next, sealed) ∧
        ∀ c, next = some c → c.strict = false ∧ c.statement.terminated = false := by
    obtain ⟨b, hf⟩ := Classifier.feed_of_lenient hstrict hopen t
    have hb := (Classifier.outcome_of_feed hf).strict_eq.trans hstrict
    rw [Classifier.take_eq hf]
    cases hend : b.statement.terminated with
    | true => exact ⟨_, _, rfl, by simp⟩
    | false =>
      refine ⟨_, _, rfl, ?_⟩
      rintro c ⟨⟩
      exact ⟨hb, hend⟩
  induction ts generalizing current with
  | nil => exact ⟨_, rfl⟩
  | cons t ts ih =>
    obtain ⟨next, sealed, ha, hnext⟩ : ∃ next sealed, advance set current t = .ok (next, sealed) ∧
        ∀ c, next = some c → c.strict = false ∧ c.statement.terminated = false := by
      cases current with
      | some c =>
        obtain ⟨hstrict, hopen⟩ := hc c rfl
        exact take t hstrict hopen
      | none =>
        cases hb : t.isBlank with
        | true => exact ⟨none, none, by simp [advance, hb], by simp⟩
        | false =>
          obtain ⟨c, hfirst⟩ : ∃ c, Classifier.ofFirst set.dialect set.strict t = .ok c := by
            unfold Classifier.ofFirst
            rw [hs]
            split <;> exact ⟨_, rfl⟩
          obtain ⟨o, rfl⟩ := Classifier.ofFirst_ok hfirst
          have ha : advance set none t =
              (Classifier.fresh set.dialect set.strict o t.start).take t := by
            simp [advance, hb, hfirst, bind, Except.bind]
          rw [ha]
          exact take t hs rfl
    obtain ⟨body, hbody⟩ := ih next hnext
    exact ⟨sealed.toList ++ body, by rw [statementsFrom_cons ha, hbody]; rfl⟩

end SqlScript
