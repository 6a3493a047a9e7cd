import SqlScript.Proofs.Depth
import SqlScript.Proofs.Splitting

/-!
Heads of statements that begin with `CREATE` or `DROP`. Between that keyword and the object only
blanks, the dialect's options and whole clauses leave the type untold; any other token is taken as
the object.
-/

set_option autoImplicit false

namespace SqlScript

inductive ClausePart : DefinerState → List Token → Prop where
  | definer {t : Token} : t.keyword? = some .definer → ClausePart .sawDefiner [t]
  | afterDefiner {ts : List Token} {t : Token} : ClausePart .sawDefiner ts → t.isBlank = true →
      ClausePart .sawDefiner (ts ++ [t])
  | equals {ts : List Token} {t : Token} : ClausePart .sawDefiner ts → t.isBlank = false →
      t.kind ≠ .semicolon → t.text = ['='] → ClausePart .sawEquals (ts ++ [t])
  | afterEquals {ts : List Token} {t : Token} : ClausePart .sawEquals ts → t.isBlank = true →
      ClausePart .sawEquals (ts ++ [t])
  | principal {ts : List Token} {t : Token} : ClausePart .sawEquals ts → t.isBlank = false →
      t.kind ≠ .semicolon → ClausePart .consumingPrincipal (ts ++ [t])
  | more {ts : List Token} {t : Token} : ClausePart .consumingPrincipal ts → t.isBlank = false →
      t.kind ≠ .semicolon → ClausePart .consumingPrincipal (ts ++ [t])

/-- What may stand between the leading keyword and the object. A clause lasts until the blank behind
its principal. -/
inductive HeadGap (d : Dialect) : List Token → Prop where
  | nil : HeadGap d []
  | blank {ts : List Token} {t : Token} : HeadGap d ts → t.isBlank = true → HeadGap d (ts ++ [t])
  | option {ts : List Token} {t : Token} : HeadGap d ts → d = .psql →
      t.keyword? = some .or ∨ t.keyword? = some .replace → HeadGap d (ts ++ [t])
  | clause {ts us : List Token} {t : Token} : HeadGap d ts → d = .mysql →
      ClausePart .consumingPrincipal us → t.isBlank = true → HeadGap d (ts ++ us ++ [t])

/-- Tokens behind the leading keyword that end before an object, be it within a clause. -/
inductive NamesNoObject (d : Dialect) : List Token → Prop where
  | ended {gap part stop : List Token} : HeadGap d gap →
      (part = [] ∨ d = .mysql ∧ ∃ state, ClausePart state part) →
      (stop = [] ∨ ∃ z, z.kind = .semicolon ∧ stop = [z]) →
      NamesNoObject d (gap ++ part ++ stop)

theorem HeadGap.ended {d : Dialect} {gap stop : List Token} (h : HeadGap d gap)
    (hstop : stop = [] ∨ ∃ z, z.kind = .semicolon ∧ stop = [z]) :
    NamesNoObject d (gap ++ stop) := by
  have hn : NamesNoObject d (gap ++ [] ++ stop) := .ended h (.inl rfl) hstop
  rwa [List.append_nil] at hn

theorem DefinerState.advance_blank {t : Token} (hb : t.isBlank = true) (mayBegin : Bool)
    (state : DefinerState) :
    state.advance mayBegin t =
      match state with
      | .inactive | .consumingPrincipal => (.inactive, false)
      | .sawDefiner => (.sawDefiner, true)
      | .sawEquals => (.sawEquals, true) := by
  cases state <;> simp [advance, hb, Token.keyword?_of_blank hb]

theorem ClausePart.advance {state : DefinerState} {part : List Token} {t : Token}
    (h : ClausePart state part) (hk : t.kind ≠ .semicolon) :
    (∃ next, state.advance true t = (next, true) ∧ ClausePart next (part ++ [t])) ∨
      (state.advance true t = (.inactive, false) ∧
        (t.isBlank = true → state = .consumingPrincipal)) := by
  cases hb : t.isBlank with
  | true =>
    have ha := DefinerState.advance_blank hb true state
    cases state with
    | inactive => cases h
    | sawDefiner => exact .inl ⟨_, ha, .afterDefiner h hb⟩
    | sawEquals => exact .inl ⟨_, ha, .afterEquals h hb⟩
    | consumingPrincipal => exact .inr ⟨ha, fun _ => rfl⟩
  | false =>
    cases state with
    | inactive => cases h
    | sawDefiner =>
      by_cases ht : t.text = ['=']
      · exact .inl ⟨.sawEquals, by simp [DefinerState.advance, hb, ht], .equals h hb hk ht⟩
      · exact .inr ⟨by simp [DefinerState.advance, hb, ht], by simp⟩
    | sawEquals =>
      exact .inl ⟨_, by simp [DefinerState.advance, hb], .principal h hb hk⟩
    | consumingPrincipal =>
      exact .inl ⟨_, by simp [DefinerState.advance, hb], .more h hb hk⟩

theorem Dialect.createOptions_iff {d : Dialect} {t : Token} :
    t.keyword?.any d.createOptions.contains = true ↔
      d = .psql ∧ (t.keyword? = some .or ∨ t.keyword? = some .replace) := by
  cases h : t.keyword? with
  | none => simp
  | some k => cases d <;> simp [createOptions]

theorem Dialect.supportsDefiner_iff {d : Dialect} : d.supportsDefiner = true ↔ d = .mysql := by
  cases d <;> simp [supportsDefiner]

namespace Classifier

def afterBlank (c : Classifier) (t : Token) : Classifier :=
  match c.statement.definer with
  | .inactive | .consumingPrincipal => c.afterPass (some t) .inactive
  | .sawDefiner | .sawEquals => c

theorem feed_blank {c : Classifier} {t : Token} (ht : c.statement.terminated = false)
    (hb : t.isBlank = true) : c.feed t = (c.afterBlank t, none) := by
  have hs : c.skipsOption t = false := by simp [skipsOption, Token.keyword?_of_blank hb]
  have hd := DefinerState.advance_blank hb (c.dialect.supportsDefiner && c.inHead)
    c.statement.definer
  have hfeed : c.feed t = c.feedHead t := by
    rw [feed, ht, if_neg (by simp), if_neg (Token.kind_ne_semicolon_of_blank hb),
      trackBody_of_blank hb]
  rw [hfeed, afterBlank]
  split <;> rename_i hdef <;> simp only [hdef] at hd
  · exact feedHead_of_blank hs (by rw [hdef, hd]) hb
  · exact feedHead_of_blank hs (by rw [hdef, hd]) hb
  · rw [← hdef] at hd
    exact feedHead_of_clause hs hd
  · rw [← hdef] at hd
    exact feedHead_of_clause hs hd

theorem feedAll_concat {a b c : Classifier} {ts : List Token} {t : Token}
    (hts : a.feedAll ts = .ok b) (ht : b.feed t = (c, none)) : a.feedAll (ts ++ [t]) = .ok c :=
  feedAll_append_ok.2 ⟨b, hts, feedAll_cons_ok.2 ⟨c, ht, rfl⟩⟩

/-- The head stands before the object that tells the type. -/
structure Awaits (c : Classifier) (types : List (Keyword × StatementType)) : Prop where
  step : c.steps[c.stepIndex]? = some (.object types)
  begun : 0 < c.stepIndex
  type : c.statement.type = none
  underWay : c.statement.terminated = false

namespace Awaits

variable {c : Classifier} {types : List (Keyword × StatementType)} {t : Token}

theorem afterPass (h : c.Awaits types) (previous : Option Token) (definer : DefinerState) :
    (c.afterPass previous definer).Awaits types := ⟨h.step, h.begun, h.type, h.underWay⟩

theorem untyped (h : c.Awaits types) : c.untyped = true := by
  rw [Classifier.untyped, h.type]
  rfl

theorem inHead (h : c.Awaits types) : c.inHead = true := by
  simp [Classifier.inHead, h.begun, h.untyped]

theorem feed_semicolon (h : c.Awaits types) (hk : t.kind = .semicolon) :
    c.feed t = ({ c with
      lastBodyWord := none, statement := { c.statement with terminated := true } }, none) := by
  have hs : c.dialect.suppresses c.statement = false := by
    simp [Dialect.suppresses, Dialect.hasBody, h.type]
  rw [feed_of_semicolon h.underWay hk, feedSemicolon, hs]
  rfl

theorem feed_eq (h : c.Awaits types) (hk : t.kind ≠ .semicolon) : c.feed t = c.feedHead t := by
  rw [feed, h.underWay, if_neg (by simp), if_neg hk, trackBody_of_untyped t h.type]

theorem skipsOption_eq (h : c.Awaits types) :
    c.skipsOption t = true ↔
      c.dialect = .psql ∧ (t.keyword? = some .or ∨ t.keyword? = some .replace) := by
  rw [skipsOption, h.inHead, Bool.true_and, Dialect.createOptions_iff]

theorem skipsOption_mysql (h : c.Awaits types) (hd : c.dialect = .mysql) :
    c.skipsOption t = false := by
  rw [Bool.eq_false_iff, ne_eq, h.skipsOption_eq]
  simp [hd]

theorem feed_clause (h : c.Awaits types) (hd : c.dialect = .mysql) (hk : t.kind ≠ .semicolon)
    {definer : DefinerState} (ha : c.statement.definer.advance true t = (definer, true)) :
    c.feed t = (c.afterPass c.previous definer, none) := by
  have hmay : (c.dialect.supportsDefiner && c.inHead) = true := by
    rw [h.inHead, hd]
    rfl
  rw [h.feed_eq hk]
  exact feedHead_of_clause (h.skipsOption_mysql hd) (by rw [hmay, ha])

theorem feed_option (h : c.Awaits types) (hd : c.dialect = .psql)
    (ht : t.keyword? = some .or ∨ t.keyword? = some .replace) :
    c.feed t = (c.afterPass (some t) c.statement.definer, none) := by
  have hk : t.kind ≠ .semicolon := by
    rcases ht with ht | ht <;> exact Token.kind_ne_semicolon ht
  rw [h.feed_eq hk]
  exact feedHead_of_option (h.skipsOption_eq.2 ⟨hd, ht⟩)

theorem feed_blank (h : c.Awaits types) (hb : t.isBlank = true)
    (hd : c.statement.definer = .inactive ∨ c.statement.definer = .consumingPrincipal) :
    c.feed t = (c.afterPass (some t) .inactive, none) := by
  rw [Classifier.feed_blank h.underWay hb, afterBlank]
  rcases hd with hd | hd <;> rw [hd]

theorem feed_object (h : c.Awaits types) (hk : t.kind ≠ .semicolon) (hb : t.isBlank = false)
    (hs : c.skipsOption t = false)
    (hd : c.statement.definer.advance (c.dialect.supportsDefiner && c.inHead) t =
      (.inactive, false)) :
    c.feed t = match c.refusal? (.object types) t with
      | some e => (c.afterPass c.previous .inactive, some e)
      | none => (c.afterStep (.object types) .inactive t, none) := by
  have hstep : (c.afterPass c.previous .inactive).steps[(c.afterPass c.previous
      .inactive).stepIndex]? = some (.object types) := h.step
  have hr : (c.afterPass c.previous .inactive).refusal? (.object types) t =
      c.refusal? (.object types) t := rfl
  rw [h.feed_eq hk, feedHead_of_untyped hs hd hb h.untyped, takeStep_of_step t hstep, hr]
  cases c.refusal? (.object types) t <;> rfl

/-- A token that is not refused leaves the head before the object, or it ends the statement there,
or it is taken as the object. -/
theorem outcome {b : Classifier} (h : c.Awaits types) (ho : Outcome c t b none) :
    b.Awaits types ∨ (b.statement.terminated = true ∧ b.statement.type = none) ∨
      (c.refusal? (.object types) t = none ∧
        b.statement.type = some ((t.word?.bind fun k => types.lookup k).getD .unknown)) := by
  have hs := h.step
  have hu := h.type
  cases ho with
  | semicolon ht hk =>
    have hf := h.feed_semicolon hk
    rw [feed_of_semicolon ht hk] at hf
    rw [(Prod.mk.inj hf).1]
    exact .inr (.inl ⟨rfl, hu⟩)
  | passed previous definer =>
    rw [trackBody_of_untyped t hu]
    exact .inl (h.afterPass previous definer)
  | stepped p definer _ _ _ _ hp hr =>
    obtain rfl := Option.some.inj (hs.symm.trans hp)
    exact .inr (.inr ⟨hr, rfl⟩)

theorem feedAll_part (h : c.Awaits types) (hd : c.dialect = .mysql)
    (hi : c.statement.definer = .inactive) {state : DefinerState} {ts : List Token}
    (hp : ClausePart state ts) : c.feedAll ts = .ok (c.afterPass c.previous state) := by
  have step {state state' : DefinerState} {t : Token} (hk : t.kind ≠ .semicolon)
      (ha : state.advance true t = (state', true)) :
      (c.afterPass c.previous state).feed t = (c.afterPass c.previous state', none) :=
    (h.afterPass c.previous state).feed_clause hd hk ha
  induction hp with
  | @definer t ht =>
    have ha : c.statement.definer.advance true t = (.sawDefiner, true) := by
      simp [hi, DefinerState.advance, ht]
    exact feedAll_cons_ok.2 ⟨_, h.feed_clause hd (Token.kind_ne_semicolon ht) ha, rfl⟩
  | afterDefiner _ hb ih =>
    exact feedAll_concat ih
      (step (Token.kind_ne_semicolon_of_blank hb) (DefinerState.advance_blank hb _ _))
  | equals _ hb hk ht ih =>
    exact feedAll_concat ih (step hk (by simp [DefinerState.advance, hb, ht]))
  | afterEquals _ hb ih =>
    exact feedAll_concat ih
      (step (Token.kind_ne_semicolon_of_blank hb) (DefinerState.advance_blank hb _ _))
  | principal _ hb hk ih =>
    exact feedAll_concat ih (step hk (by simp [DefinerState.advance, hb]))
  | more _ hb hk ih =>
    exact feedAll_concat ih (step hk (by simp [DefinerState.advance, hb]))

/-- Behind a gap the head still awaits the object, and remembers the token right before. -/
theorem feedAll_gap {first : Token} (h : c.Awaits types) (hi : c.statement.definer = .inactive)
    (hf : c.previous = some first) {ts : List Token} (hg : HeadGap c.dialect ts) :
    c.feedAll ts = .ok (c.afterPass (some (ts.getLastD first)) .inactive) := by
  induction hg with
  | nil =>
    rw [List.getLastD_nil, ← hf, ← hi]
    rfl
  | blank _ hb ih =>
    rw [List.getLastD_concat]
    exact feedAll_concat ih ((h.afterPass _ _).feed_blank hb (.inl rfl))
  | option _ hd ht ih =>
    rw [List.getLastD_concat]
    exact feedAll_concat ih ((h.afterPass _ _).feed_option hd ht)
  | @clause ts us t _ hd hp hb ih =>
    rw [List.getLastD_concat]
    have hgap := h.afterPass (some (ts.getLastD first)) .inactive
    have hpart := hgap.feedAll_part hd rfl hp
    refine feedAll_concat (feedAll_append_ok.2 ⟨_, ih, hpart⟩) ?_
    exact (hgap.afterPass _ .consumingPrincipal).feed_blank hb (.inr rfl)

theorem feedAll_namesNoObject {first : Token} (h : c.Awaits types)
    (hi : c.statement.definer = .inactive) (hf : c.previous = some first) {ts : List Token}
    (hn : NamesNoObject c.dialect ts) : ∃ b, c.feedAll ts = .ok b ∧ b.statement.type = none := by
  obtain ⟨hgap, hpart, hstop⟩ := hn
  rename_i gap part stop
  have hg := h.feedAll_gap hi hf hgap
  have hawaits := h.afterPass (some (gap.getLastD first)) .inactive
  obtain ⟨b, hp, hb⟩ : ∃ b, (c.afterPass (some (gap.getLastD first)) .inactive).feedAll part =
      .ok b ∧ b.Awaits types := by
    rcases hpart with rfl | ⟨hd, state, hpart⟩
    · exact ⟨_, rfl, hawaits⟩
    · exact ⟨_, hawaits.feedAll_part hd rfl hpart, hawaits.afterPass _ _⟩
  have hread := feedAll_append_ok.2 ⟨_, hg, hp⟩
  rcases hstop with rfl | ⟨z, hz, rfl⟩
  · rw [List.append_nil]
    exact ⟨b, hread, hb.type⟩
  · exact ⟨_, feedAll_concat hread (hb.feed_semicolon hz), hb.type⟩

end Awaits

structure HasRead (c : Classifier) (types : List (Keyword × StatementType)) (ts : List Token) :
    Prop where
  awaits : c.Awaits types
  read : ∃ gap part, ts = gap ++ part ∧ HeadGap c.dialect gap ∧
    ((c.statement.definer = .inactive ∧ part = []) ∨
     (c.dialect = .mysql ∧ ClausePart c.statement.definer part))

namespace HasRead

variable {c b : Classifier} {types : List (Keyword × StatementType)} {ts : List Token} {t : Token}

theorem not_object (h : c.HasRead types ts) (hk : t.kind ≠ .semicolon) (hb : t.isBlank = false)
    (hs : c.skipsOption t = false)
    (hd : c.statement.definer.advance (c.dialect.supportsDefiner && c.inHead) t =
      (.inactive, false)) (hf : c.feed t = (b, none)) : b.statement.type ≠ none := by
  rw [h.awaits.feed_object hk hb hs hd] at hf
  split at hf
  · simp at hf
  · obtain ⟨rfl, -⟩ := Prod.mk.inj hf
    simp [afterStep, Step.object, Effect.apply]

theorem step (h : c.HasRead types ts) (hf : c.feed t = (b, none)) (hb : b.statement.type = none) :
    (t.kind = .semicolon ∧ b.statement.terminated = true) ∨ b.HasRead types (ts ++ [t]) := by
  obtain ⟨gap, part, rfl, hgap, hstate⟩ := h.read
  have ha := h.awaits
  by_cases hk : t.kind = .semicolon
  · rw [ha.feed_semicolon hk] at hf
    obtain ⟨rfl, -⟩ := Prod.mk.inj hf
    exact .inl ⟨hk, rfl⟩
  right
  by_cases hopt : c.skipsOption t = true
  · obtain ⟨hd, ht⟩ := ha.skipsOption_eq.1 hopt
    obtain ⟨hi, rfl⟩ := hstate.resolve_right (by simp [hd])
    rw [ha.feed_option hd ht] at hf
    obtain ⟨rfl, -⟩ := Prod.mk.inj hf
    exact ⟨ha.afterPass _ _, gap ++ [t], [], by simp, .option hgap hd ht, .inl ⟨hi, rfl⟩⟩
  have hopt := Bool.eq_false_iff.2 hopt
  rcases hstate with ⟨hi, rfl⟩ | ⟨hd, hpart⟩
  · by_cases hbegin : c.dialect = .mysql ∧ t.keyword? = some .definer
    · obtain ⟨hd, ht⟩ := hbegin
      have hadvance : c.statement.definer.advance true t = (.sawDefiner, true) := by
        simp [hi, DefinerState.advance, ht]
      rw [ha.feed_clause hd hk hadvance] at hf
      obtain ⟨rfl, -⟩ := Prod.mk.inj hf
      exact ⟨ha.afterPass _ _, gap, [t], by simp, hgap, .inr ⟨hd, .definer ht⟩⟩
    · cases hbt : t.isBlank with
      | true =>
        rw [ha.feed_blank hbt (.inl hi)] at hf
        obtain ⟨rfl, -⟩ := Prod.mk.inj hf
        exact ⟨ha.afterPass _ _, gap ++ [t], [], by simp, .blank hgap hbt, .inl ⟨rfl, rfl⟩⟩
      | false =>
        have hadvance : c.statement.definer.advance (c.dialect.supportsDefiner && c.inHead) t =
            (.inactive, false) := by
          rw [hi, ha.inHead, Bool.and_true, DefinerState.advance, if_neg]
          rwa [Bool.and_eq_true, Dialect.supportsDefiner_iff, beq_iff_eq]
        exact absurd hb (h.not_object hk hbt hopt hadvance hf)
  · rcases hpart.advance hk with ⟨next, hadvance, hnext⟩ | ⟨hadvance, hblank⟩
    · rw [ha.feed_clause hd hk hadvance] at hf
      obtain ⟨rfl, -⟩ := Prod.mk.inj hf
      exact ⟨ha.afterPass _ _, gap, part ++ [t], by simp, hgap, .inr ⟨hd, hnext⟩⟩
    · cases hbt : t.isBlank with
      | true =>
        have hlast := hblank hbt
        rw [ha.feed_blank hbt (.inr hlast)] at hf
        obtain ⟨rfl, -⟩ := Prod.mk.inj hf
        rw [hlast] at hpart
        exact ⟨ha.afterPass _ _, gap ++ part ++ [t], [], by simp, .clause hgap hd hpart hbt,
          .inl ⟨rfl, rfl⟩⟩
      | false =>
        have hmay : (c.dialect.supportsDefiner && c.inHead) = true := by
          rw [ha.inHead, hd]
          rfl
        exact absurd hb (h.not_object hk hbt hopt (by rw [hmay, hadvance]) hf)

theorem ended {stop : List Token} (h : c.HasRead types ts)
    (hstop : stop = [] ∨ ∃ z, z.kind = .semicolon ∧ stop = [z]) :
    NamesNoObject c.dialect (ts ++ stop) := by
  obtain ⟨gap, part, rfl, hgap, hstate⟩ := h.read
  exact .ended hgap (hstate.imp And.right fun hp => ⟨hp.1, _, hp.2⟩) hstop

/-- As long as a statement is under way and its type untold, it has read nothing but what may stand
before the object. -/
theorem feedAll {us : List Token} (h : c.HasRead types ts) (hr : c.feedAll us = .ok b)
    (hty : b.statement.type = none) (hopen : b.statement.terminated = false) :
    b.HasRead types (ts ++ us) := by
  induction us generalizing c ts with
  | nil =>
    obtain rfl := Except.ok.inj hr
    rwa [List.append_nil]
  | cons u us ih =>
    obtain ⟨a, hf, hr⟩ := feedAll_cons_ok.1 hr
    rcases h.step hf (type_eq_none_of_feedAll hr hty) with ⟨-, hend⟩ | hread
    · obtain ⟨-, rfl⟩ := feedAll_terminated hend hr
      simp [hend] at hopen
    · rw [List.append_cons]
      exact ih hread hr

theorem run {us : List Token} (h : c.HasRead types ts) (hr : c.feedAll us = .ok b)
    (hb : b.statement.type = none) : NamesNoObject b.dialect (ts ++ us) := by
  induction us generalizing c ts with
  | nil =>
    obtain rfl := Except.ok.inj hr
    exact h.ended (.inl rfl)
  | cons t us ih =>
    obtain ⟨a, hf, hr⟩ := feedAll_cons_ok.1 hr
    rcases h.step hf (type_eq_none_of_feedAll hr hb) with ⟨hk, hend⟩ | hread
    · obtain ⟨rfl, rfl⟩ := feedAll_terminated hend hr
      rw [(outcome_of_feed hf).dialect_eq]
      exact h.ended (.inr ⟨t, hk, rfl⟩)
    · rw [List.append_cons]
      exact ih hread hr

end HasRead

end Classifier

def Keyword.plainType? : Keyword → Option StatementType
  | .select => some .select
  | .insert => some .insert
  | .update => some .update
  | .delete => some .delete
  | .truncate => some .truncate
  | _ => none

def Keyword.objects : Keyword → List Keyword
  | .create => [.table, .database, .trigger, .function]
  | .drop => [.table, .database]
  | _ => []

def Keyword.objectTypes : Keyword → List (Keyword × StatementType)
  | .create => Opening.createdObjects
  | .drop => Opening.droppedObjects
  | _ => []

theorem Keyword.map_objectTypes (k : Keyword) : k.objectTypes.map Prod.fst = k.objects := by
  cases k <;> rfl

theorem Keyword.lookup_objectTypes {k w : Keyword} (h : w ∈ k.objects) :
    ∃ type, k.objectTypes.lookup w = some type ∧ type ≠ .unknown := by
  cases k <;> simp [objects] at h
  · rcases h with rfl | rfl | rfl | rfl <;> exact ⟨_, rfl, by decide⟩
  · rcases h with rfl | rfl <;> exact ⟨_, rfl, by decide⟩

theorem Keyword.accepts_object {k : Keyword} (hk : k = .create ∨ k = .drop) {t : Token} :
    (Step.object k.objectTypes).accepts t = true ↔ ∃ w ∈ k.objects, t.keyword? = some w := by
  have hne : k.objects ≠ [] := by rcases hk with rfl | rfl <;> simp [objects]
  have hmap : (Step.object k.objectTypes).accepted = k.objects := k.map_objectTypes
  rw [Step.accepts, hmap]
  cases t.keyword? <;> simp [hne]

theorem Token.word?_of_keyword {t : Token} {w : Keyword} (h : t.keyword? = some w) :
    t.word? = some w := by
  unfold Token.keyword? at h
  split at h
  · exact h
  · contradiction

namespace Classifier

variable {set : Settings} {t : Token} {us : List Token} {c : Classifier}

theorem behind_nil :
    behind set t [] = .ok c ↔
      ∃ a, ofFirst set.dialect set.strict t = .ok a ∧ a.feed t = (c, none) := by
  rw [behind_ok]
  constructor
  · rintro ⟨a, ha, hr⟩
    obtain ⟨b, hf, hb⟩ := feedAll_cons_ok.1 hr
    exact ⟨a, ha, by rw [hf, Except.ok.inj hb]⟩
  · rintro ⟨a, ha, hf⟩
    exact ⟨a, ha, feedAll_cons_ok.2 ⟨c, hf, rfl⟩⟩

theorem behind_eq_ok :
    behind set t us = .ok c ↔ ∃ a, behind set t [] = .ok a ∧ a.feedAll us = .ok c :=
  @behind_append set t [] us c

theorem ofFirst_leading {k : Keyword} {o : Opening} (d : Dialect) (strict : Bool)
    (ht : t.keyword? = some k) (ho : Opening.ofKeyword? k = some o) :
    ofFirst d strict t = .ok (fresh d strict o t.start) := by
  rw [ofFirst, ht, Option.bind_some, ho]

theorem opening_takes {k : Keyword} {o : Opening} {p : Step} (ht : t.keyword? = some k)
    (ho : Opening.ofKeyword? k = some o) (hp : o.steps[0]? = some p) :
    p.accepts t = true ∧ p.requiredBefore = [] := by
  cases k <;> simp [Opening.ofKeyword?] at ho <;> subst ho <;>
    simp [Opening.steps, Step.keyword, Step.leading] at hp <;> subst hp <;>
    simp [Step.accepts, ht]

theorem behind_first {k : Keyword} {o : Opening} {p : Step} (set : Settings)
    (ht : t.keyword? = some k) (ho : Opening.ofKeyword? k = some o)
    (hp : o.steps[0]? = some p) :
    behind set t [] =
      .ok ((fresh set.dialect set.strict o t.start).afterStep p .inactive t) := by
  obtain ⟨haccepts, hbefore⟩ := opening_takes ht ho hp
  have hr : (fresh set.dialect set.strict o t.start).refusal? p t = none := by
    simp [refusal?, Step.hasRequiredBefore, hbefore, haccepts]
  have hf : (fresh set.dialect set.strict o t.start).feed t = _ :=
    feed_of_fresh (Token.kind_ne_semicolon ht) (Token.isBlank_of_keyword ht)
  rw [takeStep_of_step t hp, hr] at hf
  exact behind_nil.2 ⟨_, ofFirst_leading set.dialect set.strict ht ho, hf⟩

theorem exists_opening (hs : set.strict = true) (h : behind set t us = .ok c) :
    ∃ k o, t.keyword? = some k ∧ Opening.ofKeyword? k = some o := by
  obtain ⟨a, ha, -⟩ := behind_ok.1 h
  obtain ⟨o, -, ⟨-, hnot⟩ | ⟨k, hk, ho⟩⟩ := opening_of_ofFirst ha
  · simp [hs] at hnot
  · exact ⟨k, o, hk, ho⟩

theorem exists_behindPlain {k : Keyword} {type : StatementType} (set : Settings)
    (ht : t.keyword? = some k) (hk : k.plainType? = some type) :
    ∃ c, behind set t [] = .ok c ∧ c.statement.type = some type := by
  cases k <;> cases hk <;> exact ⟨_, behind_first set ht rfl rfl, rfl⟩

theorem plain_or_leading {k : Keyword} {o : Opening} (ho : Opening.ofKeyword? k = some o) :
    (∃ type, k.plainType? = some type) ∨ k = .create ∨ k = .drop := by
  cases k <;> simp [Opening.ofKeyword?, Keyword.plainType?] at ho ⊢

structure BehindLeading (set : Settings) (t : Token) (k : Keyword) (c : Classifier) : Prop where
  awaits : c.Awaits k.objectTypes
  definer : c.statement.definer = .inactive
  previous : c.previous = some t
  stepIndex : c.stepIndex = 1
  dialect : c.dialect = set.dialect
  strict : c.strict = set.strict

theorem BehindLeading.hasRead {k : Keyword} (h : BehindLeading set t k c) :
    c.HasRead k.objectTypes [] := ⟨h.awaits, [], [], rfl, .nil, .inl ⟨h.definer, rfl⟩⟩

/-- The type stays untold just if the tokens behind the leading keyword name no object. -/
theorem BehindLeading.untyped_iff {k : Keyword} {b : Classifier} (h : BehindLeading set t k c)
    (hr : c.feedAll us = .ok b) :
    b.statement.type = none ↔ NamesNoObject set.dialect us := by
  have ha := h.awaits
  constructor
  · intro hb
    have hn := h.hasRead.run hr hb
    rwa [feedAll_dialect hr, h.dialect] at hn
  · intro hn
    rw [← h.dialect] at hn
    obtain ⟨b', hr', hb'⟩ := ha.feedAll_namesNoObject h.definer h.previous hn
    rwa [Except.ok.inj (hr.symm.trans hr')]

theorem exists_behindLeading {k : Keyword} (set : Settings) (ht : t.keyword? = some k)
    (hk : k = .create ∨ k = .drop) :
    ∃ c, behind set t [] = .ok c ∧ BehindLeading set t k c := by
  rcases hk with rfl | rfl
  · exact ⟨_, behind_first set ht rfl rfl,
      ⟨rfl, Nat.one_pos, rfl, rfl⟩, rfl, rfl, rfl, rfl, rfl⟩
  · exact ⟨_, behind_first set ht rfl rfl,
      ⟨rfl, Nat.one_pos, rfl, rfl⟩, rfl, rfl, rfl, rfl, rfl⟩

end Classifier

end SqlScript
