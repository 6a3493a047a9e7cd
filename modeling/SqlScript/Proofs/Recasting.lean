import SqlScript.Proofs.Splitting

/-!
What a token counts for. A statement reads of it the kind, the word that it spells and whether it is
an equals sign; offsets are only carried along, and the text is repeated where the token is refused.
Tokens recast in all the rest give the same statements.
-/

set_option autoImplicit false

namespace SqlScript

def Token.recast (h : List Char → List Char) (g : Int → Int) (t : Token) : Token :=
  { t with text := h t.text, start := g t.start, stop := g t.stop }

def Statement.relocate (g : Int → Int) (s : Statement) : Statement :=
  { s with start := g s.start, stop := g s.stop }

def StatementError.recast (h : List Char → List Char) (g : Int → Int) :
    StatementError → StatementError
  | .unrecognizedStart value position => .unrecognizedStart (h value) (g position)
  | .missingBefore required value stepIndex => .missingBefore required (h value) stepIndex
  | .unaccepted accepted kind value stepIndex => .unaccepted accepted kind (h value) stepIndex
  | .alreadyTerminated => .alreadyTerminated

def Classifier.recast (h : List Char → List Char) (g : Int → Int) (c : Classifier) : Classifier :=
  { c with statement := c.statement.relocate g, previous := c.previous.map (·.recast h g) }

/-- The text becomes no other word and does not cease to be one, and so with the equals sign. -/
structure KeepsWord (h : List Char → List Char) (w : List Char) : Prop where
  word : Keyword.ofWord? (h w) = Keyword.ofWord? w
  equals : h w = ['='] ↔ w = ['=']

theorem keepsWord_id (w : List Char) : KeepsWord id w := ⟨rfl, Iff.rfl⟩

section

variable {h : List Char → List Char} {t : Token} (hw : KeepsWord h t.text) (g : Int → Int)

theorem Dialect.trackWord_relocate (d : Dialect) (f : Bool) (k : Keyword) (s : Statement) :
    d.trackWord f k (s.relocate g) = (d.trackWord f k s).map (·.relocate g) := by
  have ho : (s.relocate g).hasOpenBlock = s.hasOpenBlock := rfl
  unfold trackWord
  rw [ho]
  split
  · split <;> rfl
  · split
    · split <;> rfl
    · split <;> rfl

include hw

theorem Token.recast_word? : (t.recast h g).word? = t.word? := hw.word

theorem Token.recast_keyword? : (t.recast h g).keyword? = t.keyword? := by
  have hk : (t.recast h g).kind = t.kind := rfl
  rw [keyword?, keyword?, hk, recast_word? hw g]

theorem DefinerState.advance_recast (mayBegin : Bool) (s : DefinerState) :
    s.advance mayBegin (t.recast h g) = s.advance mayBegin t := by
  have hb : (t.recast h g).isBlank = t.isBlank := rfl
  have he : ((t.recast h g).text == ['=']) = (t.text == ['=']) := by
    rw [Bool.eq_iff_iff, beq_iff_eq, beq_iff_eq]
    exact hw.equals
  cases s <;> simp only [advance, Token.recast_keyword? hw g, hb, he]

theorem Effect.apply_recast (e : Effect) (s : Statement) :
    e.apply (t.recast h g) (s.relocate g) = (e.apply t s).relocate g := by
  cases e with
  | assignObject types =>
    simp only [apply, Token.recast_word? hw g]
    rfl
  | _ => rfl

namespace Classifier

theorem trackBody_recast (c : Classifier) :
    (c.recast h g).trackBody (t.recast h g) =
      ((c.trackBody t).1.recast h g, (c.trackBody t).2) := by
  cases hb : t.isBlank with
  | true => rw [trackBody_of_blank hb, trackBody_of_blank (t := t.recast h g) hb]
  | false =>
    cases hbody : c.dialect.hasBody c.statement with
    | false =>
      rw [trackBody_of_bodyless t hbody, trackBody_of_bodyless (c := c.recast h g) _ hbody]
    | true =>
      rw [trackBody_of_body hb hbody,
        trackBody_of_body (c := c.recast h g) (t := t.recast h g) hb hbody, Token.recast_keyword? hw g]
      simp only [recast, Dialect.trackWord_relocate]
      cases t.keyword? with
      | none => rfl
      | some k =>
        simp only [Option.bind_some]
        cases c.dialect.trackWord _ k c.statement <;> rfl

theorem refusal?_recast (c : Classifier) (p : Step) :
    (c.recast h g).refusal? p (t.recast h g) = (c.refusal? p t).map (·.recast h g) := by
  have hr : p.hasRequiredBefore (c.recast h g).previous = p.hasRequiredBefore c.previous := by
    unfold recast
    cases c.previous <;> rfl
  have ha : p.accepts (t.recast h g) = p.accepts t := by
    rw [Step.accepts, Step.accepts, Token.recast_keyword? hw g]
  have hs : (c.recast h g).strict = c.strict := rfl
  rw [refusal?, refusal?, hr, ha, hs]
  split
  · rfl
  · split <;> rfl

theorem takeStep_recast (c : Classifier) :
    (c.recast h g).takeStep (t.recast h g) =
      ((c.takeStep t).map (·.recast h g)).mapError (·.recast h g) := by
  cases hp : c.steps[c.stepIndex]? with
  | none => rw [takeStep_of_none t hp, takeStep_of_none (c := c.recast h g) _ hp]; rfl
  | some p =>
    have hp' : (c.recast h g).steps[(c.recast h g).stepIndex]? = some p := hp
    rw [takeStep_of_step t hp, takeStep_of_step _ hp', refusal?_recast hw]
    cases c.refusal? p t with
    | some e => rfl
    | none =>
      have he : p.effect.apply (t.recast h g) (c.recast h g).statement =
          (p.effect.apply t c.statement).relocate g := p.effect.apply_recast hw g c.statement
      simp only [Option.map_none, he]
      rfl

theorem feedHead_recast (c : Classifier) :
    (c.recast h g).feedHead (t.recast h g) =
      ((c.feedHead t).1.recast h g, (c.feedHead t).2.map (·.recast h g)) := by
  have hopt : (c.recast h g).skipsOption (t.recast h g) = c.skipsOption t := by
    rw [skipsOption, Token.recast_keyword? hw g]
    rfl
  cases hs : c.skipsOption t with
  | true =>
    rw [feedHead_of_option hs, feedHead_of_option (hopt.trans hs)]
    rfl
  | false =>
    have hs' := hopt.trans hs
    cases hd : c.statement.definer.advance (c.dialect.supportsDefiner && c.inHead) t with
    | mk definer taken =>
      have hd' : (c.recast h g).statement.definer.advance
          ((c.recast h g).dialect.supportsDefiner && (c.recast h g).inHead) (t.recast h g) =
          (definer, taken) := (DefinerState.advance_recast hw g _ _).trans hd
      cases taken with
      | true =>
        rw [feedHead_of_clause hs hd, feedHead_of_clause hs' hd']
        rfl
      | false =>
        cases hb : t.isBlank with
        | true =>
          have hb' : (t.recast h g).isBlank = true := hb
          rw [feedHead_of_blank hs hd hb, feedHead_of_blank hs' hd' hb']
          rfl
        | false =>
          have hb' : (t.recast h g).isBlank = false := hb
          cases hu : c.untyped with
          | false =>
            have hu' : (c.recast h g).untyped = false := hu
            rw [feedHead_of_typed hs hd hb hu, feedHead_of_typed hs' hd' hb' hu']
            rfl
          | true =>
            have hu' : (c.recast h g).untyped = true := hu
            have hp : (c.recast h g).afterPass (c.recast h g).previous definer =
                (c.afterPass c.previous definer).recast h g := rfl
            rw [feedHead_of_untyped hs hd hb hu, feedHead_of_untyped hs' hd' hb' hu', hp,
              takeStep_recast hw]
            cases (c.afterPass c.previous definer).takeStep t <;> rfl

theorem feed_recast (c : Classifier) :
    (c.recast h g).feed (t.recast h g) =
      ((c.feed t).1.recast h g, (c.feed t).2.map (·.recast h g)) := by
  have ht : (c.recast h g).statement.terminated = c.statement.terminated := rfl
  have hk : (t.recast h g).kind = t.kind := rfl
  unfold feed
  rw [ht, hk, trackBody_recast hw]
  split
  · rfl
  · split
    · rfl
    · cases c.trackBody t with
      | mk b taken =>
        cases taken with
        | true => rfl
        | false => exact feedHead_recast hw g b

theorem ofFirst_recast (d : Dialect) (strict : Bool) :
    ofFirst d strict (t.recast h g) =
      ((ofFirst d strict t).map (·.recast h g)).mapError (·.recast h g) := by
  unfold ofFirst
  rw [Token.recast_keyword? hw g]
  cases t.keyword?.bind Opening.ofKeyword? with
  | some o => rfl
  | none => cases strict <;> rfl

end Classifier

end

/-! Where the offset of a semicolon's last character is that of its end less one, whole runs are
recast. -/

section

variable {h : List Char → List Char} {g : Int → Int}

theorem Statement.seal_relocate (g : Int → Int) (stop : Int) (s : Statement) :
    (s.relocate g).seal (g stop) = (s.seal stop).relocate g := by
  cases hs : s.type <;> simp [Statement.seal, relocate, hs]

theorem Classifier.take_recast {t : Token} (hw : KeepsWord h t.text)
    (hg : t.kind = .semicolon → g t.stop - 1 = g (t.stop - 1)) (c : Classifier) :
    (c.recast h g).take (t.recast h g) =
      ((c.take t).map fun r => (r.1.map (·.recast h g), r.2.map (·.relocate g))).mapError
        (·.recast h g) := by
  have hf' := feed_recast hw g c
  cases hf : c.feed t with
  | mk b e =>
    rw [hf] at hf'
    cases e with
    | some e =>
      rw [take, take, hf, hf']
      rfl
    | none =>
      rw [take_eq hf, take_eq hf']
      have ht : (b.recast h g).statement.terminated = b.statement.terminated := rfl
      rw [ht]
      cases hb : b.statement.terminated with
      | false => rfl
      | true =>
        have hstop : (t.recast h g).stop - 1 = g (t.stop - 1) :=
          hg ((outcome_of_feed hf).terminated_iff.1 hb).1
        have hseal : (b.recast h g).statement.seal (g (t.stop - 1)) =
            (b.statement.seal (t.stop - 1)).relocate g := b.statement.seal_relocate g _
        rw [hstop, hseal]
        rfl

theorem advance_recast {t : Token} (hw : KeepsWord h t.text)
    (hg : t.kind = .semicolon → g t.stop - 1 = g (t.stop - 1)) (set : Settings)
    (current : Option Classifier) :
    advance set (current.map (·.recast h g)) (t.recast h g) =
      ((advance set current t).map fun r =>
        (r.1.map (·.recast h g), r.2.map (·.relocate g))).mapError (·.recast h g) := by
  cases current with
  | some c => exact c.take_recast hw hg
  | none =>
    have hb' : (t.recast h g).isBlank = t.isBlank := rfl
    cases hb : t.isBlank with
    | true =>
      have ha : advance set none t = .ok (none, none) := by simp [advance, hb]
      have ha' : advance set none (t.recast h g) = .ok (none, none) := by simp [advance, hb', hb]
      rw [Option.map_none, ha, ha']
      rfl
    | false =>
      simp only [advance, Option.map_none, hb', hb, Classifier.ofFirst_recast hw]
      cases Classifier.ofFirst set.dialect set.strict t with
      | error e => rfl
      | ok c => exact c.take_recast hw hg

theorem statementsFrom_recast (set : Settings) (last : Int) (current : Option Classifier)
    {ts : List Token} (hw : ∀ t ∈ ts, KeepsWord h t.text)
    (hg : ∀ t ∈ ts, t.kind = .semicolon → g t.stop - 1 = g (t.stop - 1)) :
    statementsFrom set (g last) (current.map (·.recast h g)) (ts.map (·.recast h g)) =
      ((statementsFrom set last current ts).map (List.map (·.relocate g))).mapError
        (·.recast h g) := by
  induction ts generalizing current with
  | nil =>
    cases current with
    | none => rfl
    | some c =>
      have hs : (c.recast h g).statement.seal (g last) = (c.statement.seal last).relocate g :=
        Statement.seal_relocate g last _
      exact congrArg (fun s => Except.ok [s]) hs
  | cons t ts ih =>
    obtain ⟨hwt, hws⟩ := List.forall_mem_cons.1 hw
    obtain ⟨hgt, hgs⟩ := List.forall_mem_cons.1 hg
    simp only [List.map_cons, statementsFrom, advance_recast hwt hgt]
    cases advance set current t with
    | error e => rfl
    | ok r =>
      obtain ⟨next, sealed⟩ := r
      change (statementsFrom set (g last) (next.map (·.recast h g)) (ts.map (·.recast h g)) >>=
        fun rest => pure ((sealed.map (·.relocate g)).toList ++ rest)) = _
      rw [ih next hws hgs]
      change _ = ((statementsFrom set last next ts >>= fun rest =>
        pure (sealed.toList ++ rest)).map (List.map (·.relocate g))).mapError (·.recast h g)
      cases statementsFrom set last next ts with
      | error e => rfl
      | ok rest => cases sealed <;> rfl

end

end SqlScript
