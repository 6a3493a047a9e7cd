import SqlScript.Proofs.Feeding
import SqlScript.Script

/-!
How the tokens of a script fall apart into statements and the blanks between them. A statement is
found by the tokens from its first through its last alone: `statementsFrom_ended` holds whatever
follows, and `splits_of_statementsFrom` says that nothing else is ever found.
-/

set_option autoImplicit false

namespace SqlScript

@[simp] theorem Statement.seal_start (stop : Int) (s : Statement) :
    (s.seal stop).start = s.start := by
  cases h : s.type <;> simp [Statement.seal, h]

@[simp] theorem Statement.seal_stop (stop : Int) (s : Statement) :
    (s.seal stop).stop = stop := by
  cases h : s.type <;> simp [Statement.seal, h]

@[simp] theorem Statement.seal_terminated (stop : Int) (s : Statement) :
    (s.seal stop).terminated = s.terminated := by
  cases h : s.type <;> simp [Statement.seal, h]

theorem Statement.seal_of_typed {s : Statement} {type : StatementType} (stop : Int)
    (h : s.type = some type) : s.seal stop = { s with stop := stop } := by
  simp [Statement.seal, h]

theorem concat_getLastD (t : Token) (us : List Token) :
    (t :: us).dropLast ++ [us.getLastD t] = t :: us := by
  rw [← List.getLast_eq_getLastD (List.cons_ne_nil t us), List.dropLast_concat_getLast]

def Classifier.behind (set : Settings) (t : Token) (us : List Token) :
    Except StatementError Classifier := do
  let c ← Classifier.ofFirst set.dialect set.strict t
  c.feedAll (t :: us)

namespace Classifier

theorem behind_ok {set : Settings} {t : Token} {us : List Token} {c : Classifier} :
    behind set t us = .ok c ↔
      ∃ b, ofFirst set.dialect set.strict t = .ok b ∧ b.feedAll (t :: us) = .ok c := by
  rw [behind]
  cases ofFirst set.dialect set.strict t with
  | error e => simp [bind, Except.bind]
  | ok b => simp [bind, Except.bind]

theorem behind_append {set : Settings} {t : Token} {us vs : List Token} {c : Classifier} :
    behind set t (us ++ vs) = .ok c ↔
      ∃ b, behind set t us = .ok b ∧ b.feedAll vs = .ok c := by
  simp only [behind_ok, ← List.cons_append, feedAll_append_ok]
  constructor
  · rintro ⟨a, ha, b, hb, hc⟩
    exact ⟨b, ⟨a, ha, hb⟩, hc⟩
  · rintro ⟨b, ⟨a, ha, hb⟩, hc⟩
    exact ⟨a, ha, b, hb, hc⟩

theorem behind_refused {set : Settings} {t u : Token} {us vs : List Token} {a b : Classifier}
    {e : StatementError} (h : behind set t us = .ok a) (hf : a.feed u = (b, some e)) :
    behind set t (us ++ u :: vs) = .error e := by
  obtain ⟨c, hc, hr⟩ := behind_ok.1 h
  rw [behind, hc, ← List.cons_append]
  exact feedAll_refused vs hr hf

theorem opening_of_ofFirst {d : Dialect} {strict : Bool} {t : Token} {c : Classifier}
    (h : ofFirst d strict t = .ok c) :
    ∃ o, c = fresh d strict o t.start ∧ ((o = .unknown ∧ strict = false) ∨
      ∃ k, t.keyword? = some k ∧ Opening.ofKeyword? k = some o) := by
  unfold ofFirst at h
  split at h
  · rename_i o ho
    exact ⟨o, (Except.ok.inj h).symm, .inr (Option.bind_eq_some_iff.1 ho)⟩
  · split at h
    · contradiction
    · rename_i hs
      exact ⟨.unknown, (Except.ok.inj h).symm, .inl ⟨rfl, Bool.eq_false_iff.2 hs⟩⟩

theorem ofFirst_ok {d : Dialect} {strict : Bool} {t : Token} {c : Classifier}
    (h : ofFirst d strict t = .ok c) : ∃ o, c = fresh d strict o t.start := by
  obtain ⟨o, hc, -⟩ := opening_of_ofFirst h
  exact ⟨o, hc⟩

theorem begun_behind {set : Settings} {t : Token} {us : List Token} {c : Classifier}
    (hb : t.isBlank = false) (h : behind set t us = .ok c) : Begun t c := by
  obtain ⟨a, ha, hc⟩ := behind_ok.1 h
  obtain ⟨o, rfl⟩ := ofFirst_ok ha
  obtain ⟨b, hf, hr⟩ := feedAll_cons_ok.1 hc
  exact feedAll_induction hr (begun_fresh hb hf)
    fun _ _ _ _ ha hf => ha.outcome (outcome_of_feed hf)

theorem dialect_behind {set : Settings} {t : Token} {us : List Token} {c : Classifier}
    (h : behind set t us = .ok c) : c.dialect = set.dialect := by
  obtain ⟨a, ha, hc⟩ := behind_ok.1 h
  obtain ⟨o, rfl⟩ := ofFirst_ok ha
  exact feedAll_dialect hc

/-- Before the last token that it takes a statement is under way. -/
theorem underWay_behind {set : Settings} {t v : Token} {us vs : List Token} {c : Classifier}
    (h : behind set t (us ++ v :: vs) = .ok c) :
    ∃ b, behind set t us = .ok b ∧ b.statement.terminated = false := by
  obtain ⟨b, hb, hr⟩ := behind_append.1 h
  obtain ⟨_, hf, _⟩ := feedAll_cons_ok.1 hr
  exact ⟨b, hb, (outcome_of_feed hf).underWay⟩

theorem last_of_terminated {set : Settings} {t : Token} {us : List Token} {c : Classifier}
    (h : behind set t us = .ok c) (hc : c.statement.terminated = true) :
    (us.getLastD t).kind = .semicolon := by
  obtain rfl | ⟨vs, z, rfl⟩ := us.eq_nil_or_concat
  · obtain ⟨a, _, ha⟩ := behind_ok.1 h
    obtain ⟨b, hb, hr⟩ := feedAll_cons_ok.1 ha
    obtain rfl := Except.ok.inj hr
    exact ((outcome_of_feed hb).terminated_iff.1 hc).1
  · rw [List.concat_eq_append] at h
    obtain ⟨a, _, ha⟩ := behind_append.1 h
    obtain ⟨b, hb, hr⟩ := feedAll_cons_ok.1 ha
    obtain rfl := Except.ok.inj hr
    simpa using ((outcome_of_feed hb).terminated_iff.1 hc).1

end Classifier

section

variable {ε α β : Type} {r : Except ε α} {f : α → β}

theorem ok_of_toOption {a : α} (h : r.toOption = some a) : r = .ok a := by
  cases r with
  | error e => contradiction
  | ok b => rw [Option.some.inj h]

theorem ok_of_map {b : β} (h : r.map f = .ok b) : ∃ a, r = .ok a ∧ f a = b := by
  cases r with
  | error e => contradiction
  | ok a => exact ⟨a, rfl, Except.ok.inj h⟩

theorem error_of_map {e : ε} (h : r.map f = .error e) : r = .error e := by
  cases r with
  | error e' => rw [Except.error.inj h]
  | ok a => contradiction

end

section

variable {set : Settings} {last : Int}

theorem statementsFrom_cons {current next : Option Classifier} {sealed : Option Statement}
    {t : Token} {ts : List Token} (h : advance set current t = .ok (next, sealed)) :
    statementsFrom set last current (t :: ts) =
      (statementsFrom set last next ts).map (sealed.toList ++ ·) := by
  rw [statementsFrom, h]
  change (statementsFrom set last next ts >>= fun rest => pure (sealed.toList ++ rest)) = _
  cases statementsFrom set last next ts <;> rfl

theorem statementsFrom_error {current : Option Classifier} {t : Token} {e : StatementError}
    (ts : List Token) (h : advance set current t = .error e) :
    statementsFrom set last current (t :: ts) = .error e := by
  rw [statementsFrom, h]
  rfl

theorem Classifier.take_eq {c c' : Classifier} {t : Token} (h : c.feed t = (c', none)) :
    c.take t = .ok (if c'.statement.terminated then
      (none, some (c'.statement.seal (t.stop - 1))) else (some c', none)) := by
  rw [take, h]
  dsimp only
  split <;> rfl

namespace Classifier

variable {c : Classifier} {t : Token} {next : Option Classifier} {sealed : Option Statement}

theorem feed_of_take (h : c.take t = .ok (next, sealed)) :
    ∃ b, c.feed t = (b, none) ∧
      ((b.statement.terminated = false ∧ next = some b ∧ sealed = none) ∨
       (b.statement.terminated = true ∧ next = none ∧
        sealed = some (b.statement.seal (t.stop - 1)))) := by
  cases hf : c.feed t with
  | mk b e =>
    cases e with
    | some e => simp [take, hf] at h
    | none =>
      rw [take_eq hf] at h
      refine ⟨b, rfl, ?_⟩
      cases hb : b.statement.terminated with
      | false =>
        rw [hb, if_neg (by simp)] at h
        obtain ⟨rfl, rfl⟩ := Prod.mk.inj (Except.ok.inj h)
        exact .inl ⟨rfl, rfl, rfl⟩
      | true =>
        rw [hb, if_pos rfl] at h
        obtain ⟨rfl, rfl⟩ := Prod.mk.inj (Except.ok.inj h)
        exact .inr ⟨rfl, rfl, rfl⟩

theorem feed_of_take_error {e : StatementError} (h : c.take t = .error e) :
    ∃ b, c.feed t = (b, some e) := by
  cases hf : c.feed t with
  | mk b e' =>
    cases e' with
    | none => simp [take_eq hf] at h
    | some e' =>
      rw [take, hf] at h
      exact ⟨b, by rw [Except.error.inj h]⟩

end Classifier

theorem statementsFrom_underWay {c c' : Classifier} {us : List Token} (ts : List Token)
    (h : c.feedAll us = .ok c') (hc : c'.statement.terminated = false) :
    statementsFrom set last (some c) (us ++ ts) = statementsFrom set last (some c') ts := by
  induction us generalizing c with
  | nil => rw [Except.ok.inj h, List.nil_append]
  | cons u us ih =>
    obtain ⟨b, hb, hr⟩ := Classifier.feedAll_cons_ok.1 h
    have hu : b.statement.terminated = false := by
      cases hbt : b.statement.terminated with
      | false => rfl
      | true =>
        obtain ⟨_, rfl⟩ := Classifier.feedAll_terminated hbt hr
        rw [hbt] at hc
        contradiction
    have ha : advance set (some c) u = .ok (some b, none) := by
      simp [advance, Classifier.take_eq hb, hu]
    rw [List.cons_append, statementsFrom_cons ha, ih hr]
    cases statementsFrom set last (some c') ts <;> rfl

theorem statementsFrom_terminated {c c' : Classifier} {us : List Token} (u : Token)
    (ts : List Token) (h : c.feedAll us = .ok c') (hu : c.statement.terminated = false)
    (hc : c'.statement.terminated = true) :
    statementsFrom set last (some c) (us ++ ts) =
      (statementsFrom set last none ts).map
        (c'.statement.seal ((us.getLastD u).stop - 1) :: ·) := by
  obtain rfl | ⟨vs, z, rfl⟩ := us.eq_nil_or_concat
  · rw [Except.ok.inj h, hc] at hu
    contradiction
  · rw [List.concat_eq_append] at h ⊢
    obtain ⟨b, hb, hz⟩ := Classifier.feedAll_append_ok.1 h
    obtain ⟨a, ha, hr⟩ := Classifier.feedAll_cons_ok.1 hz
    obtain rfl := Except.ok.inj hr
    have hbu := (Classifier.outcome_of_feed ha).underWay
    have hadv : advance set (some b) z =
        .ok (none, some (a.statement.seal (z.stop - 1))) := by
      simp [advance, Classifier.take_eq ha, hc]
    rw [List.append_assoc, statementsFrom_underWay _ hb hbu, List.singleton_append,
      statementsFrom_cons hadv]
    simp

theorem statementsFrom_blank {t : Token} (ts : List Token) (hb : t.isBlank = true) :
    statementsFrom set last none (t :: ts) = statementsFrom set last none ts := by
  have ha : advance set none t = .ok (none, none) := by simp [advance, hb]
  rw [statementsFrom_cons ha]
  cases statementsFrom set last none ts <;> rfl

theorem statementsFrom_first {t : Token} {c : Classifier} (ts : List Token)
    (hb : t.isBlank = false) (h : Classifier.ofFirst set.dialect set.strict t = .ok c) :
    statementsFrom set last none (t :: ts) = statementsFrom set last (some c) (t :: ts) := by
  have ha : advance set none t = advance set (some c) t := by
    simp [advance, hb, h, bind, Except.bind]
  rw [statementsFrom, statementsFrom, ha]

theorem statementsFrom_ended {t : Token} {us : List Token} {c : Classifier} (ts : List Token)
    (hb : t.isBlank = false) (h : Classifier.behind set t us = .ok c)
    (hc : c.statement.terminated = true) :
    statementsFrom set last none (t :: us ++ ts) =
      (statementsFrom set last none ts).map
        (c.statement.seal ((us.getLastD t).stop - 1) :: ·) := by
  obtain ⟨a, ha, hf⟩ := Classifier.behind_ok.1 h
  obtain ⟨o, rfl⟩ := Classifier.ofFirst_ok ha
  rw [List.cons_append, statementsFrom_first _ hb ha, ← List.cons_append,
    statementsFrom_terminated t ts hf rfl hc, List.getLastD_cons]

end

theorem statementsFrom_refused {set : Settings} {last : Int} {c : Classifier} {us : List Token}
    {e : StatementError} (ts : List Token) (h : c.feedAll us = .error e)
    (he : e ≠ .alreadyTerminated) : statementsFrom set last (some c) (us ++ ts) = .error e := by
  induction us generalizing c with
  | nil => contradiction
  | cons u us ih =>
    rw [Classifier.feedAll] at h
    rw [List.cons_append]
    split at h
    · rename_i b hf
      have hb : b.statement.terminated = false := by
        cases hend : b.statement.terminated with
        | false => rfl
        | true =>
          cases us with
          | nil => contradiction
          | cons v us =>
            rw [Classifier.feedAll, Classifier.feed, hend] at h
            exact absurd (Except.error.inj h).symm he
      have ha : advance set (some c) u = .ok (some b, none) := by
        simp [advance, Classifier.take_eq hf, hb]
      rw [statementsFrom_cons ha, ih h]
      rfl
    · rename_i b e' hf
      rw [← Except.error.inj h]
      simp [statementsFrom, advance, Classifier.take, hf, bind, Except.bind]

theorem statementsFrom_behind_error {set : Settings} {last : Int} {t : Token} {us : List Token}
    {e : StatementError} (ts : List Token) (hb : t.isBlank = false)
    (h : Classifier.behind set t us = .error e) (he : e ≠ .alreadyTerminated) :
    statementsFrom set last none (t :: us ++ ts) = .error e := by
  cases ho : Classifier.ofFirst set.dialect set.strict t with
  | error e' =>
    rw [Classifier.behind, ho] at h
    obtain rfl : e' = e := Except.error.inj h
    simp [statementsFrom, advance, hb, ho, bind, Except.bind]
  | ok a =>
    rw [Classifier.behind, ho] at h
    rw [List.cons_append, statementsFrom_first _ hb ho, ← List.cons_append]
    exact statementsFrom_refused ts h he

theorem statementsFrom_cons_ok {set : Settings} {last : Int} {c : Classifier} {t : Token}
    {ts : List Token} {body : List Statement}
    (h : statementsFrom set last (some c) (t :: ts) = .ok body) :
    ∃ b, c.feed t = (b, none) ∧
      ((b.statement.terminated = false ∧ statementsFrom set last (some b) ts = .ok body) ∨
       (b.statement.terminated = true ∧ ∃ rest, statementsFrom set last none ts = .ok rest ∧
        body = b.statement.seal (t.stop - 1) :: rest)) := by
  cases ha : advance set (some c) t with
  | error e => simp [statementsFrom_error ts ha] at h
  | ok p =>
    obtain ⟨next, sealed⟩ := p
    rw [statementsFrom_cons ha] at h
    obtain ⟨rest, hr, rfl⟩ := ok_of_map h
    obtain ⟨b, hf, ⟨hb, rfl, rfl⟩ | ⟨hb, rfl, rfl⟩⟩ := Classifier.feed_of_take ha
    · exact ⟨b, hf, .inl ⟨hb, hr⟩⟩
    · exact ⟨b, hf, .inr ⟨hb, rest, hr, rfl⟩⟩

/-- How tokens fall apart into statements: blanks lie between them, a statement takes the tokens
from its first through the one that ends it, and the last one may be left under way. -/
inductive Splits (set : Settings) (last : Int) : List Token → List Statement → Prop where
  | nil : Splits set last [] []
  | blank {t : Token} {ts : List Token} {body : List Statement} :
      t.isBlank = true → Splits set last ts body → Splits set last (t :: ts) body
  | ended {t : Token} {us ts : List Token} {c : Classifier} {body : List Statement} :
      t.isBlank = false → Classifier.behind set t us = .ok c → c.statement.terminated = true →
      Splits set last ts body →
      Splits set last (t :: us ++ ts) (c.statement.seal ((us.getLastD t).stop - 1) :: body)
  | underWay {t : Token} {us : List Token} {c : Classifier} :
      t.isBlank = false → Classifier.behind set t us = .ok c → c.statement.terminated = false →
      Splits set last (t :: us) [c.statement.seal last]

/-- Every run that refuses no token falls apart so. The statement under way is given with the tokens
that it has taken. -/
theorem splits_of_statementsFrom {set : Settings} {last : Int} (ts : List Token) :
    (∀ body, statementsFrom set last none ts = .ok body → Splits set last ts body) ∧
    (∀ t us c body, t.isBlank = false → Classifier.behind set t us = .ok c →
      c.statement.terminated = false → statementsFrom set last (some c) ts = .ok body →
      Splits set last (t :: us ++ ts) body) := by
  induction ts with
  | nil =>
    constructor
    · intro body h
      obtain rfl := Except.ok.inj h
      exact .nil
    · intro t us c body hb hc hu h
      obtain rfl := Except.ok.inj h
      rw [List.append_nil]
      exact .underWay hb hc hu
  | cons z ts ih =>
    obtain ⟨ihNone, ihSome⟩ := ih
    constructor
    · intro body h
      cases hz : z.isBlank with
      | true =>
        rw [statementsFrom_blank ts hz] at h
        exact .blank hz (ihNone body h)
      | false =>
        cases ho : Classifier.ofFirst set.dialect set.strict z with
        | error e => simp [statementsFrom, advance, hz, ho, bind, Except.bind] at h
        | ok a =>
          rw [statementsFrom_first ts hz ho] at h
          obtain ⟨b, hf, hr⟩ := statementsFrom_cons_ok h
          have hc : Classifier.behind set z [] = .ok b :=
            Classifier.behind_ok.2 ⟨a, ho, Classifier.feedAll_cons_ok.2 ⟨b, hf, rfl⟩⟩
          obtain ⟨hb, hr⟩ | ⟨hb, rest, hr, rfl⟩ := hr
          · exact ihSome z [] b body hz hc hb hr
          · exact @Splits.ended set last z [] ts b rest hz hc hb (ihNone rest hr)
    · intro t us c body ht hc hu h
      obtain ⟨b, hf, hr⟩ := statementsFrom_cons_ok h
      have hb' : Classifier.behind set t (us ++ [z]) = .ok b :=
        Classifier.behind_append.2 ⟨c, hc, Classifier.feedAll_cons_ok.2 ⟨b, hf, rfl⟩⟩
      have hts : t :: us ++ z :: ts = t :: (us ++ [z]) ++ ts := by simp
      rw [hts]
      obtain ⟨hb, hr⟩ | ⟨hb, rest, hr, rfl⟩ := hr
      · exact ihSome t (us ++ [z]) b body ht hb' hb hr
      · have he : Splits set last (t :: (us ++ [z]) ++ ts)
            (b.statement.seal (((us ++ [z]).getLastD t).stop - 1) :: rest) :=
          .ended ht hb' hb (ihNone rest hr)
        rwa [List.getLastD_concat] at he

theorem statementsFrom_of_splits {set : Settings} {last : Int} {ts : List Token}
    {body : List Statement} (h : Splits set last ts body) :
    statementsFrom set last none ts = .ok body := by
  induction h with
  | nil => rfl
  | blank hb _ ih => rw [statementsFrom_blank _ hb, ih]
  | ended hb hc hend _ ih =>
    rw [statementsFrom_ended _ hb hc hend, ih]
    rfl
  | @underWay t us c hb hc hopen =>
    obtain ⟨a, ha, hr⟩ := Classifier.behind_ok.1 hc
    have hrest : statementsFrom set last (some a) (t :: us ++ []) = _ :=
      statementsFrom_underWay [] hr hopen
    rw [List.append_nil] at hrest
    rw [statementsFrom_first _ hb ha, hrest]
    rfl

theorem parse_eq (set : Settings) (script : List Char) :
    parse set script =
      (statementsFrom set (lastOffset script) none (tokenize set.dialect script)).map fun body =>
        ⟨0, lastOffset script, body, tokenize set.dialect script⟩ := by
  change (statementsFrom set (lastOffset script) none (tokenize set.dialect script) >>= fun body =>
    pure (⟨0, lastOffset script, body, tokenize set.dialect script⟩ : Parsed)) = _
  cases statementsFrom set (lastOffset script) none (tokenize set.dialect script) <;> rfl

theorem parse_ok {set : Settings} {script : List Char} {p : Parsed}
    (h : parse set script = .ok p) :
    p.tokens = tokenize set.dialect script ∧
      Splits set (lastOffset script) p.tokens p.body := by
  rw [parse_eq] at h
  obtain ⟨body, hr, rfl⟩ := ok_of_map h
  exact ⟨rfl, (splits_of_statementsFrom _).1 body hr⟩

end SqlScript
