import SqlScript.Proofs.Heads
import SqlScript.Proofs.Spans

/-!
Statements of unknown type in strict mode. A first token that begins no statement is refused, and so
is an object that is none; a statement that ends before its object passes both checks.
-/

set_option autoImplicit false

namespace SqlScript

/-- The tokens of a statement that begins with `CREATE` or `DROP` and ends before its object. -/
def CutShort (d : Dialect) (ts : List Token) : Prop :=
  ∃ t us, ts = t :: us ∧ (t.keyword? = some .create ∨ t.keyword? = some .drop) ∧
    NamesNoObject d us

theorem cutShort_cons {d : Dialect} {t : Token} {us : List Token} :
    CutShort d (t :: us) ↔
      (t.keyword? = some .create ∨ t.keyword? = some .drop) ∧ NamesNoObject d us := by
  constructor
  · rintro ⟨t', us', heq, h⟩
    obtain ⟨rfl, rfl⟩ := List.cons.inj heq
    exact h
  · exact fun h => ⟨t, us, rfl, h⟩

theorem Keyword.plainType?_ne_unknown (k : Keyword) : k.plainType? ≠ some .unknown := by
  cases k <;> simp [plainType?]

theorem StatementType.execution_eq_unknown {type : StatementType} :
    type.execution = .unknown ↔ type = .unknown := by
  cases type <;> simp [execution]

namespace Classifier

variable {set : Settings} {t : Token} {us : List Token} {b c : Classifier} {k : Keyword}

theorem type_of_unrefused (hk : k = .create ∨ k = .drop) (hs : c.strict = true)
    (hr : c.refusal? (.object k.objectTypes) t = none) :
    (t.word?.bind fun w => k.objectTypes.lookup w).getD .unknown ≠ .unknown := by
  have haccepts : (Step.object k.objectTypes).accepts t = true := by
    unfold refusal? at hr
    split at hr
    · contradiction
    · split at hr
      · contradiction
      · rename_i hn
        simpa [hs] using hn
  obtain ⟨w, hw, ht⟩ := (Keyword.accepts_object hk).1 haccepts
  obtain ⟨type, htype, hne⟩ := Keyword.lookup_objectTypes hw
  simpa [Token.word?_of_keyword ht, htype] using hne

theorem BehindLeading.type_ne_unknown (h : BehindLeading set t k c) (hk : k = .create ∨ k = .drop)
    (hs : set.strict = true) (hr : c.feedAll us = .ok b) : b.statement.type ≠ some .unknown := by
  -- the head awaits the object until a type is told or the statement ends
  have hrun : b.strict = true ∧ b.statement.type ≠ some .unknown ∧
      (b.statement.type = none → b.statement.terminated = false → b.Awaits k.objectTypes) := by
    refine feedAll_induction (motive := fun c => c.strict = true ∧
      c.statement.type ≠ some .unknown ∧ (c.statement.type = none →
        c.statement.terminated = false → c.Awaits k.objectTypes)) hr
      ⟨h.strict.trans hs, by simp [h.awaits.type], fun _ _ => h.awaits⟩ ?_
    rintro c c' u _ ⟨hstrict, htype, hawaits⟩ hf
    have ho := outcome_of_feed hf
    refine ⟨ho.strict_eq.trans hstrict, ?_⟩
    cases hty : c.statement.type with
    | some type =>
      rw [ho.type_eq hty, ← hty]
      exact ⟨htype, fun hn => by simp [hty] at hn⟩
    | none =>
      rcases (hawaits hty ho.underWay).outcome ho with ha | ⟨hend, hn⟩ | ⟨hn, htold⟩
      · exact ⟨by simp [ha.type], fun _ _ => ha⟩
      · exact ⟨by simp [hn], fun _ hu => by simp [hend] at hu⟩
      · rw [htold]
        exact ⟨fun he => type_of_unrefused hk hstrict hn (Option.some.inj he), by simp⟩
  exact hrun.2.1

theorem type_behind (hs : set.strict = true) (h : behind set t us = .ok c) :
    c.statement.type ≠ some .unknown ∧
      (c.statement.type = none ↔ CutShort set.dialect (t :: us)) := by
  obtain ⟨k, o, ht, ho⟩ := exists_opening hs h
  rw [cutShort_cons, ht, Option.some_inj, Option.some_inj]
  obtain ⟨first, hfirst, hr⟩ := behind_eq_ok.1 h
  rcases plain_or_leading ho with ⟨type, hplain⟩ | hk
  · obtain ⟨c', hc', htype⟩ := exists_behindPlain set ht hplain
    obtain rfl := Except.ok.inj (hfirst.symm.trans hc')
    have hne : ¬ (k = .create ∨ k = .drop) := by
      rintro (rfl | rfl) <;> simp [Keyword.plainType?] at hplain
    rw [feedAll_type hr htype, ← hplain]
    exact ⟨k.plainType?_ne_unknown, by simp [hplain, hne]⟩
  · obtain ⟨c', hc', hlead⟩ := exists_behindLeading set ht hk
    obtain rfl := Except.ok.inj (hfirst.symm.trans hc')
    rw [and_iff_right hk]
    exact ⟨hlead.type_ne_unknown hk hs hr, hlead.untyped_iff hr⟩

end Classifier

theorem Statement.seal_type_eq_unknown {s : Statement} (stop : Int) (h : s.type ≠ some .unknown) :
    (s.seal stop).type = some .unknown ↔ s.type = none := by
  cases ht : s.type with
  | none => simp [Statement.seal, ht]
  | some type => simpa [Statement.seal, ht] using h

/-- What strict mode reports as unknown: the statements that are cut short, and no others. -/
theorem unknown_iff_cutShort {set : Settings} {script : List Char} {p : Parsed}
    (hs : set.strict = true) (h : parse set script = .ok p) : ∀ s ∈ p.body,
      (s.type = some .unknown ↔ CutShort set.dialect (p.tokens.filter s.holds)) ∧
      (s.execution = some .unknown ↔ s.type = some .unknown) := by
  intro s hmem
  obtain ⟨t, us, htokens, hread⟩ := (laid_of_parse h).held s hmem
  constructor
  · obtain ⟨c, stop, hc, rfl⟩ := hread.read
    obtain ⟨hne, hnone⟩ := Classifier.type_behind hs hc
    rw [htokens, Statement.seal_type_eq_unknown stop hne, hnone]
  · obtain ⟨type, htype, hexec⟩ := hread.classified
    rw [htype, hexec, Option.some_inj, Option.some_inj, StatementType.execution_eq_unknown]

theorem unknown_iff_cutShort_replace :
    let set : Settings := { dialect := .psql }
    let script := "CREATE OR REPLACE; DROP TABLE t; drop".toList
    ∃ p, parse set script = .ok p ∧
      p.body.map (·.type) = [some .unknown, some .dropTable, some .unknown] ∧
      ∀ s ∈ p.body,
        (s.type = some .unknown ↔ CutShort set.dialect (p.tokens.filter s.holds)) ∧
        (s.execution = some .unknown ↔ s.type = some .unknown) := by
  intro set script
  have h : (parse set script).toOption.map (fun p => p.body.map (·.type)) =
      some [some .unknown, some .dropTable, some .unknown] := by decide +kernel
  obtain ⟨p, hp, hbody⟩ := Option.map_eq_some_iff.1 h
  have hp := ok_of_toOption hp
  exact ⟨p, hp, hbody, unknown_iff_cutShort rfl hp⟩

/-- Strict mode does report statements of unknown type: `CREATE;` passes both of its checks. -/
theorem strict_reports_unknown :
    ¬ ∀ (set : Settings) (script : List Char) (p : Parsed), set.strict = true →
      parse set script = .ok p →
      ∀ s ∈ p.body, s.type ≠ some .unknown ∧ s.execution ≠ some .unknown := by
  intro hall
  have h : (parse {} "CREATE;".toList).toOption.map (fun p => p.body.map (·.type)) =
      some [some .unknown] := by decide +kernel
  obtain ⟨p, hp, hbody⟩ := Option.map_eq_some_iff.1 h
  obtain ⟨s, hs, htype⟩ : ∃ s ∈ p.body, s.type = some .unknown := by
    have hmem : some StatementType.unknown ∈ p.body.map (·.type) := by simp [hbody]
    obtain ⟨s, hs, htype⟩ := List.mem_map.1 hmem
    exact ⟨s, hs, htype⟩
  exact (hall {} _ p rfl (ok_of_toOption hp) s hs).1 htype

end SqlScript
