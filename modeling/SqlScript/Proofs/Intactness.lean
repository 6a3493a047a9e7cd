import SqlScript.Proofs.Refusals
import SqlScript.Proofs.Steadiness

/-!
What a refused token leaves behind: the statement as it was, except that a clause of which only the
first word has been read is given up. So, where a dialect has no such clause, the tokens that are
refused may as well be left out.
-/

set_option autoImplicit false

namespace SqlScript

theorem DefinerState.early_of_left {state : DefinerState} {mayBegin : Bool} {t : Token}
    (hb : t.isBlank = false) (h : (state.advance mayBegin t).2 = false) :
    state = .inactive ∨ state = .sawDefiner := by
  cases state with
  | inactive => exact .inl rfl
  | sawDefiner => exact .inr rfl
  | sawEquals | consumingPrincipal => simp [advance, hb] at h

namespace Classifier

variable {d : Dialect} {c b : Classifier} {t : Token} {e : StatementError}

theorem feedHead_refused (h : (c.feedHead t).2 = some e) :
    (c.feedHead t).1 = c.afterPass c.previous .inactive ∧
      (c.statement.definer = .inactive ∨ c.statement.definer = .sawDefiner) := by
  cases hs : c.skipsOption t with
  | true => simp [feedHead_of_option hs] at h
  | false =>
    cases hd : c.statement.definer.advance (c.dialect.supportsDefiner && c.inHead) t with
    | mk definer taken =>
      cases taken with
      | true => simp [feedHead_of_clause hs hd] at h
      | false =>
        have hover := DefinerState.advance_of_left (by rw [hd])
        rw [hd] at hover
        obtain rfl : definer = .inactive := congrArg Prod.fst hover
        cases hb : t.isBlank with
        | true => simp [feedHead_of_blank hs hd hb] at h
        | false =>
          refine ⟨?_, DefinerState.early_of_left hb (by rw [hd])⟩
          cases hu : c.untyped with
          | false => simp [feedHead_of_typed hs hd hb hu] at h
          | true =>
            rw [feedHead_of_untyped hs hd hb hu] at h ⊢
            split at h
            · rfl
            · contradiction

/-- Whatever a statement under way refuses, it refuses before its type is told, so no word of a body
has been followed by then. -/
theorem feed_refused (hopen : c.statement.terminated = false) (h : (c.feed t).2 = some e) :
    (c.feed t).1 = c.afterPass c.previous .inactive ∧
      (c.statement.definer = .inactive ∨ c.statement.definer = .sawDefiner) := by
  have ho := feed_outcome c t
  rw [h] at ho
  have hhead : t.kind ≠ .semicolon ∧ c.statement.type = none := by
    generalize (c.feed t).1 = b at ho
    cases ho with
    | terminated hend => simp [hopen] at hend
    | refused _ _ _ _ hk _ hu => exact ⟨hk, hu⟩
  have hfeed : c.feed t = c.feedHead t := by
    rw [feed, if_neg (by simp [hopen]), if_neg hhead.1, trackBody_of_untyped t hhead.2]
  rw [hfeed] at h ⊢
  exact feedHead_refused h

theorem feed_of_terminated (hend : c.statement.terminated = true) (t : Token) :
    c.feed t = (c, some .alreadyTerminated) := by
  rw [feed, if_pos hend]

theorem feedOn_of_terminated (hend : c.statement.terminated = true) (ts : List Token) :
    c.feedOn ts = c :=
  (Lasts.feedOn c ts).ended hend

theorem kind_of_refused (h : (c.feed t).2 = some e) :
    (c.statement.terminated = true ∧ e = .alreadyTerminated) ∨
      (c.statement.terminated = false ∧ e.kind = .unexpectedSequence) := by
  have ho := feed_outcome c t
  rw [h] at ho
  generalize (c.feed t).1 = b at ho
  cases ho with
  | terminated hend => exact .inl ⟨hend, rfl⟩
  | refused p definer e hopen _ _ _ _ hwhy =>
    rcases refusal?_eq_some hwhy with rfl | rfl <;> exact .inr ⟨hopen, rfl⟩

theorem feed_refused_eq (hidle : c.statement.definer = .inactive) (h : (c.feed t).2 = some e) :
    (c.feed t).1 = c := by
  rcases kind_of_refused h with ⟨hend, -⟩ | ⟨hopen, -⟩
  · rw [feed_of_terminated hend]
  · rw [(feed_refused hopen h).1, afterPass, ← hidle]

def accepted (c : Classifier) : List Token → List Token
  | [] => []
  | t :: ts =>
    match (c.feed t).2 with
    | none => t :: (c.feed t).1.accepted ts
    | some _ => (c.feed t).1.accepted ts

theorem Coherent.idle (h : c.Coherent d) (hd : d ≠ .mysql) : c.statement.definer = .inactive :=
  Decidable.byContradiction fun hactive => hd (h.clause hactive).1

/-- Without the tokens that are refused the run comes to the same state, and none is refused. -/
theorem Coherent.feedAll_accepted (h : c.Coherent d) (hd : d ≠ .mysql) (ts : List Token) :
    c.feedAll (c.accepted ts) = .ok (c.feedOn ts) := by
  induction ts generalizing c with
  | nil => rfl
  | cons t ts ih =>
    have hrest := ih (h.feed t)
    cases he : (c.feed t).2 with
    | none =>
      rw [accepted, he]
      exact feedAll_cons_ok.2 ⟨_, by rw [← he], hrest⟩
    | some e =>
      have hsame := feed_refused_eq (h.idle hd) he
      rw [accepted, he, Classifier.feedOn]
      rw [hsame] at hrest ⊢
      exact hrest

/-- What the tokens that a statement refuses do to it. -/
structure Intact (d : Dialect) (c : Classifier) : Prop where
  ended : ∀ t, (c.feed t).2 = some .alreadyTerminated →
    (c.feed t).1 = c ∧
      ∀ us u, ((c.feed t).1.feedOn us).feed u = (c, some .alreadyTerminated)
  underWay : ∀ t e, (c.feed t).2 = some e → e.kind = .unexpectedSequence →
    (c.statement.definer ≠ .sawDefiner ∧ (c.feed t).1 = c) ∨
      (c.statement.definer = .sawDefiner ∧
        (c.feed t).1 = { c with statement := { c.statement with definer := .inactive } })
  kinds : ∀ t e, (c.feed t).2 = some e →
    e = .alreadyTerminated ∨ e.kind = .unexpectedSequence
  leftOut : d ≠ .mysql → ∀ ts, c.feedAll (c.accepted ts) = .ok (c.feedOn ts)

/-- A refused token leaves a statement intact, whatever it has been fed before. -/
theorem intact_feedOn {strict : Bool} {first : Token} (h : ofFirst d strict first = .ok c)
    (ts : List Token) : (c.feedOn ts).Intact d := by
  obtain ⟨o, rfl⟩ := ofFirst_ok h
  have hc := (coherent_fresh d strict o first.start).feedOn ts
  generalize (fresh d strict o first.start).feedOn ts = c at hc
  refine ⟨fun t he => ?_, fun t e he hkind => ?_, fun t e he => ?_, hc.feedAll_accepted⟩
  · rcases kind_of_refused he with ⟨hend, -⟩ | ⟨-, hkind⟩
    · rw [feed_of_terminated hend]
      refine ⟨rfl, fun us u => ?_⟩
      rw [feedOn_of_terminated hend, feed_of_terminated hend]
    · contradiction
  · rcases kind_of_refused he with ⟨-, rfl⟩ | ⟨hopen, -⟩
    · contradiction
    · obtain ⟨hb, hidle | hsaw⟩ := feed_refused hopen he
      · exact .inl ⟨by simp [hidle], feed_refused_eq hidle he⟩
      · exact .inr ⟨hsaw, hb⟩
  · exact (kind_of_refused he).imp And.right And.right

/-- A name in the place of the equals sign is refused, and so is the clause; behind the end of the
statement nothing changes any more. -/
theorem intact_feedOn_definer :
    let create : Token := ⟨.keyword, "CREATE".toList, 0, 6⟩
    let c := fresh .mysql true .create 0
    let ts := tokenize .mysql "CREATE DEFINER ".toList
    let name : Token := ⟨.other, "x".toList, 15, 16⟩
    let us := tokenize .mysql "CREATE DEFINER x;".toList
    ofFirst .mysql true create = .ok c ∧
      (c.feedOn ts).statement.definer = .sawDefiner ∧
      ((c.feedOn ts).feed name).2.map (·.kind) = some .unexpectedSequence ∧
      ((c.feedOn us).feed name).2 = some .alreadyTerminated ∧
      (c.feedOn ts).Intact .mysql ∧ (c.feedOn us).Intact .mysql := by
  intro create c ts name us
  have hfirst : ofFirst .mysql true create = .ok c := by
    have hk : create.keyword? = some .create := by decide +kernel
    rw [ofFirst, hk]
    rfl
  exact ⟨hfirst, by decide +kernel, by decide +kernel, by decide +kernel,
    intact_feedOn hfirst ts, intact_feedOn hfirst us⟩

end Classifier

end SqlScript
