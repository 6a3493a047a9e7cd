import Mathlib
import SqlScript.Proofs.Lookahead
import SqlScript.Proofs.Recasting

/-!
Letters in either case. The forms of a script name no ASCII letter and a word is reserved by its
upper case, so a script in capitals falls into the same tokens and the same statements. The tag of a
dollar quotation alone is compared letter by letter.
-/

set_option autoImplicit false

namespace SqlScript

def Text.capitals (s : List Char) : List Char := s.map Char.toUpper

def Token.capitals (t : Token) : Token := { t with text := Text.capitals t.text }

def StatementError.capitals : StatementError → StatementError
  | .unrecognizedStart value position => .unrecognizedStart (Text.capitals value) position
  | .missingBefore required value stepIndex =>
    .missingBefore required (Text.capitals value) stepIndex
  | .unaccepted accepted kind value stepIndex =>
    .unaccepted accepted kind (Text.capitals value) stepIndex
  | .alreadyTerminated => .alreadyTerminated

/-! ## Characters -/

namespace Text

theorem toUpper_eq_or (c : Char) :
    c.toUpper = c ∨ c.isAlpha = true ∧ c.toUpper.isAlpha = true := by
  by_cases hc : c.isLower = true
  · have ha : c.isAlpha = true := by simp [Char.isAlpha, hc]
    exact .inr ⟨ha, by rw [Char.isAlpha_toUpper_eq_isAlpha, ha]⟩
  · exact .inl (Char.toUpper_eq_of_not_isLower hc)

/-- A test that all ASCII letters pass, or that none passes, does not tell their case. -/
theorem test_toUpper {P : Char → Bool} {b : Bool} (hP : ∀ c, c.isAlpha = true → P c = b)
    (c : Char) : P c.toUpper = P c := by
  rcases toUpper_eq_or c with hc | ⟨ha, hu⟩
  · rw [hc]
  · rw [hP c ha, hP c.toUpper hu]

theorem toNat_of_isAlpha {c : Char} (hc : c.isAlpha = true) :
    65 ≤ c.toNat ∧ c.toNat ≤ 90 ∨ 97 ≤ c.toNat ∧ c.toNat ≤ 122 := by
  simpa [Char.isAlpha, Char.isUpper, Char.isLower, UInt32.le_iff_toNat_le] using hc

theorem isBlank_toUpper (c : Char) : isBlank c.toUpper = isBlank c := by
  refine test_toUpper (b := false) (fun c hc => ?_) c
  have hn := toNat_of_isAlpha hc
  rw [Bool.eq_false_iff]
  intro hb
  simp only [isBlank, inRanges, blankRanges, List.any_cons, List.any_nil, Bool.or_false,
    Bool.or_eq_true, Bool.and_eq_true, decide_eq_true_eq] at hb
  omega

theorem isWordChar_toUpper (c : Char) : isWordChar c.toUpper = isWordChar c := by
  refine test_toUpper (b := true) (fun c hc => ?_) c
  have hn := toNat_of_isAlpha hc
  exact isWordChar_of_isAlphanum c (by simp [Char.isAlphanum, hc]) (by omega)

theorem beq_toUpper {q : Char} (hq : q.isAlpha = false) (c : Char) :
    (c.toUpper == q) = (c == q) := by
  refine test_toUpper (P := (· == q)) (b := false) (fun c hc => ?_) c
  rw [beq_eq_false_iff_ne]
  rintro rfl
  simp [hc] at hq

theorem toUpper_eq_iff {q : Char} (hq : q.isAlpha = false) (c : Char) :
    c.toUpper = q ↔ c = q := by
  rw [← beq_iff_eq, beq_toUpper hq, beq_iff_eq]

theorem upperChar_toUpper (c : Char) : upperChar c.toUpper = upperChar c := by
  rcases toUpper_eq_or c with hc | ⟨ha, hu⟩
  · rw [hc]
  · have hn := toNat_of_isAlpha ha
    have hn' := toNat_of_isAlpha hu
    rw [upperChar, upperChar, if_pos (by omega), if_pos (by omega),
      Char.toUpper_toUpper_eq_toUpper]

@[simp] theorem capitals_cons (c : Char) (s : List Char) :
    capitals (c :: s) = c.toUpper :: capitals s := rfl

@[simp] theorem length_capitals (s : List Char) : (capitals s).length = s.length :=
  List.length_map _

theorem take_capitals (n : Nat) (s : List Char) : (capitals s).take n = capitals (s.take n) :=
  List.map_take.symm

theorem drop_capitals (n : Nat) (s : List Char) : (capitals s).drop n = capitals (s.drop n) :=
  List.map_drop.symm

theorem upper_capitals (s : List Char) : upper (capitals s) = upper s := by
  induction s with
  | nil => rfl
  | cons c s ih => rw [capitals_cons, upper_cons, upper_cons, upperChar_toUpper, ih]

theorem length_takeWhile_capitals {P : Char → Bool} (hP : ∀ c, P c.toUpper = P c) (s : List Char) :
    ((capitals s).takeWhile P).length = (s.takeWhile P).length := by
  have hc : P ∘ Char.toUpper = P := funext hP
  rw [capitals, List.takeWhile_map, hc, List.length_map]

theorem isPrefixOf_capitals {mark : List Char} (hm : ∀ q ∈ mark, q.isAlpha = false)
    (s : List Char) : mark.isPrefixOf (capitals s) = mark.isPrefixOf s := by
  induction mark generalizing s with
  | nil => simp
  | cons q mark ih =>
    obtain ⟨hq, hm⟩ := List.forall_mem_cons.1 hm
    cases s with
    | nil => rfl
    | cons c s =>
      rw [capitals_cons, List.isPrefixOf, List.isPrefixOf, ih hm, Bool.beq_comm, beq_toUpper hq,
        Bool.beq_comm]

end Text

/-! ## Tokens -/

theorem Keyword.ofWord?_capitals (w : List Char) :
    Keyword.ofWord? (Text.capitals w) = Keyword.ofWord? w := by
  rw [ofWord?, ofWord?, Text.upper_capitals]

theorem lengthThrough_capitals {mark : List Char} (hm : ∀ q ∈ mark, q.isAlpha = false)
    (s : List Char) : lengthThrough mark (Text.capitals s) = lengthThrough mark s := by
  induction s with
  | nil => rfl
  | cons c s ih =>
    have hp := Text.isPrefixOf_capitals hm (c :: s)
    rw [Text.capitals_cons] at hp ⊢
    rw [lengthThrough, lengthThrough, hp, ih]

theorem Quoting.bodyLength_capitals (q : Quoting) (hq : q.closing.isAlpha = false) :
    (s : List Char) → q.bodyLength (Text.capitals s) = q.bodyLength s
  | [] | [_] => rfl
  | c :: d :: r => by
    have hone := q.bodyLength_capitals hq (d :: r)
    have htwo := q.bodyLength_capitals hq r
    have hb : ('\\' : Char).isAlpha = false := by decide
    rw [Text.capitals_cons] at hone
    simp only [Text.capitals_cons, bodyLength, Text.beq_toUpper hq, Text.beq_toUpper hb, hone, htwo]

namespace Pattern

def letterless : Pattern → Bool
  | .lineComment mark => mark.all (!·.isAlpha)
  | .quoted q => !q.opening.isAlpha && !q.closing.isAlpha
  | .dollarQuoted => false
  | .blanks | .blockComment | .semicolon | .word | .anyChar => true

theorem kindOf_capitals (p : Pattern) (text : List Char) :
    p.kindOf (Text.capitals text) = p.kindOf text := by
  rw [kindOf, kindOf, Keyword.ofWord?_capitals]

theorem extent_capitals {p : Pattern} (hp : p.letterless = true) (s : List Char) :
    p.extent (Text.capitals s) = p.extent s := by
  cases p with
  | blanks => exact Text.length_takeWhile_capitals Text.isBlank_toUpper s
  | lineComment mark =>
    have hm : ∀ q ∈ mark, q.isAlpha = false := by simpa [letterless] using hp
    have hn : ∀ c : Char, (c.toUpper != '\n') = (c != '\n') := fun c => by
      rw [bne, bne, Text.beq_toUpper (by decide)]
    rw [extent, extent, Text.isPrefixOf_capitals hm, Text.drop_capitals,
      Text.length_takeWhile_capitals hn]
  | blockComment =>
    cases s with
    | nil => rfl
    | cons a r =>
      cases r with
      | nil => simp [Text.capitals, extent]
      | cons b r =>
        have hm : ∀ q ∈ ['*', '/'], q.isAlpha = false := by simp
        have ha := Text.toUpper_eq_iff (q := '/') (by decide) a
        have hb := Text.toUpper_eq_iff (q := '*') (by decide) b
        simp only [Text.capitals_cons, extent_blockComment, ha, hb, lengthThrough_capitals hm]
  | quoted q =>
    obtain ⟨ho, hc⟩ : q.opening.isAlpha = false ∧ q.closing.isAlpha = false := by
      simpa [letterless] using hp
    cases s with
    | nil => rfl
    | cons c r =>
      rw [Text.capitals_cons, extent, extent, Text.beq_toUpper ho, q.bodyLength_capitals hc]
  | dollarQuoted => contradiction
  | semicolon =>
    cases s with
    | nil => rfl
    | cons c r =>
      simp only [Text.capitals_cons, extent_semicolon, Text.toUpper_eq_iff (q := ';') (by decide)]
  | word =>
    have hw : ∀ c : Char, (Text.isWordChar c.toUpper || c.toUpper == '$') =
        (Text.isWordChar c || c == '$') := fun c => by
      rw [Text.isWordChar_toUpper, Text.beq_toUpper (by decide)]
    cases s with
    | nil => rfl
    | cons c r =>
      rw [Text.capitals_cons, extent, extent, Text.isWordChar_toUpper,
        Text.length_takeWhile_capitals hw]
  | anyChar => cases s <;> rfl

theorem extent_dollarQuoted {s : List Char} (hs : '$' ∉ s) : dollarQuoted.extent s = 0 := by
  cases s with
  | nil => rfl
  | cons c r =>
    refine extent_eq_zero r (beq_eq_false_iff_ne.2 ?_)
    rintro rfl
    simp at hs

end Pattern

theorem Dialect.letterless_or {d : Dialect} {p : Pattern} (hp : p ∈ d.patterns) :
    p.letterless = true ∨ d = .psql ∧ p = .dollarQuoted := by
  revert p
  cases d <;> decide

section

variable {d : Dialect} {s : List Char}

theorem lexeme_capitals (hs : d = .psql → '$' ∉ s) :
    lexeme d.patterns (Text.capitals s) = lexeme d.patterns s := by
  have hext (p : Pattern) (hp : p ∈ d.patterns) : p.extent (Text.capitals s) = p.extent s := by
    obtain hp | ⟨hd, rfl⟩ := Dialect.letterless_or hp
    · exact Pattern.extent_capitals hp s
    · have hs' : '$' ∉ Text.capitals s := by
        simpa [Text.capitals, Text.toUpper_eq_iff] using hs hd
      rw [Pattern.extent_dollarQuoted (hs hd), Pattern.extent_dollarQuoted hs']
  generalize d.patterns = forms at hext
  induction forms with
  | nil => rfl
  | cons p forms ih =>
    obtain ⟨hp, hforms⟩ := List.forall_mem_cons.1 hext
    rw [lexeme_cons, lexeme_cons, hp, Text.take_capitals, Pattern.kindOf_capitals, ih hforms]

theorem frontToken_capitals (hs : d = .psql → '$' ∉ s) (i : Nat) :
    frontToken d.patterns i (Text.capitals s) = (frontToken d.patterns i s).capitals := by
  simp only [frontToken, lexeme_capitals hs, Text.take_capitals]
  rfl

theorem tokensFrom_capitals (i : Nat) (hs : d = .psql → '$' ∉ s) :
    tokensFrom d.patterns i (Text.capitals s) =
      (tokensFrom d.patterns i s).map Token.capitals := by
  fun_induction tokensFrom d.patterns i s with
  | case1 => exact tokensFrom_nil _ _
  | case2 i c r n ih =>
    have hlex : (lexeme d.patterns (Text.capitals (c :: r))).2 = n := by rw [lexeme_capitals hs]
    have hrest : d = .psql → '$' ∉ (c :: r).drop n := fun hd hm => hs hd (List.mem_of_mem_drop hm)
    rw [tokensFrom_of_ne_nil _ _ (by simp), hlex, frontToken_capitals hs, Text.drop_capitals,
      ih hrest, List.map_cons]

end

/-! ## Statements -/

theorem keepsWord_capitals (w : List Char) : KeepsWord Text.capitals w where
  word := Keyword.ofWord?_capitals w
  equals := by
    cases w with
    | nil => simp [Text.capitals]
    | cons c r => simp [Text.capitals, Text.toUpper_eq_iff]

theorem StatementError.recast_capitals (e : StatementError) :
    e.recast Text.capitals id = e.capitals := by
  cases e <;> rfl

theorem statementsFrom_capitals (set : Settings) (last : Int) (ts : List Token) :
    statementsFrom set last none (ts.map Token.capitals) =
      (statementsFrom set last none ts).mapError StatementError.capitals := by
  have h := statementsFrom_recast (g := id) set last none
    (fun t _ => keepsWord_capitals t.text) (fun t (_ : t ∈ ts) _ => rfl)
  simp only [StatementError.recast_capitals] at h
  refine Eq.trans h ?_
  cases statementsFrom set last none ts with
  | error e => rfl
  | ok body => exact congrArg Except.ok (List.map_id body)

/-- How the script in capitals is taken apart: into tokens that differ in their texts alone, and
into equal statements or with the same refusal. -/
structure CaseBlind (set : Settings) (script : List Char) : Prop where
  tokens : tokenize set.dialect (Text.capitals script) =
    (tokenize set.dialect script).map Token.capitals
  accepted : ∀ p, parse set script = .ok p →
    parse set (Text.capitals script) = .ok { p with tokens := p.tokens.map Token.capitals }
  refused : ∀ e, parse set script = .error e →
    parse set (Text.capitals script) = .error e.capitals

/-- The case of ASCII letters counts for nothing, outside of the tags of dollar quotations. -/
theorem caseBlind (set : Settings) (script : List Char)
    (hd : set.dialect = .psql → '$' ∉ script) : CaseBlind set script := by
  have htokens : tokenize set.dialect (Text.capitals script) =
      (tokenize set.dialect script).map Token.capitals := tokensFrom_capitals 0 hd
  have hlast : lastOffset (Text.capitals script) = lastOffset script := by
    rw [lastOffset, lastOffset, Text.length_capitals]
  have hparse : parse set (Text.capitals script) =
      ((parse set script).map fun p =>
        { p with tokens := p.tokens.map Token.capitals }).mapError StatementError.capitals := by
    rw [parse_eq, parse_eq, htokens, hlast, statementsFrom_capitals]
    cases statementsFrom set (lastOffset script) none (tokenize set.dialect script) <;> rfl
  refine ⟨htokens, fun p hp => ?_, fun e he => ?_⟩
  · rw [hparse, hp]
    rfl
  · rw [hparse, he]
    rfl

theorem caseBlind_function :
    '$' ∉ "Create or replace function f begin 'end' End;".toList ∧
      CaseBlind { dialect := .psql } "Create or replace function f begin 'end' End;".toList :=
  ⟨by decide, caseBlind _ _ fun _ => by decide⟩

end SqlScript
