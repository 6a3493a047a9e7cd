import SqlScript.Proofs.Pulling
import SqlScript.Proofs.Quotations
import SqlScript.Proofs.Shift

/-!
Scanning is local. Nothing before a token has a part in it, and the character behind it settles it,
whatever follows; only a dollar sign before a name may still turn out to open a quotation.
-/

set_option autoImplicit false

namespace SqlScript

def beginsName (c : Char) : Bool := isTagChar c && !c.isDigit

variable {c : Char} {s w v x : List Char}

theorem dollarTag?_nameless (hname : beginsName c = false) (hdollar : c ≠ '$') :
    dollarTag? ('$' :: c :: x) = none := by
  cases htag : isTagChar c with
  | false => simp [dollarTag?, htag, hdollar]
  | true =>
    have hdigit : c.isDigit = true := by simpa [beginsName, htag] using hname
    have htake : (c :: x).takeWhile isTagChar = c :: x.takeWhile isTagChar :=
      List.takeWhile_cons_of_pos htag
    simp only [dollarTag?, htake, List.head?_cons]
    split <;> simp_all

theorem isTagName_singleton (hname : beginsName c = true) : IsTagName [c] := by
  obtain ⟨htag, hdigit⟩ : isTagChar c = true ∧ c.isDigit = false := by
    simpa [beginsName] using hname
  refine ⟨?_, ?_⟩
  · simpa [isTagChar] using htag
  · simpa using hdigit

theorem lexeme_dollar (h : dollarTag? ('$' :: s) = none) :
    lexeme Dialect.psql.patterns ('$' :: s) = (.other, 1) := by
  have hforms : Dialect.psql.patterns.filter (·.mayBegin '$') = [.dollarQuoted, .anyChar] := by
    decide
  have hext : Pattern.dollarQuoted.extent ('$' :: s) = 0 := by rw [Pattern.extent, h]
  rw [lexeme_filter, hforms, lexeme_cons, hext, if_neg (Nat.lt_irrefl 0)]
  rfl

theorem kind_of_dollar (hlen : (lexeme Dialect.psql.patterns ('$' :: s)).2 = 1) :
    (lexeme Dialect.psql.patterns ('$' :: s)).1 = .other := by
  cases htag : dollarTag? ('$' :: s) with
  | none => rw [lexeme_dollar htag]
  | some tag =>
    obtain ⟨name, rfl, -⟩ := isTagName_of_dollarTag? htag
    rw [lexeme_dollarQuoted htag] at hlen
    simp [dollarMark] at hlen
    omega

theorem lexeme_closed {tag : List Char} (htag : dollarTag? s = some tag)
    (hclosed : (lexeme Dialect.psql.patterns s).2 < s.length) :
    lexeme Dialect.psql.patterns (s.take (lexeme Dialect.psql.patterns s).2 ++ x) =
      lexeme Dialect.psql.patterns s := by
  rw [lexeme_dollarQuoted htag] at hclosed ⊢
  obtain ⟨name, rfl, hname⟩ := isTagName_of_dollarTag? htag
  obtain ⟨s, rfl⟩ := isPrefix_dollarTag? htag
  rw [List.drop_left] at hclosed ⊢
  have hshort : lengthThrough (dollarMark name) s < s.length := by
    rw [List.length_append] at hclosed
    omega
  obtain ⟨c, r, rfl, hc, hlen⟩ := closing_of_lengthThrough hshort
  have hlit : Literal .psql c (dollarMark name ++ c ++ dollarMark name) x :=
    .dollarQuoted hname hc
  have hwidth : (dollarMark name).length +
      lengthThrough (dollarMark name) (c ++ dollarMark name ++ r) =
        (dollarMark name ++ c ++ dollarMark name).length := by
    rw [hlen]
    simp only [List.length_append]
    omega
  have hs : dollarMark name ++ (c ++ dollarMark name ++ r) =
      dollarMark name ++ c ++ dollarMark name ++ r := by
    simp only [List.append_assoc]
  rw [hwidth, hs, List.take_left, hlit.lexeme]

theorem lexeme_settled {d : Dialect} (hw : w ≠ [])
    (hlen : (lexeme d.patterns (w ++ c :: v)).2 = w.length)
    (hopen : ¬ (d = .psql ∧ w = ['$'] ∧ beginsName c = true)) :
    lexeme d.patterns (w ++ c :: x) = lexeme d.patterns (w ++ c :: v) := by
  by_cases hdollar : d = .psql ∧ w.head? = some '$'
  · obtain ⟨rfl, hhead⟩ := hdollar
    cases htag : dollarTag? (w ++ c :: v) with
    | some tag =>
      have hclosed := lexeme_closed (x := c :: x) htag (by rw [hlen]; simp)
      rwa [hlen, List.take_left] at hclosed
    | none =>
      obtain ⟨w, rfl⟩ := List.head?_eq_some_iff.1 hhead
      rw [List.cons_append] at htag hlen
      rw [lexeme_dollar htag] at hlen
      obtain rfl : w = [] := by simpa using hlen
      have hname : beginsName c = false := by simpa using hopen
      have hsecond : c ≠ '$' := by
        rintro rfl
        simp [dollarTag?, isTagChar] at htag
      exact (lexeme_dollar (dollarTag?_nameless hname hsecond)).trans (lexeme_dollar htag).symm
  · refine lexeme_lookahead x hw (fun p _ => p.stopsAlso_self c)
      (fun _ hm => Dialect.mark_length_le hm) (fun hm hhead => ?_) (Nat.le_of_eq hlen)
    refine absurd ⟨?_, hhead⟩ hdollar
    cases d <;> simp [Dialect.patterns, Dialect.lineComments, Dialect.quotations, Dialect.doubled,
      Dialect.backslashed] at hm ⊢

/-- A dollar sign and the beginning of a name are a tag once a second dollar sign follows. -/
theorem lexeme_opened (hname : beginsName c = true) :
    (lexeme Dialect.psql.patterns ['$', c, '$']).1 = .string := by
  have htag : dollarTag? ['$', c, '$'] = some ['$', c, '$'] :=
    dollarTag?_dollarMark (isTagName_singleton hname) []
  rw [lexeme_dollarQuoted htag]

/-- A sole dollar sign that may still open a quotation, by the character behind it. -/
structure Token.MayOpen (d : Dialect) (t : Token) (c : Char) : Prop where
  dialect : d = .psql
  kind : t.kind = .other
  text : t.text = ['$']
  name : beginsName c = true

/-- How much of a script its token at an offset depends on. -/
structure Local (d : Dialect) (script : List Char) (i : Int) (t : Token) : Prop where
  moved : ∀ front, tokenAt d (front ++ script) (front.length + i) = .ok (t.shift front.length)
  settled : ∀ c, (script.drop t.stop.toNat).head? = some c →
    ((∀ rest, tokenAt d (script.take (t.stop.toNat + 1) ++ rest) i = .ok t) ↔ ¬ t.MayOpen d c)

theorem tokenAt_moved {d : Dialect} {script front : List Char} {n : Nat} (hn : n < script.length) :
    tokenAt d (front ++ script) (front.length + n) =
      .ok ((frontToken d.patterns n (script.drop n)).shift front.length) := by
  have hin : front.length + n < (front ++ script).length := by
    rw [List.length_append]
    omega
  have htoken := tokenAt_natCast (d := d) hin
  rw [Int.natCast_add] at htoken
  rw [htoken, ← List.drop_drop, List.drop_left]
  congr 1
  simp only [frontToken, Token.shift]
  congr 1 <;> omega

theorem tokenAt_extended {d : Dialect} {script rest : List Char} {n : Nat}
    (hs : script.drop n = w ++ c :: v) :
    tokenAt d (script.take (n + w.length + 1) ++ rest) n =
      .ok (frontToken d.patterns n (w ++ c :: rest)) := by
  have hn : n < script.length := by
    rw [← Nat.not_le, ← List.drop_eq_nil_iff, hs]
    simp
  have hfront : (script.take n).length = n := List.length_take_of_le (Nat.le_of_lt hn)
  have hkept : script.take (n + w.length + 1) = script.take n ++ (w ++ [c]) := by
    rw [Nat.add_assoc, List.take_add, hs, List.take_length_add_append]
    rfl
  have htoken := tokenAt_front d (script.take n) (s := w ++ c :: rest) (by simp)
  rw [hfront] at htoken
  rw [hkept, List.append_assoc, List.append_assoc]
  exact htoken

theorem frontToken_eq_of_lexeme {forms : List Pattern} {n : Nat}
    (hlen : (lexeme forms (w ++ v)).2 = w.length) :
    frontToken forms n (w ++ v) = ⟨(lexeme forms (w ++ v)).1, w, n, n + w.length⟩ := by
  simp only [frontToken]
  rw [hlen, List.take_left]

/-- The character behind a token settles it, unless the token may still open a quotation. -/
theorem settled_iff {d : Dialect} {script : List Char} {n : Nat} {t : Token}
    (hs : script.drop n = w ++ c :: v) (ht : frontToken d.patterns n (w ++ c :: v) = t)
    (hlen : (lexeme d.patterns (w ++ c :: v)).2 = w.length) :
    (∀ rest, tokenAt d (script.take (n + w.length + 1) ++ rest) n = .ok t) ↔
      ¬ t.MayOpen d c := by
  simp only [tokenAt_extended hs, Except.ok.injEq]
  rw [frontToken_eq_of_lexeme hlen] at ht
  subst ht
  constructor
  · rintro hall ⟨rfl, hkind, htext, hname⟩
    -- with a second dollar sign the name would make a tag
    obtain rfl : w = ['$'] := htext
    have hsame := congrArg Token.kind (hall ['$'])
    have hstring : (lexeme Dialect.psql.patterns ['$', c, '$']).1 = .string := lexeme_opened hname
    have hother : TokenKind.string = .other := hstring.symm.trans (hsame.trans hkind)
    contradiction
  · intro hopen rest
    have hw : w ≠ [] := by
      rintro rfl
      have hpos := lexeme_pos d.patterns ([] ++ c :: v)
      rw [hlen] at hpos
      contradiction
    have hsettled : lexeme d.patterns (w ++ c :: rest) = lexeme d.patterns (w ++ c :: v) := by
      refine lexeme_settled hw hlen ?_
      rintro ⟨rfl, rfl, hname⟩
      exact hopen ⟨rfl, kind_of_dollar hlen, rfl, hname⟩
    rw [frontToken_eq_of_lexeme (hsettled ▸ hlen), hsettled]

/-- Scanning is local in every dialect. -/
theorem scansLocally (d : Dialect) (script : List Char) (i : Int) (hi : 0 ≤ i)
    (hlt : i < script.length) : ∃ t, tokenAt d script i = .ok t ∧ Local d script i t := by
  obtain ⟨n, rfl⟩ := Int.eq_ofNat_of_zero_le hi
  have hn : n < script.length := by omega
  refine ⟨_, tokenAt_natCast hn, fun front => tokenAt_moved hn, fun c hc => ?_⟩
  have hstop : (frontToken d.patterns n (script.drop n)).stop.toNat =
      n + (lexeme d.patterns (script.drop n)).2 := by
    simp only [frontToken]
    omega
  rw [hstop, ← List.drop_drop] at hc
  obtain ⟨v, hv⟩ := List.head?_eq_some_iff.1 hc
  have hs := (List.take_append_drop (lexeme d.patterns (script.drop n)).2 (script.drop n)).symm
  rw [hv] at hs
  have hne : script.drop n ≠ [] := by
    rw [ne_eq, List.drop_eq_nil_iff]
    omega
  have hwidth := List.length_take_of_le (lexeme_le d.patterns hne)
  have hiff := settled_iff (d := d) hs rfl (by rw [← hs, hwidth])
  rwa [← hs, hwidth, ← hstop] at hiff

theorem scansLocally_dollar :
    let script := "SELECT $a$;$a$b $b".toList
    (0 : Int) ≤ 7 ∧ (7 : Int) < script.length ∧ (0 : Int) ≤ 16 ∧ (16 : Int) < script.length ∧
      (∃ t, tokenAt .psql script 7 = .ok t ∧ Local .psql script 7 t ∧ ¬ t.MayOpen .psql 'b') ∧
      ∃ t, tokenAt .psql script 16 = .ok t ∧ Local .psql script 16 t ∧ t.MayOpen .psql 'b' := by
  intro script
  have hlt : (7 : Int) < script.length := by decide
  have hlt' : (16 : Int) < script.length := by decide
  refine ⟨by decide, hlt, by decide, hlt', ?_, ?_⟩
  · obtain ⟨t, ht, hlocal⟩ := scansLocally .psql script 7 (by decide) hlt
    have hfront : frontToken Dialect.psql.patterns 7 (script.drop 7) =
        ⟨.string, "$a$;$a$".toList, 7, 14⟩ := by decide +kernel
    have htoken : tokenAt .psql script 7 = .ok _ := tokenAt_natCast (n := 7) (by decide)
    obtain rfl := Except.ok.inj ((hfront ▸ htoken).symm.trans ht)
    exact ⟨_, ht, hlocal, fun h => nomatch h.kind⟩
  · obtain ⟨t, ht, hlocal⟩ := scansLocally .psql script 16 (by decide) hlt'
    have hfront : frontToken Dialect.psql.patterns 16 (script.drop 16) =
        ⟨.other, ['$'], 16, 17⟩ := by decide +kernel
    have htoken : tokenAt .psql script 16 = .ok _ := tokenAt_natCast (n := 16) (by decide)
    obtain rfl := Except.ok.inj ((hfront ▸ htoken).symm.trans ht)
    exact ⟨_, ht, hlocal, rfl, rfl, rfl, by decide⟩

end SqlScript
