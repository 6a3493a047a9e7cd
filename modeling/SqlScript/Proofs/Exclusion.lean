import SqlScript.Proofs.Pulling

/-!
The lexical forms of a dialect exclude each other. Besides the catch-all, the texts of one form at
most begin with a given character, so a token is of whichever form covers anything, in whatever
order the forms are tried, and the catch-all is used where none of them does.
-/

set_option autoImplicit false

namespace SqlScript

/-! ## Blanks and words -/

namespace Text

theorem blankRanges_apart :
    ∀ r ∈ blankRanges, ∀ q ∈ wordRanges, r.2 < q.1 ∨ q.2 < r.1 := by
  decide +kernel

theorem ascii_blank_apart : ∀ n < 128, isBlank (Char.ofNat n) = true →
    ((Char.ofNat n).isAlphanum || Char.ofNat n == '_') = false := by
  decide

theorem isWordChar_of_isBlank {c : Char} (h : isBlank c = true) : isWordChar c = false := by
  rw [isWordChar]
  split
  · rename_i hc
    have hcode := ascii_blank_apart c.toNat hc
    rw [Char.ofNat_toNat] at hcode
    exact hcode h
  · exact inRanges_apart blankRanges_apart h

end Text

/-! ## The only one that passes a test -/

section

variable {α : Type} {P : α → Bool} {l l' : List α}

def Sole (P : α → Bool) (l : List α) : Prop :=
  ∀ x ∈ l, ∀ y ∈ l, P x = true → P y = true → x = y

theorem Sole.find?_eq_some (h : Sole P l) {a : α} (ha : a ∈ l) (hp : P a = true) :
    l.find? P = some a := by
  cases hf : l.find? P with
  | none => exact absurd hp (List.find?_eq_none.1 hf a ha)
  | some b => rw [h b (List.mem_of_find?_eq_some hf) a ha (List.find?_some hf) hp]

theorem Sole.find?_perm (h : Sole P l) (hl : l'.Perm l) : l'.find? P = l.find? P := by
  cases hf : l'.find? P with
  | none =>
    have hnone := List.find?_eq_none.1 hf
    exact (List.find?_eq_none.2 fun x hx => hnone x (hl.mem_iff.2 hx)).symm
  | some a =>
    have ha := hl.mem_iff.1 (List.mem_of_find?_eq_some hf)
    exact (h.find?_eq_some ha (List.find?_some hf)).symm

theorem Sole.countP_le_one (h : Sole P l) (hl : l.Nodup) : l.countP P ≤ 1 := by
  induction l with
  | nil => simp
  | cons a l ih =>
    obtain ⟨ha, hl⟩ := List.nodup_cons.1 hl
    rw [List.countP_cons]
    split
    · rename_i hp
      have hnone : l.countP P = 0 := by
        rw [List.countP_eq_zero]
        intro b hb hpb
        obtain rfl := h a List.mem_cons_self b (List.mem_cons_of_mem a hb) hp hpb
        exact ha hb
      omega
    · exact ih (fun x hx y hy => h x (List.mem_cons_of_mem a hx) y (List.mem_cons_of_mem a hy)) hl

end

/-! ## The form for a character -/

namespace Dialect

variable {d : Dialect} {p : Pattern} {a : Char}

def properForms (d : Dialect) : List Pattern := d.patterns.dropLast

theorem patterns_eq_properForms (d : Dialect) : d.patterns = d.properForms ++ [.anyChar] := by
  cases d <;> rfl

theorem properForms_eq (d : Dialect) :
    d.properForms =
      [.blanks] ++ d.lineComments ++ [.blockComment] ++ d.quotations ++ [.semicolon, .word] := by
  cases d <;> rfl

theorem nodup_properForms (d : Dialect) : d.properForms.Nodup := by
  cases d <;> decide

def formFor? (d : Dialect) (a : Char) : Option Pattern :=
  if Text.isBlank a then some .blanks
  else if Text.isWordChar a then some .word
  else d.properForms.find? fun p => p.mark? == some a

/-- A form with a mark is found by the first character of the mark: no other form has it, and it is
neither a blank nor a character of a word. -/
theorem plain_or_marked (hp : p ∈ d.properForms) :
    p = .blanks ∨ p = .word ∨ ∃ m, p.mark? = some m ∧ d.formFor? m = some p := by
  have hmark : p = .blanks ∨ p = .word ∨ p.mark?.any (d.formFor? · == some p) = true := by
    revert p
    cases d <;> decide
  refine hmark.imp_right (.imp_right fun h => ?_)
  obtain ⟨m, hm, hfor⟩ := (Option.any_eq_true _ _).1 h
  exact ⟨m, hm, by simpa using hfor⟩

theorem formFor?_of_mayBegin (hp : p ∈ d.properForms) (ha : p.mayBegin a = true) :
    d.formFor? a = some p := by
  obtain rfl | rfl | ⟨m, hm, hfor⟩ := plain_or_marked hp
  · exact if_pos ha
  · have hword : Text.isWordChar a = true := ha
    have hblank : ¬ Text.isBlank a = true := by
      intro hb
      rw [Text.isWordChar_of_isBlank hb] at hword
      contradiction
    rw [formFor?, if_neg hblank, if_pos hword]
  · rw [Pattern.eq_mark hm ha, hfor]

/-- No two forms besides the catch-all cover anything of a text. -/
theorem sole_extent (d : Dialect) (s : List Char) :
    Sole (fun p => 0 < p.extent s) d.properForms := by
  intro p hp q hq hpos hpos'
  simp only [decide_eq_true_eq] at hpos hpos'
  cases s with
  | nil =>
    have hle := p.extent_le []
    rw [List.length_nil] at hle
    omega
  | cons a r =>
    -- both are the form for the first character
    have hfor := formFor?_of_mayBegin hp (Pattern.mayBegin_of_extent hpos)
    have hfor' := formFor?_of_mayBegin hq (Pattern.mayBegin_of_extent hpos')
    exact Option.some.inj (hfor.symm.trans hfor')

end Dialect

/-! ## The form of a token -/

def formOf? (forms : List Pattern) (s : List Char) : Option Pattern :=
  forms.find? fun p => 0 < p.extent s

def Pattern.token (p : Pattern) (start : Nat) (s : List Char) : Token :=
  ⟨p.kindOf (s.take (p.extent s)), s.take (p.extent s), start, start + p.extent s⟩

section

variable {d : Dialect} {forms forms' : List Pattern} {p : Pattern} {a : Char} {r s : List Char}

theorem lexeme_of_formOf? (h : formOf? forms s = some p) :
    lexeme forms s = (p.kindOf (s.take (p.extent s)), p.extent s) := by
  unfold formOf? at h
  simp only [lexeme, h]

theorem frontToken_of_formOf? (h : formOf? forms s = some p) (start : Nat) :
    frontToken forms start s = p.token start s := by
  rw [frontToken, lexeme_of_formOf? h, Pattern.token]

theorem lexeme_congr (h : formOf? forms s = formOf? forms' s) :
    lexeme forms s = lexeme forms' s := by
  unfold formOf? at h
  simp only [lexeme, h]

theorem formOf?_catchAll (forms : List Pattern) (a : Char) (r : List Char) :
    formOf? (forms ++ [.anyChar]) (a :: r) = (formOf? forms (a :: r)).or (some .anyChar) := by
  rw [formOf?, List.find?_append]
  rfl

theorem exists_formOf? (d : Dialect) (a : Char) (r : List Char) :
    ∃ p ∈ d.patterns, formOf? d.patterns (a :: r) = some p := by
  cases hform : formOf? d.patterns (a :: r) with
  | some p => exact ⟨p, List.mem_of_find?_eq_some hform, rfl⟩
  | none =>
    rw [d.patterns_eq_properForms, formOf?_catchAll] at hform
    simp at hform

theorem formOf?_of_extent (hp : p ∈ d.properForms) (hpos : 0 < p.extent s) :
    formOf? d.patterns s = some p := by
  have hfound := (d.sole_extent s).find?_eq_some hp (by simpa using hpos)
  rw [d.patterns_eq_properForms, formOf?, List.find?_append, hfound, Option.some_or]

/-- A token is of whichever form covers anything. -/
theorem lexeme_of_extent (hp : p ∈ d.properForms) (hpos : 0 < p.extent s) :
    lexeme d.patterns s = (p.kindOf (s.take (p.extent s)), p.extent s) :=
  lexeme_of_formOf? (formOf?_of_extent hp hpos)

theorem formOf?_eq_anyChar_iff :
    formOf? d.patterns (a :: r) = some .anyChar ↔ ∀ p ∈ d.properForms, p.extent (a :: r) = 0 := by
  constructor
  · intro h p hp
    refine Nat.eq_zero_of_not_pos fun hpos => ?_
    obtain rfl : p = .anyChar := Option.some.inj ((formOf?_of_extent hp hpos).symm.trans h)
    have hproper : .anyChar ∉ d.properForms := by cases d <;> decide
    exact hproper hp
  · intro h
    have hnone : formOf? d.properForms (a :: r) = none :=
      List.find?_eq_none.2 fun p hp => by simp [h p hp]
    rw [d.patterns_eq_properForms, formOf?_catchAll, hnone, Option.none_or]

theorem leftOver_of_extent (h : ∀ p ∈ d.properForms, p.extent (a :: r) = 0) :
    Text.isBlank a = false ∧ Text.isWordChar a = false ∧ a ≠ ';' := by
  have hblanks := h .blanks (by simp [d.properForms_eq])
  have hword := h .word (by simp [d.properForms_eq])
  have hsemicolon := h .semicolon (by simp [d.properForms_eq])
  refine ⟨?_, ?_, ?_⟩
  · rw [Bool.eq_false_iff]
    intro hb
    simp [Pattern.extent, hb] at hblanks
  · rw [Bool.eq_false_iff]
    intro hw
    simp [Pattern.extent, hw] at hword
  · rintro rfl
    simp [Pattern.extent] at hsemicolon

/-! ## Other orders -/

theorem lexeme_reordered (h : forms.Perm d.properForms) (s : List Char) :
    lexeme (forms ++ [.anyChar]) s = lexeme d.patterns s := by
  have hfound := (d.sole_extent s).find?_perm h
  refine lexeme_congr ?_
  rw [d.patterns_eq_properForms, formOf?, formOf?, List.find?_append, List.find?_append, hfound]

theorem tokensFrom_reordered (h : forms.Perm d.properForms) (start : Nat) (s : List Char) :
    tokensFrom (forms ++ [.anyChar]) start s = tokensFrom d.patterns start s := by
  fun_induction tokensFrom d.patterns start s with
  | case1 => rw [tokensFrom_nil]
  | case2 start c r n ih =>
    have hlex := lexeme_reordered h (c :: r)
    have hn : (lexeme (forms ++ [.anyChar]) (c :: r)).2 = n := by rw [hlex]
    rw [tokensFrom_cons, hn, ih]
    simp only [frontToken, hlex]

end

/-- What the order of the forms has no part in, for the token at the front of a text that stands at
an offset. -/
structure InAnyOrder (d : Dialect) (start : Nat) (s : List Char) (t : Token) : Prop where
  sole : d.properForms.countP (fun p => 0 < p.extent s) ≤ 1
  token : ∀ forms, forms.Perm d.properForms → frontToken (forms ++ [.anyChar]) start s = t
  tokens : ∀ forms, forms.Perm d.properForms →
    tokensFrom (forms ++ [.anyChar]) start s = tokensFrom d.patterns start s
  form : ∃ p ∈ d.patterns, formOf? d.patterns s = some p ∧ t = p.token start s
  catchAll : formOf? d.patterns s = some .anyChar ↔ ∀ p ∈ d.properForms, p.extent s = 0
  single : formOf? d.patterns s = some .anyChar → ∃ a, s.head? = some a ∧
    t = ⟨.other, [a], start, start + 1⟩ ∧
    Text.isBlank a = false ∧ Text.isWordChar a = false ∧ a ≠ ';'

/-- At no offset of a script does its token depend on the order of the forms. -/
theorem scansInAnyOrder (d : Dialect) (script : List Char) (i : Int) (hi : 0 ≤ i)
    (hlt : i < script.length) :
    ∃ t, tokenAt d script i = .ok t ∧ InAnyOrder d i.toNat (script.drop i.toNat) t := by
  obtain ⟨n, rfl⟩ := Int.eq_ofNat_of_zero_le hi
  have hn : n < script.length := by omega
  refine ⟨_, tokenAt_natCast hn, ?_⟩
  rw [Int.toNat_natCast]
  have hne : script.drop n ≠ [] := by
    rw [ne_eq, List.drop_eq_nil_iff]
    omega
  obtain ⟨a, r, hrest⟩ := List.exists_cons_of_ne_nil hne
  rw [hrest]
  constructor
  · exact (d.sole_extent _).countP_le_one d.nodup_properForms
  · intro forms h
    simp only [frontToken, lexeme_reordered h]
  · exact fun forms h => tokensFrom_reordered h n (a :: r)
  · obtain ⟨p, hp, hform⟩ := exists_formOf? d a r
    exact ⟨p, hp, hform, frontToken_of_formOf? hform n⟩
  · exact formOf?_eq_anyChar_iff
  · intro h
    exact ⟨a, rfl, frontToken_of_formOf? h n, leftOver_of_extent (formOf?_eq_anyChar_iff.1 h)⟩

theorem scansInAnyOrder_minus :
    let script := "$x$[#]$x$/-$".toList
    (0 : Int) ≤ 0 ∧ (0 : Int) < script.length ∧ (0 : Int) ≤ 10 ∧ (10 : Int) < script.length ∧
      InAnyOrder .psql 0 (script.drop 0) ⟨.string, "$x$[#]$x$".toList, 0, 9⟩ ∧
      InAnyOrder .psql 10 (script.drop 10) ⟨.other, ['-'], 10, 11⟩ := by
  intro script
  have hlt : (0 : Int) < script.length := by decide
  have hlt' : (10 : Int) < script.length := by decide
  refine ⟨by decide, hlt, by decide, hlt', ?_, ?_⟩
  · obtain ⟨t, ht, horder⟩ := scansInAnyOrder .psql script 0 (by decide) hlt
    have hfront : frontToken Dialect.psql.patterns 0 (script.drop 0) =
        ⟨.string, "$x$[#]$x$".toList, 0, 9⟩ := by decide +kernel
    have htoken : tokenAt .psql script 0 = .ok _ := tokenAt_natCast (n := 0) (by decide)
    obtain rfl := Except.ok.inj ((hfront ▸ htoken).symm.trans ht)
    exact horder
  · obtain ⟨t, ht, horder⟩ := scansInAnyOrder .psql script 10 (by decide) hlt'
    have hfront : frontToken Dialect.psql.patterns 10 (script.drop 10) =
        ⟨.other, ['-'], 10, 11⟩ := by decide +kernel
    have htoken : tokenAt .psql script 10 = .ok _ := tokenAt_natCast (n := 10) (by decide)
    obtain rfl := Except.ok.inj ((hfront ▸ htoken).symm.trans ht)
    exact horder

end SqlScript
