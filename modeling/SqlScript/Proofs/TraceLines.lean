import Mathlib.Algebra.Group.Nat.Defs
import SqlScript.Proofs.Printing
import SqlScript.Trace

/-!
The lines about tokens in a trace. Every character of such a line shows, so that it is one line; and
it can be read back, for no token looks like another one in it, whatever its text spells.
-/

set_option autoImplicit false

namespace SqlScript

namespace Text

/-! ## Escapes -/

def hexValue (ds : List Char) : Nat :=
  ds.foldl (fun n d => n * 16 + (Json.hexDigit? d).getD 0) 0

theorem hexValue_concat (ds : List Char) (d : Char) :
    hexValue (ds ++ [d]) = hexValue ds * 16 + (Json.hexDigit? d).getD 0 := by
  simp [hexValue]

theorem hexValue_hexField (width n : Nat) : hexValue (hexField width n) = n % 16 ^ width := by
  induction width generalizing n with
  | zero => simp [hexField, hexValue, Nat.mod_one]
  | succ width ih =>
    have hdigit := Json.hexDigit?_digitChar (Nat.mod_lt n (by decide : 0 < 16))
    rw [hexField, hexValue_concat, ih, hdigit, Option.getD_some, Nat.pow_succ,
      Nat.mul_comm (16 ^ width) 16, Nat.mod_mul]
    omega

def readCode (width : Nat) (s : List Char) : Char × List Char :=
  (Char.ofNat (hexValue (s.take width)), s.drop width)

def readShown? : List Char → Option (Char × List Char)
  | [] => none
  | '\\' :: 'n' :: r => some ('\n', r)
  | '\\' :: 'r' :: r => some ('\r', r)
  | '\\' :: 't' :: r => some ('\t', r)
  | '\\' :: 'x' :: r => some (readCode 2 r)
  | '\\' :: 'u' :: r => some (readCode 4 r)
  | '\\' :: 'U' :: r => some (readCode 8 r)
  | '\\' :: c :: r => some (c, r)
  | c :: r => some (c, r)

variable {quote c : Char} {s t x y : List Char}

theorem readCode_hexField (width : Nat) (h : c.toNat < 16 ^ width) :
    readCode width (hexField width c.toNat ++ x) = (c, x) := by
  have hlen := hexField_length width c.toNat
  rw [readCode, List.take_left' hlen, List.drop_left' hlen, hexValue_hexField, Nat.mod_eq_of_lt h,
    Char.ofNat_toNat]

theorem readShown?_escapeCode (c : Char) (x : List Char) :
    readShown? (escapeCode c.toNat ++ x) = some (c, x) := by
  unfold escapeCode
  split
  · rename_i h
    exact congrArg some (readCode_hexField 2 h)
  · split
    · rename_i h
      exact congrArg some (readCode_hexField 4 h)
    · have hlt : c.toNat < 16 ^ 8 := by
        have hvalid := c.valid
        simp only [UInt32.isValidChar, Nat.isValidChar] at hvalid
        change c.val.toNat < 16 ^ 8
        omega
      exact congrArg some (readCode_hexField 8 hlt)

def quotes : List Char := ['\'', '"']

theorem quoteFor_mem (s : List Char) : quoteFor s ∈ quotes := by
  unfold quoteFor quotes
  split <;> simp

theorem readShown?_plain (h : c ≠ '\\') (x : List Char) : readShown? (c :: x) = some (c, x) := by
  unfold readShown?
  split <;> simp_all

/-- What is written for a character is read as that character, whatever follows. -/
theorem readShown?_escapeIn (hq : quote ∈ quotes) (c : Char) (x : List Char) :
    readShown? (escapeIn quote c ++ x) = some (c, x) := by
  have named {a e : Char} (h : (c == a) = true) (he : readShown? ('\\' :: e :: x) = some (a, x)) :
      readShown? (['\\', e] ++ x) = some (c, x) := by
    rwa [eq_of_beq h]
  unfold escapeIn
  split
  · rename_i h
    have hc : c ∈ '\\' :: quotes := by
      rcases Bool.or_eq_true_iff.1 h with h | h
      · exact List.mem_cons_of_mem _ (eq_of_beq h ▸ hq)
      · simp [eq_of_beq h]
    simp only [quotes, List.mem_cons, List.not_mem_nil, or_false] at hc
    rcases hc with rfl | rfl | rfl <;> rfl
  · rename_i hmark
    -- Three controls have an escape of their own.
    iterate 3
      split
      · rename_i h
        exact named h rfl
    split
    · have hback : c ≠ '\\' := by
        rintro rfl
        simp at hmark
      exact readShown?_plain hback x
    · exact readShown?_escapeCode c x

theorem head_escapeIn (hq : quote ∈ quotes) (c : Char) :
    ∃ a r, escapeIn quote c = a :: r ∧ a ≠ quote := by
  have hback : '\\' ≠ quote := by
    rintro rfl
    simp [quotes] at hq
  unfold escapeIn
  split
  · exact ⟨_, _, rfl, hback⟩
  · rename_i hmark
    iterate 3
      split
      · exact ⟨_, _, rfl, hback⟩
    split
    · have hne : c ≠ quote := by
        rintro rfl
        simp at hmark
      exact ⟨_, _, rfl, hne⟩
    · unfold escapeCode
      split
      · exact ⟨_, _, rfl, hback⟩
      · split <;> exact ⟨_, _, rfl, hback⟩

/-- What is written within the same marks is read back up to the mark that closes it. -/
theorem escaped_append_inj (hq : quote ∈ quotes)
    (h : s.flatMap (escapeIn quote) ++ quote :: x = t.flatMap (escapeIn quote) ++ quote :: y) :
    s = t ∧ x = y := by
  have unclosed {c : Char} {u v z : List Char} (h : quote :: v = escapeIn quote c ++ u ++ z) :
      False := by
    obtain ⟨a, r, hr, hne⟩ := head_escapeIn hq c
    rw [hr] at h
    exact hne (List.cons.inj h).1.symm
  induction s generalizing t with
  | nil =>
    cases t with
    | nil => exact ⟨rfl, (List.cons.inj h).2⟩
    | cons b t => exact (unclosed h).elim
  | cons a s ih =>
    cases t with
    | nil => exact (unclosed h.symm).elim
    | cons b t =>
      rw [List.flatMap_cons, List.flatMap_cons, List.append_assoc, List.append_assoc] at h
      have hread := congrArg readShown? h
      rw [readShown?_escapeIn hq, readShown?_escapeIn hq] at hread
      obtain ⟨rfl, hrest⟩ := Prod.mk.inj (Option.some.inj hread)
      obtain ⟨rfl, hxy⟩ := ih hrest
      exact ⟨rfl, hxy⟩

theorem quoted_append_inj (h : quoted s ++ x = quoted t ++ y) : s = t ∧ x = y := by
  simp only [quoted, List.cons_append, List.append_assoc, List.nil_append] at h
  obtain ⟨hquote, hrest⟩ := List.cons.inj h
  rw [← hquote] at hrest
  exact escaped_append_inj (quoteFor_mem s) hrest

theorem signedDecimal_inj {m n : Int} (h : signedDecimal m = signedDecimal n) : m = n := by
  have hread := congrArg Json.integer? h
  rw [Json.integer?_signedDecimal, Json.integer?_signedDecimal] at hread
  exact Option.some.inj hread

/-! ## Printable texts -/

def Printable (s : List Char) : Prop := ∀ c ∈ s, isPrintable c = true

theorem printable_cons : Printable (c :: s) ↔ isPrintable c = true ∧ Printable s := by
  simp [Printable]

theorem printable_append : Printable (s ++ t) ↔ Printable s ∧ Printable t := by
  simp [Printable, or_imp, forall_and]

theorem isPrintable_ascii (hlow : 32 ≤ c.toNat) (hhigh : c.toNat < 127) : isPrintable c = true := by
  have hascii : c.toNat < 128 := by omega
  simp [isPrintable, hascii, hlow, hhigh]

theorem isPrintable_of_isDigit (h : c.isDigit = true) : isPrintable c = true := by
  simp only [Char.isDigit, Bool.and_eq_true, decide_eq_true_eq] at h
  have hlow : 48 ≤ c.toNat := h.1
  have hhigh : c.toNat ≤ 57 := h.2
  exact isPrintable_ascii (by omega) (by omega)

theorem printable_decimal (n : Nat) : Printable (decimal n) := fun c hc =>
  isPrintable_of_isDigit ((Json.isNatural_iff.1 (Json.isNatural_decimal n)).2.1 c hc)

theorem printable_signedDecimal (n : Int) : Printable (signedDecimal n) := by
  cases n with
  | ofNat n => exact printable_decimal n
  | negSucc n => exact printable_cons.2 ⟨by decide, printable_decimal _⟩

theorem printable_hexField (width n : Nat) : Printable (hexField width n) := by
  induction width generalizing n with
  | zero => simp [hexField, Printable]
  | succ width ih =>
    have digit : ∀ d < 16, isPrintable (Nat.digitChar d) = true := by decide
    exact printable_append.2 ⟨ih _, by simpa [Printable] using digit _ (Nat.mod_lt n (by decide))⟩

theorem printable_escapeCode (n : Nat) : Printable (escapeCode n) := by
  have code {e : Char} (he : isPrintable e = true) (width : Nat) :
      Printable ('\\' :: e :: hexField width n) :=
    printable_cons.2 ⟨by decide, printable_cons.2 ⟨he, printable_hexField width n⟩⟩
  unfold escapeCode
  split
  · exact code (by decide) 2
  · split
    · exact code (by decide) 4
    · exact code (by decide) 8

theorem isPrintable_of_mem_quotes (hq : quote ∈ quotes) : isPrintable quote = true :=
  List.all_eq_true.1 (by decide : quotes.all isPrintable = true) quote hq

theorem printable_escapeIn (hq : quote ∈ quotes) (c : Char) : Printable (escapeIn quote c) := by
  have named {e : Char} (he : isPrintable e = true) : Printable ['\\', e] := by
    simpa [Printable, he] using (by decide : isPrintable '\\' = true)
  unfold escapeIn
  split
  · rename_i h
    rcases Bool.or_eq_true_iff.1 h with h | h
    · exact named (eq_of_beq h ▸ isPrintable_of_mem_quotes hq)
    · exact named (eq_of_beq h ▸ by decide)
  · iterate 3
      split
      · exact named (by decide)
    split
    · rename_i hc
      simpa [Printable] using hc
    · exact printable_escapeCode _

theorem printable_quoted (s : List Char) : Printable (quoted s) := by
  have hquote := isPrintable_of_mem_quotes (quoteFor_mem s)
  have hbody : Printable (s.flatMap (escapeIn (quoteFor s))) := by
    intro c hc
    obtain ⟨a, -, ha⟩ := List.mem_flatMap.1 hc
    exact printable_escapeIn (quoteFor_mem s) a c ha
  rw [quoted, printable_append, printable_cons]
  exact ⟨⟨hquote, hbody⟩, by simpa [Printable] using hquote⟩

theorem printableRanges_apart :
    ∀ r ∈ blankRanges, ∀ q ∈ printableRanges, r.2 < q.1 ∨ q.2 < r.1 := by
  decide +kernel

theorem ascii_blank_printable : ∀ n < 128, isBlank (Char.ofNat n) = true →
    isPrintable (Char.ofNat n) = true → Char.ofNat n = ' ' := by
  decide

theorem eq_space_of_isBlank (hb : isBlank c = true) (hp : isPrintable c = true) : c = ' ' := by
  by_cases hascii : c.toNat < 128
  · have hcode := ascii_blank_printable c.toNat hascii
    rw [Char.ofNat_toNat] at hcode
    exact hcode hb hp
  · rw [isPrintable, if_neg hascii, inRanges_apart printableRanges_apart hb] at hp
    contradiction

end Text

/-! ## Lines about tokens -/

theorem append_mark_inj {a : Char} {v w x y : List Char} (hv : a ∉ v) (hw : a ∉ w)
    (h : v ++ a :: x = w ++ a :: y) : v = w ∧ x = y := by
  have front {u z : List Char} (hu : a ∉ u) : (u ++ a :: z).takeWhile (· != a) = u := by
    have hne : ∀ b ∈ u, (b != a) = true := fun b hb => bne_iff_ne.2 fun heq => hu (heq ▸ hb)
    rw [List.takeWhile_append_of_pos hne, List.takeWhile_cons_of_neg (by simp), List.append_nil]
  have hsame := congrArg (List.takeWhile (· != a)) h
  rw [front hv, front hw] at hsame
  subst hsame
  exact ⟨rfl, (List.cons.inj (List.append_cancel_left h)).2⟩

theorem Dialect.name_inj {d d' : Dialect} (h : d.name.toList = d'.name.toList) : d = d' := by
  revert h
  cases d <;> cases d' <;> decide

theorem TokenKind.name_inj {k k' : TokenKind} (h : k.name.toList = k'.name.toList) : k = k' := by
  revert h
  cases k <;> cases k' <;> decide

theorem Dialect.name_plain (d : Dialect) : Text.Printable d.name.toList ∧ ']' ∉ d.name.toList := by
  cases d <;> exact ⟨List.all_eq_true.1 (by decide), by decide⟩

theorem TokenKind.name_plain (k : TokenKind) :
    Text.Printable k.name.toList ∧ ' ' ∉ k.name.toList := by
  cases k <;> exact ⟨List.all_eq_true.1 (by decide), by decide⟩

namespace TraceEvent

theorem tokenLine_eq (dialect : List Char) (t : Token) :
    tokenLine dialect t = '[' :: (dialect ++ ']' :: (" token ".toList ++ (t.kind.name.toList ++
      ' ' :: (Text.quoted t.text ++ (" @".toList ++ Text.signedDecimal t.start))))) := by
  simp [tokenLine]

variable {e : TraceEvent} {d : Dialect} {t : Token}

/-- The event tells a token of a run in the dialect. -/
structure TellsToken (e : TraceEvent) (d : Dialect) (t : Token) : Prop where
  kind : e.kind = "token".toList
  dialect : e.dialect = d.name.toList
  token : e.token = some t

theorem TellsToken.line_eq (h : e.TellsToken d t) : e.line = tokenLine d.name.toList t := by
  obtain ⟨hkind, hdialect, htoken⟩ := h
  have hstatement : "token".toList ≠ "statement".toList := by decide
  unfold line
  rw [htoken, hdialect, hkind]
  cases e.statement with
  | none => rfl
  | some s => simp only [if_neg hstatement]

theorem printable_tokenLine (d : Dialect) (t : Token) :
    Text.Printable (tokenLine d.name.toList t) := by
  have marks : Text.Printable " token ".toList ∧ Text.Printable " @".toList :=
    ⟨List.all_eq_true.1 (by decide), List.all_eq_true.1 (by decide)⟩
  rw [tokenLine_eq]
  simp only [Text.printable_append, Text.printable_cons]
  exact ⟨by decide, d.name_plain.1, by decide, marks.1, t.kind.name_plain.1, by decide,
    Text.printable_quoted t.text, marks.2, Text.printable_signedDecimal t.start⟩

theorem tokenLine_inj {d' : Dialect} {t' : Token}
    (h : tokenLine d.name.toList t = tokenLine d'.name.toList t') :
    d = d' ∧ t.kind = t'.kind ∧ t.text = t'.text ∧ t.start = t'.start := by
  rw [tokenLine_eq, tokenLine_eq] at h
  obtain ⟨hd, hrest⟩ := append_mark_inj d.name_plain.2 d'.name_plain.2 (List.cons.inj h).2
  obtain ⟨hk, hrest⟩ := append_mark_inj t.kind.name_plain.2 t'.kind.name_plain.2
    (List.append_cancel_left hrest)
  obtain ⟨htext, hrest⟩ := Text.quoted_append_inj hrest
  exact ⟨Dialect.name_inj hd, TokenKind.name_inj hk, htext,
    Text.signedDecimal_inj (List.append_cancel_left hrest)⟩

/-- What can be said of the line of an event that tells a token. -/
structure Faithful (e : TraceEvent) (d : Dialect) (t : Token) : Prop where
  printable : ∀ c ∈ e.line, Text.isPrintable c = true
  spaces : ∀ c ∈ e.line, Text.isBlank c = true → c = ' '
  told : ∀ (e' : TraceEvent) (d' : Dialect) (t' : Token), e'.TellsToken d' t' →
    (e'.line = e.line ↔ d' = d ∧ t'.kind = t.kind ∧ t'.text = t.text ∧ t'.start = t.start)

theorem faithful_line (h : e.TellsToken d t) : Faithful e d t := by
  have hprintable : Text.Printable e.line := by
    rw [h.line_eq]
    exact printable_tokenLine d t
  refine ⟨hprintable, fun c hc hb => Text.eq_space_of_isBlank hb (hprintable c hc), ?_⟩
  intro e' d' t' h'
  rw [h.line_eq, h'.line_eq]
  constructor
  · exact tokenLine_inj
  · rintro ⟨rfl, hk, htext, hstart⟩
    rw [tokenLine, tokenLine, hk, htext, hstart]

/-- The text of the token spells escapes, both quotes, an end of the line and what does not show. -/
theorem faithful_line_escapes :
    let t : Token := ⟨.string, "'\\x07\" @1'\n\x07\u00a0😀".toList, -3, 9⟩
    let e : TraceEvent := ⟨"token".toList, "psql".toList, some t, none⟩
    e.TellsToken .psql t ∧ Faithful e .psql t ∧
      e.line = "[psql] token string '\\'\\\\x07\" @1\\'\\n\\x07\\xa0😀' @-3".toList := by
  intro t e
  have h : e.TellsToken .psql t := ⟨rfl, rfl, rfl⟩
  exact ⟨h, faithful_line h, by decide +kernel⟩

end TraceEvent

end SqlScript
