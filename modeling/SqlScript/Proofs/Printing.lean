import SqlScript.Json.Printer
import SqlScript.Proofs.Grammar

/-!
What the printer writes denotes the printed value and nothing else, and has no character that breaks
a line.
-/

set_option autoImplicit false

namespace SqlScript.Json

def Plain (s : List Char) : Prop := ∀ c ∈ s, 0x20 ≤ c.toNat

theorem plain_nil : Plain [] := by simp [Plain]

theorem plain_cons {c : Char} {s : List Char} : Plain (c :: s) ↔ 0x20 ≤ c.toNat ∧ Plain s := by
  simp [Plain]

theorem plain_append {s t : List Char} : Plain (s ++ t) ↔ Plain s ∧ Plain t := by
  simp [Plain, or_imp, forall_and]

theorem Plain.oneLine {s : List Char} (h : Plain s) : '\n' ∉ s ∧ '\r' ∉ s :=
  ⟨fun hmem => absurd (h _ hmem) (by decide), fun hmem => absurd (h _ hmem) (by decide)⟩

/-! ## Strings -/

theorem hexDigit?_digitChar {d : Nat} (h : d < 16) : hexDigit? (Nat.digitChar d) = some d := by
  have all : ∀ d < 16, hexDigit? (Nat.digitChar d) = some d := by decide
  exact all d h

theorem hexField_code {n : Nat} (h : n < 0x10000) :
    ∃ w x y z, Text.hexField 4 n = [w, x, y, z] ∧ hexCode? w x y z = some n := by
  refine ⟨_, _, _, _, rfl, ?_⟩
  have digit (m : Nat) : hexDigit? (Nat.digitChar (m % 16)) = some (m % 16) :=
    hexDigit?_digitChar (Nat.mod_lt m (by decide))
  simp only [hexCode?, digit, Option.bind_eq_bind, Option.bind_some, Option.pure_def,
    Option.some.injEq]
  omega

theorem plain_hexField (width n : Nat) : Plain (Text.hexField width n) := by
  induction width generalizing n with
  | zero => exact plain_nil
  | succ width ih =>
    have digit : ∀ d < 16, 0x20 ≤ (Nat.digitChar d).toNat := by decide
    exact plain_append.2 ⟨ih _, plain_cons.2 ⟨digit _ (Nat.mod_lt n (by decide)), plain_nil⟩⟩

/-- What the printer writes for a character is a way to write it, without control characters. -/
theorem writes_escapeChar (c : Char) : Writes c (escapeChar c) ∧ Plain (escapeChar c) := by
  have simple {a e : Char} (h : (c == a) = true) (he : simpleEscape? e = some a)
      (hlow : 0x20 ≤ e.toNat) : Writes c ['\\', e] ∧ Plain ['\\', e] := by
    rw [eq_of_beq h]
    exact ⟨.simple he, by simp [Plain, hlow]⟩
  unfold escapeChar
  -- Seven characters have an escape of their own.
  iterate 7
    split
    · rename_i h
      exact simple h rfl (by decide)
  rename_i hquote hback _ _ _ _ _
  split
  · rename_i hlow
    obtain ⟨w, x, y, z, hcode, hn⟩ := hexField_code (n := c.toNat) (by omega)
    have hplain : Plain [w, x, y, z] := hcode ▸ plain_hexField 4 c.toNat
    rw [hcode]
    exact ⟨.code hn, plain_cons.2 ⟨by decide, plain_cons.2 ⟨by decide, hplain⟩⟩⟩
  · rename_i hlow
    have hle : 0x20 ≤ c.toNat := Nat.le_of_not_lt hlow
    exact ⟨.plain hle (by simpa using hquote) (by simpa using hback), plain_cons.2 ⟨hle, plain_nil⟩⟩

theorem writesAll_escape (s : List Char) : WritesAll s (s.flatMap escapeChar) := by
  induction s with
  | nil => exact .nil
  | cons c s ih => exact .cons (writes_escapeChar c).1 ih

theorem plain_renderString (s : List Char) : Plain (renderString s) := by
  have hs : Plain (s.flatMap escapeChar) := by
    intro c hc
    obtain ⟨a, -, ha⟩ := List.mem_flatMap.1 hc
    exact (writes_escapeChar a).2 c ha
  have hquote : Plain ['"'] := by simp [Plain]
  exact plain_append.2 ⟨plain_append.2 ⟨hquote, hs⟩, hquote⟩

/-! ## Integers -/

theorem digitsValue_concat (ds : List Char) (d : Char) :
    digitsValue (ds ++ [d]) = digitsValue ds * 10 + (d.toNat - 48) := by
  simp [digitsValue]

theorem digitsValue_decimal (n : Nat) : digitsValue (Text.decimal n) = n := by
  induction n using Text.decimal.induct with
  | case1 n h =>
    rw [Text.decimal, if_pos h]
    simp [digitsValue, Nat.toNat_digitChar_of_lt_ten h]
  | case2 n h ih =>
    rw [Text.decimal, if_neg h, digitsValue_concat, ih,
      Nat.toNat_digitChar_of_lt_ten (Nat.mod_lt n (by decide))]
    omega

theorem decimal_ne_nil (n : Nat) : Text.decimal n ≠ [] := by
  rw [Text.decimal]
  split <;> simp

theorem decimal_head {n : Nat} (h : (Text.decimal n).head? = some '0') : n = 0 := by
  induction n using Text.decimal.induct with
  | case1 n hn =>
    rw [Text.decimal, if_pos hn] at h
    have all : ∀ n < 10, [Nat.digitChar n].head? = some '0' → n = 0 := by decide
    exact all n hn h
  | case2 n hn ih =>
    rw [Text.decimal, if_neg hn] at h
    obtain ⟨d, r, hd⟩ := List.exists_cons_of_ne_nil (decimal_ne_nil (n / 10))
    have hzero : n / 10 = 0 := ih (by simpa [hd] using h)
    omega

theorem isNatural_decimal (n : Nat) : isNatural (Text.decimal n) = true := by
  refine isNatural_iff.2 ⟨decimal_ne_nil n, ?_, fun h => ?_⟩
  · induction n using Text.decimal.induct with
    | case1 n h =>
      rw [Text.decimal, if_pos h]
      simp [Nat.isDigit_digitChar, h]
    | case2 n h ih =>
      rw [Text.decimal, if_neg h]
      have hlast : n % 10 < 10 := Nat.mod_lt n (by decide)
      exact List.forall_mem_append.2 ⟨ih, by simpa [Nat.isDigit_digitChar] using hlast⟩
  · rw [decimal_head h, Text.decimal, if_pos (by decide)]
    rfl

theorem integer?_signedDecimal (n : Int) : integer? (Text.signedDecimal n) = some n := by
  cases n with
  | ofNat n =>
    rw [Text.signedDecimal, integer?, if_pos (isNatural_decimal n), digitsValue_decimal]
    · rfl
    · intro ds hds
      have hall := (isNatural_iff.1 (isNatural_decimal n)).2.1
      have hsign := hall '-' (by simp [hds])
      contradiction
  | negSucc n =>
    rw [Text.signedDecimal, integer?, if_pos (isNatural_decimal _), digitsValue_decimal]
    rfl

/-! ## Values -/

mutual

/-- Whether every number in the value that is not an integer is spelled as one. -/
def isProper : Json → Bool
  | .real literal => isReal literal
  | .arr items => itemsProper items
  | .obj fields => fieldsProper fields
  | _ => true

def itemsProper : List Json → Bool
  | [] => true
  | v :: r => v.isProper && itemsProper r

def fieldsProper : List (List Char × Json) → Bool
  | [] => true
  | (_, v) :: r => v.isProper && fieldsProper r

end

theorem itemsProper_iff {vs : List Json} :
    itemsProper vs = true ↔ ∀ v ∈ vs, v.isProper = true := by
  induction vs with
  | nil => simp [itemsProper]
  | cons v vs ih => simp [itemsProper, ih]

mutual

/-- The printer writes a value as the grammar has it. -/
theorem derives_render : (v : Json) → v.isProper = true → Derives (.value v) v.render
  | .null, _ => .null
  | .bool true, _ => .yes
  | .bool false, _ => .no
  | .int n, _ => .int (integer?_signedDecimal n)
  | .real literal, h => .real (by simpa [isProper] using h)
  | .str s, _ => .str (writesAll_escape s)
  | .arr [], _ => .emptyArr space_nil
  | .arr (v :: vs), h => by
    simpa [render] using
      Derives.arr space_nil (derives_items (v :: vs) (by simp) (by simpa [isProper] using h))
  | .obj [], _ => .emptyObj space_nil
  | .obj (f :: fs), h => by
    simpa [render] using
      Derives.obj space_nil (derives_fields (f :: fs) (by simp) (by simpa [isProper] using h))

theorem derives_items : (vs : List Json) → vs ≠ [] → itemsProper vs = true →
    Derives (.items vs) ([','].intercalate (renderItems vs) ++ [']'])
  | [v], _, h => by
    simp only [itemsProper, Bool.and_true] at h
    simpa [renderItems] using Derives.lastItem (derives_render v h) space_nil
  | v :: w :: vs, _, h => by
    rw [itemsProper, Bool.and_eq_true] at h
    simpa [renderItems] using Derives.item (derives_render v h.1) space_nil space_nil
      (derives_items (w :: vs) (by simp) h.2)

theorem derives_fields : (fs : Fields) → fs ≠ [] → fieldsProper fs = true →
    Derives (.fields fs) ([','].intercalate (renderFields fs) ++ ['}'])
  | [(k, v)], _, h => by
    simp only [fieldsProper, Bool.and_true] at h
    simpa [renderFields, renderString] using
      Derives.lastField (writesAll_escape k) space_nil space_nil (derives_render v h) space_nil
  | (k, v) :: f :: fs, _, h => by
    rw [fieldsProper, Bool.and_eq_true] at h
    simpa [renderFields, renderString] using
      Derives.field (writesAll_escape k) space_nil space_nil (derives_render v h.1) space_nil
        space_nil (derives_fields (f :: fs) (by simp) h.2)

end

theorem plain_numeral {literal : List Char}
    (h : (∃ n, integer? literal = some n) ∨ isReal literal = true) : Plain literal := by
  intro c hc
  have hnumber := (numeral_cases h).2 c hc
  simp only [isNumberChar, Char.isDigit, Bool.or_eq_true, Bool.and_eq_true, decide_eq_true_eq,
    beq_iff_eq, or_assoc] at hnumber
  rcases hnumber with h | rfl | rfl | rfl | rfl | rfl
  · have : 48 ≤ c.toNat := h.1
    omega
  all_goals decide

mutual

theorem plain_render : (v : Json) → v.isProper = true → Plain v.render
  | .null, _ => by simp [render, Plain]
  | .bool true, _ => by simp [render, renderBool, Plain]
  | .bool false, _ => by simp [render, renderBool, Plain]
  | .int n, _ => plain_numeral (.inl ⟨n, integer?_signedDecimal n⟩)
  | .real literal, h => by
    rw [isProper] at h
    exact plain_numeral (.inr h)
  | .str s, _ => plain_renderString s
  | .arr vs, h => plain_append.2
      ⟨plain_cons.2 ⟨by decide, plain_items vs (by simpa [isProper] using h)⟩, by simp [Plain]⟩
  | .obj fs, h => plain_append.2
      ⟨plain_cons.2 ⟨by decide, plain_fields fs (by simpa [isProper] using h)⟩, by simp [Plain]⟩

theorem plain_items : (vs : List Json) → itemsProper vs = true →
    Plain ([','].intercalate (renderItems vs))
  | [], _ => plain_nil
  | [v], h => by
    simp only [itemsProper, Bool.and_true] at h
    simpa [renderItems] using plain_render v h
  | v :: w :: vs, h => by
    rw [itemsProper, Bool.and_eq_true] at h
    have hrest := plain_items (w :: vs) h.2
    simp only [renderItems, List.intercalate_cons_cons] at hrest ⊢
    exact plain_append.2 ⟨plain_append.2 ⟨plain_render v h.1, by simp [Plain]⟩, hrest⟩

theorem plain_fields : (fs : Fields) → fieldsProper fs = true →
    Plain ([','].intercalate (renderFields fs))
  | [], _ => plain_nil
  | [(k, v)], h => by
    simp only [fieldsProper, Bool.and_true] at h
    simpa [renderFields] using
      plain_append.2 ⟨plain_renderString k, plain_cons.2 ⟨by decide, plain_render v h⟩⟩
  | (k, v) :: (l, w) :: fs, h => by
    rw [fieldsProper, Bool.and_eq_true] at h
    have hrest := plain_fields ((l, w) :: fs) h.2
    have hfield : Plain (renderString k ++ ':' :: v.render) := plain_append.2
      ⟨plain_renderString k, plain_cons.2 ⟨by decide, plain_render v h.1⟩⟩
    simp only [renderFields, List.intercalate_cons_cons] at hrest ⊢
    exact plain_append.2 ⟨plain_append.2 ⟨hfield, by simp [Plain]⟩, hrest⟩

end

/-- What the printer writes denotes the printed value, and nothing else. -/
theorem denotes_render {v : Json} (h : v.isProper = true) (w : Json) :
    Denotes v.render w ↔ w = v := by
  have hself : Denotes v.render v :=
    ⟨[], v.render, [], space_nil, derives_render v h, space_nil, by simp⟩
  exact ⟨fun hw => hw.unique hself, fun hw => hw ▸ hself⟩

theorem read_render {v : Json} (h : v.isProper = true) : read v.render = some v :=
  read_of_denotes ((denotes_render h v).2 rfl)

end SqlScript.Json
