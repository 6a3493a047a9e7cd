import SqlScript.Json.Reader

/-!
The grammar of JSON, apart from any reader: which texts denote a value. The reader comes to the
value that a text denotes, so a text denotes at most one.
-/

set_option autoImplicit false

namespace SqlScript.Json

def Space (s : List Char) : Prop := ∀ c ∈ s, isSpace c = true

def ofSurrogates (high low : Nat) : Char :=
  Char.ofNat (0x10000 + (high - 0xD800) * 0x400 + (low - 0xDC00))

inductive Writes : Char → List Char → Prop where
  | plain {c : Char} : 0x20 ≤ c.toNat → c ≠ '"' → c ≠ '\\' → Writes c [c]
  | simple {c e : Char} : simpleEscape? e = some c → Writes c ['\\', e]
  | code {c w x y z : Char} : hexCode? w x y z = some c.toNat → Writes c ['\\', 'u', w, x, y, z]
  | pair {w x y z w' x' y' z' : Char} {high low : Nat} : hexCode? w x y z = some high →
      isHighSurrogate high = true → hexCode? w' x' y' z' = some low →
      isLowSurrogate low = true →
      Writes (ofSurrogates high low) ['\\', 'u', w, x, y, z, '\\', 'u', w', x', y', z']

inductive WritesAll : List Char → List Char → Prop where
  | nil : WritesAll [] []
  | cons {c : Char} {s w v : List Char} : Writes c w → WritesAll s v →
      WritesAll (c :: s) (w ++ v)

/-- What a piece of text stands for: a value, or what is behind the bracket of an array or the brace
of an object, with the closing one. -/
inductive Piece where
  | value (v : Json)
  | items (vs : List Json)
  | fields (fs : Fields)

/-- The grammar. Pieces neither begin nor end with white space. -/
inductive Derives : Piece → List Char → Prop where
  | null : Derives (.value .null) ['n', 'u', 'l', 'l']
  | yes : Derives (.value (.bool true)) ['t', 'r', 'u', 'e']
  | no : Derives (.value (.bool false)) ['f', 'a', 'l', 's', 'e']
  | int {n : Int} {literal : List Char} : integer? literal = some n →
      Derives (.value (.int n)) literal
  | real {literal : List Char} : isReal literal = true →
      Derives (.value (.real literal)) literal
  | str {s w : List Char} : WritesAll s w → Derives (.value (.str s)) ('"' :: w ++ ['"'])
  | emptyArr {sp : List Char} : Space sp → Derives (.value (.arr [])) ('[' :: sp ++ [']'])
  | arr {vs : List Json} {sp w : List Char} : Space sp → Derives (.items vs) w →
      Derives (.value (.arr vs)) ('[' :: sp ++ w)
  | emptyObj {sp : List Char} : Space sp → Derives (.value (.obj [])) ('{' :: sp ++ ['}'])
  | obj {fs : Fields} {sp w : List Char} : Space sp → Derives (.fields fs) w →
      Derives (.value (.obj fs)) ('{' :: sp ++ w)
  | lastItem {v : Json} {w sp : List Char} : Derives (.value v) w → Space sp →
      Derives (.items [v]) (w ++ sp ++ [']'])
  | item {v : Json} {vs : List Json} {w sp sp' ws : List Char} : Derives (.value v) w →
      Space sp → Space sp' → Derives (.items vs) ws →
      Derives (.items (v :: vs)) (w ++ sp ++ ',' :: sp' ++ ws)
  | lastField {k : List Char} {v : Json} {kw w sp sp₁ sp₂ : List Char} : WritesAll k kw →
      Space sp → Space sp₁ → Derives (.value v) w → Space sp₂ →
      Derives (.fields [(k, v)]) ('"' :: kw ++ '"' :: sp ++ ':' :: sp₁ ++ w ++ sp₂ ++ ['}'])
  | field {k : List Char} {v : Json} {fs : Fields} {kw w sp sp₁ sp₂ sp₃ ws : List Char} :
      WritesAll k kw → Space sp → Space sp₁ → Derives (.value v) w → Space sp₂ → Space sp₃ →
      Derives (.fields fs) ws →
      Derives (.fields ((k, v) :: fs))
        ('"' :: kw ++ '"' :: sp ++ ':' :: sp₁ ++ w ++ sp₂ ++ ',' :: sp₃ ++ ws)

def Denotes (s : List Char) (v : Json) : Prop :=
  ∃ sp w sp', Space sp ∧ Derives (.value v) w ∧ Space sp' ∧ s = sp ++ w ++ sp'

theorem skipSpace_append {sp : List Char} (h : Space sp) {c : Char} (hc : isSpace c = false)
    (r : List Char) : skipSpace (sp ++ c :: r) = c :: r := by
  rw [skipSpace, List.dropWhile_append_of_pos h, List.dropWhile_cons_of_neg (by simp [hc])]

theorem skipSpace_space {sp : List Char} (h : Space sp) : skipSpace sp = [] := by
  have hd : (sp ++ []).dropWhile isSpace = [] := List.dropWhile_append_of_pos h
  simpa [skipSpace] using hd

/-! ## Strings -/

theorem isSurrogate_toNat (c : Char) :
    isHighSurrogate c.toNat = false ∧ isLowSurrogate c.toNat = false := by
  have hc := c.valid
  simp only [isHighSurrogate, isLowSurrogate, Bool.and_eq_false_iff, decide_eq_false_iff_not]
  have hn : c.toNat = c.val.toNat := rfl
  simp only [UInt32.isValidChar, Nat.isValidChar] at hc
  omega

theorem charsOfCodes_char (c : Char) (ns : List Nat) :
    charsOfCodes (c.toNat :: ns) = (charsOfCodes ns).map (c :: ·) := by
  obtain ⟨hh, hl⟩ := isSurrogate_toNat c
  cases ns with
  | nil => simp [charsOfCodes, hh, hl]
  | cons m ns => simp [charsOfCodes, hh, hl]

theorem charsOfCodes_pair {high low : Nat} (hh : isHighSurrogate high = true)
    (hl : isLowSurrogate low = true) (ns : List Nat) :
    charsOfCodes (high :: low :: ns) = (charsOfCodes ns).map (ofSurrogates high low :: ·) := by
  simp [charsOfCodes, hh, hl, ofSurrogates]

section

variable {r rest : List Char} {ns : List Nat}

theorem readCodes_plain {c : Char} (hlow : 0x20 ≤ c.toNat) (hquote : c ≠ '"') (hback : c ≠ '\\')
    (hr : readCodes r = some (ns, rest)) : readCodes (c :: r) = some (c.toNat :: ns, rest) := by
  have hplain : (decide (c.toNat < 0x20) || c == '\\') = false := by simp [hback, hlow]
  rw [readCodes, hplain, hr]
  · rfl
  · exact hquote
  · exact fun _ _ _ _ _ h => absurd h hback
  · exact fun _ _ h => absurd h hback

theorem readCodes_simple {c e : Char} (he : simpleEscape? e = some c)
    (hr : readCodes r = some (ns, rest)) :
    readCodes ('\\' :: e :: r) = some (c.toNat :: ns, rest) := by
  have hu : e ≠ 'u' := by
    rintro rfl
    contradiction
  rw [readCodes, he, hr]
  · rfl
  · exact fun _ _ _ _ _ h => absurd h hu

theorem readCodes_code {w x y z : Char} {n : Nat} (hn : hexCode? w x y z = some n)
    (hr : readCodes r = some (ns, rest)) :
    readCodes ('\\' :: 'u' :: w :: x :: y :: z :: r) = some (n :: ns, rest) := by
  rw [readCodes, hn, hr]
  rfl

end

/-- A written content is read up to its closing quote. -/
theorem readCodes_writesAll {s w : List Char} (h : WritesAll s w) (rest : List Char) :
    ∃ ns, readCodes (w ++ '"' :: rest) = some (ns, rest) ∧ charsOfCodes ns = some s := by
  induction h with
  | nil => exact ⟨[], rfl, rfl⟩
  | @cons c s w v hc _ ih =>
    obtain ⟨ns, hr, hs⟩ := ih
    rw [List.append_assoc]
    have hchar : charsOfCodes (c.toNat :: ns) = some (c :: s) := by rw [charsOfCodes_char, hs]; rfl
    cases hc with
    | plain hlow hquote hback => exact ⟨_, readCodes_plain hlow hquote hback hr, hchar⟩
    | simple he => exact ⟨_, readCodes_simple he hr, hchar⟩
    | code hn => exact ⟨_, readCodes_code hn hr, hchar⟩
    | pair hhigh hh hlow hl =>
      refine ⟨_, readCodes_code hhigh (readCodes_code hlow hr), ?_⟩
      rw [charsOfCodes_pair hh hl, hs]
      rfl

theorem readString_writesAll {s w : List Char} (h : WritesAll s w) (rest : List Char) :
    readString (w ++ '"' :: rest) = some (s, rest) := by
  obtain ⟨ns, hr, hs⟩ := readCodes_writesAll h rest
  rw [readString, hr]
  simp [hs]

/-! ## Numbers -/

def Stops (r : List Char) : Prop := ∀ c, r.head? = some c → isNumberChar c = false

theorem isNumberChar_of_isDigit {c : Char} (h : c.isDigit = true) : isNumberChar c = true := by
  simp [isNumberChar, h]

theorem isNatural_iff {ds : List Char} : isNatural ds = true ↔
    ds ≠ [] ∧ (∀ d ∈ ds, d.isDigit = true) ∧ (ds.head? = some '0' → ds = ['0']) := by
  rcases ds with _ | ⟨d, _ | ⟨e, ds⟩⟩
  · simp [isNatural]
  · simp [isNatural]
  · simp [isNatural]
    grind

theorem integer?_eq_some {literal : List Char} {n : Int} (h : integer? literal = some n) :
    (∃ ds, literal = '-' :: ds ∧ isNatural ds = true) ∨ isNatural literal = true := by
  unfold integer? at h
  split at h
  · rename_i ds
    split at h
    · rename_i hds
      exact .inl ⟨ds, rfl, hds⟩
    · contradiction
  · split at h
    · rename_i hds
      exact .inr hds
    · contradiction

theorem isNumberChar_of_isExponent {s : List Char} (h : isExponent s = true) :
    ∀ c ∈ s, isNumberChar c = true := by
  cases s with
  | nil => simp
  | cons e r =>
    simp only [isExponent, Bool.and_eq_true, List.all_eq_true] at h
    obtain ⟨⟨he, -⟩, hall⟩ := h
    have he : isNumberChar e = true := by
      simp only [Bool.or_eq_true, beq_iff_eq] at he
      rcases he with rfl | rfl <;> decide
    refine List.forall_mem_cons.2 ⟨he, ?_⟩
    split at hall
    · exact List.forall_mem_cons.2 ⟨by decide, fun c hc => isNumberChar_of_isDigit (hall c hc)⟩
    · exact List.forall_mem_cons.2 ⟨by decide, fun c hc => isNumberChar_of_isDigit (hall c hc)⟩
    · exact fun c hc => isNumberChar_of_isDigit (hall c hc)

def IsTail (rest : List Char) : Prop :=
  (∃ r, rest = '.' :: r ∧ isExponent (r.dropWhile Char.isDigit) = true) ∨
    (rest ≠ [] ∧ isExponent rest = true)

theorem isReal_parts {literal : List Char} (h : isReal literal = true) :
    ∃ sign u, literal = sign ++ u ∧ (sign = [] ∨ sign = ['-']) ∧
      isNatural (u.takeWhile Char.isDigit) = true ∧ IsTail (u.dropWhile Char.isDigit) := by
  unfold isReal at h
  dsimp only at h
  split at h
  · obtain ⟨hdigits, hrest⟩ := (Bool.and_eq_true _ _).mp h
    refine ⟨['-'], _, rfl, .inr rfl, hdigits, ?_⟩
    split at hrest
    · exact .inl ⟨_, ‹_›, ((Bool.and_eq_true _ _).mp hrest).2⟩
    · exact .inr (by simpa using hrest)
  · obtain ⟨hdigits, hrest⟩ := (Bool.and_eq_true _ _).mp h
    refine ⟨[], _, rfl, .inl rfl, hdigits, ?_⟩
    split at hrest
    · exact .inl ⟨_, ‹_›, ((Bool.and_eq_true _ _).mp hrest).2⟩
    · exact .inr (by simpa using hrest)

theorem isNumberChar_of_isTail {rest : List Char} (h : IsTail rest) :
    ∀ c ∈ rest, isNumberChar c = true := by
  rcases h with ⟨r, rfl, hexponent⟩ | ⟨-, hexponent⟩
  · refine List.forall_mem_cons.2 ⟨by decide, fun c hc => ?_⟩
    rw [← List.takeWhile_append_dropWhile (p := Char.isDigit) (l := r)] at hc
    rcases List.mem_append.1 hc with hc | hc
    · exact isNumberChar_of_isDigit (List.all_eq_true.1 List.all_takeWhile c hc)
    · exact isNumberChar_of_isExponent hexponent c hc
  · exact isNumberChar_of_isExponent hexponent

theorem isReal_cases {literal : List Char} (h : isReal literal = true) :
    ∃ sign digits c tail, literal = sign ++ (digits ++ c :: tail) ∧ (sign = [] ∨ sign = ['-']) ∧
      isNatural digits = true ∧ c.isDigit = false ∧
      ∀ d ∈ c :: tail, isNumberChar d = true := by
  obtain ⟨sign, u, rfl, hsign, hdigits, hrest⟩ := isReal_parts h
  have hall := isNumberChar_of_isTail hrest
  have hsplit := List.takeWhile_append_dropWhile (p := Char.isDigit) (l := u)
  have hstop := List.head?_dropWhile_not Char.isDigit u
  cases htail : u.dropWhile Char.isDigit with
  | nil => simp [htail, IsTail] at hrest
  | cons c tail =>
    rw [htail] at hall hsplit hstop
    exact ⟨sign, _, c, tail, by rw [hsplit], hsign, hdigits, hstop, hall⟩

theorem isNatural_cases {ds : List Char} (h : isNatural ds = true) :
    ∃ d r, ds = d :: r ∧ d.isDigit = true := by
  obtain ⟨hne, hall, -⟩ := isNatural_iff.1 h
  obtain ⟨d, r, rfl⟩ := List.exists_cons_of_ne_nil hne
  exact ⟨d, r, rfl, hall d List.mem_cons_self⟩

theorem integer?_of_isReal {literal : List Char} (h : isReal literal = true) :
    integer? literal = none := by
  obtain ⟨sign, digits, c, tail, rfl, hsign, hdigits, hc, -⟩ := isReal_cases h
  have hno {ds : List Char} (hds : isNatural ds = true) (hmem : c ∈ ds) : False := by
    have hdigit := (isNatural_iff.1 hds).2.1 c hmem
    simp [hc] at hdigit
  cases hn : integer? (sign ++ (digits ++ c :: tail)) with
  | none => rfl
  | some n =>
    rcases integer?_eq_some hn with ⟨ds, heq, hds⟩ | hds
    · rcases hsign with rfl | rfl
      · obtain ⟨d, r, rfl, hd⟩ := isNatural_cases hdigits
        obtain rfl : d = '-' := (List.cons.inj heq).1
        contradiction
      · obtain rfl : digits ++ c :: tail = ds := (List.cons.inj heq).2
        exact (hno hds (by simp)).elim
    · exact (hno hds (by simp)).elim

theorem numeral_cases {literal : List Char}
    (h : (∃ n, integer? literal = some n) ∨ isReal literal = true) :
    (∃ c r, literal = c :: r ∧ (c = '-' ∨ c.isDigit = true)) ∧
      ∀ c ∈ literal, isNumberChar c = true := by
  have natural {ds : List Char} (hds : isNatural ds = true) :
      (∃ c r, ds = c :: r ∧ (c = '-' ∨ c.isDigit = true)) ∧ ∀ c ∈ ds, isNumberChar c = true := by
    obtain ⟨d, r, rfl, hd⟩ := isNatural_cases hds
    exact ⟨⟨d, r, rfl, .inr hd⟩,
      fun c hc => isNumberChar_of_isDigit ((isNatural_iff.1 hds).2.1 c hc)⟩
  rcases h with ⟨n, hn⟩ | h
  · rcases integer?_eq_some hn with ⟨ds, rfl, hds⟩ | hds
    · exact ⟨⟨'-', ds, rfl, .inl rfl⟩, List.forall_mem_cons.2 ⟨by decide, (natural hds).2⟩⟩
    · exact natural hds
  · obtain ⟨sign, digits, c, tail, rfl, hsign, hdigits, -, htail⟩ := isReal_cases h
    obtain ⟨⟨d, r, rfl, hd⟩, hall⟩ := natural hdigits
    have hrest := List.forall_mem_append.2 ⟨hall, htail⟩
    rcases hsign with rfl | rfl
    · exact ⟨⟨d, _, rfl, hd⟩, hrest⟩
    · exact ⟨⟨'-', _, rfl, .inl rfl⟩, List.forall_mem_cons.2 ⟨by decide, hrest⟩⟩

theorem numeral_append {literal r : List Char} (h : ∀ c ∈ literal, isNumberChar c = true)
    (hr : Stops r) : (literal ++ r).takeWhile isNumberChar = literal ∧
      (literal ++ r).dropWhile isNumberChar = r := by
  rw [List.takeWhile_append_of_pos h, List.dropWhile_append_of_pos h]
  cases r with
  | nil => simp
  | cons c r => simp [hr c rfl]

theorem readNumber_int {literal r : List Char} {n : Int} (h : integer? literal = some n)
    (hr : Stops r) : readNumber (literal ++ r) = some (.int n, r) := by
  obtain ⟨htake, hdrop⟩ := numeral_append (numeral_cases (.inl ⟨n, h⟩)).2 hr
  simp only [readNumber, htake, hdrop, h]

theorem readNumber_real {literal r : List Char} (h : isReal literal = true) (hr : Stops r) :
    readNumber (literal ++ r) = some (.real literal, r) := by
  obtain ⟨htake, hdrop⟩ := numeral_append (numeral_cases (.inr h)).2 hr
  simp only [readNumber, htake, hdrop, integer?_of_isReal h, h, if_true]

/-! ## Values -/

theorem stops_space {sp : List Char} (h : Space sp) {r : List Char} (hr : Stops r) :
    Stops (sp ++ r) := by
  cases sp with
  | nil => exact hr
  | cons a sp =>
    rintro c hc
    obtain rfl : a = c := Option.some.inj hc
    have ha : isSpace a = true := h a List.mem_cons_self
    simp only [isSpace, Bool.or_eq_true, beq_iff_eq] at ha
    rcases ha with ((rfl | rfl) | rfl) | rfl <;> decide

theorem stops_cons {c : Char} (hc : isNumberChar c = false) (r : List Char) : Stops (c :: r) := by
  rintro a ha
  obtain rfl : c = a := Option.some.inj ha
  exact hc

theorem Derives.head {p : Piece} {w : List Char} (h : Derives p w) :
    ∃ c r, w = c :: r ∧ isSpace c = false ∧ c ≠ ']' ∧ c ≠ '}' := by
  have number {literal : List Char}
      (h : (∃ n, integer? literal = some n) ∨ isReal literal = true) :
      ∃ c r, literal = c :: r ∧ isSpace c = false ∧ c ≠ ']' ∧ c ≠ '}' := by
    obtain ⟨⟨c, r, rfl, hc⟩, -⟩ := numeral_cases h
    have hne {a : Char} (ha : a ≠ '-' ∧ a.isDigit = false) : c ≠ a := by
      rintro rfl
      simp [ha] at hc
    refine ⟨c, r, rfl, ?_, hne (by decide), hne (by decide)⟩
    simp [isSpace, hne (a := ' ') (by decide), hne (a := '\t') (by decide),
      hne (a := '\n') (by decide), hne (a := '\r') (by decide)]
  induction h with
  | int h => exact number (.inl ⟨_, h⟩)
  | real h => exact number (.inr h)
  | lastItem _ _ ih =>
    obtain ⟨c, r, rfl, hc⟩ := ih
    exact ⟨c, _, rfl, hc⟩
  | item _ _ _ _ ih =>
    obtain ⟨c, r, rfl, hc⟩ := ih
    exact ⟨c, _, rfl, hc⟩
  | _ => exact ⟨_, _, rfl, by decide⟩

theorem Derives.skipSpace_eq {p : Piece} {sp w : List Char} (h : Derives p w) (hsp : Space sp)
    (r : List Char) : skipSpace (sp ++ (w ++ r)) = w ++ r := by
  obtain ⟨c, w, rfl, hc, -⟩ := h.head
  exact skipSpace_append hsp hc (w ++ r)

/-- What the reader makes of a piece with fuel enough, whatever white space stands before it. -/
def Reads : Piece → List Char → Prop
  | .value v, w => ∀ fuel sp r, 2 * w.length ≤ fuel → Space sp → Stops r →
      readValueFuel fuel (sp ++ (w ++ r)) = some (v, r)
  | .items vs, w => ∀ fuel sp r, 2 * w.length ≤ fuel → Space sp →
      readItemsFuel fuel (sp ++ (w ++ r)) = some (vs, r)
  | .fields fs, w => ∀ fuel sp r, 2 * w.length ≤ fuel → Space sp →
      readFieldsFuel fuel (sp ++ (w ++ r)) = some (fs, r)

theorem space_nil : Space [] := by simp [Space]

theorem reads_value {v : Json} {w : List Char} (h : Derives (.value v) w)
    (step : ∀ f s r, 2 * w.length ≤ f + 2 → skipSpace s = w ++ r → Stops r →
      readValueFuel (f + 1) s = some (v, r)) : Reads (.value v) w := by
  intro fuel sp r hfuel hsp hr
  obtain ⟨c, w', hw, -⟩ := h.head
  have hpos : 0 < w.length := by simp [hw]
  obtain ⟨f, rfl⟩ : ∃ f, fuel = f + 1 := ⟨fuel - 1, by omega⟩
  exact step f _ r (by omega) (h.skipSpace_eq hsp r) hr

theorem readValueFuel_number {f : Nat} {s r : List Char} {c : Char}
    (hs : skipSpace s = c :: r) (hc : c = '-' ∨ c.isDigit = true) :
    readValueFuel (f + 1) s = readNumber (c :: r) := by
  rw [readValueFuel, hs]
  split
  all_goals first
    | rfl
    | (rename_i heq
       obtain ⟨rfl, -⟩ := List.cons.inj heq
       exact absurd hc (by decide))

theorem reads_number {v : Json} {literal : List Char} (h : Derives (.value v) literal)
    (hnumber : (∃ n, integer? literal = some n) ∨ isReal literal = true)
    (hread : ∀ r, Stops r → readNumber (literal ++ r) = some (v, r)) :
    Reads (.value v) literal := by
  obtain ⟨⟨c, rest, rfl, hc⟩, -⟩ := numeral_cases hnumber
  refine reads_value h fun f s r _ hs hr => ?_
  rw [readValueFuel_number hs hc]
  exact hread r hr

section

variable {sp w : List Char}

theorem reads_emptyArr (hsp : Space sp) : Reads (.value (.arr [])) ('[' :: sp ++ [']']) := by
  refine reads_value (.emptyArr hsp) fun f s r _ hs _ => ?_
  rw [readValueFuel, hs]
  simp only [List.cons_append, List.append_assoc, List.nil_append]
  rw [skipSpace_append hsp (by decide)]
  rfl

theorem reads_arr {vs : List Json} (hsp : Space sp) (hw : Derives (.items vs) w)
    (ih : Reads (.items vs) w) : Reads (.value (.arr vs)) ('[' :: sp ++ w) := by
  refine reads_value (.arr hsp hw) fun f s r hf hs _ => ?_
  simp only [List.length_append, List.length_cons] at hf
  have hitems := ih f [] r (by omega) space_nil
  rw [List.nil_append] at hitems
  rw [readValueFuel, hs]
  simp only [List.cons_append, List.append_assoc]
  rw [hw.skipSpace_eq hsp]
  obtain ⟨c, w, rfl, -, hc, -⟩ := hw.head
  split
  · rename_i heq
    exact absurd (List.cons.inj heq).1 hc
  · rw [hitems]
    rfl

theorem reads_emptyObj (hsp : Space sp) : Reads (.value (.obj [])) ('{' :: sp ++ ['}']) := by
  refine reads_value (.emptyObj hsp) fun f s r _ hs _ => ?_
  rw [readValueFuel, hs]
  simp only [List.cons_append, List.append_assoc, List.nil_append]
  rw [skipSpace_append hsp (by decide)]
  rfl

theorem reads_obj {fs : Fields} (hsp : Space sp) (hw : Derives (.fields fs) w)
    (ih : Reads (.fields fs) w) : Reads (.value (.obj fs)) ('{' :: sp ++ w) := by
  refine reads_value (.obj hsp hw) fun f s r hf hs _ => ?_
  simp only [List.length_append, List.length_cons] at hf
  have hfields := ih f [] r (by omega) space_nil
  rw [List.nil_append] at hfields
  rw [readValueFuel, hs]
  simp only [List.cons_append, List.append_assoc]
  rw [hw.skipSpace_eq hsp]
  obtain ⟨c, w, rfl, -, -, hc⟩ := hw.head
  split
  · rename_i heq
    exact absurd (List.cons.inj heq).1 hc
  · rw [hfields]
    rfl

theorem reads_lastItem {v : Json} (hsp : Space sp) (ih : Reads (.value v) w) :
    Reads (.items [v]) (w ++ sp ++ [']']) := by
  intro fuel before r hfuel hbefore
  simp only [List.length_append, List.length_cons, List.length_nil] at hfuel
  obtain ⟨f, rfl⟩ : ∃ f, fuel = f + 1 := ⟨fuel - 1, by omega⟩
  have hvalue := ih f before (sp ++ ']' :: r) (by omega) hbefore
    (stops_space hsp (stops_cons (by decide) r))
  rw [readItemsFuel]
  simp only [List.cons_append, List.append_assoc, List.nil_append, hvalue, Option.bind_eq_bind,
    Option.bind_some]
  rw [skipSpace_append hsp (by decide)]
  rfl

theorem reads_item {v : Json} {vs : List Json} {sp' ws : List Char} (hsp : Space sp)
    (hsp' : Space sp') (ih : Reads (.value v) w) (ihs : Reads (.items vs) ws) :
    Reads (.items (v :: vs)) (w ++ sp ++ ',' :: sp' ++ ws) := by
  intro fuel before r hfuel hbefore
  simp only [List.length_append, List.length_cons] at hfuel
  obtain ⟨f, rfl⟩ : ∃ f, fuel = f + 1 := ⟨fuel - 1, by omega⟩
  have hvalue := ih f before (sp ++ ',' :: (sp' ++ (ws ++ r))) (by omega) hbefore
    (stops_space hsp (stops_cons (by decide) _))
  have hitems := ihs f sp' r (by omega) hsp'
  rw [readItemsFuel]
  simp only [List.cons_append, List.append_assoc, hvalue, Option.bind_eq_bind, Option.bind_some]
  rw [skipSpace_append hsp (by decide)]
  simp only [hitems]
  rfl

variable {k kw sp₁ sp₂ sp₃ : List Char} {v : Json}

theorem reads_lastField (hk : WritesAll k kw) (hsp : Space sp) (hsp₁ : Space sp₁)
    (hsp₂ : Space sp₂) (ih : Reads (.value v) w) :
    Reads (.fields [(k, v)]) ('"' :: kw ++ '"' :: sp ++ ':' :: sp₁ ++ w ++ sp₂ ++ ['}']) := by
  intro fuel before r hfuel hbefore
  simp only [List.length_append, List.length_cons, List.length_nil] at hfuel
  obtain ⟨f, rfl⟩ : ∃ f, fuel = f + 1 := ⟨fuel - 1, by omega⟩
  have hvalue := ih f sp₁ (sp₂ ++ '}' :: r) (by omega) hsp₁
    (stops_space hsp₂ (stops_cons (by decide) r))
  rw [readFieldsFuel]
  simp only [List.cons_append, List.append_assoc, List.nil_append]
  rw [skipSpace_append hbefore (by decide)]
  simp only [readString_writesAll hk, Option.bind_eq_bind, Option.bind_some]
  rw [skipSpace_append hsp (by decide)]
  simp only [hvalue, Option.bind_some]
  rw [skipSpace_append hsp₂ (by decide)]
  rfl

theorem reads_field {fs : Fields} {ws : List Char} (hk : WritesAll k kw) (hsp : Space sp)
    (hsp₁ : Space sp₁) (hsp₂ : Space sp₂) (hsp₃ : Space sp₃) (ih : Reads (.value v) w)
    (ihs : Reads (.fields fs) ws) :
    Reads (.fields ((k, v) :: fs))
      ('"' :: kw ++ '"' :: sp ++ ':' :: sp₁ ++ w ++ sp₂ ++ ',' :: sp₃ ++ ws) := by
  intro fuel before r hfuel hbefore
  simp only [List.length_append, List.length_cons] at hfuel
  obtain ⟨f, rfl⟩ : ∃ f, fuel = f + 1 := ⟨fuel - 1, by omega⟩
  have hvalue := ih f sp₁ (sp₂ ++ ',' :: (sp₃ ++ (ws ++ r))) (by omega) hsp₁
    (stops_space hsp₂ (stops_cons (by decide) _))
  have hfields := ihs f sp₃ r (by omega) hsp₃
  rw [readFieldsFuel]
  simp only [List.cons_append, List.append_assoc]
  rw [skipSpace_append hbefore (by decide)]
  simp only [readString_writesAll hk, Option.bind_eq_bind, Option.bind_some]
  rw [skipSpace_append hsp (by decide)]
  simp only [hvalue, Option.bind_some]
  rw [skipSpace_append hsp₂ (by decide)]
  simp only [hfields]
  rfl

end

/-- The reader takes every piece that the grammar derives, and no more than the piece. -/
theorem Derives.reads {p : Piece} {w : List Char} (h : Derives p w) : Reads p w := by
  induction h with
  | null | yes | no =>
    refine reads_value (by constructor) fun f s r _ hs _ => ?_
    rw [readValueFuel, hs]
    rfl
  | @int n literal hn => exact reads_number (.int hn) (.inl ⟨n, hn⟩) fun _ => readNumber_int hn
  | real hn => exact reads_number (.real hn) (.inr hn) fun _ => readNumber_real hn
  | str hs =>
    refine reads_value (.str hs) fun f s r _ hskip _ => ?_
    rw [readValueFuel, hskip]
    simp only [List.cons_append, List.append_assoc, List.nil_append, readString_writesAll hs]
    rfl
  | emptyArr hsp => exact reads_emptyArr hsp
  | arr hsp hw ih => exact reads_arr hsp hw ih
  | emptyObj hsp => exact reads_emptyObj hsp
  | obj hsp hw ih => exact reads_obj hsp hw ih
  | lastItem _ hsp ih => exact reads_lastItem hsp ih
  | item _ hsp hsp' _ ih ihs => exact reads_item hsp hsp' ih ihs
  | lastField hk hsp hsp₁ _ hsp₂ ih => exact reads_lastField hk hsp hsp₁ hsp₂ ih
  | field hk hsp hsp₁ _ hsp₂ hsp₃ _ ih ihs => exact reads_field hk hsp hsp₁ hsp₂ hsp₃ ih ihs

theorem read_of_denotes {s : List Char} {v : Json} (h : Denotes s v) : read s = some v := by
  obtain ⟨sp, w, sp', hsp, hw, hsp', rfl⟩ := h
  have hvalue := hw.reads (2 * (sp ++ w ++ sp').length + 2) sp sp' (by simp; omega) hsp
    (by simpa using stops_space hsp' (r := []) (by simp [Stops]))
  rw [← List.append_assoc] at hvalue
  rw [read, hvalue]
  simp [skipSpace_space hsp']

/-- A text denotes at most one value. -/
theorem Denotes.unique {s : List Char} {v v' : Json} (h : Denotes s v) (h' : Denotes s v') :
    v = v' :=
  Option.some.inj ((read_of_denotes h).symm.trans (read_of_denotes h'))

end SqlScript.Json
