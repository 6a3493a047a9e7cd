import SqlScript.Proofs.Lookahead
import SqlScript.Proofs.Splitting

/-!
Where the statements of a script lie. They stand in order and apart, each from its first token
through its last, and what lies between them is blank.
-/

set_option autoImplicit false

namespace SqlScript

def Statement.holds (s : Statement) (t : Token) : Bool :=
  decide (s.start ≤ t.start) && decide (t.stop ≤ s.stop + 1)

theorem Statement.holds_iff {s : Statement} {t : Token} :
    s.holds t = true ↔ s.start ≤ t.start ∧ t.stop ≤ s.stop + 1 := by
  simp [holds]

theorem Tiles.held {s : Statement} {ts : List Token} (h : Tiles s.start ts (s.stop + 1)) :
    ∀ t ∈ ts, s.holds t = true := by
  intro t ht
  obtain ⟨hstart, _, hstop⟩ := h.bounds ht
  exact Statement.holds_iff.2 ⟨hstart, hstop⟩

theorem Tiles.not_held {s : Statement} {j : Int} {ts : List Token}
    (h : Tiles (s.stop + 1) ts j) : ∀ t ∈ ts, s.holds t = false := by
  intro t ht
  have hb := h.bounds ht
  rw [Bool.eq_false_iff, ne_eq, Statement.holds_iff]
  omega

def Statement.Classified (s : Statement) : Prop :=
  ∃ type, s.type = some type ∧ s.execution = some type.execution

theorem Classifier.Begun.classified {t : Token} {c : Classifier} (h : c.Begun t) (stop : Int) :
    (c.statement.seal stop).Classified := by
  cases hc : c.statement.type with
  | none => exact ⟨.unknown, by simp [Statement.seal, hc]⟩
  | some type =>
    rw [Statement.seal_of_typed stop hc]
    exact ⟨type, hc, h.execution type hc⟩

/-- A statement is what its tokens, from the first one that is not blank, are read as. -/
structure Reads (set : Settings) (t : Token) (us : List Token) (s : Statement) : Prop where
  first : t.isBlank = false
  read : ∃ c stop, Classifier.behind set t us = .ok c ∧ s = c.statement.seal stop
  tiles : Tiles s.start (t :: us) (s.stop + 1)

namespace Reads

variable {set : Settings} {t : Token} {us : List Token} {s : Statement}

theorem classified (h : Reads set t us s) : s.Classified := by
  obtain ⟨c, stop, hc, rfl⟩ := h.read
  exact (Classifier.begun_behind h.first hc).classified stop

theorem terminated (h : Reads set t us s) (hs : s.terminated = true) :
    ∃ z ∈ t :: us, z.kind = .semicolon ∧ z.stop = s.stop + 1 := by
  obtain ⟨c, stop, hc, hseal⟩ := h.read
  rw [hseal, Statement.seal_terminated] at hs
  have hlast := h.tiles
  rw [← concat_getLastD] at hlast
  exact ⟨us.getLastD t, List.getLastD_mem_cons, Classifier.last_of_terminated hc hs,
    hlast.stop_last⟩

theorem statementsFrom_eq {last : Int} {ts : List Token} (h : Reads set t us s)
    (hn : s.terminated = false → ts = [] ∧ s.stop = last) :
    statementsFrom set last none (t :: us ++ ts) =
      (statementsFrom set last none ts).map (s :: ·) := by
  obtain ⟨c, stop, hc, hseal⟩ := h.read
  cases hend : s.terminated with
  | true =>
    have hlast := h.tiles
    rw [← concat_getLastD] at hlast
    have hstop : (us.getLastD t).stop - 1 = stop := by
      have hs := hlast.stop_last
      rw [hseal, Statement.seal_stop] at hs
      omega
    rw [hseal, Statement.seal_terminated] at hend
    rw [statementsFrom_ended ts h.first hc hend, hstop, ← hseal]
  | false =>
    obtain ⟨rfl, hstop⟩ := hn hend
    rw [hseal, Statement.seal_terminated] at hend
    have hs := statementsFrom_of_splits (@Splits.underWay set last t us c h.first hc hend)
    rw [hseal, Statement.seal_stop] at hstop
    rw [List.append_nil, hs, hseal, hstop]
    rfl

end Reads

/-- Statements in their places, from an offset to the end of the script: the tokens of each are
those of its span, and the tokens outside are blank. -/
inductive Laid (set : Settings) (last : Int) : Int → List Token → List Statement → Prop where
  | nil : Laid set last (last + 1) [] []
  | blank {i : Int} {t : Token} {ts : List Token} {body : List Statement} :
      t.isBlank = true → Tiles i [t] t.stop → Laid set last t.stop ts body →
      Laid set last i (t :: ts) body
  | statement {t : Token} {us ts : List Token} {s : Statement} {body : List Statement} :
      Reads set t us s → (s.terminated = false → ts = []) → Laid set last (s.stop + 1) ts body →
      Laid set last s.start (t :: us ++ ts) (s :: body)

theorem laid_of_splits {set : Settings} {last : Int} {ts : List Token} {body : List Statement}
    (h : Splits set last ts body) {i : Int} (ht : Tiles i ts (last + 1)) :
    Laid set last i ts body := by
  induction h generalizing i with
  | nil =>
    obtain rfl := ht
    exact .nil
  | @blank t ts body hb _ ih =>
    obtain ⟨hstart, hne, hstop, hrest⟩ := ht
    exact .blank hb ⟨hstart, hne, hstop, rfl⟩ (ih hrest)
  | @ended t us ts c body hb hc hend _ ih =>
    obtain ⟨m, hfront, hrest⟩ := tiles_append.1 ht
    have hstart : c.statement.start = i :=
      (Classifier.begun_behind hb hc).start.trans hfront.1
    have hlast := hfront
    rw [← concat_getLastD] at hlast
    have hstop : (us.getLastD t).stop - 1 + 1 = m := by
      have := hlast.stop_last
      omega
    have hs : Reads set t us (c.statement.seal ((us.getLastD t).stop - 1)) :=
      ⟨hb, ⟨c, _, hc, rfl⟩, by rwa [Statement.seal_start, Statement.seal_stop, hstart, hstop]⟩
    have hl : Laid set last (c.statement.seal ((us.getLastD t).stop - 1)).start
        (t :: us ++ ts) (c.statement.seal ((us.getLastD t).stop - 1) :: body) :=
      .statement hs (fun hn => by simp [hend] at hn)
        (by rw [Statement.seal_stop, hstop]; exact ih hrest)
    rwa [Statement.seal_start, hstart] at hl
  | @underWay t us c hb hc hopen =>
    have hstart : c.statement.start = i := (Classifier.begun_behind hb hc).start.trans ht.1
    have hs : Reads set t us (c.statement.seal last) :=
      ⟨hb, ⟨c, _, hc, rfl⟩, by rwa [Statement.seal_start, Statement.seal_stop, hstart]⟩
    have hl : Laid set last (c.statement.seal last).start (t :: us ++ [])
        [c.statement.seal last] :=
      .statement hs (fun _ => rfl) (by rw [Statement.seal_stop]; exact .nil)
    rwa [Statement.seal_start, hstart, List.append_nil] at hl

namespace Laid

variable {set : Settings} {last i : Int} {ts : List Token} {body : List Statement}

theorem tiles (h : Laid set last i ts body) : Tiles i ts (last + 1) := by
  induction h with
  | nil => rfl
  | blank _ ht _ ih => exact tiles_append.2 ⟨_, ht, ih⟩
  | statement hs _ _ ih => exact tiles_append.2 ⟨_, hs.tiles, ih⟩

theorem reads (h : Laid set last i ts body) : ∀ s ∈ body, ∃ pre t us post,
    ts = pre ++ (t :: us ++ post) ∧ Tiles i pre s.start ∧ Reads set t us s ∧
      Tiles (s.stop + 1) post (last + 1) := by
  induction h with
  | nil => simp
  | @blank i t ts body _ ht _ ih =>
    intro s hs
    obtain ⟨pre, u, us, post, rfl, hpre, h⟩ := ih s hs
    exact ⟨t :: pre, u, us, post, rfl, tiles_append.2 ⟨_, ht, hpre⟩, h⟩
  | @statement t us ts s body hr _ hrest ih =>
    intro s' hs'
    rcases List.mem_cons.1 hs' with rfl | hs'
    · exact ⟨[], t, us, ts, rfl, rfl, hr, hrest.tiles⟩
    · obtain ⟨pre, u, vs, post, rfl, hpre, h⟩ := ih s' hs'
      exact ⟨t :: us ++ pre, u, vs, post, by simp, tiles_append.2 ⟨_, hr.tiles, hpre⟩, h⟩

theorem held (h : Laid set last i ts body) : ∀ s ∈ body, ∃ t us,
    ts.filter s.holds = t :: us ∧ Reads set t us s := by
  intro s hs
  obtain ⟨pre, t, us, post, rfl, hpre, hr, hpost⟩ := h.reads s hs
  exact ⟨t, us, hpre.filter_between hr.tiles hpost, hr⟩

theorem bounds (h : Laid set last i ts body) :
    ∀ s ∈ body, i ≤ s.start ∧ s.start ≤ s.stop ∧ s.stop ≤ last := by
  intro s hs
  obtain ⟨pre, t, us, post, _, hpre, hr, hpost⟩ := h.reads s hs
  have hle := hpre.le
  have hlt := hr.tiles.lt
  have hend := hpost.le
  omega

theorem opens (h : Laid set last i ts body) :
    ∀ s ∈ body, ∃ t ∈ ts, t.isBlank = false ∧ t.start = s.start := by
  intro s hs
  obtain ⟨pre, t, us, post, rfl, _, hr, _⟩ := h.reads s hs
  exact ⟨t, by simp, hr.first, hr.tiles.1⟩

theorem classified (h : Laid set last i ts body) : ∀ s ∈ body, s.Classified := by
  intro s hs
  obtain ⟨pre, t, us, post, _, _, hr, _⟩ := h.reads s hs
  exact hr.classified

theorem terminated (h : Laid set last i ts body) : ∀ s ∈ body, s.terminated = true →
    ∃ z ∈ ts, z.kind = .semicolon ∧ z.stop = s.stop + 1 := by
  intro s hs hend
  obtain ⟨pre, t, us, post, rfl, _, hr, _⟩ := h.reads s hs
  obtain ⟨z, hz, h⟩ := hr.terminated hend
  exact ⟨z, List.mem_append_right pre (List.mem_append_left post hz), h⟩

theorem apart (h : Laid set last i ts body) : body.Pairwise fun a b => a.stop < b.start := by
  induction h with
  | nil => exact .nil
  | blank _ _ _ ih => exact ih
  | statement _ _ hrest ih =>
    refine .cons ?_ ih
    intro s' hs'
    have h := hrest.bounds s' hs'
    omega

theorem of_nil (h : Laid set last i [] body) : body = [] ∧ i = last + 1 := by
  generalize hts : ([] : List Token) = ts at h
  cases h with
  | nil => exact ⟨rfl, rfl⟩
  | blank => contradiction
  | statement => contradiction

/-- A statement without its semicolon is the last one and ends where the script does. -/
theorem last_of_unterminated {s : Statement} (h : Laid set last (s.stop + 1) ts body)
    (hn : s.terminated = false → ts = []) : s.terminated = false → ts = [] ∧ s.stop = last := by
  intro hopen
  obtain rfl := hn hopen
  have hend := h.of_nil.2
  exact ⟨rfl, by omega⟩

theorem filter_front {t : Token} {us : List Token} {s : Statement}
    (h : Laid set last (s.stop + 1) ts body) (hr : Reads set t us s) :
    (t :: us ++ ts).filter s.holds = t :: us := by
  have hbetween := Tiles.filter_between (a := []) rfl hr.tiles h.tiles
  exact hbetween

theorem underWay (h : Laid set last i ts body) :
    (∀ s ∈ body.dropLast, s.terminated = true) ∧
      ∀ s ∈ body, s.terminated = false → s.stop = last := by
  induction h with
  | nil => simp
  | blank _ _ _ ih => exact ih
  | @statement t us ts s body _ hn hrest ih =>
    obtain ⟨ihInit, ihAll⟩ := ih
    cases hs : s.terminated with
    | true =>
      constructor
      · cases body with
        | nil => simp
        | cons s' body => simpa [hs] using ihInit
      · intro s' hs' hend
        rcases List.mem_cons.1 hs' with rfl | hs'
        · simp [hs] at hend
        · exact ihAll s' hs' hend
    | false =>
      obtain rfl := hn hs
      obtain ⟨rfl, hlast⟩ := hrest.of_nil
      constructor
      · simp
      · intro s' hs' _
        obtain rfl := List.mem_singleton.1 hs'
        omega

theorem holds_before (h : Laid set last i ts body) {t : Token} (ht : t.start < t.stop)
    (hi : t.stop ≤ i) : ∀ s ∈ body, t.stop ≤ s.start ∧ s.holds t = false := by
  intro s hs
  have hb := h.bounds s hs
  refine ⟨by omega, Bool.eq_false_iff.2 ?_⟩
  rw [ne_eq, Statement.holds_iff]
  omega

/-- Each token lies within one statement, or it is blank and outside of all. -/
theorem covered (h : Laid set last i ts body) : ∀ t ∈ ts,
    body.countP (·.holds t) = 1 ∨
      (t.isBlank = true ∧ ∀ s ∈ body, t.stop ≤ s.start ∨ s.stop < t.start) := by
  induction h with
  | nil => simp
  | blank hb ht hrest ih =>
    intro t' ht'
    rcases List.mem_cons.1 ht' with rfl | ht'
    · have hlt := (ht.bounds List.mem_cons_self).2.1
      exact .inr ⟨hb, fun s hs => .inl (hrest.holds_before hlt (Int.le_refl _) s hs).1⟩
    · exact ih t' ht'
  | @statement t us ts s body hr _ hrest ih =>
    have ht := hr.tiles
    intro t' ht'
    rcases List.mem_append.1 ht' with ht' | ht'
    · obtain ⟨_, hlt, hstop⟩ := ht.bounds ht'
      have hout : body.countP (·.holds t') = 0 := by
        rw [List.countP_eq_zero]
        intro s' hs'
        simp [(hrest.holds_before hlt hstop s' hs').2]
      exact .inl (by simp [ht.held t' ht', hout])
    · have hb := hrest.tiles.bounds ht'
      simp only [List.countP_cons, hrest.tiles.not_held t' ht', Bool.false_eq_true, if_false,
        Nat.add_zero]
      rcases ih t' ht' with hone | ⟨hblank, hapart⟩
      · exact .inl hone
      · exact .inr ⟨hblank, List.forall_mem_cons.2 ⟨.inr (by omega), hapart⟩⟩

end Laid

theorem Text.slice_between (a m b : List Char) {i j : Int} (hi : i = a.length)
    (hj : j = i + m.length) : Text.slice (a ++ m ++ b) i j = m := by
  have hj : j = ((a.length + m.length : Nat) : Int) := by omega
  rw [hi, hj, slice_natCast _ _ _ (by simp), Nat.add_sub_cancel_left, List.append_assoc,
    List.drop_left, List.take_left]

def interleave (texts : List (List Char)) (gaps : List (List Token)) (rest : List Token) :
    List Char :=
  (List.zipWith (fun gap text => textOf gap ++ text) gaps texts).flatten ++ textOf rest

theorem Laid.interleaved {set : Settings} {last i : Int} {ts : List Token} {body : List Statement}
    (h : Laid set last i ts body) {script a : List Char} (hscript : script = a ++ textOf ts)
    (ha : i = a.length) :
    ∃ gaps rest, gaps.length = body.length ∧
      gaps.flatten ++ rest = ts.filter (fun t => body.all fun s => !s.holds t) ∧
      textOf ts =
        interleave (body.map fun s => Text.slice script s.start (s.stop + 1)) gaps rest := by
  induction h generalizing a with
  | nil => exact ⟨[], [], rfl, rfl, rfl⟩
  | @blank i t ts body hb ht hrest ih =>
    have hstop := ht.stop_eq
    simp only [textOf_cons, textOf_nil, List.append_nil] at hstop
    rw [textOf_cons, ← List.append_assoc] at hscript
    obtain ⟨gaps, rest, hlen, hgaps, htext⟩ := ih hscript (by
      rw [List.length_append]
      omega)
    have hlt := (ht.bounds List.mem_cons_self).2.1
    have hout : (body.all fun s => !s.holds t) = true := by
      rw [List.all_eq_true]
      intro s hs
      simp [(hrest.holds_before hlt (Int.le_refl _) s hs).2]
    rw [List.filter_cons, if_pos hout, ← hgaps, textOf_cons, htext]
    cases gaps with
    | nil =>
      obtain rfl := List.length_eq_zero_iff.1 hlen.symm
      exact ⟨[], t :: rest, rfl, rfl, rfl⟩
    | cons gap gaps =>
      obtain ⟨s, body, rfl⟩ := List.exists_cons_of_length_eq_add_one hlen.symm
      exact ⟨(t :: gap) :: gaps, rest, hlen, rfl, by simp [interleave]⟩
  | @statement t us ts s body hr _ hrest ih =>
    have ht := hr.tiles
    have hstop := ht.stop_eq
    rw [textOf_append, ← List.append_assoc] at hscript
    obtain ⟨gaps, rest, hlen, hgaps, htext⟩ := ih hscript (by
      rw [List.length_append]
      omega)
    refine ⟨[] :: gaps, rest, by simp [hlen], ?_, ?_⟩
    · have hin : (t :: us).filter (fun t => (s :: body).all fun s => !s.holds t) = [] := by
        rw [List.filter_eq_nil_iff]
        intro t' ht'
        simp [ht.held t' ht']
      have hout : ts.filter (fun t => (s :: body).all fun s => !s.holds t) =
          ts.filter (fun t => body.all fun s => !s.holds t) := by
        refine List.filter_congr ?_
        intro t' ht'
        simp [hrest.tiles.not_held t' ht']
      rw [List.filter_append, hin, hout, ← hgaps]
      rfl
    · have hslice := Text.slice_between a (textOf (t :: us)) (textOf ts) ha hstop
      rw [← hscript] at hslice
      rw [textOf_append, htext, List.map_cons, hslice]
      simp [interleave]

/-- How a script and what it is taken apart into belong together. -/
structure WellFormed (d : Dialect) (script : List Char) (p : Parsed) : Prop where
  stream : p.tokens = tokenize d script
  bounds : ∀ s ∈ p.body, 0 ≤ s.start ∧ s.start ≤ s.stop ∧ s.stop ≤ lastOffset script
  opens : ∀ s ∈ p.body, ∃ t ∈ p.tokens, t.isBlank = false ∧ t.start = s.start
  apart : p.body.Pairwise fun a b => a.stop < b.start
  covered : ∀ t ∈ p.tokens, p.body.countP (·.holds t) = 1 ∨
    (t.isBlank = true ∧ ∀ s ∈ p.body, t.stop ≤ s.start ∨ s.stop < t.start)
  interleaved : ∃ gaps rest, gaps.length = p.body.length ∧
    gaps.flatten ++ rest = p.tokens.filter (fun t => p.body.all fun s => !s.holds t) ∧
    script = interleave (p.body.map fun s => Text.slice script s.start (s.stop + 1)) gaps rest
  terminated : ∀ s ∈ p.body, s.terminated = true →
    ∃ t ∈ p.tokens, t.kind = .semicolon ∧ t.start = s.stop
  onlyLast : ∀ s ∈ p.body.dropLast, s.terminated = true
  unterminated : ∀ s ∈ p.body, s.terminated = false → s.stop = lastOffset script
  classified : ∀ s ∈ p.body, s.Classified

theorem laid_of_parse {set : Settings} {script : List Char} {p : Parsed}
    (h : parse set script = .ok p) : Laid set (lastOffset script) 0 p.tokens p.body := by
  obtain ⟨htok, hsplit⟩ := parse_ok h
  have htile := tiles_tokenize set.dialect script
  have hlast : lastOffset script + 1 = script.length := by simp [lastOffset]
  rw [← htok, ← hlast] at htile
  exact laid_of_splits hsplit htile

theorem semicolon_stop_of_parse {set : Settings} {script : List Char} {p : Parsed} {z : Token}
    (h : parse set script = .ok p) (hz : z ∈ p.tokens) (hk : z.kind = .semicolon) :
    z.stop = z.start + 1 := by
  rw [(parse_ok h).1] at hz
  exact (semicolon_token hz hk).2

theorem wellFormed_parse {set : Settings} {script : List Char} {p : Parsed}
    (h : parse set script = .ok p) : WellFormed set.dialect script p := by
  have hlaid := laid_of_parse h
  obtain ⟨htok, _⟩ := parse_ok h
  have htext : textOf p.tokens = script := by rw [htok, textOf_tokenize]
  obtain ⟨hinit, hstop⟩ := hlaid.underWay
  have hgaps := hlaid.interleaved (a := []) htext.symm rfl
  rw [htext] at hgaps
  have hends : ∀ s ∈ p.body, s.terminated = true →
      ∃ z ∈ p.tokens, z.kind = .semicolon ∧ z.start = s.stop := by
    intro s hs hend
    obtain ⟨z, hz, hk, hlast⟩ := hlaid.terminated s hs hend
    have hlen := semicolon_stop_of_parse h hz hk
    exact ⟨z, hz, hk, by omega⟩
  exact {
    stream := htok
    bounds := hlaid.bounds
    opens := hlaid.opens
    apart := hlaid.apart
    covered := hlaid.covered
    interleaved := hgaps
    terminated := hends
    onlyLast := hinit
    unterminated := hstop
    classified := hlaid.classified }

theorem wellFormed_trigger :
    let script := " CREATE TRIGGER t BEGIN DELETE; END; -- x\n SELECT 1 ".toList
    ∃ p, parse { dialect := .sqlite } script = .ok p ∧
      p.body.map (fun s => (s.start, s.stop)) = [(1, 35), (43, 51)] ∧
      WellFormed .sqlite script p := by
  intro script
  have h : (parse { dialect := .sqlite } script).toOption.map (fun p => p.body.map fun s =>
      (s.start, s.stop)) = some [(1, 35), (43, 51)] := by decide +kernel
  obtain ⟨p, hp, hbody⟩ := Option.map_eq_some_iff.1 h
  have hp := ok_of_toOption hp
  exact ⟨p, hp, hbody, wellFormed_parse hp⟩

end SqlScript
