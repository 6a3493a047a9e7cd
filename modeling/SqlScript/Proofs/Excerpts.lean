import SqlScript.Listing
import SqlScript.Proofs.Resumption
import SqlScript.Proofs.Spans

/-!
Statements taken out of their script. Nothing before a statement and nothing behind it has a part in
its tokens, so its text is read as it was read within the script.
-/

set_option autoImplicit false

namespace SqlScript

theorem tokensFrom_behind {forms : List Pattern} {i : Nat} {s : List Char} {a b : List Token}
    (h : tokensFrom forms i s = a ++ b) :
    tokensFrom forms (i + (textOf a).length) (textOf b) = b := by
  induction a generalizing i s with
  | nil =>
    have hs : s = textOf b := by rw [← textOf_tokensFrom forms i s, h, List.nil_append]
    rwa [hs] at h
  | cons t a ih =>
    have hs : s ≠ [] := by
      rintro rfl
      simp at h
    rw [tokensFrom_of_ne_nil _ _ hs] at h
    obtain ⟨ht, hrest⟩ := List.cons.inj h
    have hlen := frontToken_text_length forms i hs
    rw [ht] at hlen
    rw [← hlen] at hrest
    rw [textOf_cons, List.length_append, ← Nat.add_assoc]
    exact ih hrest

/-- Tokens of a script through a semicolon, or through the end, are those of their own text. -/
theorem tokenize_excerpt {d : Dialect} {script : List Char} {pre ts post : List Token}
    (h : tokenize d script = pre ++ (ts ++ post))
    (hend : post = [] ∨ ∃ us z, ts = us ++ [z] ∧ z.kind = .semicolon) :
    (tokenize d (textOf ts)).map (·.shift (textOf pre).length) = ts := by
  have hrest := tokensFrom_behind h
  rw [Nat.zero_add] at hrest
  rw [← tokenize_shift]
  rcases hend with rfl | ⟨us, z, rfl, hz⟩
  · rwa [List.append_nil] at hrest
  · rw [← List.append_cons] at hrest
    have hcut := tokensFrom_semicolon [] hz us _ _ hrest
    rwa [List.append_nil, tokensFrom_nil] at hcut

namespace Reads

variable {set : Settings} {t : Token} {us : List Token} {s : Statement}

theorem slice_eq (h : Reads set t us s) {pre : List Token} (hpre : s.start = (textOf pre).length)
    (post : List Token) :
    Text.slice (textOf (pre ++ (t :: us ++ post))) s.start (s.stop + 1) = textOf (t :: us) := by
  have hslice :=
    Text.slice_between (textOf pre) (textOf (t :: us)) (textOf post) hpre h.tiles.stop_eq
  rwa [List.append_assoc, ← textOf_append, ← textOf_append] at hslice

theorem stop_eq (h : Reads set t us s) : s.stop = s.start + lastOffset (textOf (t :: us)) := by
  have hstop := h.tiles.stop_eq
  rw [lastOffset]
  omega

/-- A statement is read off its tokens alone wherever these stand. -/
theorem statementsFrom_alone (h : Reads set t us s) {n last : Int} {ts : List Token}
    (hts : ts.map (·.shift n) = t :: us) (hlast : s.stop = last + n) :
    statementsFrom set last none ts = .ok [s.shift (-n)] := by
  have hread : statementsFrom set s.stop none (t :: us ++ []) = .ok [s] :=
    h.statementsFrom_eq fun _ => ⟨rfl, rfl⟩
  have hshift := statementsFrom_shift n set last none ts
  rw [Option.map_none, hts, ← hlast, ← List.append_nil (t :: us), hread] at hshift
  cases hbody : statementsFrom set last none ts with
  | error e =>
    rw [hbody] at hshift
    have hrefused : Except.ok [s] = Except.error (e.shift n) := hshift
    contradiction
  | ok body =>
    rw [hbody] at hshift
    have hone : [s] = body.map (·.shift n) := Except.ok.inj hshift
    obtain ⟨s', rfl, rfl⟩ := List.map_eq_singleton_iff.1 hone.symm
    simp only [Statement.shift, Int.add_neg_cancel_right]

end Reads

theorem exists_reads_of_parse {set : Settings} {script : List Char} {p : Parsed} {s : Statement}
    (h : parse set script = .ok p) (hs : s ∈ p.body) :
    ∃ pre t us post, tokenize set.dialect script = pre ++ (t :: us ++ post) ∧
      s.start = (textOf pre).length ∧ Reads set t us s ∧
      (post = [] ∨ ∃ vs z, t :: us = vs ++ [z] ∧ z.kind = .semicolon) := by
  have hlaid := laid_of_parse h
  obtain ⟨pre, t, us, post, hts, hpre, hr, hpost⟩ := hlaid.reads s hs
  have hstart := hpre.stop_eq
  rw [Int.zero_add] at hstart
  rw [(parse_ok h).1] at hts
  refine ⟨pre, t, us, post, hts, hstart, hr, ?_⟩
  cases hend : s.terminated with
  | true =>
    obtain ⟨c, stop, hc, hseal⟩ := hr.read
    rw [hseal, Statement.seal_terminated] at hend
    exact .inr ⟨_, _, (concat_getLastD t us).symm, Classifier.last_of_terminated hc hend⟩
  | false =>
    have hlast := hlaid.underWay.2 s hs hend
    cases post with
    | nil => exact .inl rfl
    | cons u post =>
      have hlt := hpost.lt
      omega

/-- The text of a statement is taken apart into the statement alone, at the front. -/
theorem parse_excerpt {set : Settings} {script : List Char} {p : Parsed} {s : Statement}
    (h : parse set script = .ok p) (hs : s ∈ p.body) :
    let text := Text.slice script s.start (s.stop + 1)
    s.stop = s.start + lastOffset text ∧ parse set text =
      .ok ⟨0, lastOffset text, [s.shift (-s.start)], tokenize set.dialect text⟩ := by
  intro text
  obtain ⟨pre, t, us, post, hts, hstart, hr, hends⟩ := exists_reads_of_parse h hs
  have htext : text = textOf (t :: us) := by
    have hslice := hr.slice_eq hstart post
    rwa [← hts, textOf_tokenize] at hslice
  have hstop : s.stop = s.start + lastOffset text := by
    rw [htext]
    exact hr.stop_eq
  have halone := tokenize_excerpt hts hends
  rw [← htext, ← hstart] at halone
  refine ⟨hstop, ?_⟩
  rw [parse_eq, hr.statementsFrom_alone halone (by omega)]
  rfl

theorem Text.slice_self (s : List Char) : Text.slice s 0 (lastOffset s + 1) = s := by
  have hstop : lastOffset s + 1 = (0 : Int) + s.length := by
    rw [lastOffset]
    omega
  have h := slice_between [] s [] rfl hstop
  rwa [List.nil_append, List.append_nil] at h

theorem Finding.ofStatement_excerpt {script text : List Char} {s : Statement}
    (ht : Text.slice script s.start (s.stop + 1) = text)
    (h : s.stop = s.start + lastOffset text) :
    ofStatement text (s.shift (-s.start)) =
      { ofStatement script s with start := 0, stop := lastOffset text } := by
  have hstart : s.start + -s.start = 0 := by omega
  have hstop : s.stop + -s.start = lastOffset text := by omega
  simp only [ofStatement, Statement.shift, hstart, hstop, Text.slice_self, ht]

/-- What is found in a script is found in its own text, alone and in the same way. -/
theorem identify_excerpt {set : Settings} {script : List Char} {fs : List Finding} {f : Finding}
    (h : identify set script = .ok fs) (hf : f ∈ fs) :
    identify set f.text = .ok [{ f with start := 0, stop := lastOffset f.text }] := by
  cases hp : parse set script with
  | error e => simp [identify, hp, bind, Except.bind] at h
  | ok p =>
    rw [identify, hp] at h
    obtain rfl : findings script p.body = fs := Except.ok.inj h
    obtain ⟨s, hs, rfl⟩ := List.mem_map.1 hf
    obtain ⟨hstop, hparse⟩ := parse_excerpt hp hs
    have hfinding := Finding.ofStatement_excerpt rfl hstop
    have htext : (Finding.ofStatement script s).text =
        Text.slice script s.start (s.stop + 1) := rfl
    rw [htext, identify, hparse]
    exact congrArg (fun g => Except.ok [g]) hfinding

/-- A function whose body holds semicolons, and behind it a statement that the script leaves open,
with a semicolon in its comment. -/
theorem identify_excerpt_body :
    let set : Settings := { dialect := .psql }
    let script := " CREATE OR REPLACE FUNCTION f AS BEGIN x; END; --\n DELETE 'a;' /*;".toList
    ∃ fs, identify set script = .ok fs ∧
      fs.map (·.text) = ["CREATE OR REPLACE FUNCTION f AS BEGIN x; END;".toList,
        "DELETE 'a;' /*;".toList] ∧
      ∀ f ∈ fs, identify set f.text = .ok [{ f with start := 0, stop := lastOffset f.text }] := by
  intro set script
  have h : (identify set script).toOption.map (fun fs => fs.map (·.text)) =
      some ["CREATE OR REPLACE FUNCTION f AS BEGIN x; END;".toList,
        "DELETE 'a;' /*;".toList] := by decide +kernel
  obtain ⟨fs, hfs, htexts⟩ := Option.map_eq_some_iff.1 h
  have hfs := ok_of_toOption hfs
  exact ⟨fs, hfs, htexts, fun f hf => identify_excerpt hfs hf⟩

end SqlScript
