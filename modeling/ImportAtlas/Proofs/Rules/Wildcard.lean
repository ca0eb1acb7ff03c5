import ImportAtlas.Proofs.Regex.Matching
import ImportAtlas.Rules.Basic
import Mathlib.Tactic.Lemma

/-!
# Reading wildcards

Every wildcard is turned into the text of a regular expression that can be read, and its parts are
those of the wildcard: one for each character, between the two anchors. The reader takes the text
part by part, so its run is followed step by step here.

## Main definitions

* `ImportAtlas.Wildcard.pattern`: a wildcard as a pattern.
* `ImportAtlas.Wildcard.expr`: a wildcard as an expression.
* `ImportAtlas.Regex.Reader.Reads`: the reader gets from one state to another.

## Main results

* `ImportAtlas.Wildcard.reads_items`: the reader takes a wildcard character by character.
* `ImportAtlas.Wildcard.parse_patternText`: the text of a wildcard is read as its pattern.
* `ImportAtlas.Wildcard.exprOf_patternText`: and it means its expression.
* `ImportAtlas.ExcludeRule.compile_eq`: an exclude pattern is refused only for its size.
-/

namespace ImportAtlas

open Regex Unicode

/-! ### The reader -/

namespace Regex.Reader

/-- The reader gets from one state to another in `k` steps. -/
def Reads (r r' : Reader) (k : Nat) : Prop := ∀ n, r.run (n + k) = r'.run n

/-- What is read in two parts is read in all. -/
lemma Reads.trans {r r' r'' : Reader} {k l : Nat} (h : Reads r r' k) (h' : Reads r' r'' l) :
    Reads r r'' (l + k) := fun n => by
  rw [← Nat.add_assoc, h, h']

/-- One step of a reader that minds blanks. -/
lemma reads_of_step {r r' : Reader} (hspaced : r.cursor.spaced = false)
    (hrest : r.cursor.rest ≠ []) (hstep : r.step = .ok r') : Reads r r' 1 := by
  intro n
  have hskip : r.cursor.skip = r.cursor := by simp [Cursor.skip, hspaced]
  rw [run, hskip, if_neg hrest]
  simp only [hstep]

/-- The reader stops at the end of the text. -/
lemma run_of_end {r : Reader} (hspaced : r.cursor.spaced = false) (hrest : r.cursor.rest = [])
    (n : Nat) : r.run n = .ok r := by
  have hskip : r.cursor.skip = r.cursor := by simp [Cursor.skip, hspaced]
  cases n with
  | zero => rfl
  | succ n => rw [run, hskip, if_pos hrest]

/-- A character that opens or closes nothing and repeats nothing is read as an atom. -/
lemma step_of_atom {r : Reader} {c : Char} {rest : List Char} {atom : Atom} {after : Cursor}
    (hrest : r.cursor.rest = c :: rest)
    (hc : c ∉ ['(', ')', '|', '[', '?', '*', '+', '\x7b'])
    (hatom : readAtom r.cursor = .ok (atom, after)) :
    r.step = .ok (r.push atom.pattern after) := by
  simp only [List.mem_cons, List.not_mem_nil, or_false, not_or] at hc
  simp [step, hrest, hc, hatom, bind, Except.bind, pure, Except.pure]

end Regex.Reader

namespace Wildcard

/-! ### Parts of a wildcard -/

/-- What a character of a wildcard is in a pattern. -/
def itemPattern (c : Char) : Pattern :=
  if c = '*' then .repetition 0 none true .dot else if c = '?' then .dot else .literal c false

/-- What the group around the parts does: the dot takes line feeds too. -/
def groupKind : GroupKind := .plain ⟨[.dotAll], []⟩

/-- A wildcard as a pattern: the group of its parts between the anchors. -/
def pattern (wildcard : List Char) : Pattern :=
  .concat
    [.anchor .startLine, .group groupKind (.ofParts (wildcard.map itemPattern)), .anchor .endLine]

/-- What a character of a wildcard is in an expression. -/
def itemExpr (c : Char) : Expr :=
  if c = '*' then .repetition 0 none true (.chars .all)
  else if c = '?' then .chars .all
  else .chars (.single c)

lemma itemExpr_star : itemExpr '*' = .repetition 0 none true (.chars .all) := rfl

lemma itemExpr_any : itemExpr '?' = .chars .all := rfl

lemma itemExpr_of_ne {c : Char} (hstar : c ≠ '*') (hany : c ≠ '?') :
    itemExpr c = .chars (.single c) := by
  rw [itemExpr, if_neg hstar, if_neg hany]

/-- A wildcard as an expression: its parts, from the start of the text to its end. -/
def expr (wildcard : List Char) : Expr :=
  .sequence [.look .textStart, .sequence (wildcard.map itemExpr), .look .textEnd]

/-! ### Reading -/

/-- An escaped character is read as itself. -/
lemma readEscape_of_isMeta {c : Char} (hc : isMeta c = true) (rest : List Char) :
    readEscape ⟨'\\' :: c :: rest, false⟩ = .ok (.literal c false, ⟨rest, false⟩) := by
  have hall : (['\\', '.', '+', '*', '?', '(', ')', '|', '[', ']', '\x7b', '\x7d', '^', '$', '#',
      '&', '-', '~'].all fun d =>
        !Numeral.isDecimal d && d != 'x' && d != 'u' && d != 'U' && d != 'p' && d != 'P' &&
          d != 'b') = true := by
    decide
  have hothers := List.all_eq_true.1 hall c (List.contains_iff_mem.1 hc)
  simp only [Bool.and_eq_true, Bool.not_eq_true', bne_iff_ne] at hothers
  simp [readEscape, hothers, isEscapable, hc]

/-- The text of a wildcard's part does not begin with a question mark, and neither does what stands
behind the parts. -/
lemma head?_items (wildcard rest : List Char) :
    (wildcard.flatMap itemText ++ ')' :: rest).head? ≠ some '?' := by
  cases wildcard with
  | nil => simp
  | cons c wildcard =>
    rw [List.flatMap_cons, itemText]
    split
    · simp
    · split
      · simp
      · by_cases hc : isMeta c = true
        · simp [escape, hc]
        · simp_all [escape]

/-- The reader takes one part of a wildcard, if no question mark behind it makes a star lazy.

**Proof sketch.** A star stands as a dot and a repetition, so that it takes two steps of the reader.
A question mark stands as a dot, a sign with a meaning in patterns as an escape, and any other sign
as itself; each of them is one atom. -/
lemma reads_item (c : Char) (r : Reader) {rest : List Char} (hrest : rest.head? ≠ some '?')
    (hcursor : r.cursor = ⟨itemText c ++ rest, false⟩) :
    ∃ k ≤ (itemText c).length, r.Reads (r.push (itemPattern c) ⟨rest, false⟩) k := by
  have hatom : ∀ {d : Char} {more after : List Char} {atom : Atom} {r : Reader},
      r.cursor = ⟨d :: more, false⟩ → d ∉ ['(', ')', '|', '[', '?', '*', '+', '{'] →
      Reader.readAtom r.cursor = .ok (atom, ⟨after, false⟩) →
      r.Reads (r.push atom.pattern ⟨after, false⟩) 1 := by
    intro d more after atom r hcursor hd hread
    exact Reader.reads_of_step (by rw [hcursor]) (by simp [hcursor])
      (Reader.step_of_atom (by rw [hcursor]) hd hread)
  by_cases hstar : c = '*'
  · subst hstar
    have hdot := hatom hcursor (by decide) (by rw [hcursor]; rfl)
    have hrepeat : (r.push .dot ⟨'*' :: rest, false⟩).step =
        .ok (r.push (itemPattern '*') ⟨rest, false⟩) := by
      have hnext : (⟨rest, false⟩ : Cursor).char? ≠ some '?' := hrest
      simp [Reader.step, Reader.push, Reader.readOperator, Cursor.drop, hnext, Reader.repeatLast,
        itemPattern]
    exact ⟨2, Nat.le_refl 2, hdot.trans (Reader.reads_of_step rfl (by simp [Reader.push]) hrepeat)⟩
  by_cases hany : c = '?'
  · subst hany
    have hdot : r.Reads (r.push Atom.dot.pattern ⟨rest, false⟩) 1 :=
      hatom hcursor (by decide) (by rw [hcursor]; rfl)
    exact ⟨1, Nat.le_refl 1, hdot⟩
  have hpattern : itemPattern c = (Atom.literal c false).pattern := by
    simp [itemPattern, hstar, hany, Atom.pattern]
  rw [hpattern]
  by_cases hmeta : isMeta c = true
  · have htext : itemText c = ['\\', c] := by simp [itemText, hstar, hany, escape, hmeta]
    rw [htext] at hcursor ⊢
    refine ⟨1, by simp, hatom hcursor (by decide) ?_⟩
    rw [hcursor]
    exact readEscape_of_isMeta hmeta rest
  · have htext : itemText c = [c] := by simp [itemText, hstar, hany, escape, hmeta]
    have hplain : ∀ d, isMeta d = true → c ≠ d := fun d hd hcd => hmeta (hcd ▸ hd)
    rw [htext] at hcursor ⊢
    refine ⟨1, by simp, hatom hcursor ?_ ?_⟩
    · simp only [List.mem_cons, List.not_mem_nil, or_false, not_or]
      refine ⟨?_, ?_, ?_, ?_, ?_, ?_, ?_, ?_⟩ <;> exact hplain _ (by decide)
    · rw [hcursor, List.singleton_append]
      simp [Reader.readAtom, hplain '\\' (by decide), hplain '.' (by decide),
        hplain '^' (by decide), hplain '$' (by decide)]

/-- The reader outside of the group, behind some parts, the last of them first. -/
def outside (parts : List Pattern) (rest : List Char) : Reader :=
  ⟨⟨rest, false⟩, parts, [], [], 0, []⟩

/-- The reader inside the group, behind some of the parts in it, the last of them first. -/
def inside (parts : List Pattern) (rest : List Char) : Reader :=
  ⟨⟨rest, false⟩, parts, [], [⟨[.anchor .startLine], [], groupKind, false⟩], 0, []⟩

/-- The reader takes the start anchor. -/
lemma reads_startLine (rest : List Char) :
    (outside [] ('^' :: rest)).Reads (outside [.anchor .startLine] rest) 1 :=
  Reader.reads_of_step rfl (by simp [outside]) rfl

/-- The reader opens the group. -/
lemma reads_open (rest : List Char) :
    (outside [.anchor .startLine] ('(' :: '?' :: 's' :: ':' :: rest)).Reads (inside [] rest) 1 :=
  Reader.reads_of_step rfl (by simp [outside]) rfl

/-- **The reader takes a wildcard character by character**, inside the group. -/
lemma reads_items (wildcard : List Char) (parts : List Pattern) (rest : List Char) :
    ∃ k ≤ (wildcard.flatMap itemText).length,
      (inside parts (wildcard.flatMap itemText ++ ')' :: rest)).Reads
        (inside ((wildcard.map itemPattern).reverse ++ parts) (')' :: rest)) k := by
  induction wildcard generalizing parts with
  | nil => exact ⟨0, Nat.le_refl 0, fun n => rfl⟩
  | cons c wildcard ih =>
    rw [List.flatMap_cons, List.append_assoc]
    obtain ⟨k, hk, hitem⟩ := reads_item c (inside parts _) (head?_items wildcard rest) rfl
    obtain ⟨l, hl, hitems⟩ := ih (itemPattern c :: parts)
    refine ⟨l + k, ?_, ?_⟩
    · rw [List.length_append]
      omega
    · rw [List.map_cons, List.reverse_cons, List.append_assoc]
      exact hitem.trans hitems

/-- The reader closes the group. -/
lemma reads_close (parts : List Pattern) (rest : List Char) :
    (inside parts (')' :: rest)).Reads
      (outside [.group groupKind (.ofParts parts.reverse), .anchor .startLine] rest) 1 := by
  refine Reader.reads_of_step rfl (by simp [inside]) ?_
  simp [inside, outside, Reader.step, Reader.closeGroup, Reader.collected, Cursor.drop,
    Pattern.ofBranches]

/-- The reader takes the end anchor. -/
lemma reads_endLine (parts : List Pattern) (rest : List Char) :
    (outside parts ('$' :: rest)).Reads (outside (.anchor .endLine :: parts) rest) 1 :=
  Reader.reads_of_step rfl (by simp [outside]) rfl

/-- The reader takes the text of a wildcard and stops. -/
lemma run_patternText (wildcard : List Char) :
    (Reader.start (patternText wildcard)).run ((patternText wildcard).length + 1) =
      .ok (outside [.anchor .endLine, .group groupKind (.ofParts (wildcard.map itemPattern)),
        .anchor .startLine] []) := by
  have htext : patternText wildcard =
      '^' :: '(' :: '?' :: 's' :: ':' :: (wildcard.flatMap itemText ++ [')', '$']) := by
    simp [patternText]
  have hlength : (patternText wildcard).length = (wildcard.flatMap itemText).length + 7 := by
    simp [htext]
  obtain ⟨k, hk, hitems⟩ := reads_items wildcard [] ['$']
  have hbefore := (reads_startLine _).trans ((reads_open _).trans hitems)
  have hbehind := (reads_close ((wildcard.map itemPattern).reverse ++ []) ['$']).trans
    (reads_endLine _ [])
  have hsteps : 1 + 1 + (k + 1 + 1) ≤ (patternText wildcard).length + 1 := by omega
  obtain ⟨n, hn⟩ := Nat.exists_eq_add_of_le hsteps
  have hrun := hbefore.trans hbehind n
  rw [List.append_nil, List.reverse_reverse] at hrun
  rw [hn, Nat.add_comm, htext]
  exact hrun.trans (Reader.run_of_end rfl rfl n)

/-! ### Depth -/

/-- The parts of a wildcard are not nested any deeper than a star over its dot. -/
lemma depths_items_le (wildcard : List Char) : Pattern.depths (wildcard.map itemPattern) ≤ 1 := by
  induction wildcard with
  | nil => simp [Pattern.depths]
  | cons c wildcard ih =>
    have hitem : (itemPattern c).depth ≤ 1 := by
      unfold itemPattern
      split
      · simp [Pattern.depth]
      · split <;> simp [Pattern.depth]
    exact Nat.max_le.2 ⟨hitem, ih⟩

/-- The pattern of some parts is one deeper than they are, at most. -/
lemma depth_ofParts_le (parts : List Pattern) :
    (Pattern.ofParts parts).depth ≤ Pattern.depths parts + 1 := by
  fun_cases Pattern.ofParts parts with
  | case1 => simp [Pattern.depth]
  | case2 p =>
    simp only [Pattern.depths]
    omega
  | case3 => simp [Pattern.depth]

/-- **The text of a wildcard is read as its pattern**, whatever characters the wildcard has. -/
lemma parse_patternText (wildcard : List Char) :
    Pattern.parse (patternText wildcard) = .ok (pattern wildcard) := by
  have hdepth : (pattern wildcard).depth ≤ maxDepth := by
    have hparts := depth_ofParts_le (wildcard.map itemPattern)
    have hitems := depths_items_le wildcard
    simp only [pattern, Pattern.depth, Pattern.depths, maxDepth]
    omega
  rw [Pattern.parse, run_patternText]
  exact if_pos hdepth

/-! ### Meaning -/

/-- A part gives its flags to the parts behind it. -/
lemma meanings_cons {flags between after : Flags} {p : Pattern} {rest : List Pattern} {e : Expr}
    {es : List Expr} (hp : p.meaning flags = .ok (e, between))
    (hrest : Pattern.meanings between rest = .ok (es, after)) :
    Pattern.meanings flags (p :: rest) = .ok (e :: es, after) := by
  rw [Pattern.meanings, hp]
  simp only [bind, Except.bind, hrest]
  rfl

/-- The parts of a pattern mean the sequence of what they mean. -/
lemma meaning_ofParts {flags after : Flags} {parts : List Pattern} {es : List Expr}
    (h : Pattern.meanings flags parts = .ok (es, after)) :
    (Pattern.ofParts parts).meaning flags = .ok (.sequence es, after) := by
  fun_cases Pattern.ofParts parts with
  | case1 =>
    obtain ⟨rfl, rfl⟩ := Prod.mk.inj (Except.ok.inj h)
    rfl
  | case2 p =>
    rw [Pattern.meanings] at h
    cases hp : p.meaning flags with
    | error e => simp [hp, bind, Except.bind] at h
    | ok result =>
      obtain ⟨e, between⟩ := result
      simp only [hp, bind, Except.bind, Pattern.meanings, pure, Except.pure] at h
      obtain ⟨rfl, rfl⟩ := Prod.mk.inj (Except.ok.inj h)
      rw [Expr.sequence_singleton]
  | case3 =>
    rw [Pattern.meaning, h]
    rfl

/-- The flags inside the group of a wildcard. -/
def groupFlags : Flags := { dotAll := true }

/-- What the parts of a wildcard mean. -/
lemma meanings_items (wildcard : List Char) :
    Pattern.meanings groupFlags (wildcard.map itemPattern) =
      .ok (wildcard.map itemExpr, groupFlags) := by
  induction wildcard with
  | nil => rfl
  | cons c wildcard ih =>
    have hitem : (itemPattern c).meaning groupFlags = .ok (itemExpr c, groupFlags) := by
      unfold itemPattern itemExpr
      split
      · rfl
      · split <;> rfl
    exact meanings_cons hitem ih

/-- **The text of a wildcard means its expression.** -/
lemma exprOf_patternText (wildcard : List Char) :
    exprOf (patternText wildcard) = .ok (expr wildcard) := by
  have hgroup : (Pattern.group groupKind (.ofParts (wildcard.map itemPattern))).meaning {} =
      .ok (.sequence (wildcard.map itemExpr), {}) := by
    have hflags : ({} : Flags).apply ⟨[.dotAll], []⟩ = groupFlags := rfl
    rw [groupKind, Pattern.meaning, hflags, meaning_ofParts (meanings_items wildcard)]
    rfl
  have hend : Pattern.meanings {} [.anchor .endLine] = .ok ([.look .textEnd], {}) := rfl
  have hstart : (Pattern.anchor .startLine).meaning {} = .ok (.look .textStart, {}) := rfl
  have hparts := meanings_cons hstart (meanings_cons hgroup hend)
  have hmeaning : (pattern wildcard).meaning {} = .ok (expr wildcard, {}) := by
    rw [pattern, Pattern.meaning, hparts]
    rfl
  rw [exprOf, parse_patternText]
  simp only [bind, Except.bind, hmeaning]
  rfl

end Wildcard

/-- **An exclude pattern is refused only for its size.** -/
lemma ExcludeRule.compile_eq (source : String) :
    ExcludeRule.compile source =
      let e := Wildcard.expr source.toList
      if e.fits then .ok ⟨source, e, e.program.toArray⟩
      else .error (.excludePattern source .tooLarge) := by
  rw [ExcludeRule.compile, Regex.compile, Wildcard.exprOf_patternText]
  by_cases hfits : (Wildcard.expr source.toList).fits = true
  · simp only [hfits, if_true]
  · simp only [hfits, Bool.false_eq_true, if_false]

/-- An exclude pattern that is small enough is accepted. -/
lemma ExcludeRule.exists_compile (source : String)
    (h : (Wildcard.expr source.toList).fits = true) :
    ∃ rule, ExcludeRule.compile source = .ok rule := by
  rw [compile_eq]
  exact ⟨_, if_pos h⟩

end ImportAtlas
