import ImportAtlas.Json.Printer
import ImportAtlas.Json.Reader
import ImportAtlas.Proofs.Text.Numeral
import Mathlib.Data.List.Basic
import Mathlib.Tactic.IntervalCases

/-!
# Reading JSON back

The indented text of a value is read as the value, whatever the texts in it hold: every escape of
the printer is undone by the reader, and a number ends before a comma or a line end.

## Main definitions

* `ImportAtlas.Json.Value.Plain`: values in which every number and text is known.
* `ImportAtlas.Json.Value.ReadsBack`: a value is read from its text in front of more text.

## Main results

* `ImportAtlas.Json.readString_quote`: a text is read back from between its quotes.
* `ImportAtlas.Json.readNumber_digits`: a number is read back from its digits.
* `ImportAtlas.Json.readItems_prettyItems`, `ImportAtlas.Json.readFields_prettyFields`: items and
  fields are read back if their values are.
* `ImportAtlas.Json.Value.Plain.read?_pretty`: a plain value is read back from its text.

## Design

The fuel of the reader bounds the depth of its calls. Each call inside another starts at least one
character later, so twice the length of what is left to read is enough.
-/

namespace ImportAtlas.Json

open Numeral

/-! ### Strings -/

/-- What the reader makes of a character as it is written inside a string: a control character
without a short escape is written by its number, and all others stand for themselves. -/
def Piece.ofChar (c : Char) : Piece :=
  if c.toNat < 0x20 ∧ c ≠ '\n' ∧ c ≠ '\r' ∧ c ≠ '\t' ∧ c ≠ '\x08' ∧ c ≠ '\x0c' then .unit c.toNat
  else .char c

/-- The digit of a number below sixteen has its value. -/
lemma digit?_hexDigit {n : Nat} (h : n < 16) : digit? (hexDigit n) = some n := by
  revert n
  decide

/-- A character inside a string is read as its piece.

**Proof sketch.** The seven characters with an escape of their own are read by evaluation. Any other
control character is read from its four hexadecimal digits, and what is left stands for itself. -/
lemma readPieces_escapeChar (c : Char) (text : List Char) :
    readPieces (escapeChar c ++ text) =
      (readPieces text).map fun (pieces, after) => (.ofChar c :: pieces, after) := by
  unfold escapeChar
  by_cases h1 : c = '"'
  · subst h1; rfl
  by_cases h2 : c = '\\'
  · subst h2; rfl
  by_cases h3 : c = '\n'
  · subst h3; rfl
  by_cases h4 : c = '\r'
  · subst h4; rfl
  by_cases h5 : c = '\t'
  · subst h5; rfl
  by_cases h6 : c = '\x08'
  · subst h6; rfl
  by_cases h7 : c = '\x0c'
  · subst h7; rfl
  rw [if_neg h1, if_neg h2, if_neg h3, if_neg h4, if_neg h5, if_neg h6, if_neg h7]
  by_cases hcontrol : c.toNat < 0x20
  · have hupper := digit?_hexDigit (n := c.toNat / 16) (by omega)
    have hlower := digit?_hexDigit (n := c.toNat % 16) (by omega)
    have hhex : ['0', '0', hexDigit (c.toNat / 16), hexDigit (c.toNat % 16)].all isHex = true := by
      simp [isHex, hupper, hlower]
      decide
    have hvalue :
        ofDigits 16 ['0', '0', hexDigit (c.toNat / 16), hexDigit (c.toNat % 16)] = c.toNat := by
      have hzero : digit? '0' = some 0 := rfl
      simp only [ofDigits, List.foldl_cons, List.foldl_nil, hupper, hlower, hzero,
        Option.getD_some]
      omega
    rw [if_pos hcontrol]
    simp only [List.cons_append, List.nil_append]
    rw [readPieces, if_pos hhex, hvalue, Piece.ofChar, if_pos ⟨hcontrol, h3, h4, h5, h6, h7⟩]
  · rw [if_neg hcontrol, Piece.ofChar, if_neg fun h => hcontrol h.1, List.singleton_append,
      readPieces.eq_def]
    split <;> simp_all

/-- A text between quotes is read as the pieces of its characters. -/
lemma readPieces_flatMap (chars text : List Char) :
    readPieces (chars.flatMap escapeChar ++ '"' :: text) = some (chars.map .ofChar, text) := by
  induction chars with
  | nil => rfl
  | cons c rest ih =>
    rw [List.flatMap_cons, List.append_assoc, readPieces_escapeChar, ih]
    rfl

/-- The pieces of a text spell it: none is half of a pair. -/
lemma assemble_map_ofChar (chars : List Char) : assemble (chars.map .ofChar) = some chars := by
  induction chars with
  | nil => rfl
  | cons c rest ih =>
    rw [List.map_cons, Piece.ofChar]
    split_ifs with hcontrol
    · have hhigh : isHighSurrogate c.toNat = false := by
        simp [isHighSurrogate]
        omega
      have hlow : isLowSurrogate c.toNat = false := by
        simp [isLowSurrogate]
        omega
      rw [assemble.eq_def]
      simp [hhigh, hlow, ih, Char.ofNat_toNat]
    · rw [assemble, ih]
      rfl

/-- **A text is read back from between its quotes.** -/
lemma readString_quote (s : String) (text : List Char) :
    readString (s.toList.flatMap escapeChar ++ '"' :: text) = some (some s, text) := by
  rw [readString, readPieces_flatMap, Option.map_some]
  simp only [assemble_map_ofChar, Option.map_some, String.ofList_toList]

/-! ### Numbers -/

/-- A text that does not go on with the number in front of it. -/
def EndsNumber (text : List Char) : Prop :=
  ∀ c ∈ text.head?, isDecimal c = false ∧ c ≠ '.' ∧ c ≠ 'e' ∧ c ≠ 'E'

/-- A number other than zero is written without a zero in front. -/
lemma head?_toDigits_ne {n : Nat} (h : n ≠ 0) : (Nat.toDigits 10 n).head? ≠ some '0' := by
  induction n using Nat.strongRecOn with
  | ind n ih =>
    by_cases hn : n < 10
    · rw [Nat.toDigits_of_lt_base hn]
      interval_cases n <;> simp_all
    · have hrest : Nat.toDigits 10 (n / 10) ≠ [] := Nat.toDigits_ne_nil
      rw [Nat.toDigits_of_base_le (by decide) (by omega), List.head?_append,
        List.head?_eq_some_head hrest, Option.some_or, ← List.head?_eq_some_head hrest]
      exact ih (n / 10) (by omega) (by omega)

/-- A text starts as the number in front of it does. -/
lemma head?_digits_append (n : Nat) (text : List Char) :
    (digits n ++ text).head? = (Nat.toDigits 10 n).head? :=
  List.head?_append_of_ne_nil _ Nat.toDigits_ne_nil

/-- The digits of a number are read up to where no digit comes next. -/
lemma readDigits_digits (n : Nat) {text : List Char} (h : ∀ c ∈ text.head?, isDecimal c = false) :
    readDigits (digits n ++ text) = some (digits n, text) := by
  rw [readDigits, digits, span_toDigits_append h]
  split
  · rename_i heq
    exact absurd (congrArg Prod.fst heq) Nat.toDigits_ne_nil
  · rfl

/-- The digits of a number are its whole part. -/
lemma readWhole_digits (n : Nat) {text : List Char} (h : EndsNumber text) :
    readWhole (digits n ++ text) = some (digits n, text) := by
  by_cases hn : n = 0
  · subst hn
    rfl
  · have hhead : ∀ rest, digits n ++ text ≠ '0' :: rest := by
      intro rest heq
      apply head?_toDigits_ne hn
      rw [← head?_digits_append n text, heq, List.head?_cons]
    rw [readWhole.eq_2 _ hhead, readDigits_digits n fun c hc => (h c hc).1]

/-- **A number is read back from its digits**, where the number ends.

**Proof sketch.** The digits do not begin with a sign, and what follows them begins neither a
fraction nor an exponent. So the whole part is all there is, and it is read digit by digit. -/
lemma readNumber_digits (n : Nat) {text : List Char} (h : EndsNumber text) :
    readNumber (digits n ++ text) = some (.number (some n), text) := by
  have hfraction : readFraction text = some (false, text) := by
    rw [readFraction.eq_def]
    split
    · exact absurd rfl (h '.' rfl).2.1
    · rfl
  have hexponent : readExponent text = some (false, text) := by
    cases text with
    | nil => rfl
    | cons c rest =>
      rw [readExponent.eq_def]
      exact if_neg (by simpa using (h c rfl).2.2)
  have hsign : ∀ rest, digits n ++ text ≠ '-' :: rest := by
    intro rest heq
    have hhead : (Nat.toDigits 10 n).head? = some '-' := by
      rw [← head?_digits_append, heq, List.head?_cons]
    have hdigit := isDecimal_of_mem_toDigits (List.mem_of_head? hhead)
    revert hdigit
    decide
  rw [readNumber.eq_def]
  split
  rename_i negative unsigned heq
  split at heq
  · rename_i rest hminus
    exact absurd hminus (hsign rest)
  · obtain ⟨rfl, rfl⟩ := Prod.mk.inj heq
    simp only [readWhole_digits n h, hfraction, hexponent, Option.bind_eq_bind, Option.bind_some]
    simp [digits, ofDigits_toDigits]

/-! ### Blanks -/

/-- Blanks in front of a text are skipped with those of the text. -/
lemma skipSpace_append {blank : List Char} (h : ∀ c ∈ blank, isSpace c = true) (text : List Char) :
    skipSpace (blank ++ text) = skipSpace text :=
  List.dropWhile_append_of_pos h

/-- A line end and an indentation are blanks. -/
lemma isSpace_of_mem_newline {depth : Nat} {c : Char} (h : c ∈ newline depth) :
    isSpace c = true := by
  rcases List.mem_cons.1 h with rfl | h
  · rfl
  · rw [(List.mem_replicate.1 h).2]
    rfl

/-- A line end and an indentation are skipped. -/
lemma skipSpace_newline (depth : Nat) (text : List Char) :
    skipSpace (newline depth ++ text) = skipSpace text :=
  skipSpace_append (fun _ => isSpace_of_mem_newline) text

/-- A text that starts with no blank is left as it is. -/
lemma skipSpace_cons {c : Char} (h : isSpace c = false) (text : List Char) :
    skipSpace (c :: text) = c :: text :=
  List.dropWhile_cons_of_neg (by simp [h])

/-! ### Values -/

/-- A value whose numbers have a value and whose strings and names have a text. -/
inductive Value.Plain : Value → Prop where
  | null : Plain .null
  | bool (b : Bool) : Plain (.bool b)
  | number (n : Nat) : Plain (.number (some n))
  | string (s : String) : Plain (.string (some s))
  | array {items : List Value} (hitems : ∀ v ∈ items, Plain v) : Plain (.array items)
  | object {fields : List (Option String × Value)} (hnames : ∀ f ∈ fields, f.1.isSome = true)
      (hvalues : ∀ f ∈ fields, Plain f.2) : Plain (.object fields)

/-- A value is read back from its indented text at every depth, in front of a text that does not go
on with a number, with fuel for twice the length of its text. -/
def Value.ReadsBack (v : Value) : Prop :=
  ∀ (depth fuel : Nat) (rest : List Char), EndsNumber rest →
    2 * (prettyChars depth v).length ≤ fuel →
    readValue fuel (prettyChars depth v ++ rest) = some (v, rest)

/-- A number starts with a digit. -/
lemma exists_digits_eq_cons (n : Nat) : ∃ c rest, digits n = c :: rest ∧ isDecimal c = true := by
  obtain ⟨c, rest, h⟩ := List.exists_cons_of_ne_nil (Nat.toDigits_ne_nil (b := 10) (n := n))
  refine ⟨c, rest, h, isDecimal_of_mem_toDigits (n := n) ?_⟩
  rw [h]
  exact List.mem_cons_self

/-- A digit is no character that is no digit. -/
lemma ne_of_isDecimal {c d : Char} (hc : isDecimal c = true) (hd : isDecimal d = false) :
    c ≠ d := by
  rintro rfl
  simp [hc] at hd

/-- A digit is no blank. -/
lemma isSpace_of_isDecimal {c : Char} (h : isDecimal c = true) : isSpace c = false := by
  simp [isSpace, ne_of_isDecimal h (d := ' ') rfl, ne_of_isDecimal h (d := '\n') rfl,
    ne_of_isDecimal h (d := '\t') rfl, ne_of_isDecimal h (d := '\r') rfl]

/-- The text of a value starts with no blank and no closing bracket. -/
lemma exists_prettyChars_eq_cons (depth : Nat) (v : Value) :
    ∃ c rest, prettyChars depth v = c :: rest ∧ isSpace c = false ∧ c ≠ ']' := by
  cases v with
  | null => exact ⟨_, _, rfl, rfl, by decide⟩
  | bool b => cases b <;> exact ⟨_, _, rfl, rfl, by decide⟩
  | number n =>
    cases n with
    | none => exact ⟨_, _, rfl, rfl, by decide⟩
    | some n =>
      obtain ⟨c, rest, h, hc⟩ := exists_digits_eq_cons n
      exact ⟨c, rest, h, isSpace_of_isDecimal hc, ne_of_isDecimal hc rfl⟩
  | string s => cases s <;> exact ⟨_, _, rfl, rfl, by decide⟩
  | array items => cases items <;> exact ⟨_, _, rfl, rfl, by decide⟩
  | object fields => cases fields <;> exact ⟨_, _, rfl, rfl, by decide⟩

/-- A value behind blanks is read as without them. -/
lemma readValue_append {blank : List Char} (h : ∀ c ∈ blank, isSpace c = true) (fuel : Nat)
    (text : List Char) : readValue fuel (blank ++ text) = readValue fuel text := by
  cases fuel with
  | zero => rfl
  | succ fuel => rw [readValue, readValue, skipSpace_append h]

/-- Fields behind blanks are read as without them. -/
lemma readFields_append {blank : List Char} (h : ∀ c ∈ blank, isSpace c = true) (fuel : Nat)
    (text : List Char) : readFields fuel (blank ++ text) = readFields fuel text := by
  cases fuel with
  | zero => rfl
  | succ fuel => rw [readFields, readFields, skipSpace_append h]

/-- Items behind blanks are read as without them. -/
lemma readItems_append {blank : List Char} (h : ∀ c ∈ blank, isSpace c = true) (fuel : Nat)
    (text : List Char) : readItems fuel (blank ++ text) = readItems fuel text := by
  cases fuel with
  | zero => rfl
  | succ fuel => rw [readItems, readItems, readValue_append h]

/-- A number ends at a comma. -/
lemma endsNumber_comma (text : List Char) : EndsNumber (',' :: text) := by
  rintro c hc
  obtain rfl := Option.some.inj hc
  decide

/-- A number ends at a line end. -/
lemma endsNumber_newline (depth : Nat) (text : List Char) : EndsNumber (newline depth ++ text) := by
  rintro c hc
  obtain rfl := Option.some.inj hc
  decide

/-- **Items are read back.** -/
lemma readItems_prettyItems {depth : Nat} {v : Value} {vs : List Value} (hv : v.ReadsBack)
    (hvs : ∀ w ∈ vs, w.ReadsBack) {fuel : Nat} {rest : List Char}
    (hfuel : 2 * ((prettyChars (depth + 1) v).length + (prettyItems depth vs).length) + 1 ≤ fuel) :
    readItems fuel (prettyChars (depth + 1) v ++ (prettyItems depth vs ++ rest)) =
      some (v :: vs, rest) := by
  induction vs generalizing v fuel with
  | nil =>
    obtain _ | fuel := fuel
    · simp at hfuel
    rw [readItems, prettyItems, List.append_assoc, hv _ _ _ (endsNumber_newline _ _) (by omega)]
    simp only [Option.bind_eq_bind, Option.bind_some, skipSpace_newline]
    rfl
  | cons w ws ih =>
    obtain _ | fuel := fuel
    · simp at hfuel
    obtain ⟨hw, hws⟩ := List.forall_mem_cons.1 hvs
    simp only [prettyItems, List.length_cons, List.length_append] at hfuel
    simp only [prettyItems, List.append_assoc, List.cons_append]
    rw [readItems, hv _ _ _ (endsNumber_comma _) (by omega)]
    simp only [Option.bind_eq_bind, Option.bind_some, skipSpace_cons (c := ',') rfl]
    rw [readItems_append fun _ => isSpace_of_mem_newline, ih hw hws (by omega)]
    rfl

/-- **Fields are read back.**

**Proof sketch.** Induction on the fields behind the first. The name of a field and its value are
read for themselves, and then either a brace closes the object or a comma leads to the next field,
behind a new line. -/
lemma readFields_prettyFields {depth : Nat} {name : String} {v : Value}
    {fs : List (Option String × Value)} (hv : v.ReadsBack) (hnames : ∀ f ∈ fs, f.1.isSome = true)
    (hfs : ∀ f ∈ fs, f.2.ReadsBack) {fuel : Nat} {rest : List Char}
    (hfuel : 2 * ((prettyChars (depth + 1) v).length + (prettyFields depth fs).length) + 1 ≤ fuel) :
    readFields fuel (quote name ++
        (':' :: ' ' :: (prettyChars (depth + 1) v ++ (prettyFields depth fs ++ rest)))) =
      some ((some name, v) :: fs, rest) := by
  have hspace : ∀ c ∈ [' '], isSpace c = true := List.forall_mem_singleton.2 rfl
  induction fs generalizing name v fuel with
  | nil =>
    obtain _ | fuel := fuel
    · simp at hfuel
    have hvalue : ∀ text, EndsNumber text →
        readValue fuel (' ' :: (prettyChars (depth + 1) v ++ text)) = some (v, text) :=
      fun text htext => (readValue_append hspace fuel _).trans (hv _ _ _ htext (by omega))
    rw [readFields, quote, List.cons_append, skipSpace_cons (c := '"') rfl]
    simp only [prettyFields, List.append_assoc, List.singleton_append, readString_quote,
      Option.bind_eq_bind, Option.bind_some, skipSpace_cons (c := ':') rfl,
      hvalue _ (endsNumber_newline _ _), skipSpace_newline, skipSpace_cons (c := '\x7d') rfl]
  | cons f fs ih =>
    obtain _ | fuel := fuel
    · simp at hfuel
    obtain ⟨hname, hnames'⟩ := List.forall_mem_cons.1 hnames
    obtain ⟨hf, hfs'⟩ := List.forall_mem_cons.1 hfs
    obtain ⟨next, w⟩ := f
    obtain ⟨next, rfl⟩ := Option.isSome_iff_exists.1 hname
    have hw : w.ReadsBack := hf
    simp only [prettyFields, List.length_cons, List.length_append] at hfuel
    have hvalue : ∀ text, EndsNumber text →
        readValue fuel (' ' :: (prettyChars (depth + 1) v ++ text)) = some (v, text) :=
      fun text htext => (readValue_append hspace fuel _).trans (hv _ _ _ htext (by omega))
    have hblank : ∀ c ∈ newline depth, isSpace c = true := fun _ => isSpace_of_mem_newline
    have hrest : readFields fuel (newline depth ++ (quote next ++
        ':' :: ' ' :: (prettyChars (depth + 1) w ++ (prettyFields depth fs ++ rest)))) =
          some ((some next, w) :: fs, rest) :=
      (readFields_append hblank fuel _).trans (ih hw hnames' hfs' (by omega))
    rw [readFields, quote, List.cons_append, skipSpace_cons (c := '"') rfl]
    simp only [prettyFields, fieldName, Option.getD_some, List.append_assoc, List.cons_append,
      List.nil_append, readString_quote, Option.bind_eq_bind, Option.bind_some,
      skipSpace_cons (c := ':') rfl, hvalue _ (endsNumber_comma _), skipSpace_cons (c := ',') rfl,
      hrest]

/-! ### Texts of values -/

/-- A text has at least one character, so there is fuel for a step. -/
lemma readsBack_of_succ {v : Value}
    (h : ∀ (depth fuel : Nat) (rest : List Char), EndsNumber rest →
      2 * (prettyChars depth v).length ≤ fuel + 1 →
      readValue (fuel + 1) (prettyChars depth v ++ rest) = some (v, rest)) : v.ReadsBack := by
  intro depth fuel rest hrest hfuel
  obtain ⟨c, more, htext, -, -⟩ := exists_prettyChars_eq_cons depth v
  obtain _ | fuel := fuel
  · simp [htext] at hfuel
  · exact h depth fuel rest hrest hfuel

/-- A text that starts with a digit is read as a number. -/
lemma readValue_of_isDecimal {c : Char} (hc : isDecimal c = true) (fuel : Nat) (rest : List Char) :
    readValue (fuel + 1) (c :: rest) = readNumber (c :: rest) := by
  have hnull := ne_of_isDecimal hc (d := 'n') rfl
  have htrue := ne_of_isDecimal hc (d := 't') rfl
  have hfalse := ne_of_isDecimal hc (d := 'f') rfl
  have hstring := ne_of_isDecimal hc (d := '"') rfl
  have harray := ne_of_isDecimal hc (d := '[') rfl
  have hobject := ne_of_isDecimal hc (d := '\x7b') rfl
  rw [readValue, skipSpace_cons (isSpace_of_isDecimal hc)]
  split <;> simp_all

/-- A number is read back. -/
lemma readsBack_number (n : Nat) : (Value.number (some n)).ReadsBack := by
  refine readsBack_of_succ fun depth fuel rest hrest _ => ?_
  obtain ⟨c, more, hdigits, hc⟩ := exists_digits_eq_cons n
  have htext : prettyChars depth (.number (some n)) = digits n := rfl
  rw [htext, ← readNumber_digits n hrest, hdigits, List.cons_append, readValue_of_isDecimal hc]

/-- A string is read back. -/
lemma readsBack_string (s : String) : (Value.string (some s)).ReadsBack := by
  refine readsBack_of_succ fun depth fuel rest _ _ => ?_
  have htext : prettyChars depth (.string (some s)) = quote s := rfl
  rw [htext, quote, List.cons_append, readValue, skipSpace_cons (c := '"') rfl]
  simp only [List.append_assoc, List.singleton_append, readString_quote, Option.map_some]

/-- An array of values that are read back is read back. -/
lemma readsBack_array {items : List Value} (h : ∀ v ∈ items, v.ReadsBack) :
    (Value.array items).ReadsBack := by
  refine readsBack_of_succ fun depth fuel rest _ hfuel => ?_
  cases items with
  | nil => rfl
  | cons v vs =>
    obtain ⟨hv, hvs⟩ := List.forall_mem_cons.1 h
    obtain ⟨c, more, hmore, hspace, hbracket⟩ := exists_prettyChars_eq_cons (depth + 1) v
    simp only [prettyChars, List.length_cons, List.length_append] at hfuel
    have hitems : readItems fuel (prettyChars (depth + 1) v ++ (prettyItems depth vs ++ rest)) =
        some (v :: vs, rest) := readItems_prettyItems hv hvs (by omega)
    simp only [prettyChars, List.append_assoc, List.cons_append]
    rw [readValue, skipSpace_cons (c := '[') rfl]
    simp only [skipSpace_newline]
    rw [hmore] at hitems ⊢
    simp only [List.cons_append] at hitems ⊢
    rw [skipSpace_cons hspace]
    split
    · simp_all
    · rw [hitems]
      rfl

/-- An object with names that are texts and values that are read back is read back. -/
lemma readsBack_object {fields : List (Option String × Value)}
    (hnames : ∀ f ∈ fields, f.1.isSome = true) (h : ∀ f ∈ fields, f.2.ReadsBack) :
    (Value.object fields).ReadsBack := by
  refine readsBack_of_succ fun depth fuel rest _ hfuel => ?_
  cases fields with
  | nil => rfl
  | cons f fs =>
    obtain ⟨hname, hnames'⟩ := List.forall_mem_cons.1 hnames
    obtain ⟨hf, hfs⟩ := List.forall_mem_cons.1 h
    obtain ⟨name, v⟩ := f
    obtain ⟨name, rfl⟩ := Option.isSome_iff_exists.1 hname
    have hv : v.ReadsBack := hf
    simp only [prettyChars, List.length_cons, List.length_append] at hfuel
    have hfields : readFields fuel (quote name ++
        ':' :: ' ' :: (prettyChars (depth + 1) v ++ (prettyFields depth fs ++ rest))) =
          some ((some name, v) :: fs, rest) := readFields_prettyFields hv hnames' hfs (by omega)
    simp only [prettyChars, fieldName, Option.getD_some, List.append_assoc, List.cons_append]
    rw [readValue, skipSpace_cons (c := '\x7b') rfl]
    rw [quote, List.cons_append] at hfields ⊢
    simp only [skipSpace_newline, skipSpace_cons (c := '"') rfl]
    split
    · simp_all
    · rw [hfields]
      rfl

/-- **A plain value is read back.**

**Proof sketch.** Induction on the value; the lists of items and fields have inductions of their
own. -/
lemma Value.Plain.readsBack {v : Value} (h : v.Plain) : v.ReadsBack := by
  induction h with
  | null => exact readsBack_of_succ fun _ _ _ _ _ => rfl
  | bool b => cases b <;> exact readsBack_of_succ fun _ _ _ _ _ => rfl
  | number n => exact readsBack_number n
  | string s => exact readsBack_string s
  | array _ ih => exact readsBack_array ih
  | object hnames _ ih => exact readsBack_object hnames ih

/-- **The indented text of a plain value is read as the value.** -/
theorem Value.Plain.read?_pretty {v : Value} (h : v.Plain) :
    Value.read? v.pretty.toList = some v := by
  have hend : EndsNumber [] := by simp [EndsNumber]
  have hread := h.readsBack 1 (2 * (prettyChars 1 v).length + 2) [] hend (by omega)
  rw [List.append_nil] at hread
  rw [Value.read?, Value.pretty, String.toList_ofList, hread]
  rfl

end ImportAtlas.Json
