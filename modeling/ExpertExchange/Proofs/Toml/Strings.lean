import ExpertExchange.Toml.Writer
import Mathlib.Tactic.IntervalCases
import Mathlib.Tactic.Lemma
import Mathlib.Tactic.SplitIfs

/-!
# Written strings are read back

What stands for a character between the marks is read as that character, and in a long form no
marks but the last ones end the text. So every string is read back from its written form, whichever
form suits it.
-/

namespace ExpertExchange.Toml

/-- The characters that stand for `c` between quotation marks. A mark itself is not among these:
whether it needs an escape depends on those before it. -/
inductive Piece (long : Bool) (c : Char) : List Char → Prop where
  | plain (hmark : c ≠ '"') (hescape : c ≠ '\\') (hplain : isPlain c || (long && c == '\n')) :
      Piece long c [c]
  | letter (e : Char) (hletter : Text.escaped? e = some c) : Piece long c ['\\', e]
  | code (a b : Char) (ha : a ≠ '"' ∧ a ≠ '\\') (hb : b ≠ '"' ∧ b ≠ '\\')
      (hcode : Text.codePoint? ['0', '0', a, b] = some c) : Piece long c ['\\', 'u', '0', '0', a, b]

/-- What is written for a character that is no quotation mark. -/
def pieceOf (long : Bool) (c : Char) : List Char :=
  if c = '\n' then if long then ['\n'] else ['\\', 'n'] else (Form.escape? c).getD [c]

lemma escaped_cons_of_ne {long : Bool} {run : Nat} {c : Char} {cs : List Char} (h : c ≠ '"') :
    Form.escaped long run (c :: cs) = pieceOf long c ++ Form.escaped long 0 cs := by
  rw [Form.escaped, if_neg h, pieceOf]
  split
  · cases long <;> rfl
  · rfl

lemma hexDigit_ne : ∀ n < 16, Form.hexDigit n ≠ '"' ∧ Form.hexDigit n ≠ '\\' := by
  decide

lemma hexValue?_hexDigit : ∀ n < 16, Text.hexValue? (Form.hexDigit n) = some n := by
  decide

/-- Two hexadecimal digits are read as the code point that they write. -/
lemma codePoint?_hexDigits {c : Char} (h : c.toNat < 256) :
    Text.codePoint? ['0', '0', Form.hexDigit (c.toNat / 16), Form.hexDigit (c.toNat % 16)] =
      some c := by
  have hhigh := hexValue?_hexDigit (c.toNat / 16) (by omega)
  have hlow := hexValue?_hexDigit (c.toNat % 16) (by omega)
  have hzero : Text.hexValue? '0' = some 0 := by decide
  have hnumber : 16 * (c.toNat / 16) + c.toNat % 16 = c.toNat := by omega
  have hvalid : c.toNat.isValidChar := c.valid
  unfold Text.codePoint? Text.hexNumber?
  simp [List.foldlM_cons, hzero, hhigh, hlow, hnumber, hvalid]

lemma isPlain_of_le {c : Char} (hspace : ¬ c < ' ') (hdelete : c ≠ '\x7f') : isPlain c := by
  unfold isPlain
  simp only [Bool.or_eq_true, Bool.and_eq_true, bne_iff_ne, decide_eq_true_eq]
  exact Or.inr ⟨Char.not_lt.1 hspace, hdelete⟩

lemma piece_pieceOf {long : Bool} {c : Char} (h : c ≠ '"') : Piece long c (pieceOf long c) := by
  unfold pieceOf Form.escape?
  by_cases hbreak : c = '\n'
  · subst hbreak
    cases long with
    | false => exact .letter 'n' rfl
    | true => exact .plain (by decide) (by decide) rfl
  rw [if_neg hbreak]
  split_ifs with hb ht hf hr hescape hcontrol
  · exact .letter 'b' (by rw [hb]; rfl)
  · exact .letter 't' (by rw [ht]; rfl)
  · exact .letter 'f' (by rw [hf]; rfl)
  · exact .letter 'r' (by rw [hr]; rfl)
  · exact .letter '\\' (by rw [hescape]; rfl)
  · have hsmall : c.toNat < 256 := by
      rcases hcontrol with hlt | rfl
      · exact Nat.lt_trans (show c.toNat < 32 from hlt) (by decide)
      · decide
    exact .code _ _ (hexDigit_ne _ (by omega)) (hexDigit_ne _ (by omega))
      (codePoint?_hexDigits hsmall)
  · rw [not_or] at hcontrol
    exact .plain h hescape (by rw [isPlain_of_le hcontrol.1 hcontrol.2]; rfl)

variable {long : Bool} {run : Nat} {c : Char} {cs p rest tail : List Char}

lemma unescape_plain (hescape : c ≠ '\\') (hplain : isPlain c || (long && c == '\n')) :
    Text.unescape long (c :: tail) = (Text.unescape long tail).map (c :: ·) := by
  have hreturn : c ≠ '\r' := by
    rintro rfl
    revert hplain
    cases long <;> decide
  rw [Text.unescape.eq_def]
  simp [hescape, hreturn, hplain]

lemma endsLine_letter {e : Char} (h : Text.escaped? e = some c) :
    Text.endsLine (e :: tail) = false := by
  unfold Text.escaped? at h
  split at h <;> first | rfl | cases h

lemma unescape_letter {e : Char} (h : Text.escaped? e = some c) :
    Text.unescape long ('\\' :: e :: tail) = (Text.unescape long tail).map (c :: ·) := by
  rw [Text.unescape, endsLine_letter h, Bool.and_false, h]
  · cases Text.unescape long tail <;> rfl
  · rintro _ _ _ _ _ ⟨⟩
    cases h
  · rintro _ _ _ _ _ _ _ _ _ ⟨⟩
    cases h

lemma Piece.unescape (h : Piece long c p) :
    Text.unescape long (p ++ tail) = (Text.unescape long tail).map (c :: ·) := by
  cases h with
  | plain hmark hescape hplain => exact unescape_plain hescape hplain
  | letter e hletter => exact unescape_letter hletter
  | code a b ha hb hcode =>
    rw [List.cons_append, List.cons_append, List.cons_append, List.cons_append, List.cons_append,
      List.cons_append, List.nil_append, Text.unescape, hcode]
    cases Text.unescape long tail <;> rfl

/-- The escapes of a text are taken out again. -/
lemma unescape_escaped : Text.unescape long (Form.escaped long run cs) = some cs := by
  induction cs generalizing run with
  | nil => rw [Form.escaped, Text.unescape]
  | cons c cs ih =>
    by_cases hmark : c = '"'
    · subst hmark
      rw [Form.escaped, if_pos rfl]
      split
      · rw [unescape_plain (by decide) rfl, ih]
        rfl
      · rw [unescape_letter (c := '"') rfl, ih]
        rfl
    · rw [escaped_cons_of_ne hmark, (piece_pieceOf hmark).unescape, ih]
      rfl

lemma splitBasic_cons (hmark : c ≠ '"') (hescape : c ≠ '\\') :
    Text.splitBasic (c :: tail) = (Text.splitBasic tail).map fun r => (c :: r.1, r.2) := by
  rw [Text.splitBasic]
  · exact hmark
  · intro _ _ h
    exact absurd h hescape

lemma Piece.splitBasic (h : Piece long c p) :
    Text.splitBasic (p ++ tail) = (Text.splitBasic tail).map fun r => (p ++ r.1, r.2) := by
  cases h with
  | plain hmark hescape _ => exact splitBasic_cons hmark hescape
  | letter e _ => rfl
  | code a b ha hb _ =>
    simp only [List.cons_append, List.nil_append, Text.splitBasic,
      splitBasic_cons (c := '0') (by decide) (by decide), splitBasic_cons ha.1 ha.2,
      splitBasic_cons hb.1 hb.2, Option.map_map]
    rfl

lemma splitBasic_escaped :
    Text.splitBasic (Form.escaped false run cs ++ '"' :: rest) =
      some (Form.escaped false run cs, rest) := by
  induction cs generalizing run with
  | nil => rfl
  | cons c cs ih =>
    by_cases hmark : c = '"'
    · subst hmark
      simp [Form.escaped, Text.splitBasic, ih]
    · rw [escaped_cons_of_ne hmark, List.append_assoc, (piece_pieceOf hmark).splitBasic, ih]
      rfl

/-- Up to two marks after three of them are taken into the text. -/
lemma takeMarks_replicate {mark : Char} (hrun : run ≤ 2) (hrest : rest.head? ≠ some mark) :
    Text.takeMarks mark (List.replicate run mark ++ rest) = (List.replicate run mark, rest) := by
  interval_cases run
  · cases rest with
    | nil => rfl
    | cons a tail =>
      have ha : a ≠ mark := by simpa using hrest
      cases tail <;> simp [Text.takeMarks, ha]
  · cases rest with
    | nil => simp [Text.takeMarks]
    | cons a tail =>
      have ha : a ≠ mark := by simpa using hrest
      simp [Text.takeMarks, ha]
  · simp [Text.takeMarks, List.replicate_succ]

/-- It does not matter which three of some marks in a row are the closing ones. -/
lemma replicate_append_marks {mark : Char} :
    List.replicate run mark ++ mark :: mark :: mark :: rest =
      mark :: mark :: mark :: (List.replicate run mark ++ rest) := by
  induction run with
  | zero => rfl
  | succ run ih => rw [List.replicate_succ, List.cons_append, ih, List.cons_append]

lemma splitLongBasic_cons (hmark : c ≠ '"') (hescape : c ≠ '\\') :
    Text.splitLongBasic (c :: tail) =
      (Text.splitLongBasic tail).map fun r => (c :: r.1, r.2) := by
  rw [Text.splitLongBasic]
  · intro _ h
    exact absurd h hmark
  · intro _ _ h
    exact absurd h hescape

/-- Fewer than three marks before another character do not end the text. -/
lemma splitLongBasic_marks (hrun : run ≤ 2) (hmark : c ≠ '"') :
    Text.splitLongBasic (List.replicate run '"' ++ c :: tail) =
      (Text.splitLongBasic (c :: tail)).map fun r => (List.replicate run '"' ++ r.1, r.2) := by
  have hone : Text.splitLongBasic ('"' :: c :: tail) =
      (Text.splitLongBasic (c :: tail)).map fun r => ('"' :: r.1, r.2) := by
    rw [Text.splitLongBasic]
    · rintro _ - ⟨⟩
      exact hmark rfl
    · rintro _ _ ⟨⟩
  have htwo : Text.splitLongBasic ('"' :: '"' :: c :: tail) =
      (Text.splitLongBasic ('"' :: c :: tail)).map fun r => ('"' :: r.1, r.2) := by
    rw [Text.splitLongBasic]
    · rintro _ - ⟨⟩
      exact hmark rfl
    · rintro _ _ ⟨⟩
  interval_cases run
  · simp
  · exact hone
  · rw [show List.replicate 2 '"' ++ c :: tail = '"' :: '"' :: c :: tail from rfl, htwo, hone,
      Option.map_map]
    rfl

lemma Piece.splitLongBasic (h : Piece long c p) :
    Text.splitLongBasic (p ++ tail) =
      (Text.splitLongBasic tail).map fun r => (p ++ r.1, r.2) := by
  cases h with
  | plain hmark hescape _ => exact splitLongBasic_cons hmark hescape
  | letter e _ => rfl
  | code a b ha hb _ =>
    simp only [List.cons_append, List.nil_append, Text.splitLongBasic,
      splitLongBasic_cons (c := '0') (by decide) (by decide), splitLongBasic_cons ha.1 ha.2,
      splitLongBasic_cons hb.1 hb.2, Option.map_map]
    rfl

lemma Piece.exists_cons (h : Piece long c p) : ∃ d q, p = d :: q ∧ d ≠ '"' := by
  cases h with
  | plain hmark _ _ => exact ⟨_, _, rfl, hmark⟩
  | letter e _ => exact ⟨_, _, rfl, by decide⟩
  | code a b _ _ _ => exact ⟨_, _, rfl, by decide⟩

lemma Piece.splitLongBasic_marks (h : Piece long c p) (hrun : run ≤ 2) :
    Text.splitLongBasic (List.replicate run '"' ++ (p ++ tail)) =
      (Text.splitLongBasic tail).map fun r => (List.replicate run '"' ++ (p ++ r.1), r.2) := by
  obtain ⟨d, q, hp, hd⟩ := h.exists_cons
  have hsplit : Text.splitLongBasic (p ++ tail) = _ := h.splitLongBasic
  rw [hp, List.cons_append] at hsplit ⊢
  rw [Toml.splitLongBasic_marks hrun hd, hsplit, Option.map_map]
  rfl

/-- The three marks at the end are found, and up to two marks before them belong to the text. -/
lemma splitLongBasic_end (hrun : run ≤ 2) (hrest : rest.head? ≠ some '"') :
    Text.splitLongBasic (List.replicate run '"' ++ '"' :: '"' :: '"' :: rest) =
      some (List.replicate run '"', rest) := by
  rw [replicate_append_marks, Text.splitLongBasic, takeMarks_replicate hrun hrest]

/-- A long text with escapes, after marks that have been counted, is found up to its end. -/
lemma splitLongBasic_escaped (hrun : run ≤ 2) (hrest : rest.head? ≠ some '"') :
    Text.splitLongBasic
        (List.replicate run '"' ++ (Form.escaped true run cs ++ '"' :: '"' :: '"' :: rest)) =
      some (List.replicate run '"' ++ Form.escaped true run cs, rest) := by
  -- The marks that stand before `cs` are carried along: only the next character shows whether they
  -- belong to the text or to the marks at its end.
  induction cs generalizing run with
  | nil =>
    rw [Form.escaped, List.nil_append, List.append_nil]
    exact splitLongBasic_end hrun hrest
  | cons c cs ih =>
    have hcs : Text.splitLongBasic (Form.escaped true 0 cs ++ '"' :: '"' :: '"' :: rest) =
        some (Form.escaped true 0 cs, rest) := by
      simpa using ih (Nat.zero_le 2)
    by_cases hmark : c = '"'
    · subst hmark
      by_cases hfew : run < 2
      · have hmore := ih (show run + 1 ≤ 2 from hfew)
        rw [List.replicate_succ', List.append_assoc, List.append_assoc] at hmore
        rw [Form.escaped, if_pos rfl, if_pos (by simpa using hfew)]
        exact hmore
      · -- a third mark in a row has an escape, and after it the count starts anew
        have hescape : Piece true '"' ['\\', '"'] := .letter '"' rfl
        have hescaped : Form.escaped true run ('"' :: cs) = ['\\', '"'] ++ Form.escaped true 0 cs := by
          rw [Form.escaped, if_pos rfl, if_neg (by simpa using hfew)]
          rfl
        rw [hescaped, List.append_assoc, hescape.splitLongBasic_marks hrun, hcs]
        rfl
    · rw [escaped_cons_of_ne hmark, List.append_assoc,
        (piece_pieceOf hmark).splitLongBasic_marks hrun, hcs]
      rfl

lemma verbatim_eq (h : ∀ c ∈ cs, isPlain c || (long && c == '\n')) :
    Text.verbatim long cs = some cs := by
  induction cs with
  | nil => rfl
  | cons c cs ih =>
    rw [List.forall_mem_cons] at h
    have hreturn : c ≠ '\r' := by
      rintro rfl
      have hplain := h.1
      revert hplain
      cases long <;> decide
    rw [Text.verbatim, if_pos h.1, ih h.2]
    · rfl
    · intro _ hc
      exact absurd hc hreturn

lemma splitLiteral_append (h : ∀ c ∈ cs, c ≠ '\'') :
    Text.splitLiteral (cs ++ '\'' :: rest) = some (cs, rest) := by
  induction cs with
  | nil => rfl
  | cons c cs ih =>
    rw [List.forall_mem_cons] at h
    rw [List.cons_append, Text.splitLiteral, ih h.2]
    · rfl
    · exact h.1

/-- Fewer than three apostrophes before another character do not end the text. -/
lemma splitLongLiteral_marks (hrun : run ≤ 2) (hmark : c ≠ '\'') :
    Text.splitLongLiteral (List.replicate run '\'' ++ c :: tail) =
      (Text.splitLongLiteral tail).map fun r => (List.replicate run '\'' ++ c :: r.1, r.2) := by
  have hnone : Text.splitLongLiteral (c :: tail) =
      (Text.splitLongLiteral tail).map fun r => (c :: r.1, r.2) := by
    rw [Text.splitLongLiteral]
    intro _ h
    exact absurd h hmark
  have hone : Text.splitLongLiteral ('\'' :: c :: tail) =
      (Text.splitLongLiteral (c :: tail)).map fun r => ('\'' :: r.1, r.2) := by
    rw [Text.splitLongLiteral]
    rintro _ - ⟨⟩
    exact hmark rfl
  have htwo : Text.splitLongLiteral ('\'' :: '\'' :: c :: tail) =
      (Text.splitLongLiteral ('\'' :: c :: tail)).map fun r => ('\'' :: r.1, r.2) := by
    rw [Text.splitLongLiteral]
    rintro _ - ⟨⟩
    exact hmark rfl
  interval_cases run
  · exact hnone
  · rw [show List.replicate 1 '\'' ++ c :: tail = '\'' :: c :: tail from rfl, hone, hnone,
      Option.map_map]
    rfl
  · rw [show List.replicate 2 '\'' ++ c :: tail = '\'' :: '\'' :: c :: tail from rfl, htwo, hone,
      hnone, Option.map_map, Option.map_map]
    rfl

lemma splitLongLiteral_append (hruns : Form.runsWithin '\'' 2 run cs)
    (hrest : rest.head? ≠ some '\'') :
    Text.splitLongLiteral
        (List.replicate run '\'' ++ (cs ++ '\'' :: '\'' :: '\'' :: rest)) =
      some (List.replicate run '\'' ++ cs, rest) := by
  induction cs generalizing run with
  | nil =>
    have hrun : run ≤ 2 := by simpa [Form.runsWithin] using hruns
    rw [List.nil_append, List.append_nil, replicate_append_marks, Text.splitLongLiteral,
      takeMarks_replicate hrun hrest]
  | cons c cs ih =>
    by_cases hmark : c = '\''
    · subst hmark
      rw [Form.runsWithin, if_pos rfl] at hruns
      have hmore := ih hruns
      rw [List.replicate_succ', List.append_assoc, List.append_assoc] at hmore
      exact hmore
    · rw [Form.runsWithin, if_neg hmark, Bool.and_eq_true] at hruns
      have hrun : run ≤ 2 := by simpa using hruns.1
      have hcs : Text.splitLongLiteral (cs ++ '\'' :: '\'' :: '\'' :: rest) = some (cs, rest) := by
        simpa using ih hruns.2
      rw [List.cons_append, splitLongLiteral_marks hrun hmark, hcs]
      rfl

lemma ne_breaks_of_isPlain (h : isPlain c) : c ≠ '\n' ∧ c ≠ '\r' := by
  constructor
  · rintro rfl
    cases h
  · rintro rfl
    cases h

/-- The break after the opening marks is dropped, and nothing is dropped where there is none. -/
lemma dropFirstBreak_write (h : '\n' ∉ cs → ∀ c ∈ tail.head?, c ≠ '\n' ∧ c ≠ '\r') :
    Text.dropFirstBreak ((if cs.contains '\n' then ['\n'] else []) ++ tail) = tail := by
  by_cases hbreak : '\n' ∈ cs
  · rw [if_pos (by simpa using hbreak)]
    rfl
  · rw [if_neg (by simpa using hbreak), List.nil_append]
    cases tail with
    | nil => rfl
    | cons c tail =>
      obtain ⟨hline, hreturn⟩ := h hbreak c rfl
      rw [Text.dropFirstBreak]
      · rintro _ ⟨⟩
        exact hline rfl
      · rintro _ ⟨⟩
        exact hreturn rfl

lemma read?_basic :
    Text.read? (Form.write .basic cs ++ '\n' :: rest) =
      some (String.ofList cs, '\n' :: rest) := by
  have hwritten : Form.write .basic cs ++ '\n' :: rest =
      '"' :: (Form.escaped false 0 cs ++ '"' :: '\n' :: rest) := by
    simp [Form.write, Form.delimiter, Form.isLong, Form.body]
  -- Only an empty text starts with two marks, and no third one follows.
  have hshort : ∀ tail, Form.escaped false 0 cs ++ '"' :: '\n' :: rest ≠ '"' :: '"' :: tail := by
    intro tail
    cases cs with
    | nil => simp [Form.escaped]
    | cons c cs =>
      by_cases hmark : c = '"'
      · simp [Form.escaped, hmark]
      · have hpiece : Piece false c (pieceOf false c) := piece_pieceOf hmark
        obtain ⟨d, q, hp, hd⟩ := hpiece.exists_cons
        simp [escaped_cons_of_ne hmark, hp, hd]
  rw [hwritten, Text.read?, Text.short?, splitBasic_escaped]
  · simp [Text.finish, unescape_escaped]
  · intro tail h
    exact hshort tail (List.cons.inj h).2
  · rintro _ ⟨⟩

lemma read?_literal (h : Form.suits .literal cs) :
    Text.read? (Form.write .literal cs ++ '\n' :: rest) =
      some (String.ofList cs, '\n' :: rest) := by
  have hwritten : Form.write .literal cs ++ '\n' :: rest =
      '\'' :: (cs ++ '\'' :: '\n' :: rest) := by
    simp [Form.write, Form.delimiter, Form.isLong, Form.body]
  have hchars : ∀ c ∈ cs, isPlain c ∧ c ≠ '\'' := by simpa [Form.suits] using h
  have hshort : ∀ tail, cs ++ '\'' :: '\n' :: rest ≠ '\'' :: '\'' :: tail := by
    intro tail
    cases cs with
    | nil => simp
    | cons c cs => simp [(hchars c List.mem_cons_self).2]
  rw [hwritten, Text.read?, Text.short?, splitLiteral_append fun c hc => (hchars c hc).2]
  · have hplain : ∀ c ∈ cs, isPlain c || (false && c == '\n') := by simpa using fun c hc =>
      (hchars c hc).1
    simp [Text.finish, verbatim_eq hplain]
  · rintro _ ⟨⟩
  · intro tail h
    exact hshort tail (List.cons.inj h).2

lemma Piece.head_ne_breaks (h : Piece long c p) (hc : c ≠ '\n') :
    ∀ d ∈ (p ++ tail).head?, d ≠ '\n' ∧ d ≠ '\r' := by
  cases h with
  | plain _ _ hplain =>
    have hplain : isPlain c := by simpa [hc] using hplain
    simpa using ne_breaks_of_isPlain hplain
  | letter e _ => simp
  | code a b _ _ _ => simp

/-- Where a text has no break, what is written for it does not start with one. -/
lemma head_escaped (hbreak : '\n' ∉ cs) :
    ∀ c ∈ (Form.escaped true 0 cs ++ '"' :: tail).head?, c ≠ '\n' ∧ c ≠ '\r' := by
  cases cs with
  | nil => simp [Form.escaped]
  | cons c cs =>
    by_cases hmark : c = '"'
    · simp [Form.escaped, hmark]
    · have hc : c ≠ '\n' := by
        rintro rfl
        exact hbreak List.mem_cons_self
      rw [escaped_cons_of_ne hmark, List.append_assoc]
      exact (piece_pieceOf hmark).head_ne_breaks hc

lemma read?_longBasic :
    Text.read? (Form.write .longBasic cs ++ '\n' :: rest) =
      some (String.ofList cs, '\n' :: rest) := by
  have hwritten : Form.write .longBasic cs ++ '\n' :: rest =
      '"' :: '"' :: '"' :: ((if cs.contains '\n' then ['\n'] else []) ++
        (Form.escaped true 0 cs ++ '"' :: '"' :: '"' :: '\n' :: rest)) := by
    simp [Form.write, Form.delimiter, Form.isLong, Form.body]
  have hsplit : Text.splitLongBasic (Form.escaped true 0 cs ++ '"' :: '"' :: '"' :: '\n' :: rest) =
      some (Form.escaped true 0 cs, '\n' :: rest) :=
    splitLongBasic_escaped (Nat.zero_le 2) (by simp)
  rw [hwritten, Text.read?, dropFirstBreak_write head_escaped, hsplit]
  simp [Text.finish, unescape_escaped]

lemma read?_longLiteral (h : Form.suits .longLiteral cs) :
    Text.read? (Form.write .longLiteral cs ++ '\n' :: rest) =
      some (String.ofList cs, '\n' :: rest) := by
  have hwritten : Form.write .longLiteral cs ++ '\n' :: rest =
      '\'' :: '\'' :: '\'' :: ((if cs.contains '\n' then ['\n'] else []) ++
        (cs ++ '\'' :: '\'' :: '\'' :: '\n' :: rest)) := by
    simp [Form.write, Form.delimiter, Form.isLong, Form.body]
  rw [Form.suits, Bool.and_eq_true, List.all_eq_true] at h
  obtain ⟨hchars, hruns⟩ := h
  have hhead : '\n' ∉ cs → ∀ c ∈ (cs ++ '\'' :: '\'' :: '\'' :: '\n' :: rest).head?,
      c ≠ '\n' ∧ c ≠ '\r' := by
    intro hbreak
    cases cs with
    | nil => simp
    | cons c cs =>
      have hc : c ≠ '\n' := by
        rintro rfl
        exact hbreak List.mem_cons_self
      have hplain : isPlain c := by simpa [hc] using hchars c List.mem_cons_self
      simpa using ne_breaks_of_isPlain hplain
  have hsplit : Text.splitLongLiteral (cs ++ '\'' :: '\'' :: '\'' :: '\n' :: rest) =
      some (cs, '\n' :: rest) :=
    splitLongLiteral_append hruns (by simp)
  rw [hwritten, Text.read?, dropFirstBreak_write hhead, hsplit]
  have hverbatim : Text.verbatim true cs = some cs := verbatim_eq (by simpa using hchars)
  simp [Text.finish, hverbatim]

/-- A text is written in a form that suits it, or in one with escapes. -/
lemma suits_choose (cs : List Char) :
    Form.suits (Form.choose cs) cs ∨ Form.choose cs = .basic ∨ Form.choose cs = .longBasic := by
  unfold Form.choose
  split
  next f hform => exact Or.inl (List.find?_some (p := fun f : Form => f.suits cs) hform)
  next =>
    by_cases hbreak : cs.contains '\n' = true
    · exact Or.inr (Or.inr (if_pos hbreak))
    · exact Or.inr (Or.inl (if_neg hbreak))

/-- Every string is read back from its written form. -/
lemma read?_writeString (s : String) :
    Text.read? (writeString s ++ '\n' :: rest) = some (s, '\n' :: rest) := by
  rw [writeString]
  have hsuits := suits_choose s.toList
  have hs : String.ofList s.toList = s := String.ofList_toList
  cases hform : Form.choose s.toList with
  | basic => rw [read?_basic, hs]
  | literal =>
    rw [hform] at hsuits
    rw [read?_literal (by simpa using hsuits), hs]
  | longBasic => rw [read?_longBasic, hs]
  | longLiteral =>
    rw [hform] at hsuits
    rw [read?_longLiteral (by simpa using hsuits), hs]

end ExpertExchange.Toml
