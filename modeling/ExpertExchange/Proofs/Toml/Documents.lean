import ExpertExchange.Proofs.Toml.Strings
import ExpertExchange.Toml.Reader
import ExpertExchange.Toml.Writer

/-!
# Written documents are read back

A document of a single table of strings, integers and truth values under keys that need no quotes
is read back as that table.
-/

namespace ExpertExchange.Toml

variable {c : Char} {cs rest v : List Char} {n : Nat}

/-- The value of a digit as the reader of decimal numbers sees it. -/
lemma value_of_isDigit (h : c.isDigit) :
    (Text.hexValue? c).filter (· < 10) = some (c.toNat - '0'.toNat) := by
  have hdigit : '0' ≤ c ∧ c ≤ '9' := by simpa [Char.isDigit, Char.le_def] using h
  have hsmall : c.toNat - '0'.toNat < 10 := by
    have hnine : c.toNat ≤ '9'.toNat := hdigit.2
    have h9 : '9'.toNat = 57 := rfl
    have h0 : '0'.toNat = 48 := rfl
    omega
  rw [Text.hexValue?, if_pos hdigit, Option.filter_some, if_pos (decide_eq_true hsmall)]

lemma ungrouped?_of_forall {isDigit : Char → Bool} (hne : cs ≠ []) (h : ∀ c ∈ cs, isDigit c)
    (hunderscore : isDigit '_' = false) : Scalar.ungrouped? isDigit cs = some cs := by
  induction cs with
  | nil => exact absurd rfl hne
  | cons c cs ih =>
    rw [List.forall_mem_cons] at h
    cases cs with
    | nil => rw [Scalar.ungrouped?, if_pos h.1]
    | cons d ds =>
      rw [Scalar.ungrouped?, if_pos h.1, ih (List.cons_ne_nil _ _) h.2]
      · rfl
      · rintro ⟨⟩
      · rintro _ _ ⟨⟩
        have hd := h.2 '_' List.mem_cons_self
        rw [hunderscore] at hd
        cases hd

lemma foldlM_digits (h : ∀ c ∈ cs, c.isDigit) :
    cs.foldlM (fun n c => ((Text.hexValue? c).filter (· < 10)).map (10 * n + ·)) n =
      some (Nat.ofDigitChars 10 cs n) := by
  induction cs generalizing n with
  | nil => rfl
  | cons c cs ih =>
    rw [List.forall_mem_cons] at h
    rw [List.foldlM_cons, value_of_isDigit h.1, Option.map_some, Nat.ofDigitChars_cons, ← ih h.2]
    rfl

lemma isDigit_of_mem (h : c ∈ Nat.toDigits 10 n) : c.isDigit :=
  Nat.isDigit_of_mem_toDigits (by decide) (by decide) h

/-- Decimal digits are read as the number that they write. -/
lemma number?_toDigits : Scalar.number? 10 (Nat.toDigits 10 n) = some n := by
  have hdigits : ∀ c ∈ Nat.toDigits 10 n, ((Text.hexValue? c).filter (· < 10)).isSome := by
    intro c hc
    rw [value_of_isDigit (isDigit_of_mem hc)]
    rfl
  have hungrouped := ungrouped?_of_forall Nat.toDigits_ne_nil hdigits (by decide)
  unfold Scalar.number?
  simp only [hungrouped]
  have hnumber := foldlM_digits (n := 0) fun c (hc : c ∈ Nat.toDigits 10 n) => isDigit_of_mem hc
  rw [Nat.ofDigitChars_ten_toDigits] at hnumber
  exact hnumber

/-- The digits of a number other than zero do not start with a zero. -/
lemma exists_toDigits_eq_cons (h : 0 < n) : ∃ d ds, Nat.toDigits 10 n = d :: ds ∧ d ≠ '0' := by
  induction n using Nat.strong_induction_on with
  | _ n ih =>
    by_cases hsmall : n < 10
    · refine ⟨n.digitChar, [], Nat.toDigits_of_lt_base hsmall, ?_⟩
      rw [ne_eq, Nat.digitChar_eq_zero]
      omega
    · obtain ⟨d, ds, hdigits, hd⟩ := ih (n / 10) (by omega) (by omega)
      refine ⟨d, ds ++ [(n % 10).digitChar], ?_, hd⟩
      rw [Nat.toDigits_of_base_le (by decide) (by omega), hdigits, List.cons_append]

lemma isCanonical_toDigits : Scalar.isCanonical (Nat.toDigits 10 n) := by
  by_cases hzero : n = 0
  · subst hzero
    rfl
  · obtain ⟨d, ds, hdigits, hd⟩ := exists_toDigits_eq_cons (Nat.pos_of_ne_zero hzero)
    rw [hdigits, Scalar.isCanonical]
    · rintro ⟨⟩
      exact hd rfl
    · rintro _ ⟨⟩
      exact hd rfl

/-- A word of digits has no sign and no other base. -/
lemma integer?_toDigits :
    Scalar.integer? (Nat.toDigits 10 n) = Scalar.integer?.bounded? false (some n) := by
  have hdigit : ∀ c ∈ Nat.toDigits 10 n, c.isDigit := fun c => isDigit_of_mem
  have hsign : Scalar.sign (Nat.toDigits 10 n) = (false, Nat.toDigits 10 n) := by
    rw [Scalar.sign]
    · intro _ h
      exact absurd (hdigit '-' (by rw [h]; exact List.mem_cons_self)) (by decide)
    · intro _ h
      exact absurd (hdigit '+' (by rw [h]; exact List.mem_cons_self)) (by decide)
  have hbase : ∀ d tail, d.isDigit = false → Nat.toDigits 10 n ≠ '0' :: d :: tail := by
    intro d tail hd h
    have hmem : d ∈ Nat.toDigits 10 n := by
      rw [h]
      exact List.mem_cons_of_mem _ List.mem_cons_self
    rw [hdigit d hmem] at hd
    cases hd
  rw [Scalar.integer?, hsign]
  · simp only [isCanonical_toDigits, if_true, number?_toDigits]
  · exact fun tail => hbase 'x' tail rfl
  · exact fun tail => hbase 'o' tail rfl
  · exact fun tail => hbase 'b' tail rfl

lemma integer?_neg_toDigits :
    Scalar.integer? ('-' :: Nat.toDigits 10 n) = Scalar.integer?.bounded? true (some n) := by
  rw [Scalar.integer?]
  · simp only [Scalar.sign, isCanonical_toDigits, if_true, number?_toDigits]
  · rintro _ ⟨⟩
  · rintro _ ⟨⟩
  · rintro _ ⟨⟩

lemma toList_toString_int (i : Int) :
    (toString i).toList =
      if 0 ≤ i then Nat.toDigits 10 i.toNat else '-' :: Nat.toDigits 10 (-i).toNat := by
  have hrepr : toString i = i.repr := rfl
  rw [hrepr, Int.repr_eq_if]
  split
  · rw [Nat.repr_eq_ofList_toDigits, String.toList_ofList]
  · rw [Nat.repr_eq_ofList_toDigits, String.toList_append, String.toList_ofList,
      String.toList_ofList]
    rfl

/-- A written integer of 64 bits is read back. -/
lemma integer?_toString {i : Int} (hlow : -(Word.signedBound : Int) ≤ i)
    (hhigh : i < Word.signedBound) : Scalar.integer? (toString i).toList = some i := by
  rw [toList_toString_int]
  by_cases hi : 0 ≤ i
  · have hbound : i.toNat < Word.signedBound := by omega
    have hvalue : (i.toNat : Int) = i := Int.toNat_of_nonneg hi
    rw [if_pos hi, integer?_toDigits]
    exact (if_pos hbound).trans (congrArg some hvalue)
  · have hbound : (-i).toNat ≤ Word.signedBound := by omega
    have hvalue : -((-i).toNat : Int) = i := by omega
    rw [if_neg hi, integer?_neg_toDigits]
    exact (if_pos hbound).trans (congrArg some hvalue)

/-- A word is read as a whole if the line ends after it. -/
lemma read?_word (h : ∀ c ∈ v, Scalar.isWordChar c) :
    Scalar.read? (v ++ '\n' :: rest) =
      (Scalar.ofWord? v).map fun node => (node, '\n' :: rest) := by
  have hword : (v ++ '\n' :: rest).takeWhile Scalar.isWordChar = v := by
    rw [List.takeWhile_append_of_pos h, List.takeWhile_cons_of_neg (by decide), List.append_nil]
  have hrest : (v ++ '\n' :: rest).dropWhile Scalar.isWordChar = '\n' :: rest := by
    rw [List.dropWhile_append_of_pos h, List.dropWhile_cons_of_neg (by decide)]
  simp only [Scalar.read?, hword, hrest]
  rfl

/-- A value that starts like a word is read as one. -/
lemma value?_of_isWordChar {depth : Nat} (hc : Scalar.isWordChar c) :
    Reader.value? depth (c :: cs) = Scalar.read? (c :: cs) := by
  have hne : ∀ d tail, Scalar.isWordChar d = false → c :: cs ≠ d :: tail := by
    rintro d tail hd ⟨⟩
    rw [hc] at hd
    cases hd
  -- a word does not start like an array, a table or a text
  rw [Reader.value?]
  · exact fun _ tail _ => hne '[' tail rfl
  · exact fun _ tail _ => hne '{' tail rfl
  · exact fun tail => hne '"' tail rfl
  · exact fun tail => hne '\'' tail rfl

lemma exists_writeString_eq_cons (s : String) :
    ∃ mark w, writeString s = mark :: w ∧ (mark = '"' ∨ mark = '\'') := by
  rw [writeString]
  cases Form.choose s.toList with
  | basic => exact ⟨'"', _, rfl, Or.inl rfl⟩
  | literal => exact ⟨'\'', _, rfl, Or.inr rfl⟩
  | longBasic => exact ⟨'"', _, rfl, Or.inl rfl⟩
  | longLiteral => exact ⟨'\'', _, rfl, Or.inr rfl⟩

def StartsValue (c : Char) : Prop := c = '"' ∨ c = '\'' ∨ Scalar.isWordChar c

lemma StartsValue.ne {d : Char} (h : StartsValue c)
    (hd : (d == '"' || d == '\'' || Scalar.isWordChar d) = false) : c ≠ d := by
  rintro rfl
  simp only [Bool.or_eq_false_iff, beq_eq_false_iff_ne] at hd
  rcases h with rfl | rfl | h
  · exact hd.1.1 rfl
  · exact hd.1.2 rfl
  · rw [hd.2] at h
    cases h

/-- A written value is read back up to the end of its line. -/
structure ReadsBack (node : Node) (v : List Char) : Prop where
  starts : ∃ c w, v = c :: w ∧ StartsValue c
  read : ∀ depth rest, Reader.value? depth (v ++ '\n' :: rest) = some (node, '\n' :: rest)

lemma readsBack_text (s : String) : ReadsBack (.string s) (writeString s) := by
  obtain ⟨mark, w, hw, hmark⟩ := exists_writeString_eq_cons s
  constructor
  · refine ⟨mark, w, hw, ?_⟩
    rcases hmark with h | h
    · exact Or.inl h
    · exact Or.inr (Or.inl h)
  · intro depth rest
    have hread : Text.read? (writeString s ++ '\n' :: rest) = some (s, '\n' :: rest) :=
      read?_writeString s
    rw [hw, List.cons_append] at hread ⊢
    rcases hmark with rfl | rfl
    · rw [Reader.value?, hread, Option.map_some]
      · rintro _ _ _ ⟨⟩
      · rintro _ _ _ ⟨⟩
    · rw [Reader.value?, hread, Option.map_some]
      · rintro _ _ _ ⟨⟩
      · rintro _ _ _ ⟨⟩

lemma readsBack_word {node : Node} (hne : v ≠ []) (h : ∀ c ∈ v, Scalar.isWordChar c)
    (hnode : Scalar.ofWord? v = some node) : ReadsBack node v := by
  obtain ⟨c, w, rfl⟩ := List.exists_cons_of_ne_nil hne
  have hc := h c List.mem_cons_self
  constructor
  · exact ⟨c, w, rfl, Or.inr (Or.inr hc)⟩
  · intro depth rest
    have hread : Scalar.read? (c :: w ++ '\n' :: rest) = _ := read?_word h
    rw [List.cons_append] at hread ⊢
    rw [value?_of_isWordChar hc, hread, hnode, Option.map_some]

lemma isWordChar_of_isDigit (h : c.isDigit) : Scalar.isWordChar c := by
  simp [Scalar.isWordChar, Char.isAlphanum, h]

lemma ofWord?_integer {i : Int} (h : Scalar.integer? v = some i) :
    Scalar.ofWord? v = some (.integer i) := by
  have hne : ∀ w, Scalar.integer? w = none → v ≠ w := by
    rintro w hw rfl
    rw [hw] at h
    cases h
  unfold Scalar.ofWord?
  rw [if_neg (hne _ (by decide)), if_neg (hne _ (by decide)), h]

lemma readsBack_integer {i : Int} (hlow : -(Word.signedBound : Int) ≤ i)
    (hhigh : i < Word.signedBound) : ReadsBack (.integer i) (toString i).toList := by
  have hdigits : ∀ n, ∀ c ∈ Nat.toDigits 10 n, Scalar.isWordChar c :=
    fun _ _ hc => isWordChar_of_isDigit (isDigit_of_mem hc)
  refine readsBack_word ?_ ?_ (ofWord?_integer (integer?_toString hlow hhigh))
  · rw [toList_toString_int]
    split
    · exact Nat.toDigits_ne_nil
    · exact List.cons_ne_nil _ _
  · rw [toList_toString_int]
    split
    · exact hdigits _
    · rw [List.forall_mem_cons]
      exact ⟨rfl, hdigits _⟩

/-- Every value that has a written form is read back from it. -/
lemma readsBack_of_write? {node : Node} (h : node.write? = some v) : ReadsBack node v := by
  cases node with
  | string s =>
    cases h
    exact readsBack_text s
  | integer i =>
    rw [Node.write?] at h
    split at h
    next hbound =>
      cases h
      exact readsBack_integer hbound.1 hbound.2
    next => cases h
  | boolean b =>
    cases h
    cases b
    · exact readsBack_word (by decide) (List.all_eq_true.1 rfl) rfl
    · exact readsBack_word (by decide) (List.all_eq_true.1 rfl) rfl
  | _ => cases h

/-- Keys that are written without quotes. -/
def Bare (key : String) : Prop := key.toList ≠ [] ∧ ∀ c ∈ key.toList, Reader.isKeyChar c

variable {key : String} {node : Node}

lemma Bare.exists_cons (h : Bare key) : ∃ c w, key.toList = c :: w ∧ Reader.isKeyChar c := by
  obtain ⟨hne, hchars⟩ := h
  obtain ⟨c, w, hw⟩ := List.exists_cons_of_ne_nil hne
  exact ⟨c, w, hw, hchars c (by rw [hw]; exact List.mem_cons_self)⟩

lemma skipBlanks_cons (hspace : c ≠ ' ') (htab : c ≠ '\t') :
    Reader.skipBlanks (c :: cs) = c :: cs := by
  rw [Reader.skipBlanks, List.dropWhile_cons_of_neg]
  simp [hspace, htab]

lemma cons_ne_of_isKeyChar {d : Char} {tail : List Char} (hc : Reader.isKeyChar c)
    (hd : Reader.isKeyChar d = false) : c :: cs ≠ d :: tail := by
  rintro ⟨⟩
  rw [hc] at hd
  cases hd

lemma skipBlanks_of_isKeyChar (hc : Reader.isKeyChar c) :
    Reader.skipBlanks (c :: cs) = c :: cs := by
  refine skipBlanks_cons ?_ ?_
  · rintro rfl
    cases hc
  · rintro rfl
    cases hc

/-- A line that starts with a key is not empty. -/
lemma endLine?_of_isKeyChar (hc : Reader.isKeyChar c) : Reader.endLine? (c :: cs) = none := by
  unfold Reader.endLine?
  simp only [skipBlanks_of_isKeyChar hc]
  split
  next hline =>
    split at hline
    next h => exact absurd h (cons_ne_of_isKeyChar hc rfl)
    next => cases hline
  next hline =>
    split at hline
    next h => exact absurd h (cons_ne_of_isKeyChar hc rfl)
    next => exact absurd hline (cons_ne_of_isKeyChar hc rfl)
  next hline =>
    split at hline
    next h => exact absurd h (cons_ne_of_isKeyChar hc rfl)
    next => exact absurd hline (cons_ne_of_isKeyChar hc rfl)
  next => rfl

lemma keyPart?_bare (h : Bare key) :
    Reader.keyPart? (key.toList ++ ' ' :: cs) = some (key, ' ' :: cs) := by
  obtain ⟨c, w, hw, hc⟩ := h.exists_cons
  obtain ⟨hne, hchars⟩ := h
  have hname : (key.toList ++ ' ' :: cs).takeWhile Reader.isKeyChar = key.toList := by
    rw [List.takeWhile_append_of_pos hchars, List.takeWhile_cons_of_neg (by decide), List.append_nil]
  have hrest : (key.toList ++ ' ' :: cs).dropWhile Reader.isKeyChar = ' ' :: cs := by
    rw [List.dropWhile_append_of_pos hchars, List.dropWhile_cons_of_neg (by decide)]
  rw [Reader.keyPart?, hname, hrest]
  · split
    next h => exact absurd h hne
    next => rw [String.ofList_toList]
  · intro tail
    rw [hw]
    exact cons_ne_of_isKeyChar hc rfl
  · intro tail
    rw [hw]
    exact cons_ne_of_isKeyChar hc rfl

/-- The line of a pair is read back. -/
lemma line?_pair (hkey : Bare key) (hv : ReadsBack node v) :
    Reader.line? (key.toList ++ ' ' :: '=' :: ' ' :: (v ++ '\n' :: rest)) =
      some (some (.pair [key] node), rest) := by
  obtain ⟨c, w, hw, hc⟩ := hkey.exists_cons
  have hend : Reader.endLine? (key.toList ++ ' ' :: '=' :: ' ' :: (v ++ '\n' :: rest)) = none := by
    rw [hw]
    exact endLine?_of_isKeyChar hc
  have hstart : Reader.skipBlanks (key.toList ++ ' ' :: '=' :: ' ' :: (v ++ '\n' :: rest)) =
      key.toList ++ ' ' :: '=' :: ' ' :: (v ++ '\n' :: rest) := by
    rw [hw]
    exact skipBlanks_of_isKeyChar hc
  have hpath : Reader.key? Reader.nestingLimit
      (key.toList ++ ' ' :: '=' :: ' ' :: (v ++ '\n' :: rest)) =
        some ([key], '=' :: ' ' :: (v ++ '\n' :: rest)) := by
    rw [Reader.nestingLimit, Reader.key?, hstart, keyPart?_bare hkey]
    rfl
  have hvalue : Reader.skipBlanks (' ' :: (v ++ '\n' :: rest)) = v ++ '\n' :: rest := by
    obtain ⟨d, u, rfl, hd⟩ := hv.starts
    exact skipBlanks_cons (hd.ne rfl) (hd.ne rfl)
  have hpair : Reader.pair? (Reader.value? Reader.nestingLimit)
      (key.toList ++ ' ' :: '=' :: ' ' :: (v ++ '\n' :: rest)) =
        some (([key], node), '\n' :: rest) := by
    unfold Reader.pair?
    rw [hpath]
    simp only [Option.bind_eq_bind, Option.bind_some, Scalar.after?, if_true, hvalue, hv.read]
    rfl
  rw [Reader.line?, hend]
  simp only [hstart]
  rw [Reader.statement?, hpair]
  · rfl
  · intro tail
    rw [hw]
    exact cons_ne_of_isKeyChar hc rfl
  · intro tail
    rw [hw]
    exact cons_ne_of_isKeyChar hc rfl

variable {es : Entries}

lemma statements?_line {statement : Statement}
    (hline : Reader.line? cs = some (some statement, rest)) (hlength : rest.length < cs.length) :
    Reader.statements? cs = (Reader.statements? rest).map (statement :: ·) := by
  have hne : cs ≠ [] := by
    rintro rfl
    cases hlength
  rw [Reader.statements?]
  · rw [hline]
    simp only [Option.bind_eq_bind, Option.bind_some, if_pos hlength]
    cases Reader.statements? rest <;> rfl
  · exact hne

lemma exists_of_writeLines?_cons (h : writeLines? ((key, node) :: es) = some cs) :
    ∃ v lines, node.write? = some v ∧ writeLines? es = some lines ∧
      cs = key.toList ++ ' ' :: '=' :: ' ' :: (v ++ '\n' :: lines) := by
  rw [writeLines?, Option.bind_eq_bind, Option.bind_eq_some_iff] at h
  obtain ⟨line, hline, h⟩ := h
  obtain ⟨lines, hlines, h⟩ := Option.bind_eq_some_iff.1 h
  obtain ⟨v, hv, rfl⟩ := Option.map_eq_some_iff.1 hline
  cases h
  exact ⟨v, lines, hv, hlines, by simp⟩

/-- The lines of pairs are read back as these pairs. -/
lemma statements?_writeLines? (hkeys : ∀ e ∈ es, Bare e.1) (h : writeLines? es = some cs) :
    Reader.statements? cs = some (es.map fun e => .pair [e.1] e.2) := by
  induction es generalizing cs with
  | nil =>
    cases h
    rw [Reader.statements?]
    rfl
  | cons e es ih =>
    rw [List.forall_mem_cons] at hkeys
    obtain ⟨v, lines, hv, hlines, rfl⟩ := exists_of_writeLines?_cons h
    have hread : Reader.line? _ = some (some (.pair [e.1] e.2), lines) :=
      line?_pair hkeys.1 (readsBack_of_write? hv)
    rw [statements?_line hread (by simp; omega), ih hkeys.2 hlines]
    rfl

lemma leadingPairs_pairs (pairs : List (Path × Node)) :
    leadingPairs (pairs.map fun p => .pair p.1 p.2) = (pairs, []) := by
  induction pairs with
  | nil => rfl
  | cons p pairs ih => rw [List.map_cons, leadingPairs, ih]

lemma find?_eq_none (h : key ∉ es.map Prod.fst) : es.find? key = none := by
  rw [Entries.find?, Option.map_eq_none_iff, List.find?_eq_none]
  intro e he hkey
  exact h (List.mem_map.2 ⟨e, he, by simpa using hkey⟩)

/-- Pairs with keys of their own are added in order. -/
lemma insertAll_pairs (acc : Entries) (h : ((acc ++ es).map Prod.fst).Nodup) :
    Entries.insertAll (es.map fun e => ([e.1], e.2)) acc = some (acc ++ es) := by
  induction es generalizing acc with
  | nil => simp [Entries.insertAll]
  | cons e es ih =>
    have hnew : e.1 ∉ acc.map Prod.fst := by
      intro he
      rw [List.map_append, List.map_cons, List.nodup_append] at h
      exact h.2.2 _ he _ List.mem_cons_self rfl
    have hinsert : Entries.insert [e.1] e.2 acc = some (acc ++ [e]) := by
      rw [Entries.insert, find?_eq_none hnew]
    have hrest := ih (acc ++ [e]) (by simpa using h)
    rw [List.append_assoc, List.singleton_append] at hrest
    rw [← hrest]
    simp only [Entries.insertAll, List.map_cons, List.foldlM_cons, hinsert]
    rfl

lemma byteOrderMark_ne (hc : Reader.isKeyChar c) : c ≠ Reader.byteOrderMark := by
  rintro rfl
  revert hc
  decide

lemma dropMark_writeLines? (hkeys : ∀ e ∈ es, Bare e.1) (h : writeLines? es = some cs) :
    Reader.dropMark cs = cs := by
  cases es with
  | nil =>
    cases h
    rfl
  | cons e es =>
    rw [List.forall_mem_cons] at hkeys
    obtain ⟨v, lines, -, -, rfl⟩ := exists_of_writeLines?_cons h
    obtain ⟨c, w, hw, hc⟩ := hkeys.1.exists_cons
    rw [hw, List.cons_append, Reader.dropMark, if_neg (byteOrderMark_ne hc)]

/-- A table whose keys are bare and differ is read back from its written form. -/
lemma parse?_write? {text : String} (hkeys : ∀ e ∈ es, Bare e.1) (hnodup : (es.map Prod.fst).Nodup)
    (h : write? es = some text) : parse? text = some es := by
  obtain ⟨cs, hcs, rfl⟩ := Option.map_eq_some_iff.1 h
  have hpairs : leadingPairs (es.map fun e => .pair [e.1] e.2) =
      (es.map fun e => ([e.1], e.2), []) := by
    have hleading := leadingPairs_pairs (es.map fun e => ([e.1], e.2))
    rw [List.map_map] at hleading
    exact hleading
  rw [parse?, String.toList_ofList, dropMark_writeLines? hkeys hcs,
    statements?_writeLines? hkeys hcs, Option.bind_some, Entries.ofStatements, hpairs]
  simp only [insertAll_pairs [] hnodup]
  rfl

/-- A table has a written form if each of its values has one. -/
lemma isSome_write?_iff : (write? es).isSome ↔ ∀ e ∈ es, e.2.write?.isSome := by
  rw [write?, Option.isSome_map]
  induction es with
  | nil => simp [writeLines?]
  | cons e es ih =>
    rw [List.forall_mem_cons, ← ih, writeLines?, writePair?]
    cases e.2.write? <;> cases writeLines? es <;> simp

end ExpertExchange.Toml
