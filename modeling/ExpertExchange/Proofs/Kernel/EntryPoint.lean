import ExpertExchange.Kernel.Source
import Mathlib.Data.List.Basic
import Mathlib.Tactic.Lemma

/-!
# The name of the entry point

What is written after the marker of a source, and what is read there. The marker has to be followed
by `void` and a name before an opening parenthesis; a bounds attribute may stand before the name.
The argument of the attribute is taken to end at its first closing parenthesis, so the name is read
as written where the argument has no parentheses of its own, and otherwise something else is read:
a name that is followed by a parenthesis inside the argument, or the attribute itself.
-/

namespace ExpertExchange

namespace Text

/-- Nothing between the space and the next line is a blank. -/
lemma isBlank_eq_false {c : Char} (hlow : 0x21 ≤ c.toNat) (hhigh : c.toNat < 0x85) :
    isBlank c = false := by
  have h9 : 0x9 ≤ c.toNat := by omega
  have he : 0xe ≤ c.toNat := by omega
  have h20 : 0x20 ≤ c.toNat := by omega
  have h85 : ¬ 0x85 ≤ c.toNat := by omega
  simp [isBlank, Class.has, blanks, oddBelow, h9, he, h20, hlow, h85]

end Text

namespace KernelSource

variable {cs xs ys rest after name argument : List Char} {c d : Char}

/-- Blanks, possibly none. -/
def Blanks (cs : List Char) : Prop := ∀ c ∈ cs, Text.isBlank c = true

def Blanks1 (cs : List Char) : Prop := cs ≠ [] ∧ Blanks cs

instance (cs : List Char) : Decidable (Blanks cs) := List.decidableBAll _ _

instance (cs : List Char) : Decidable (Blanks1 cs) := inferInstanceAs (Decidable (_ ∧ _))

/-- The text goes on with no blank. -/
def Stops (cs : List Char) : Prop := ∀ c ∈ cs.head?, Text.isBlank c = false

lemma after?_eq_some_iff {word : List Char} : after? word cs = some rest ↔ cs = word ++ rest := by
  unfold after?
  by_cases hword : word.isPrefixOf cs
  · rw [if_pos hword]
    obtain ⟨tail, rfl⟩ := List.isPrefixOf_iff_prefix.1 hword
    simp
  · rw [if_neg hword]
    constructor
    · intro h
      cases h
    · rintro rfl
      exact absurd (List.isPrefixOf_iff_prefix.2 (List.prefix_append word rest)) hword

lemma after?_append (word rest : List Char) : after? word (word ++ rest) = some rest :=
  after?_eq_some_iff.2 rfl

lemma skipBlanks_append (h : Blanks xs) (cs : List Char) :
    skipBlanks (xs ++ cs) = skipBlanks cs := List.dropWhile_append_of_pos h

lemma skipBlanks_eq_self (h : Stops cs) : skipBlanks cs = cs := by
  cases cs with
  | nil => rfl
  | cons c rest =>
    have hc := h c rfl
    simp [skipBlanks, hc]

lemma stops_skipBlanks (cs : List Char) : Stops (skipBlanks cs) := by
  intro c hc
  have := List.head?_dropWhile_not Text.isBlank cs
  rw [skipBlanks] at hc
  cases hd : cs.dropWhile Text.isBlank with
  | nil =>
    rw [hd] at hc
    cases hc
  | cons d rest =>
    rw [hd] at hc this
    cases hc
    simpa using this

lemma exists_skipBlanks (cs : List Char) : ∃ gap, Blanks gap ∧ cs = gap ++ skipBlanks cs := by
  refine ⟨cs.takeWhile Text.isBlank, ?_, List.takeWhile_append_dropWhile.symm⟩
  intro c hc
  exact List.all_eq_true.1 List.all_takeWhile c hc

lemma skipBlanks1?_eq_some_iff :
    skipBlanks1? cs = some rest ↔ ∃ gap, Blanks1 gap ∧ cs = gap ++ rest ∧ Stops rest := by
  constructor
  · intro h
    cases cs with
    | nil => cases h
    | cons c cs =>
      rw [skipBlanks1?] at h
      by_cases hc : Text.isBlank c = true
      · rw [if_pos hc] at h
        cases h
        obtain ⟨gap, hgap, heq⟩ := exists_skipBlanks cs
        refine ⟨c :: gap, ⟨by simp, ?_⟩, ?_, stops_skipBlanks cs⟩
        · intro d hd
          rcases List.mem_cons.1 hd with rfl | hd
          · exact hc
          · exact hgap d hd
        · rw [List.cons_append, ← heq]
      · rw [if_neg hc] at h
        cases h
  · rintro ⟨gap, ⟨hne, hgap⟩, rfl, hstops⟩
    cases gap with
    | nil => exact absurd rfl hne
    | cons c gap =>
      have hc := hgap c List.mem_cons_self
      have htail : Blanks gap := fun d hd => hgap d (List.mem_cons_of_mem c hd)
      rw [List.cons_append, skipBlanks1?, if_pos hc, skipBlanks_append htail,
        skipBlanks_eq_self hstops]

/-- A letter or an underscore, then letters, digits and underscores. -/
def IsName (name : List Char) : Prop :=
  ∃ c rest, name = c :: rest ∧ isNameStart c = true ∧ ∀ d ∈ rest, isNameChar d = true

/-- The text starts with the name, and a parenthesis opens behind it. -/
def Opens (name cs : List Char) : Prop :=
  IsName name ∧ ∃ gap tail, Blanks gap ∧ cs = name ++ gap ++ '(' :: tail

lemma isNameChar_of_isNameStart (h : isNameStart c = true) : isNameChar c = true := by
  simp only [isNameStart, isNameChar, Bool.or_eq_true, Char.isAlphanum] at h ⊢
  rcases h with h | h
  · exact .inl (.inl h)
  · exact .inr h

lemma isBlank_of_isNameChar (h : isNameChar c = true) : Text.isBlank c = false := by
  have hrange : 0x30 ≤ c.toNat ∧ c.toNat < 0x7b := by
    unfold isNameChar Char.isAlphanum Char.isAlpha Char.isUpper Char.isLower Char.isDigit at h
    simp only [Bool.or_eq_true, Bool.and_eq_true, decide_eq_true_eq, beq_iff_eq,
      UInt32.le_iff_toNat_le] at h
    rcases h with ((⟨h, h'⟩ | ⟨h, h'⟩) | ⟨h, h'⟩) | rfl
    · exact ⟨Nat.le_trans (by decide) h, Nat.lt_of_le_of_lt h' (by decide)⟩
    · exact ⟨Nat.le_trans (by decide) h, Nat.lt_of_le_of_lt h' (by decide)⟩
    · exact ⟨h, Nat.lt_of_le_of_lt h' (by decide)⟩
    · decide
  exact Text.isBlank_eq_false (by omega) (by omega)

lemma IsName.stops (h : IsName name) (cs : List Char) : Stops (name ++ cs) := by
  obtain ⟨first, rest, rfl, hstart, -⟩ := h
  intro d hd
  cases hd
  exact isBlank_of_isNameChar (isNameChar_of_isNameStart hstart)

/-- A name ends where blanks or a parenthesis follow. -/
lemma not_isNameChar_gap {gap : List Char} (hgap : Blanks gap) (tail : List Char) :
    ∀ d ∈ (gap ++ '(' :: tail).head?, isNameChar d = false := by
  intro d hd
  cases gap with
  | nil =>
    cases hd
    decide
  | cons c gap =>
    cases hd
    have hc := hgap _ List.mem_cons_self
    by_contra hname
    rw [isBlank_of_isNameChar (Bool.of_not_eq_false hname)] at hc
    cases hc

/-- Reading ends at a character that is not read. -/
lemma takeWhile_append_stop {p : Char → Bool} (hd : p d = false) (xs ys : List Char) :
    (xs ++ d :: ys).takeWhile p = xs.takeWhile p := by
  rw [List.takeWhile_append, List.takeWhile_cons_of_neg (by simp [hd]), List.append_nil]
  split
  next hall => exact (List.takeWhile_prefix p).eq_of_length hall |>.symm
  next => rfl

lemma dropWhile_append_stop {p : Char → Bool} (hd : p d = false) (xs ys : List Char) :
    (xs ++ d :: ys).dropWhile p = xs.dropWhile p ++ d :: ys := by
  rw [List.dropWhile_append, List.dropWhile_cons_of_neg (by simp [hd])]
  split
  next hnil => rw [List.isEmpty_iff.1 hnil, List.nil_append]
  next => rfl

lemma skipBlanks_append_close (xs ys : List Char) :
    skipBlanks (xs ++ ')' :: ys) = skipBlanks xs ++ ')' :: ys :=
  dropWhile_append_stop (by decide) xs ys

lemma takeWhile_eq_nil_of_head? {p : Char → Bool} (h : ∀ d ∈ cs.head?, p d = false) :
    cs.takeWhile p = [] := by
  cases cs with
  | nil => rfl
  | cons d rest => simp [h d rfl]

lemma dropWhile_eq_self_of_head? {p : Char → Bool} (h : ∀ d ∈ cs.head?, p d = false) :
    cs.dropWhile p = cs := by
  cases cs with
  | nil => rfl
  | cons d rest => simp [h d rfl]

/-- What is read is the name that a parenthesis follows. -/
lemma nameBeforeParen?_eq_some_iff : nameBeforeParen? cs = some name ↔ Opens name cs := by
  constructor
  · intro h
    cases cs with
    | nil => cases h
    | cons c rest =>
      rw [nameBeforeParen?] at h
      by_cases hstart : isNameStart c = true
      · rw [if_pos hstart] at h
        obtain ⟨gap, hgap, heq⟩ := exists_skipBlanks (rest.dropWhile isNameChar)
        cases hskip : skipBlanks (rest.dropWhile isNameChar) with
        | nil =>
          rw [hskip] at h
          cases h
        | cons d tail =>
          rw [hskip] at h heq
          by_cases hparen : d = '('
          · subst hparen
            cases h
            refine ⟨⟨c, _, rfl, hstart, ?_⟩, gap, tail, hgap, ?_⟩
            · intro d hd
              exact List.all_eq_true.1 List.all_takeWhile d hd
            · rw [List.cons_append, List.cons_append, List.append_assoc, ← heq,
                List.takeWhile_append_dropWhile]
          · simp [hparen] at h
      · rw [if_neg hstart] at h
        cases h
  · rintro ⟨⟨c, rest, rfl, hstart, hrest⟩, gap, tail, hgap, rfl⟩
    have hstop := not_isNameChar_gap hgap tail
    have hparen : Stops ('(' :: tail) := by
      rintro d ⟨⟩
      decide
    rw [List.append_assoc, List.cons_append, nameBeforeParen?, if_pos hstart,
      List.dropWhile_append_of_pos hrest, dropWhile_eq_self_of_head? hstop, skipBlanks_append hgap,
      skipBlanks_eq_self hparen, List.takeWhile_append_of_pos hrest,
      takeWhile_eq_nil_of_head? hstop, List.append_nil]
    rfl

/-- Behind a closing parenthesis nothing is looked at. -/
lemma nameBeforeParen?_append_close (xs ys : List Char) :
    nameBeforeParen? (xs ++ ')' :: ys) = nameBeforeParen? xs := by
  have hname : isNameChar ')' = false := by decide
  cases xs with
  | nil => rfl
  | cons c xs =>
    rw [List.cons_append, nameBeforeParen?, nameBeforeParen?, dropWhile_append_stop hname,
      takeWhile_append_stop hname, skipBlanks_append_close]
    cases hskip : skipBlanks (xs.dropWhile isNameChar) with
    | nil => rfl
    | cons d tail =>
      by_cases hparen : d = '('
      · subst hparen
        rfl
      · simp [hparen]

/-- Behind the marker stands `void`, between blanks, and then the rest. -/
def ReturnsVoid (after rest : List Char) : Prop :=
  ∃ gap gap', Blanks1 gap ∧ Blanks1 gap' ∧ after = gap ++ "void".toList ++ gap' ++ rest

/-- The text starts with a bounds attribute, and goes on like this. -/
def Bounds (argument cs rest : List Char) : Prop :=
  ∃ gap gap', Blanks gap ∧ Blanks gap' ∧
    cs = boundsAttribute ++ gap ++ '(' :: (argument ++ ')' :: (gap' ++ rest))

/-- The text goes on with a name before a parenthesis, perhaps after blanks. -/
def OpensLater (name cs : List Char) : Prop :=
  ∃ gap rest, Blanks gap ∧ cs = gap ++ rest ∧ Opens name rest

lemma Opens.stops (h : Opens name cs) : Stops cs := by
  obtain ⟨hname, gap, tail, -, rfl⟩ := h
  rw [List.append_assoc]
  exact hname.stops _

lemma isName_boundsAttribute : IsName boundsAttribute :=
  ⟨'_', _, rfl, rfl, List.all_eq_true.1 (by decide)⟩

/-- An attribute looks like a name before a parenthesis. -/
lemma Bounds.opens (h : Bounds argument cs rest) : Opens boundsAttribute cs := by
  obtain ⟨gap, gap', hgap, -, rfl⟩ := h
  exact ⟨isName_boundsAttribute, gap, _, hgap, rfl⟩

lemma opensLater_iff : OpensLater name cs ↔ nameBeforeParen? (skipBlanks cs) = some name := by
  constructor
  · rintro ⟨gap, rest, hgap, rfl, hopens⟩
    rw [skipBlanks_append hgap, skipBlanks_eq_self hopens.stops]
    exact nameBeforeParen?_eq_some_iff.2 hopens
  · intro h
    obtain ⟨gap, hgap, heq⟩ := exists_skipBlanks cs
    exact ⟨gap, _, hgap, heq, nameBeforeParen?_eq_some_iff.1 h⟩

/-- An attribute is left out up to the first closing parenthesis. -/
lemma afterBounds?_eq {gap : List Char} (hgap : Blanks gap) (hclose : ')' ∉ argument)
    (rest : List Char) :
    afterBounds? (boundsAttribute ++ gap ++ '(' :: (argument ++ ')' :: rest)) =
      some (skipBlanks rest) := by
  have hparen : Stops ("(".toList ++ (argument ++ ')' :: rest)) := by
    rintro d ⟨⟩
    decide
  have hskip : skipBlanks (gap ++ '(' :: (argument ++ ')' :: rest)) =
      "(".toList ++ (argument ++ ')' :: rest) := by
    rw [skipBlanks_append hgap]
    exact skipBlanks_eq_self hparen
  have hargument : (argument ++ ')' :: rest).dropWhile (· != ')') = ")".toList ++ rest := by
    have hall : ∀ d ∈ argument, (d != ')') = true := by
      intro d hd
      simp only [bne_iff_ne]
      rintro rfl
      exact hclose hd
    rw [List.dropWhile_append_of_pos hall]
    rfl
  simp only [afterBounds?, List.append_assoc, after?_append, Option.bind_eq_bind, Option.bind_some,
    hskip, hargument]
  rfl

/-- Only an attribute is left out. -/
lemma opens_of_afterBounds? (h : afterBounds? cs = some rest) : Opens boundsAttribute cs := by
  obtain ⟨tail, htail, h⟩ := Option.bind_eq_some_iff.1 h
  obtain ⟨tail', htail', -⟩ := Option.bind_eq_some_iff.1 h
  obtain ⟨gap, hgap, heq⟩ := exists_skipBlanks tail
  rw [after?_eq_some_iff.1 htail'] at heq
  rw [after?_eq_some_iff.1 htail, heq]
  exact ⟨isName_boundsAttribute, gap, tail', hgap, by rw [List.append_assoc]; rfl⟩

/-- What is read as the name: behind an attribute if that gives a name, else at the start. -/
lemma entryName?_of_void (h : ReturnsVoid after rest) (hstops : Stops rest) :
    entryName? after = ((afterBounds? rest).bind nameBeforeParen?).or (nameBeforeParen? rest) := by
  obtain ⟨gap, gap', hgap, hgap', rfl⟩ := h
  have hvoid : Stops ("void".toList ++ gap' ++ rest) := by
    rintro d ⟨⟩
    decide
  have hfirst : skipBlanks1? (gap ++ "void".toList ++ gap' ++ rest) =
      some ("void".toList ++ (gap' ++ rest)) :=
    skipBlanks1?_eq_some_iff.2 ⟨gap, hgap, by simp only [List.append_assoc], by
      rwa [← List.append_assoc]⟩
  have hsecond : skipBlanks1? (gap' ++ rest) = some rest :=
    skipBlanks1?_eq_some_iff.2 ⟨gap', hgap', rfl, hstops⟩
  simp only [entryName?, hfirst, Option.bind_eq_bind, Option.bind_some, after?_append, hsecond]

/-- A name is read only where `void` and a name stand. -/
lemma exists_of_entryName? (h : entryName? after = some name) :
    ∃ rest first, ReturnsVoid after rest ∧ Opens first rest := by
  obtain ⟨cs, hcs, h₁⟩ := Option.bind_eq_some_iff.1 h
  obtain ⟨cs', hcs', h₂⟩ := Option.bind_eq_some_iff.1 h₁
  obtain ⟨rest, hrest, hread⟩ := Option.bind_eq_some_iff.1 h₂
  obtain ⟨gap, hgap, rfl, -⟩ := skipBlanks1?_eq_some_iff.1 hcs
  rw [after?_eq_some_iff] at hcs'
  obtain ⟨gap', hgap', rfl, -⟩ := skipBlanks1?_eq_some_iff.1 hrest
  have hvoid : ReturnsVoid (gap ++ cs) rest := ⟨gap, gap', hgap, hgap', by
    rw [hcs']
    simp only [List.append_assoc]⟩
  refine ⟨rest, ?_⟩
  rcases Option.or_eq_some_iff.1 hread with hbehind | ⟨-, hstart⟩
  · obtain ⟨tail, htail, -⟩ := Option.bind_eq_some_iff.1 hbehind
    exact ⟨boundsAttribute, hvoid, opens_of_afterBounds? htail⟩
  · exact ⟨name, hvoid, nameBeforeParen?_eq_some_iff.1 hstart⟩

/-- Where `void` and a name stand, some name is read. -/
lemma entryName?_isSome {first : List Char} (hvoid : ReturnsVoid after rest)
    (hopens : Opens first rest) : ∃ name, entryName? after = some name := by
  rw [entryName?_of_void hvoid hopens.stops, nameBeforeParen?_eq_some_iff.2 hopens]
  cases (afterBounds? rest).bind nameBeforeParen? with
  | none => exact ⟨first, rfl⟩
  | some name => exact ⟨name, rfl⟩

/-- A name that is not the attribute's is read as it stands. -/
lemma entryName?_of_opens (hvoid : ReturnsVoid after rest) (hopens : Opens name rest)
    (hname : name ≠ boundsAttribute) : entryName? after = some name := by
  have hread := nameBeforeParen?_eq_some_iff.2 hopens
  have hbounds : afterBounds? rest = none := by
    cases hafter : afterBounds? rest with
    | none => rfl
    | some tail =>
      have hattribute := nameBeforeParen?_eq_some_iff.2 (opens_of_afterBounds? hafter)
      exact absurd (Option.some.inj (hread.symm.trans hattribute)) hname
  rw [entryName?_of_void hvoid hopens.stops, hbounds, hread]
  rfl

/-- What is read behind an attribute with this argument and before this name. -/
inductive ReadsBehind (argument name : List Char) : List Char → Prop where
  /-- An argument that no parenthesis ends is left out, and the name is read. -/
  | name (h : ')' ∉ argument) : ReadsBehind argument name name
  /-- The argument is cut, and what follows the cut is read as a name. -/
  | inner {first later inner : List Char} (h : argument = first ++ ')' :: later)
      (hfirst : ')' ∉ first) (hlater : OpensLater inner later) : ReadsBehind argument name inner
  /-- The argument is cut, and no name follows the cut. -/
  | attribute {first later : List Char} (h : argument = first ++ ')' :: later)
      (hfirst : ')' ∉ first) (hlater : ∀ inner, ¬ OpensLater inner later) :
      ReadsBehind argument name boundsAttribute

lemma entryName?_of_bounds {cs : List Char} (hvoid : ReturnsVoid after cs)
    (hbounds : Bounds argument cs rest) (hopens : Opens name rest) :
    ∃ entry, entryName? after = some entry ∧ ReadsBehind argument name entry := by
  have hattribute := hbounds.opens
  rw [entryName?_of_void hvoid hattribute.stops, nameBeforeParen?_eq_some_iff.2 hattribute]
  obtain ⟨gap, gap', hgap, hgap', rfl⟩ := hbounds
  by_cases hclose : ')' ∈ argument
  · obtain ⟨first, later, rfl, hfirst⟩ := List.eq_append_cons_of_mem hclose
    have hcut := afterBounds?_eq hgap hfirst (later ++ ')' :: (gap' ++ rest))
    rw [skipBlanks_append_close] at hcut
    rw [List.append_assoc first, List.cons_append, hcut, Option.bind_some,
      nameBeforeParen?_append_close]
    cases hinner : nameBeforeParen? (skipBlanks later) with
    | none =>
      refine ⟨boundsAttribute, rfl, .attribute rfl hfirst ?_⟩
      intro inner hopens'
      rw [opensLater_iff.1 hopens'] at hinner
      cases hinner
    | some inner => exact ⟨inner, rfl, .inner rfl hfirst (opensLater_iff.2 hinner)⟩
  · rw [afterBounds?_eq hgap hclose, Option.bind_some, skipBlanks_append hgap',
      skipBlanks_eq_self hopens.stops, nameBeforeParen?_eq_some_iff.2 hopens]
    exact ⟨name, rfl, .name hclose⟩

/-- The marker stands in the text, and this follows it. -/
def Marked (cs after : List Char) : Prop := marker ++ after <:+ cs

/-- The marker stands in the text once, and this follows it. -/
def MarkedOnce (cs after : List Char) : Prop :=
  Marked cs after ∧ ∀ after', Marked cs after' → after' = after

lemma Marked.trans (h : Marked cs after) {after' : List Char} (h' : Marked after after') :
    Marked cs after' := List.IsSuffix.trans h' ((List.suffix_append marker after).trans h)

lemma Marked.length_lt (h : Marked cs after) : after.length < cs.length := by
  have hlength := h.length_le
  have hmarker : marker.length = 10 := rfl
  rw [List.length_append] at hlength
  omega

lemma marked_cons_iff : Marked (c :: cs) after ↔ marker ++ after = c :: cs ∨ Marked cs after :=
  List.suffix_cons_iff

/-- The characters that are not to be looked at may be left out. -/
lemma afterMarkersFrom_eq_drop (skip : Nat) (cs : List Char) :
    afterMarkersFrom skip cs = afterMarkersFrom 0 (cs.drop skip) := by
  induction cs generalizing skip with
  | nil => cases skip <;> rfl
  | cons c rest ih =>
    cases skip with
    | zero => rfl
    | succ skip => exact ih skip

lemma afterMarkers_marker (after : List Char) :
    afterMarkersFrom 0 (marker ++ after) = after :: afterMarkersFrom 0 after := by
  have hcons : marker ++ after = '_' :: (marker.tail ++ after) := rfl
  have hdrop : (marker.tail ++ after).drop (marker.length - 1) = after := rfl
  have hafter : after? marker ('_' :: (marker.tail ++ after)) = some after :=
    after?_append marker after
  rw [hcons, afterMarkersFrom, hafter]
  simp only
  rw [afterMarkersFrom_eq_drop, hdrop]

/-- Where no marker starts, the next character is looked at. -/
lemma afterMarkers_cons (h : ∀ after, marker ++ after ≠ c :: cs) :
    afterMarkersFrom 0 (c :: cs) = afterMarkersFrom 0 cs := by
  have hnone : after? marker (c :: cs) = none := by
    cases hafter : after? marker (c :: cs) with
    | none => rfl
    | some after => exact absurd (after?_eq_some_iff.1 hafter).symm (h after)
  rw [afterMarkersFrom, hnone]

/-- A text starts with a marker, or its first character starts none. -/
lemma marker_cases (c : Char) (cs : List Char) :
    (∃ after, marker ++ after = c :: cs) ∨ ∀ after, marker ++ after ≠ c :: cs := by
  by_cases h : ∃ after, marker ++ after = c :: cs
  · exact .inl h
  · exact .inr fun after heq => h ⟨after, heq⟩

/-- Wherever the marker stands, an occurrence is found. -/
lemma afterMarkers_ne_nil (h : Marked cs after) : afterMarkersFrom 0 cs ≠ [] := by
  induction cs with
  | nil =>
    have := h.length_lt
    simp at this
  | cons c cs ih =>
    rcases marker_cases c cs with ⟨after', heq⟩ | hnone
    · rw [← heq, afterMarkers_marker]
      exact List.cons_ne_nil _ _
    · rw [afterMarkers_cons hnone]
      exact ih ((marked_cons_iff.1 h).resolve_left (hnone after))

/-- What is found first is an occurrence, and the search goes on behind it. -/
lemma afterMarkers_eq_cons {found : List (List Char)} (h : afterMarkersFrom 0 cs = after :: found) :
    Marked cs after ∧ afterMarkersFrom 0 after = found := by
  induction cs with
  | nil => cases h
  | cons c cs ih =>
    rcases marker_cases c cs with ⟨after', heq⟩ | hnone
    · rw [← heq, afterMarkers_marker] at h
      obtain ⟨rfl, hfound⟩ := List.cons.inj h
      exact ⟨heq ▸ List.suffix_refl _, hfound⟩
    · rw [afterMarkers_cons hnone] at h
      obtain ⟨hmarked, hfound⟩ := ih h
      exact ⟨marked_cons_iff.2 (.inr hmarked), hfound⟩

/-- The only marker is the only one that is found. -/
lemma MarkedOnce.afterMarkers_eq (h : MarkedOnce cs after) : afterMarkersFrom 0 cs = [after] := by
  cases hfound : afterMarkersFrom 0 cs with
  | nil => exact absurd hfound (afterMarkers_ne_nil h.1)
  | cons first found =>
    obtain ⟨hmarked, hlater⟩ := afterMarkers_eq_cons hfound
    obtain rfl := h.2 first hmarked
    cases found with
    | nil => rfl
    | cons second found =>
      obtain ⟨hsecond, -⟩ := afterMarkers_eq_cons hlater
      have hlt := hsecond.length_lt
      rw [h.2 second (hmarked.trans hsecond)] at hlt
      exact absurd hlt (Nat.lt_irrefl _)

/-- Two markers may overlap in one or two underscores. -/
lemma marked_marker_append {after' : List Char} (h : Marked (marker ++ after) after') :
    after' = after ∨ Marked after after' ∨ ∃ d ∈ after.head?, d = '_' ∨ d = 'g' := by
  have hmarker : marker = ['_', '_', 'g', 'l', 'o', 'b', 'a', 'l', '_', '_'] := rfl
  simp only [Marked, hmarker, List.cons_append, List.nil_append, List.suffix_cons_iff,
    List.cons.injEq, Char.reduceEq, true_and, false_and, false_or] at h
  rcases h with rfl | rfl | rfl | h
  · exact .inl rfl
  · exact .inr (.inr ⟨'g', rfl, .inr rfl⟩)
  · exact .inr (.inr ⟨'_', rfl, .inl rfl⟩)
  · exact .inr (.inl h)

/-- The only marker that is found is the only one, unless another one overlaps it. -/
lemma markedOnce_of_afterMarkers (h : afterMarkersFrom 0 cs = [after])
    (hhead : after.head? ≠ some '_' ∧ after.head? ≠ some 'g') : MarkedOnce cs after := by
  induction cs with
  | nil => cases h
  | cons c cs ih =>
    rcases marker_cases c cs with ⟨first, heq⟩ | hnone
    · rw [← heq, afterMarkers_marker] at h
      obtain ⟨rfl, hlater⟩ := List.cons.inj h
      rw [← heq]
      refine ⟨List.suffix_refl _, ?_⟩
      intro after' hafter'
      rcases marked_marker_append hafter' with rfl | hmarked | ⟨d, hd, hoverlap⟩
      · rfl
      · exact absurd hlater (afterMarkers_ne_nil hmarked)
      · rcases hoverlap with rfl | rfl
        · exact absurd hd hhead.1
        · exact absurd hd hhead.2
    · rw [afterMarkers_cons hnone] at h
      obtain ⟨hmarked, hunique⟩ := ih h
      refine ⟨marked_cons_iff.2 (.inr hmarked), ?_⟩
      intro after' hafter'
      exact hunique after' ((marked_cons_iff.1 hafter').resolve_left (hnone after'))

lemma parse_eq {body : String} (hmarkers : afterMarkersFrom 0 body.toList = [after])
    (hname : entryName? after = some name) :
    ∃ source, parse body = .ok source ∧ source.entry = String.ofList name := by
  rw [parse, hmarkers]
  simp only [hname]
  exact ⟨_, rfl, rfl⟩

/-- A source is accepted where its only marker is followed by `void` and a name before a
parenthesis. -/
lemma parse_of_opens {body : String} {first : List Char} (hmarked : MarkedOnce body.toList after)
    (hvoid : ReturnsVoid after rest) (hopens : Opens first rest) :
    ∃ source, parse body = .ok source ∧ entryName? after = some source.entry.toList := by
  obtain ⟨name, hname⟩ := entryName?_isSome hvoid hopens
  obtain ⟨source, hparse, hentry⟩ := parse_eq hmarked.afterMarkers_eq hname
  exact ⟨source, hparse, by rw [hname, hentry, String.toList_ofList]⟩

/-- Without a name behind the only marker there is no source. -/
lemma parse_of_noName {body : String} (hmarked : MarkedOnce body.toList after)
    (hname : entryName? after = none) : parse body = .error .noName := by
  simp only [parse, hmarked.afterMarkers_eq, hname]

lemma ReturnsVoid.head (h : ReturnsVoid after rest) : ∀ d ∈ after.head?, Text.isBlank d = true := by
  obtain ⟨gap, gap', ⟨hne, hgap⟩, -, rfl⟩ := h
  intro d hd
  cases gap with
  | nil => exact absurd rfl hne
  | cons c gap =>
    cases hd
    exact hgap _ List.mem_cons_self

lemma geometry_of_parse {body : String} {source : KernelSource} (h : parse body = .ok source) :
    source.geometry = geometryOf body.toList := by
  rw [parse] at h
  split at h
  · cases h
  · split at h
    · cases h
    · cases h
      rfl
  · cases h

/-- A source that is accepted has one marker, also of those that overlap. -/
lemma exists_markedOnce {body : String} {source : KernelSource} (h : parse body = .ok source) :
    ∃ after, MarkedOnce body.toList after := by
  rw [parse] at h
  split at h
  · cases h
  · next after hfound =>
    refine ⟨after, markedOnce_of_afterMarkers hfound ?_⟩
    split at h
    · cases h
    · next name hname =>
      obtain ⟨rest, first, hvoid, -⟩ := exists_of_entryName? hname
      have hnot : ∀ d, Text.isBlank d = false → after.head? ≠ some d := by
        intro d hd hhead
        rw [hvoid.head d hhead] at hd
        cases hd
      exact ⟨hnot _ (by decide), hnot _ (by decide)⟩
  · cases h

/-- The text has one well-formed entry point, with a bounds attribute or without. -/
def HasEntry (cs : List Char) : Prop :=
  ∃ after rest first, MarkedOnce cs after ∧ ReturnsVoid after rest ∧ Opens first rest

/-- What the name of the entry point is taken to be. A source with one marker that is followed by
`void` and a name is accepted under this name. With a bounds attribute before the name it is
accepted too, under this name if the argument of the attribute has no closing parenthesis; else the
argument is cut there, and what is read is a name that stands before a parenthesis behind the cut,
or the attribute's own. All other sources are malformed: without a marker, with several (that may
overlap), and where no `void` and no name follow. -/
theorem parse_settles (body : String) :
    (∀ after cs rest argument name, MarkedOnce body.toList after → ReturnsVoid after cs →
      Bounds argument cs rest → Opens name rest →
        ∃ source, parse body = .ok source ∧ ReadsBehind argument name source.entry.toList) ∧
    (∀ after rest name, MarkedOnce body.toList after → ReturnsVoid after rest → Opens name rest →
      name ≠ boundsAttribute →
        ∃ source, parse body = .ok source ∧ source.entry = String.ofList name) ∧
    ((¬ ∃ after, MarkedOnce body.toList after) → ∃ why, parse body = .error why) ∧
    (∀ after, MarkedOnce body.toList after →
      (¬ ∃ name rest, IsName name ∧ ReturnsVoid after (name ++ rest)) →
        parse body = .error .noName) := by
  refine ⟨?_, ?_, ?_, ?_⟩
  · intro after cs rest argument name hmarked hvoid hbounds hopens
    obtain ⟨entry, hentry, hreads⟩ := entryName?_of_bounds hvoid hbounds hopens
    obtain ⟨source, hparse, hsource⟩ := parse_of_opens hmarked hvoid hbounds.opens
    obtain rfl := Option.some.inj (hentry.symm.trans hsource)
    exact ⟨source, hparse, hreads⟩
  · intro after rest name hmarked hvoid hopens hname
    obtain ⟨source, hparse, hsource⟩ := parse_of_opens hmarked hvoid hopens
    obtain rfl := Option.some.inj ((entryName?_of_opens hvoid hopens hname).symm.trans hsource)
    exact ⟨source, hparse, String.ofList_toList.symm⟩
  · intro hnone
    cases hparse : parse body with
    | error why => exact ⟨why, rfl⟩
    | ok source => exact absurd (exists_markedOnce hparse) hnone
  · intro after hmarked hnone
    refine parse_of_noName hmarked ?_
    cases hread : entryName? after with
    | none => rfl
    | some name =>
      obtain ⟨rest, first, hvoid, hname, gap, tail, -, rfl⟩ := exists_of_entryName? hread
      rw [List.append_assoc] at hvoid
      exact absurd ⟨first, _, hname, hvoid⟩ hnone

/-- A bound that ends in a call is cut in the call, and the called name is read. -/
theorem parse_settles_call_in_bound :
    MarkedOnce "__global__ void __launch_bounds__((1) f(2)) k()".toList
      " void __launch_bounds__((1) f(2)) k()".toList ∧
    ReturnsVoid " void __launch_bounds__((1) f(2)) k()".toList
      "__launch_bounds__((1) f(2)) k()".toList ∧
    Bounds "(1) f(2)".toList "__launch_bounds__((1) f(2)) k()".toList "k()".toList ∧
    Opens "k".toList "k()".toList ∧
    ∃ source, parse "__global__ void __launch_bounds__((1) f(2)) k()" = .ok source ∧
      ReadsBehind "(1) f(2)".toList "k".toList source.entry.toList := by
  have hmarked : MarkedOnce "__global__ void __launch_bounds__((1) f(2)) k()".toList
      " void __launch_bounds__((1) f(2)) k()".toList :=
    markedOnce_of_afterMarkers (by decide +kernel) (by decide +kernel)
  have hvoid : ReturnsVoid " void __launch_bounds__((1) f(2)) k()".toList
      "__launch_bounds__((1) f(2)) k()".toList := ⟨[' '], [' '], by decide, by decide, rfl⟩
  have hbounds : Bounds "(1) f(2)".toList "__launch_bounds__((1) f(2)) k()".toList "k()".toList :=
    ⟨[], [' '], by decide, by decide, rfl⟩
  have hopens : Opens "k".toList "k()".toList :=
    ⟨⟨'k', [], rfl, by decide, nofun⟩, [], [')'], by decide, rfl⟩
  exact ⟨hmarked, hvoid, hbounds, hopens,
    (parse_settles _).1 _ _ _ _ _ hmarked hvoid hbounds hopens⟩

/-- Every parenthesis that opens is closed, and no other one closes. -/
inductive Balanced : List Char → Prop where
  | nil : Balanced []
  | char {c : Char} {rest : List Char} (h : c ≠ '(' ∧ c ≠ ')') (hrest : Balanced rest) :
      Balanced (c :: rest)
  | group {inner rest : List Char} (hinner : Balanced inner) (hrest : Balanced rest) :
      Balanced ('(' :: inner ++ ')' :: rest)

/-- A bound in parentheses hides the name: the source of `k` is accepted, but not as `k`. -/
theorem bound_in_parentheses_hides_name :
    Balanced "(8)".toList ∧
    MarkedOnce "__global__ void __launch_bounds__((8)) k()".toList
      " void __launch_bounds__((8)) k()".toList ∧
    ReturnsVoid " void __launch_bounds__((8)) k()".toList "__launch_bounds__((8)) k()".toList ∧
    Bounds "(8)".toList "__launch_bounds__((8)) k()".toList "k()".toList ∧
    Opens "k".toList "k()".toList ∧
    ∃ source, parse "__global__ void __launch_bounds__((8)) k()" = .ok source ∧
      source.entry = "__launch_bounds__" ∧ source.entry ≠ "k" := by
  have hmarked : MarkedOnce "__global__ void __launch_bounds__((8)) k()".toList
      " void __launch_bounds__((8)) k()".toList :=
    markedOnce_of_afterMarkers (by decide +kernel) (by decide +kernel)
  have hname : entryName? " void __launch_bounds__((8)) k()".toList = some boundsAttribute := by
    decide +kernel
  obtain ⟨source, hparse, hentry⟩ := parse_eq hmarked.afterMarkers_eq hname
  have hattribute : source.entry = "__launch_bounds__" := hentry.trans String.ofList_toList
  refine ⟨?_, hmarked, ?_, ?_, ?_, source, hparse, hattribute, ?_⟩
  · exact .group (.char (by decide) .nil) .nil
  · exact ⟨[' '], [' '], by decide, by decide, rfl⟩
  · exact ⟨[], [' '], by decide, by decide, rfl⟩
  · exact ⟨⟨'k', [], rfl, by decide, nofun⟩, [], [')'], by decide, rfl⟩
  · rw [hattribute]
    decide

end KernelSource

end ExpertExchange
