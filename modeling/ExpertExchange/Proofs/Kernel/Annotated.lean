import ExpertExchange.Proofs.Kernel.EntryPoint
import Mathlib.Tactic.IntervalCases

/-!
# Annotated sources

A source may start with annotations, one on a line: an extent of blocks or threads, in decimal.
`AnnotationLine.text` writes one down, with blanks wherever they may stand. Parsing such lines and a
body without annotations of its own gives back what was written: along every axis the first extent
that is a word of 32 bits, and one where there is none.
-/

namespace ExpertExchange

namespace Text

lemma isDigit_eq_true {c : Char} (h : c.isDigit = true) : isDigit c = true := by
  have hrange : 0x30 ≤ c.toNat ∧ c.toNat < 0x3a := by
    simp only [Char.isDigit, Bool.and_eq_true, decide_eq_true_eq, UInt32.le_iff_toNat_le] at h
    exact ⟨h.1, Nat.lt_of_le_of_lt h.2 (by decide)⟩
  obtain ⟨hlow, hhigh⟩ := hrange
  have hnot : ¬ 0x3a ≤ c.toNat := by omega
  simp [isDigit, Class.has, digits, oddBelow, hlow, hnot]

/-- Every script's digits are apart from the blanks. -/
lemma isDigit_of_isBlank {c : Char} (h : isBlank c = true) : isDigit c = false := by
  have hcases : (0x9 ≤ c.toNat ∧ c.toNat < 0xe) ∨ c.toNat = 0x20 ∨ c.toNat = 0x85 ∨ c.toNat = 0xa0 ∨
      c.toNat = 0x1680 ∨ (0x2000 ≤ c.toNat ∧ c.toNat < 0x200b) ∨ c.toNat = 0x2028 ∨
      c.toNat = 0x2029 ∨ c.toNat = 0x202f ∨ c.toNat = 0x205f ∨ c.toNat = 0x3000 := by
    simp only [isBlank, Class.has, blanks, oddBelow] at h
    grind
  unfold isDigit Class.has
  generalize c.toNat = n at hcases
  rcases hcases with ⟨hlow, hhigh⟩ | rfl | rfl | rfl | rfl | ⟨hlow, hhigh⟩ | rfl | rfl | rfl |
    rfl | rfl
  · interval_cases n <;> decide
  · decide
  · decide
  · decide
  · decide
  · interval_cases n <;> decide
  · decide
  · decide
  · decide
  · decide
  · decide

lemma digitValue?_eq {c : Char} (h : c.isDigit = true) :
    digitValue? c = some (c.toNat - '0'.toNat) := by
  have hrange : '0' ≤ c ∧ c ≤ '9' := by
    simpa [Char.isDigit, Char.le_def] using h
  rw [digitValue?, if_pos hrange]

lemma digitsFrom_eq {cs : List Char} (h : ∀ c ∈ cs, c.isDigit = true) (acc : Nat) :
    digitsFrom acc cs = some (Nat.ofDigitChars 10 cs acc) := by
  induction cs generalizing acc with
  | nil => simp [digitsFrom]
  | cons c rest ih =>
    rw [digitsFrom, digitValue?_eq (h c List.mem_cons_self), Option.bind_some,
      ih (fun d hd => h d (List.mem_cons_of_mem c hd)), Nat.ofDigitChars_cons]

end Text

def ExtentTarget.word : ExtentTarget → String
  | .blocks => "blockIdx"
  | .threads => "threadIdx"

def Axis.letter : Axis → Char
  | .x => 'x'
  | .y => 'y'
  | .z => 'z'

namespace KernelSource

/-- Blanks between two parts of an annotation, possibly none. -/
def Gap := { cs : List Char // Blanks cs }

/-- An annotation up to its value. -/
structure Opening where
  target : ExtentTarget
  axis : Axis
  afterSlashes : Gap
  afterTag : Gap
  beforeEquals : Gap
  afterEquals : Gap

/-- The text of an annotation up to its value. -/
def Opening.text (o : Opening) : List Char :=
  "//".toList ++ (o.afterSlashes.val ++ ("[thread_extent]".toList ++ (o.afterTag.val ++
    (o.target.word.toList ++ (".".toList ++ (o.axis.letter :: (o.beforeEquals.val ++
      ("=".toList ++ o.afterEquals.val))))))))

/-- An annotation on a line of its own. Its value may be written with leading zeros. -/
structure AnnotationLine extends Opening where
  indent : Gap
  zeros : Nat
  value : Nat
  trail : Gap

def Gap.space : Gap := ⟨[' '], by decide⟩

namespace AnnotationLine

def spaced (target : ExtentTarget) (axis : Axis) (value : Nat) : AnnotationLine where
  target := target
  axis := axis
  afterSlashes := .space
  afterTag := .space
  beforeEquals := .space
  afterEquals := .space
  indent := ⟨[], nofun⟩
  zeros := 0
  value := value
  trail := ⟨[], nofun⟩

def numeral (l : AnnotationLine) : List Char :=
  List.replicate l.zeros '0' ++ Nat.toDigits 10 l.value

def text (l : AnnotationLine) : List Char :=
  l.indent.val ++ (l.toOpening.text ++ (l.numeral ++ (l.trail.val ++ ['\n'])))

example : (spaced .blocks .x 16).text = "// [thread_extent] blockIdx.x = 16\n".toList := by decide

/-- The extent that the line gives, if it is a word of 32 bits. -/
def declared (l : AnnotationLine) : Option ExtentDeclaration :=
  if l.value < Word.bound32 then some ⟨l.target, l.axis, l.value⟩ else none

/-- The first extent that the lines give along an axis, else one. -/
def firstExtent (lines : List AnnotationLine) (target : ExtentTarget) (axis : Axis) : Nat :=
  ((lines.find? fun l => l.target = target ∧ l.axis = axis ∧ l.value < Word.bound32).map
    AnnotationLine.value).getD 1

def geometry (lines : List AnnotationLine) : Geometry where
  blocks := ⟨firstExtent lines .blocks .x, firstExtent lines .blocks .y,
    firstExtent lines .blocks .z⟩
  threads := ⟨firstExtent lines .threads .x, firstExtent lines .threads .y,
    firstExtent lines .threads .z⟩

end AnnotationLine

/-- Nowhere in the text does an annotation begin. -/
def Unannotated (cs : List Char) : Prop :=
  ∀ (o : Opening) (c : Char) (tail : List Char), c.isDigit = true → ¬ o.text ++ c :: tail <:+ cs

variable {o : Opening} {l : AnnotationLine} {cs ds rest : List Char}

/-- The text goes on with a word that starts with no blank. -/
lemma stops_append {c : Char} (word : List Char) (hword : word.head? = some c)
    (hc : Text.isBlank c = false) (cs : List Char) : Stops (word ++ cs) := by
  intro d hd
  rw [List.head?_append, hword, Option.some_or] at hd
  cases hd
  exact hc

lemma skipBlanks_gap (g : Gap) (h : Stops cs) : skipBlanks (g.val ++ cs) = cs := by
  rw [skipBlanks_append g.property, skipBlanks_eq_self h]

lemma target?_word (target : ExtentTarget) (cs : List Char) :
    target? (target.word.toList ++ cs) = some (target, cs) := by
  cases target with
  | blocks => simp only [target?, ExtentTarget.word, after?_append]
  | threads =>
    have hblocks : after? "blockIdx".toList ("threadIdx".toList ++ cs) = none := rfl
    simp only [target?, ExtentTarget.word, hblocks, after?_append, Option.map_some]

lemma axis?_letter (axis : Axis) (cs : List Char) :
    axis? (axis.letter :: cs) = some (axis, cs) := by
  cases axis <;> rfl

lemma stops_word (target : ExtentTarget) (cs : List Char) : Stops (target.word.toList ++ cs) := by
  cases target with
  | blocks => exact stops_append (c := 'b') _ rfl (by decide) cs
  | threads => exact stops_append (c := 't') _ rfl (by decide) cs

/-- Behind an opening, the value is read. -/
lemma declaration?_opening (o : Opening) (h : Stops rest) :
    declaration? (o.text ++ rest) =
      (extentValue? rest).map fun v => (v.1.map (⟨o.target, o.axis, ·⟩), v.2) := by
  have hequals := skipBlanks_gap o.beforeEquals
    (stops_append (c := '=') "=".toList rfl (by decide) (o.afterEquals.val ++ rest))
  have htag := skipBlanks_gap o.afterTag (stops_word o.target (".".toList ++
    (o.axis.letter :: (o.beforeEquals.val ++ ("=".toList ++ (o.afterEquals.val ++ rest))))))
  have hslashes := skipBlanks_gap o.afterSlashes
    (stops_append (c := '[') "[thread_extent]".toList rfl (by decide)
      (o.afterTag.val ++ (o.target.word.toList ++ (".".toList ++ (o.axis.letter ::
        (o.beforeEquals.val ++ ("=".toList ++ (o.afterEquals.val ++ rest))))))))
  simp only [Opening.text, declaration?, List.append_assoc, List.cons_append, after?_append,
    Option.bind_eq_bind, Option.bind_some, hslashes, htag, target?_word, axis?_letter, hequals,
    skipBlanks_gap o.afterEquals h]
  cases extentValue? rest with
  | none => rfl
  | some v => rfl

/-- Digits are read up to what is no digit of any script. -/
lemma extentValue?_eq (hne : ds ≠ []) (hds : ∀ c ∈ ds, c.isDigit = true)
    (hstop : ∀ c ∈ rest.head?, Text.isDigit c = false) :
    extentValue? (ds ++ rest) =
      some ((some (Nat.ofDigitChars 10 ds 0)).filter (· < Word.bound32), rest) := by
  have hall : ∀ c ∈ ds, Text.isDigit c = true := fun c hc => Text.isDigit_eq_true (hds c hc)
  have htake : (ds ++ rest).takeWhile Text.isDigit = ds := by
    rw [List.takeWhile_append_of_pos hall, takeWhile_eq_nil_of_head? hstop, List.append_nil]
  have hdrop : (ds ++ rest).dropWhile Text.isDigit = rest := by
    rw [List.dropWhile_append_of_pos hall, dropWhile_eq_self_of_head? hstop]
  have hvalue : Text.digitsValue? ds = some (Nat.ofDigitChars 10 ds 0) := by
    cases ds with
    | nil => exact absurd rfl hne
    | cons c cs => exact Text.digitsFrom_eq hds 0
  rw [extentValue?, htake, hdrop, hvalue, if_neg hne]

lemma numeral_ne_nil : l.numeral ≠ [] := by simp [AnnotationLine.numeral]

lemma isDigit_numeral : ∀ c ∈ l.numeral, c.isDigit = true := by
  intro c hc
  rcases List.mem_append.1 hc with hzero | hdigit
  · rw [(List.mem_replicate.1 hzero).2]
    decide
  · exact Nat.isDigit_of_mem_toDigits (by decide) (by decide) hdigit

lemma ofDigitChars_numeral : Nat.ofDigitChars 10 l.numeral 0 = l.value := by
  rw [AnnotationLine.numeral, Nat.ofDigitChars_append, Nat.ofDigitChars_replicate_zero,
    Nat.mul_zero, Nat.ofDigitChars_ten_toDigits]

lemma stops_numeral (cs : List Char) : Stops (l.numeral ++ cs) := by
  obtain ⟨c, rest, hnumeral⟩ := List.exists_cons_of_ne_nil (numeral_ne_nil (l := l))
  have hdigit : c.isDigit = true := isDigit_numeral (l := l) c (by simp [hnumeral])
  have hblank : Text.isBlank c = false := by
    by_contra h
    have hno := Text.isDigit_of_isBlank (Bool.of_not_eq_false h)
    rw [Text.isDigit_eq_true hdigit] at hno
    cases hno
  exact stops_append _ (by rw [hnumeral]; rfl) hblank cs

/-- The annotation of a line is read, and what follows it is left. -/
lemma declaration?_line (hstop : ∀ c ∈ rest.head?, Text.isDigit c = false) :
    declaration? (l.toOpening.text ++ (l.numeral ++ rest)) = some (l.declared, rest) := by
  rw [declaration?_opening _ (stops_numeral rest),
    extentValue?_eq numeral_ne_nil isDigit_numeral hstop, ofDigitChars_numeral]
  by_cases hfits : l.value < Word.bound32
  · simp [AnnotationLine.declared, hfits]
  · simp [AnnotationLine.declared, hfits, Nat.not_lt.1 hfits]

lemma target?_eq_some {target : ExtentTarget} (h : target? cs = some (target, rest)) :
    cs = target.word.toList ++ rest := by
  rw [target?] at h
  cases hblocks : after? "blockIdx".toList cs with
  | some tail =>
    rw [hblocks] at h
    cases h
    exact after?_eq_some_iff.1 hblocks
  | none =>
    rw [hblocks] at h
    obtain ⟨tail, htail, heq⟩ := Option.map_eq_some_iff.1 h
    cases heq
    exact after?_eq_some_iff.1 htail

lemma axis?_eq_some {axis : Axis} (h : axis? cs = some (axis, rest)) :
    cs = axis.letter :: rest := by
  unfold axis? at h
  split at h
  · cases h; rfl
  · cases h; rfl
  · cases h; rfl
  · cases h

/-- A value that can be read starts with a digit. -/
lemma exists_digit_of_extentValue? {n : Nat} (h : extentValue? cs = some (some n, rest)) :
    ∃ c tail, c.isDigit = true ∧ cs = c :: tail := by
  cases cs with
  | nil => cases h
  | cons c tail =>
    refine ⟨c, tail, ?_, rfl⟩
    rw [extentValue?] at h
    cases htake : (c :: tail).takeWhile Text.isDigit with
    | nil => simp [htake] at h
    | cons d ds =>
      obtain rfl : d = c := by
        have hprefix := List.takeWhile_prefix (l := c :: tail) Text.isDigit
        rw [htake] at hprefix
        exact (List.cons_prefix_cons.1 hprefix).1
      simp only [htake, List.cons_ne_nil, if_false, Option.some.injEq, Prod.mk.injEq] at h
      obtain ⟨m, hm, -⟩ := Option.bind_eq_some_iff.1 (Option.filter_eq_some_iff.1 h.1).1
      unfold Text.digitValue? at hm
      by_cases hrange : '0' ≤ d ∧ d ≤ '9'
      · simpa [Char.isDigit, Char.le_def] using hrange
      · rw [if_neg hrange] at hm
        cases hm

/-- What is read as a declaration is an annotation. -/
lemma exists_opening {d : ExtentDeclaration} (h : declaration? cs = some (some d, rest)) :
    ∃ (o : Opening) (c : Char) (tail : List Char), c.isDigit = true ∧ cs = o.text ++ c :: tail := by
  obtain ⟨cs₁, h₁, k₁⟩ := Option.bind_eq_some_iff.1 h
  obtain ⟨cs₂, h₂, k₂⟩ := Option.bind_eq_some_iff.1 k₁
  obtain ⟨⟨target, cs₃⟩, h₃, k₃⟩ := Option.bind_eq_some_iff.1 k₂
  obtain ⟨cs₄, h₄, k₄⟩ := Option.bind_eq_some_iff.1 k₃
  obtain ⟨⟨axis, cs₅⟩, h₅, k₅⟩ := Option.bind_eq_some_iff.1 k₄
  obtain ⟨cs₆, h₆, k₆⟩ := Option.bind_eq_some_iff.1 k₅
  obtain ⟨⟨value, cs₇⟩, h₇, k₇⟩ := Option.bind_eq_some_iff.1 k₆
  cases value with
  | none => cases k₇
  | some n =>
    obtain ⟨c, tail, hc, heq⟩ := exists_digit_of_extentValue? h₇
    obtain ⟨gap₁, hgap₁, hcs₁⟩ := exists_skipBlanks cs₁
    obtain ⟨gap₂, hgap₂, hcs₂⟩ := exists_skipBlanks cs₂
    obtain ⟨gap₅, hgap₅, hcs₅⟩ := exists_skipBlanks cs₅
    obtain ⟨gap₆, hgap₆, hcs₆⟩ := exists_skipBlanks cs₆
    refine ⟨⟨target, axis, ⟨gap₁, hgap₁⟩, ⟨gap₂, hgap₂⟩, ⟨gap₅, hgap₅⟩, ⟨gap₆, hgap₆⟩⟩, c, tail,
      hc, ?_⟩
    rw [after?_eq_some_iff.1 h₁, hcs₁, after?_eq_some_iff.1 h₂, hcs₂, target?_eq_some h₃,
      after?_eq_some_iff.1 h₄, axis?_eq_some h₅, hcs₅, after?_eq_some_iff.1 h₆, hcs₆, heq]
    simp only [Opening.text, List.append_assoc, List.cons_append]

/-- The characters that are not to be looked at may be left out. -/
lemma declarationsFrom_eq_drop (skip : Nat) (cs : List Char) :
    declarationsFrom skip cs = declarations (cs.drop skip) := by
  induction cs generalizing skip with
  | nil => cases skip <;> rfl
  | cons c rest ih =>
    cases skip with
    | zero => rfl
    | succ skip => exact ih skip

/-- The scan goes on behind a declaration. -/
lemma declarations_of_declaration? {c : Char} {between : List Char} {d : Option ExtentDeclaration}
    (h : declaration? (c :: (between ++ rest)) = some (d, rest)) :
    declarations (c :: (between ++ rest)) = d.toList ++ declarations rest := by
  have hskip : (between ++ rest).length - rest.length = between.length := by simp
  rw [declarations, declarationsFrom, h]
  simp only
  rw [hskip, declarationsFrom_eq_drop, List.drop_left]

/-- Where there is no slash, no declaration begins. -/
lemma declarations_append {xs : List Char} (h : ∀ c ∈ xs, c ≠ '/') (cs : List Char) :
    declarations (xs ++ cs) = declarations cs := by
  induction xs with
  | nil => rfl
  | cons c xs ih =>
    have hc : ¬ '/' = c := fun heq => h c List.mem_cons_self heq.symm
    have hnone : declaration? (c :: (xs ++ cs)) = none := by
      have hslashes : after? "//".toList (c :: (xs ++ cs)) = none := by
        rw [after?, if_neg]
        simp [hc]
      rw [declaration?, hslashes]
      rfl
    rw [List.cons_append, declarations, declarationsFrom, hnone]
    exact ih fun d hd => h d (List.mem_cons_of_mem c hd)

lemma ne_of_isBlank {c d : Char} (h : Text.isBlank c = true) (hd : Text.isBlank d = false) :
    c ≠ d := by
  rintro rfl
  rw [h] at hd
  cases hd

/-- A line adds what it declares. -/
lemma declarations_line (l : AnnotationLine) (cs : List Char) :
    declarations (l.text ++ cs) = l.declared.toList ++ declarations cs := by
  have hindent : ∀ c ∈ l.indent.val, c ≠ '/' := fun c hc =>
    ne_of_isBlank (l.indent.property c hc) (by decide)
  have htrail : ∀ c ∈ l.trail.val ++ ['\n'], c ≠ '/' := by
    intro c hc
    rcases List.mem_append.1 hc with hc | hc
    · exact ne_of_isBlank (l.trail.property c hc) (by decide)
    · rw [List.mem_singleton.1 hc]
      decide
  have hstop : ∀ c ∈ (l.trail.val ++ ['\n'] ++ cs).head?, Text.isDigit c = false := by
    intro c hc
    cases htrail : l.trail.val with
    | nil =>
      rw [htrail] at hc
      cases hc
      decide
    | cons d rest =>
      rw [htrail] at hc
      cases hc
      exact Text.isDigit_of_isBlank (l.trail.property _ (by simp [htrail]))
  have hstart : l.toOpening.text ++ (l.numeral ++ (l.trail.val ++ ['\n'] ++ cs)) =
      '/' :: (l.toOpening.text.tail ++ l.numeral ++ (l.trail.val ++ ['\n'] ++ cs)) := by
    rw [List.append_assoc l.toOpening.text.tail, ← List.cons_append]
    rfl
  have hread := declaration?_line (l := l) hstop
  rw [hstart] at hread
  have hscan := declarations_of_declaration? hread
  rw [← hstart, declarations_append htrail] at hscan
  simp only [AnnotationLine.text, List.append_assoc] at hscan ⊢
  rw [declarations_append hindent, hscan]

lemma declarations_lines (lines : List AnnotationLine) (cs : List Char) :
    declarations (lines.flatMap AnnotationLine.text ++ cs) =
      lines.filterMap AnnotationLine.declared ++ declarations cs := by
  induction lines with
  | nil => rfl
  | cons l lines ih =>
    rw [List.flatMap_cons, List.append_assoc, declarations_line, ih]
    cases hdeclared : l.declared with
    | none => simp [hdeclared]
    | some d => simp [hdeclared]

/-- Where no annotation begins, nothing is declared. -/
lemma Unannotated.declarationsFrom_eq (h : Unannotated cs) (skip : Nat) :
    declarationsFrom skip cs = [] := by
  induction cs generalizing skip with
  | nil => cases skip <;> rfl
  | cons c cs ih =>
    have hrest : Unannotated cs := fun o d tail hd hsuffix =>
      h o d tail hd (hsuffix.trans (List.suffix_cons c cs))
    cases skip with
    | succ skip => exact ih hrest skip
    | zero =>
      rw [declarationsFrom]
      cases hread : declaration? (c :: cs) with
      | none => exact ih hrest 0
      | some found =>
        obtain ⟨declared, rest⟩ := found
        cases declared with
        | none => exact ih hrest _
        | some d =>
          obtain ⟨o, digit, tail, hdigit, heq⟩ := exists_opening hread
          exact absurd (heq ▸ List.suffix_refl _) (h o digit tail hdigit)

/-- The first declaration of an axis is the first line for it that fits. -/
lemma extentOf_declared (lines : List AnnotationLine) (target : ExtentTarget) (axis : Axis) :
    extentOf (lines.filterMap AnnotationLine.declared) target axis =
      AnnotationLine.firstExtent lines target axis := by
  induction lines with
  | nil => rfl
  | cons l lines ih =>
    rw [extentOf, AnnotationLine.firstExtent] at ih ⊢
    by_cases hfits : l.value < Word.bound32
    · have hdeclared : l.declared = some ⟨l.target, l.axis, l.value⟩ := if_pos hfits
      rw [List.filterMap_cons_some hdeclared]
      by_cases hsame : l.target = target ∧ l.axis = axis
      · simp [hsame, hfits]
      · have hnot : ¬ (l.target = target ∧ l.axis = axis ∧ l.value < Word.bound32) :=
          fun h => hsame ⟨h.1, h.2.1⟩
        rw [List.find?_cons_of_neg (by simpa using hsame),
          List.find?_cons_of_neg (by simpa using hnot)]
        exact ih
    · have hdeclared : l.declared = none := if_neg hfits
      have hnot : ¬ (l.target = target ∧ l.axis = axis ∧ l.value < Word.bound32) :=
        fun h => hfits h.2.2
      rw [List.filterMap_cons_none hdeclared, List.find?_cons_of_neg (by simpa using hnot)]
      exact ih

lemma geometryOf_eq {cs : List Char} {lines : List AnnotationLine}
    (h : declarations cs = lines.filterMap AnnotationLine.declared) :
    geometryOf cs = AnnotationLine.geometry lines := by
  simp only [geometryOf, extentsOf, h, extentOf_declared, AnnotationLine.geometry]

/-- Where there is no underscore, no marker begins. -/
lemma marked_append_iff {xs after : List Char} (h : '_' ∉ xs) :
    Marked (xs ++ cs) after ↔ Marked cs after := by
  induction xs with
  | nil => rfl
  | cons c xs ih =>
    rw [List.mem_cons, not_or] at h
    have hno : ¬ marker ++ after = c :: (xs ++ cs) := by
      intro heq
      exact h.1 (List.cons.inj heq).1
    rw [List.cons_append, marked_cons_iff, or_iff_right hno, ih h.2]

/-- In a line there is one underscore, and an `e` behind it. -/
lemma exists_underscore (l : AnnotationLine) :
    ∃ front back, l.text = front ++ '_' :: 'e' :: back ∧ '_' ∉ front ∧ '_' ∉ back := by
  have hgap : ∀ g : Gap, '_' ∉ g.val := fun g hc =>
    ne_of_isBlank (g.property _ hc) (by decide) rfl
  have hletter : ∀ axis : Axis, '_' ≠ axis.letter := by
    intro axis
    cases axis <;> decide
  have hword : ∀ target : ExtentTarget, '_' ∉ target.word.toList := by
    intro target
    cases target <;> decide
  have hnumeral : '_' ∉ l.numeral := by
    intro hc
    exact absurd (isDigit_numeral _ hc) (by decide)
  refine ⟨l.indent.val ++ ("//".toList ++ (l.afterSlashes.val ++ "[thread".toList)),
    "xtent]".toList ++ (l.afterTag.val ++ (l.target.word.toList ++ (".".toList ++
      (l.axis.letter :: (l.beforeEquals.val ++ ("=".toList ++ (l.afterEquals.val ++
        (l.numeral ++ (l.trail.val ++ ['\n']))))))))), ?_, ?_, ?_⟩
  · have htag : "[thread_extent]".toList = "[thread".toList ++ '_' :: 'e' :: "xtent]".toList := rfl
    simp only [AnnotationLine.text, Opening.text, htag, List.append_assoc, List.cons_append]
  · simp only [List.mem_append, not_or]
    exact ⟨hgap _, by decide, hgap _, by decide⟩
  · simp only [List.mem_append, List.mem_cons, not_or]
    exact ⟨by decide, hgap _, hword _, by decide, hletter _, hgap _, by decide, hgap _, hnumeral,
      hgap _, by decide, nofun⟩

lemma marked_line (l : AnnotationLine) {after : List Char} :
    Marked (l.text ++ cs) after ↔ Marked cs after := by
  obtain ⟨front, back, htext, hfront, hback⟩ := exists_underscore l
  have hunderscore : ¬ marker ++ after = '_' :: 'e' :: (back ++ cs) := by
    intro heq
    cases (List.cons.inj (List.cons.inj heq).2).1
  have he : ¬ marker ++ after = 'e' :: (back ++ cs) := by
    intro heq
    cases (List.cons.inj heq).1
  rw [htext, List.append_assoc, marked_append_iff hfront, List.cons_append, List.cons_append,
    marked_cons_iff, or_iff_right hunderscore, marked_cons_iff, or_iff_right he,
    marked_append_iff hback]

lemma marked_lines (lines : List AnnotationLine) {after : List Char} :
    Marked (lines.flatMap AnnotationLine.text ++ cs) after ↔ Marked cs after := by
  induction lines with
  | nil => rfl
  | cons l lines ih => rw [List.flatMap_cons, List.append_assoc, marked_line, ih]

/-- Annotations are read back as they were written: lines of annotations, in any order and with any
repetitions, before a body that has one entry point and no annotation make a source whose geometry
has, along each axis of blocks and of threads, the first extent written for it that is a word of 32
bits, and one where no line has such an extent. -/
theorem parse_annotated (lines : List AnnotationLine) (body : List Char) (hentry : HasEntry body)
    (hbody : Unannotated body) :
    ∃ source,
      parse (String.ofList (lines.flatMap AnnotationLine.text ++ body)) = .ok source ∧
      source.geometry = AnnotationLine.geometry lines := by
  obtain ⟨after, rest, first, ⟨hmarked, hunique⟩, hvoid, hopens⟩ := hentry
  have honce : MarkedOnce (String.ofList (lines.flatMap AnnotationLine.text ++ body)).toList
      after := by
    rw [String.toList_ofList]
    refine ⟨(marked_lines lines).2 hmarked, ?_⟩
    intro after' hafter'
    exact hunique after' ((marked_lines lines).1 hafter')
  obtain ⟨source, hparse, -⟩ := parse_of_opens honce hvoid hopens
  have hdeclared : declarations (lines.flatMap AnnotationLine.text ++ body) =
      lines.filterMap AnnotationLine.declared := by
    rw [declarations_lines, declarations, hbody.declarationsFrom_eq 0, List.append_nil]
  refine ⟨source, hparse, ?_⟩
  rw [geometry_of_parse hparse, String.toList_ofList]
  exact geometryOf_eq hdeclared

/-- Where there is no slash, there is no annotation. -/
lemma unannotated_of_no_slash (h : '/' ∉ cs) : Unannotated cs := by
  intro o c tail _ hsuffix
  have hslash : '/' ∈ o.text ++ c :: tail := by simp [Opening.text]
  exact h (hsuffix.subset hslash)

/-- The second extent of the blocks and the one that is no word of 32 bits do not count. -/
theorem parse_annotated_four_lines :
    HasEntry "__global__ void k()".toList ∧ Unannotated "__global__ void k()".toList ∧
    ∃ source, parse (String.ofList ([AnnotationLine.spaced .blocks .x 16, .spaced .blocks .x 4,
        .spaced .threads .y 4294967296, .spaced .threads .y 2].flatMap AnnotationLine.text ++
        "__global__ void k()".toList)) = .ok source ∧
      source.geometry = ⟨⟨16, 1, 1⟩, ⟨1, 2, 1⟩⟩ := by
  have hmarked : MarkedOnce "__global__ void k()".toList " void k()".toList :=
    markedOnce_of_afterMarkers (by decide +kernel) (by decide +kernel)
  have hvoid : ReturnsVoid " void k()".toList "k()".toList :=
    ⟨[' '], [' '], by decide, by decide, rfl⟩
  have hopens : Opens "k".toList "k()".toList :=
    ⟨⟨'k', [], rfl, by decide, nofun⟩, [], [')'], by decide, rfl⟩
  have hentry : HasEntry "__global__ void k()".toList := ⟨_, _, _, hmarked, hvoid, hopens⟩
  have hbody : Unannotated "__global__ void k()".toList := unannotated_of_no_slash (by decide)
  exact ⟨hentry, hbody, parse_annotated _ _ hentry hbody⟩

end KernelSource

end ExpertExchange
