import ExpertExchange.Host.Trace
import Mathlib.Tactic.Lemma

/-!
# The order of streams and events

Work on one stream runs in the order in which it was issued; between streams, what comes before the
record of an event comes before what waits for that record. `Trace.Before` is the order that these
two rules give to the operations of a trace. `Trace.Known` and `Trace.Carried` say of a trace that
may still grow what an operation is bound to come before: all later operations on a stream, or all
that later wait for a slot. Records turn the first into the second, and waits the second into the
first.
-/

namespace ExpertExchange

/-- The stream of device `d` on which the operation is issued. The trace names the device of a
launch; all other operations are issued on the streams of the device that the trace is about. -/
def TraceEvent.stream? (d : Nat) : TraceEvent → Option StreamKind
  | .launch _ device kind => if device = d then some kind else none
  | .eventRecord _ kind | .eventWait _ kind | .recordStream kind | .send _ _ kind
  | .recv _ _ kind => some kind
  | _ => none

namespace Trace

variable {t t' : Trace} {d i j slot : Nat} {kind : StreamKind}

/-- Operation `i` is issued on a stream of this kind. -/
def On (t : Trace) (d : Nat) (kind : StreamKind) (i : Nat) : Prop :=
  ∃ e, t[i]? = some e ∧ e.stream? d = some kind

def Records (t : Trace) (slot i : Nat) : Prop := ∃ kind, t[i]? = some (.eventRecord slot kind)

def Sends (t : Trace) (i : Nat) : Prop := ∃ peer range kind, t[i]? = some (.send peer range kind)

/-- Operation `i` sends or receives. -/
def Transfers (t : Trace) (i : Nat) : Prop :=
  t.Sends i ∨ ∃ peer range kind, t[i]? = some (.recv peer range kind)

/-- Operation `i` runs before operation `j`: both are on one stream, issued in this order; or `i` is
the last record of a slot before `j`, which waits for the slot; or something is between them. -/
inductive Before (d : Nat) (t : Trace) : Nat → Nat → Prop where
  | issued {i j : Nat} {kind : StreamKind} (hi : t.On d kind i) (hj : t.On d kind j) (h : i < j) :
      Before d t i j
  | handed {i j slot : Nat} {a b : StreamKind} (hi : t[i]? = some (.eventRecord slot a))
      (hj : t[j]? = some (.eventWait slot b)) (h : i < j)
      (last : ∀ n, i < n → n < j → ¬ t.Records slot n) : Before d t i j
  | trans {i n j : Nat} (h : Before d t i n) (h' : Before d t n j) : Before d t i j

lemma getElem?_append (h : i < t.length) (t' : Trace) : (t ++ t')[i]? = t[i]? :=
  List.getElem?_append_left h

lemma getElem?_next (t : Trace) (e : TraceEvent) (t' : Trace) :
    (t ++ e :: t')[t.length]? = some e := by
  rw [List.getElem?_append_right (Nat.le_refl _), Nat.sub_self]
  rfl

lemma On.lt (h : t.On d kind i) : i < t.length := by
  obtain ⟨e, he, -⟩ := h
  exact (List.getElem?_eq_some_iff.1 he).1

lemma On.append (h : t.On d kind i) (t' : Trace) : (t ++ t').On d kind i := by
  have hlt := h.lt
  obtain ⟨e, he, hkind⟩ := h
  exact ⟨e, (getElem?_append hlt t').trans he, hkind⟩

/-- What is appended is on the stream of its operation. -/
lemma on_last {e : TraceEvent} (h : e.stream? d = some kind) (t' : Trace) :
    (t ++ e :: t').On d kind t.length := ⟨e, getElem?_next t e t', h⟩

/-- Operation `i` comes before everything that is issued on the stream from now on. -/
def Known (d : Nat) (t : Trace) (kind : StreamKind) (i : Nat) : Prop :=
  ∀ t' j, t.length ≤ j → (t ++ t').On d kind j → (t ++ t').Before d i j

/-- Operation `i` comes before every wait for the slot from now on, until the slot is recorded
again. -/
def Carried (d : Nat) (t : Trace) (slot i : Nat) : Prop :=
  ∀ t' j kind, t.length ≤ j → (t ++ t')[j]? = some (.eventWait slot kind) →
    (∀ n, t.length ≤ n → n < j → ¬ (t ++ t').Records slot n) → (t ++ t').Before d i j

lemma Known.append (h : t.Known d kind i) (seg : Trace) : (t ++ seg).Known d kind i := by
  intro t' j hj hon
  rw [List.append_assoc] at hon ⊢
  refine h (seg ++ t') j ?_ hon
  rw [List.length_append] at hj
  omega

/-- What is on a stream comes before what is issued on it later. -/
lemma known_of_on (h : t.On d kind i) : t.Known d kind i := by
  intro t' j hj hon
  have hlt := h.lt
  exact .issued (h.append t') hon (by omega)

/-- Without a new record the slot stands for what it stood for. -/
lemma Carried.append {seg : Trace} (h : t.Carried d slot i)
    (hseg : ∀ e ∈ seg, ∀ kind, e ≠ .eventRecord slot kind) : (t ++ seg).Carried d slot i := by
  intro t' j kind hj hwait hrecords
  rw [List.append_assoc] at hwait hrecords ⊢
  rw [List.length_append] at hj hrecords
  refine h (seg ++ t') j kind (by omega) hwait ?_
  intro n hn hnj hrec
  by_cases hin : n < t.length + seg.length
  · obtain ⟨kind', hkind'⟩ := hrec
    rw [List.getElem?_append_right hn, List.getElem?_append_left (by omega)] at hkind'
    exact hseg _ (List.mem_of_getElem? hkind') kind' rfl
  · exact hrecords n (by omega) hnj hrec

/-- A record stands for everything that its stream comes after. -/
lemma Known.record (h : t.Known d kind i) (slot : Nat) :
    (t ++ [TraceEvent.eventRecord slot kind]).Carried d slot i := by
  intro t' j kind' hj hwait hrecords
  rw [List.append_assoc, List.singleton_append] at hwait hrecords ⊢
  rw [List.length_append, List.length_singleton] at hj hrecords
  have hon : (t ++ .eventRecord slot kind :: t').On d kind t.length := on_last rfl t'
  refine .trans (h _ _ (Nat.le_refl _) hon) (.handed (getElem?_next _ _ _) hwait (by omega) ?_)
  intro n hn hnj
  exact hrecords n (by omega) hnj

/-- After a wait the stream comes after everything that the slot stands for. -/
lemma Carried.wait (h : t.Carried d slot i) (kind : StreamKind) :
    (t ++ [TraceEvent.eventWait slot kind]).Known d kind i := by
  intro t' j hj hon
  rw [List.append_assoc, List.singleton_append] at hon ⊢
  rw [List.length_append, List.length_singleton] at hj
  refine .trans (h _ _ kind (Nat.le_refl _) (getElem?_next _ _ _) ?_) ?_
  · intro n hn hlt
    omega
  · exact .issued (on_last rfl t') hon (by omega)

end Trace

end ExpertExchange
