import ExpertExchange.Proofs.Toml.Documents
import ExpertExchange.Settings.File

/-!
# Saved settings are loaded again

Settings are written if none of their numbers is too large for an integer of a settings file, and
what is written is read back as the same settings, whatever characters their texts have.
-/

namespace ExpertExchange

namespace Settings

open Toml (Node Entries Bare)

variable {α : Type} {key other : String} {node : α → Node} {value : Option α} {es : Entries}

def numbers (s : Settings) : List Nat :=
  s.localSize.toList ++ s.maxNumSplit.toList ++ s.rendezvousTimeoutSecs.toList ++
    s.masterPort.toList

def keys : List String :=
  ["local_size", "use_nvrtc", "sdk_home", "max_num_split", "rendezvous_timeout_secs",
    "fallback_log", "master_addr", "master_port"]

lemma forall_mem_pair {P : String × Node → Prop} :
    (∀ e ∈ pair key node value, P e) ↔ ∀ a ∈ value, P (key, node a) := by
  cases value <;> simp [pair]

lemma keys_pair_sublist : ((pair key node value).map Prod.fst).Sublist [key] := by
  cases value <;> simp [pair]

lemma find?_append (fs : Entries) : Entries.find? (es ++ fs) key =
    (es.find? key).or (Entries.find? fs key) := by
  rw [Entries.find?, List.find?_append, Option.map_or]
  rfl

lemma find?_pair : (pair key node value).find? other =
    if key = other then value.map node else .none := by
  by_cases hkey : key = other
  · subst hkey
    cases value <;> simp [pair, Entries.find?]
  · cases value <;> simp [pair, Entries.find?, hkey]

/-- A setting is read from the node that it is written as. -/
lemma entry?_eq {read : Node → Option α} (node : α → Node) (hfind : es.find? key = value.map node)
    (hread : ∀ a ∈ value, read (node a) = some a) : entry? es key read = some value := by
  unfold entry?
  rw [hfind]
  cases value with
  | none => rfl
  | some a => simp [hread a rfl]

variable {s : Settings}

lemma keys_toEntries_sublist : ((toEntries s).map Prod.fst).Sublist keys := by
  simp only [toEntries, List.map_append]
  exact ((((((keys_pair_sublist.append keys_pair_sublist).append keys_pair_sublist).append
    keys_pair_sublist).append keys_pair_sublist).append keys_pair_sublist).append
    keys_pair_sublist).append keys_pair_sublist

/-- A natural number is written as the integer that it is. -/
lemma map_integer (value : Option Nat) :
    Option.map (fun i : Int => Node.integer i) (do let n ← value; pure (n : Int)) =
      value.map fun n => .integer n := by
  cases value <;> rfl

lemma find?_toEntries : (toEntries s).find? key =
    ((((((((if "local_size" = key then s.localSize.map fun n => .integer n else .none).or
      (if "use_nvrtc" = key then s.useNvrtc.map .boolean else .none)).or
      (if "sdk_home" = key then s.sdkHome.map .string else .none)).or
      (if "max_num_split" = key then s.maxNumSplit.map fun n => .integer n else .none)).or
      (if "rendezvous_timeout_secs" = key then s.rendezvousTimeoutSecs.map fun n => .integer n
        else .none)).or
      (if "fallback_log" = key then s.fallbackLog.map fun p => .string p.name else .none)).or
      (if "master_addr" = key then s.masterAddr.map .string else .none)).or
      (if "master_port" = key then s.masterPort.map fun n => .integer n else .none)) := by
  simp only [toEntries, find?_append, find?_pair, map_integer]

lemma nodup_keys_toEntries : ((toEntries s).map Prod.fst).Nodup :=
  keys_toEntries_sublist.nodup (by decide)

lemma bare_of_mem_keys : ∀ key ∈ keys, Bare key := by
  intro key hkey
  simp only [keys, List.mem_cons, List.not_mem_nil, or_false] at hkey
  rcases hkey with rfl | rfl | rfl | rfl | rfl | rfl | rfl | rfl
  all_goals exact ⟨by decide, List.all_eq_true.1 rfl⟩

lemma bare_of_mem_toEntries : ∀ e ∈ toEntries s, Bare e.1 := by
  intro e he
  exact bare_of_mem_keys _ (keys_toEntries_sublist.subset (List.mem_map_of_mem he))

lemma natural?_integer {bound n : Nat} (h : n < bound) :
    natural? bound (.integer n) = some n := by
  have hbound : (n : Int) < bound := by exact_mod_cast h
  simp [natural?, hbound]

lemma policy?_name (p : NoticePolicy) : policy? (.string p.name) = some p := by
  cases p <;> rfl

/-- The settings are read back from their table. -/
lemma ofEntries?_toEntries (hnumbers : ∀ n ∈ s.numbers, n < Word.bound)
    (hport : ∀ p ∈ s.masterPort, p < Word.portBound) : ofEntries? (toEntries s) = some s := by
  simp only [numbers, List.forall_mem_append, Option.mem_toList] at hnumbers
  obtain ⟨⟨⟨hlocal, hsplits⟩, htimeout⟩, -⟩ := hnumbers
  have hlocal : entry? (toEntries s) "local_size" (natural? Word.bound) = some s.localSize :=
    entry?_eq (fun n => .integer n) (by simp [find?_toEntries]) fun n hn => natural?_integer (hlocal n hn)
  have hnvrtc : entry? (toEntries s) "use_nvrtc" flag? = some s.useNvrtc :=
    entry?_eq .boolean (by simp [find?_toEntries]) fun _ _ => rfl
  have hhome : entry? (toEntries s) "sdk_home" text? = some s.sdkHome :=
    entry?_eq .string (by simp [find?_toEntries]) fun _ _ => rfl
  have hsplits : entry? (toEntries s) "max_num_split" (natural? Word.bound) = some s.maxNumSplit :=
    entry?_eq (fun n => .integer n) (by simp [find?_toEntries]) fun n hn => natural?_integer (hsplits n hn)
  have htimeout : entry? (toEntries s) "rendezvous_timeout_secs" (natural? Word.bound) =
      some s.rendezvousTimeoutSecs :=
    entry?_eq (fun n => .integer n) (by simp [find?_toEntries]) fun n hn => natural?_integer (htimeout n hn)
  have hpolicy : entry? (toEntries s) "fallback_log" policy? = some s.fallbackLog :=
    entry?_eq (fun p => .string p.name) (by simp [find?_toEntries]) fun p _ => policy?_name p
  have haddr : entry? (toEntries s) "master_addr" text? = some s.masterAddr :=
    entry?_eq .string (by simp [find?_toEntries]) fun _ _ => rfl
  have hport : entry? (toEntries s) "master_port" (natural? Word.portBound) = some s.masterPort :=
    entry?_eq (fun n => .integer n) (by simp [find?_toEntries]) fun n hn => natural?_integer (hport n hn)
  rw [ofEntries?, hlocal, hnvrtc, hhome, hsplits, htimeout, hpolicy, haddr, hport]
  rfl

/-- A natural number has a written form if it is not too large for one. -/
lemma isSome_write?_integer (value : Option Nat) :
    (∀ i ∈ (do let n ← value; pure (n : Int)), (Node.integer i).write?.isSome) ↔
      ∀ n ∈ value, n < Word.signedBound := by
  cases value with
  | none => simp
  | some n =>
    have hlow : -(Word.signedBound : Int) ≤ n := by omega
    have hhigh : (n : Int) < Word.signedBound ↔ n < Word.signedBound := by omega
    simp only [Option.bind_eq_bind, Option.bind_some, Option.pure_def, Option.mem_def,
      Option.some.injEq, forall_eq', Node.write?, hlow, true_and, hhigh]
    split <;> simp_all

/-- The settings have a written form if none of their numbers is too large for one. -/
lemma isSome_write?_toEntries :
    (Toml.write? (toEntries s)).isSome ↔ ∀ n ∈ s.numbers, n < Word.signedBound := by
  have htext : ∀ text, (Node.string text).write?.isSome := fun _ => rfl
  have hflag : ∀ b, (Node.boolean b).write?.isSome := fun _ => rfl
  rw [Toml.isSome_write?_iff]
  simp only [toEntries, numbers, List.forall_mem_append, forall_mem_pair, isSome_write?_integer,
    Option.mem_toList, htext, hflag, implies_true, and_true]
  exact Iff.rfl

/-- Settings whose numbers are all signed words are written. -/
lemma exists_save (hnumbers : ∀ n ∈ s.numbers, n < Word.signedBound) :
    ∃ text, Toml.write? (toEntries s) = some text ∧ save s = .ok text := by
  obtain ⟨text, htext⟩ := Option.isSome_iff_exists.1 (isSome_write?_toEntries.2 hnumbers)
  exact ⟨text, htext, by rw [save, htext]⟩

/-- What has been written is loaded as the same settings. -/
lemma load_write? {text : String} (hport : ∀ p ∈ s.masterPort, p < Word.portBound)
    (htext : Toml.write? (toEntries s) = some text) : load (.text text) = .ok s := by
  have hnumbers : ∀ n ∈ s.numbers, n < Word.signedBound :=
    isSome_write?_toEntries.1 (by rw [htext]; rfl)
  have hwords : ∀ n ∈ s.numbers, n < Word.bound := by
    intro n hn
    exact Nat.lt_trans (hnumbers n hn) (by decide)
  have hparse := Toml.parse?_write? bare_of_mem_toEntries nodup_keys_toEntries htext
  rw [load, hparse, Option.bind_some, ofEntries?_toEntries hwords hport]

/-- Settings round-trip: unless one of their numbers is too large for an integer of a settings
file, they are saved, and loading the file gives the same settings, whatever characters their texts
have and whichever of them are given; if one is too large they are not saved. -/
theorem save_load (hport : ∀ p ∈ s.masterPort, p < Word.portBound) :
    ((∀ n ∈ s.numbers, n < Word.signedBound) →
      ∃ text, save s = .ok text ∧ load (.text text) = .ok s) ∧
    ((∃ n ∈ s.numbers, Word.signedBound ≤ n) → save s = .error .unwritable) := by
  constructor
  · intro hnumbers
    obtain ⟨text, htext, hsave⟩ := exists_save hnumbers
    exact ⟨text, hsave, load_write? hport htext⟩
  · rintro ⟨n, hn, hlarge⟩
    have hnone : Toml.write? (toEntries s) = .none := by
      rw [← Option.not_isSome_iff_eq_none, isSome_write?_toEntries]
      intro hnumbers
      exact absurd (hnumbers n hn) (Nat.not_lt.2 hlarge)
    rw [save, hnone]

/-- Texts with marks of both kinds, an escape, line ends and a control character; in other settings
a number is too large. -/
theorem save_load_marks :
    let s : Settings := { none with
      sdkHome := some "\"\"\"\x27\x27\x27\\\n\r\n"
      masterAddr := some "\x01\x27"
      masterPort := some 29500 }
    let large : Settings := { none with localSize := some 0x8000000000000000 }
    (∃ text, save s = .ok text ∧ load (.text text) = .ok s) ∧ save large = .error .unwritable := by
  intro s large
  have hport : ∀ p ∈ s.masterPort, p < Word.portBound := by decide
  have hlarge : ∀ p ∈ large.masterPort, p < Word.portBound := by decide
  refine ⟨(save_load hport).1 (by decide), (save_load hlarge).2 ?_⟩
  exact ⟨0x8000000000000000, by decide, by decide⟩

end Settings

end ExpertExchange
