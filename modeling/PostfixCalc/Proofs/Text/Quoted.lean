import Mathlib.Tactic.SplitIfs
import PostfixCalc.Text.Quoted

namespace PostfixCalc.Text

/-- The value of a hexadecimal digit. -/
def hexDigit (c : Char) : Nat := if c.isDigit then c.toNat - 48 else c.toNat - 87

/-- The code point that an escape of one letter stands for. -/
def escaped (c : Char) : Char :=
  if c = '0' then '\x00' else if c = 't' then '\t' else if c = 'n' then '\n'
  else if c = 'r' then '\r' else c

/-- Puts a code point in front of what has been read. -/
def consRead (c : Char) (read : Option (Text × Text)) : Option (Text × Text) :=
  read.map fun (s, rest) => (c :: s, rest)

/-- What is being read inside quotes. -/
inductive Reading
  | plain
  /-- What follows a backslash. -/
  | escape
  /-- The brace in front of a number. -/
  | brace
  | number (value : Nat)

/-- Reads up to the closing quote: the text, and what follows the quote. -/
def readQuoted? : Reading → Text → Option (Text × Text)
  | _, [] => none
  | .plain, c :: s =>
    if c = '"' then some ([], s)
    else if c = '\\' then readQuoted? .escape s
    else consRead c (readQuoted? .plain s)
  | .escape, c :: s =>
    if c = 'u' then readQuoted? .brace s else consRead (escaped c) (readQuoted? .plain s)
  | .brace, _ :: s => readQuoted? (.number 0) s
  | .number n, c :: s =>
    if c = '\x7d' then consRead (Char.ofNat n) (readQuoted? .plain s)
    else readQuoted? (.number (16 * n + hexDigit c)) s

theorem digitChar_facts : ∀ k < 16, hexDigit (Nat.digitChar k) = k ∧ Nat.digitChar k ≠ '\x7d' := by
  decide

theorem exists_digitChar {n : Nat} {c : Char} (h : c ∈ Nat.toDigits 16 n) :
    ∃ k < 16, c = Nat.digitChar k := by
  induction n using Nat.strongRecOn with
  | ind n ih =>
    rw [Nat.toDigits_eq_if (by decide)] at h
    split_ifs at h with hn
    · exact ⟨n, hn, List.mem_singleton.mp h⟩
    · rcases List.mem_append.mp h with h | h
      · exact ih (n / 16) (by omega) h
      · exact ⟨n % 16, Nat.mod_lt n (by decide), List.mem_singleton.mp h⟩

/-- The value of some digits behind a number. -/
def hexValue (n : Nat) (ds : Text) : Nat := ds.foldl (fun n c => 16 * n + hexDigit c) n

theorem hexValue_toDigits (n : Nat) : hexValue 0 (Nat.toDigits 16 n) = n := by
  induction n using Nat.strongRecOn with
  | ind n ih =>
    rw [Nat.toDigits_eq_if (by decide)]
    split_ifs with hn
    · simp [hexValue, (digitChar_facts n hn).1]
    · have hfront := ih (n / 16) (by omega)
      have hlast := (digitChar_facts (n % 16) (Nat.mod_lt n (by decide))).1
      rw [hexValue] at hfront
      rw [hexValue, List.foldl_append, hfront, List.foldl_cons, List.foldl_nil, hlast]
      omega

theorem readQuoted?_digits {ds : Text} (h : ∀ c ∈ ds, c ≠ '\x7d') (n : Nat) (s : Text) :
    readQuoted? (.number n) (ds ++ '\x7d' :: s) =
      consRead (Char.ofNat (hexValue n ds)) (readQuoted? .plain s) := by
  induction ds generalizing n with
  | nil =>
    rw [List.nil_append, readQuoted?, if_pos rfl]
    rfl
  | cons c ds ih =>
    obtain ⟨hc, hds⟩ := List.forall_mem_cons.mp h
    rw [List.cons_append, readQuoted?, if_neg hc, ih hds]
    rfl

/-- A code point that is no quote and no backslash is read as it stands. -/
theorem readQuoted?_cons {c : Char} (hquote : c ≠ '"') (hslash : c ≠ '\\') (s : Text) :
    readQuoted? .plain (c :: s) = consRead c (readQuoted? .plain s) := by
  rw [readQuoted?, if_neg hquote, if_neg hslash]

theorem readQuoted?_escape (c : Char) (s : Text) :
    readQuoted? .plain (escape c ++ s) = consRead c (readQuoted? .plain s) := by
  unfold escape
  split_ifs with hnull htab hfeed hreturn hmarked hplain
  · rw [hnull]
    rfl
  · rw [htab]
    rfl
  · rw [hfeed]
    rfl
  · rw [hreturn]
    rfl
  · rcases hmarked with rfl | rfl <;> rfl
  · exact readQuoted?_cons (fun h => hmarked (.inl h)) (fun h => hmarked (.inr h)) s
  · have hdigits : ∀ d ∈ Nat.toDigits 16 c.toNat, d ≠ '\x7d' := by
      intro d hd
      obtain ⟨k, hk, rfl⟩ := exists_digitChar hd
      exact (digitChar_facts k hk).2
    have hread := readQuoted?_digits hdigits 0 s
    rw [hexValue_toDigits, Char.ofNat_toNat] at hread
    rw [← hread]
    simp [readQuoted?]

/-- A quoted text is read back, whatever follows it. -/
theorem readQuoted?_flatMap_escape (s rest : Text) :
    readQuoted? .plain (s.flatMap escape ++ '"' :: rest) = some (s, rest) := by
  induction s with
  | nil => rfl
  | cons c s ih =>
    rw [List.flatMap_cons, List.append_assoc, readQuoted?_escape, ih]
    rfl

end PostfixCalc.Text
