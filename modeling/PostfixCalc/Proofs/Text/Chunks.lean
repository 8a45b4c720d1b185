import Mathlib.Tactic.SplitIfs
import PostfixCalc.Text.Basic

namespace PostfixCalc.Text

/-- At least one code point, and no blank among them. -/
def IsChunk (chunk : Text) : Prop := chunk ≠ [] ∧ ∀ c ∈ chunk, isBlank c = false

instance (chunk : Text) : Decidable (IsChunk chunk) :=
  @instDecidableAnd _ _ _ (List.decidableBAll _ chunk)

/-- A text with exactly these maximal runs without blanks, in this order. -/
inductive Spaced : List Text → Text → Prop
  | blank {gap : Text} (hg : ∀ c ∈ gap, isBlank c = true) : Spaced [] gap
  | chunk {gap chunk rest : Text} {cs : List Text} (hg : ∀ c ∈ gap, isBlank c = true)
      (hc : IsChunk chunk) (hr : beginsChunk rest = false) (h : Spaced cs rest) :
      Spaced (chunk :: cs) (gap ++ chunk ++ rest)

theorem Spaced.cons_blank {cs : List Text} {s : Text} {c : Char} (hc : isBlank c = true)
    (h : Spaced cs s) : Spaced cs (c :: s) := by
  cases h with
  | blank hg => exact .blank (by simpa [hc] using hg)
  | @chunk gap chunk rest cs hg hk hr h =>
    have hgap : ∀ d ∈ c :: gap, isBlank d = true := by simpa [hc] using hg
    simpa using Spaced.chunk hgap hk hr h

theorem Spaced.cons_chunk {chunk rest : Text} {cs : List Text} (hc : IsChunk chunk)
    (hr : beginsChunk rest = false) (h : Spaced cs rest) :
    Spaced (chunk :: cs) (chunk ++ rest) := by
  have hgap : ∀ d ∈ ([] : Text), isBlank d = true := by simp
  simpa using Spaced.chunk hgap hc hr h

/-- A code point that is no blank lengthens the chunk at the front. -/
theorem Spaced.cons_first {cs : List Text} {s : Text} {c : Char} (hc : isBlank c = false)
    (hs : beginsChunk s = true) (h : Spaced cs s) : Spaced (consFirst c cs) (c :: s) := by
  cases h with
  | blank hg =>
    cases s with
    | nil => simp [beginsChunk] at hs
    | cons d s =>
      have hd := hg d (by simp)
      simp [beginsChunk, hd] at hs
  | @chunk gap chunk rest cs hg hk hr h =>
    cases gap with
    | nil =>
      have hk' : IsChunk (c :: chunk) := ⟨by simp, by simpa [hc] using hk.2⟩
      exact .cons_chunk hk' hr h
    | cons d gap =>
      have hd := hg d (by simp)
      simp [beginsChunk, hd] at hs

theorem spaced_chunks (s : Text) : Spaced (chunks s) s := by
  induction s with
  | nil => exact .blank (by simp)
  | cons c s ih =>
    rw [chunks]
    split_ifs with hc hs
    · exact ih.cons_blank hc
    · exact ih.cons_first (by simpa using hc) hs
    · have hk : IsChunk [c] := ⟨by simp, by simpa using hc⟩
      exact .cons_chunk hk (by simpa using hs) ih

theorem chunks_append_of_blank (gap s : Text) (hg : ∀ c ∈ gap, isBlank c = true) :
    chunks (gap ++ s) = chunks s := by
  induction gap with
  | nil => rfl
  | cons c gap ih =>
    have hc := hg c (by simp)
    have ht := ih (fun d hd => hg d (by simp [hd]))
    simp [chunks, hc, ht]

theorem chunks_append_of_chunk (chunk rest : Text) (hc : IsChunk chunk)
    (hr : beginsChunk rest = false) : chunks (chunk ++ rest) = chunk :: chunks rest := by
  obtain ⟨hne, hall⟩ := hc
  induction chunk with
  | nil => exact absurd rfl hne
  | cons c chunk ih =>
    have hb := hall c (by simp)
    cases chunk with
    | nil => simp [chunks, hb, hr]
    | cons d chunk =>
      have hd := hall d (by simp)
      have ht := ih (by simp) (fun x hx => hall x (by simp [hx]))
      simp only [List.cons_append] at ht ⊢
      rw [chunks, ht]
      simp [hb, hd, beginsChunk, consFirst]

theorem Spaced.chunks_eq {cs : List Text} {s : Text} (h : Spaced cs s) : chunks s = cs := by
  induction h with
  | blank hg => simpa [chunks] using chunks_append_of_blank _ [] hg
  | chunk hg hc hr h ih =>
    rw [List.append_assoc, chunks_append_of_blank _ _ hg, chunks_append_of_chunk _ _ hc hr, ih]

/-- The chunks of a text are the only way to take it apart. -/
theorem spaced_iff {cs : List Text} {s : Text} : Spaced cs s ↔ chunks s = cs :=
  ⟨Spaced.chunks_eq, fun h => h ▸ spaced_chunks s⟩

theorem chunks_of_isChunk {chunk : Text} (h : IsChunk chunk) : chunks chunk = [chunk] := by
  simpa [chunks] using chunks_append_of_chunk chunk [] h rfl

theorem trimEnd_eq_nil_iff (s : Text) : trimEnd s = [] ↔ ∀ c ∈ s, isBlank c = true := by
  induction s with
  | nil => simp [trimEnd]
  | cons c s ih =>
    simp only [trimEnd, List.forall_mem_cons, ← ih]
    cases hb : isBlank c <;> cases ht : trimEnd s <;> simp

theorem beginsChunk_trimEnd (s : Text) : beginsChunk (trimEnd s) = beginsChunk s := by
  cases s with
  | nil => rfl
  | cons c s =>
    simp only [trimEnd]
    cases hb : isBlank c <;> cases ht : trimEnd s <;> simp [beginsChunk, hb]

theorem chunks_trimEnd (s : Text) : chunks (trimEnd s) = chunks s := by
  induction s with
  | nil => rfl
  | cons c s ih =>
    simp only [trimEnd]
    split_ifs with h
    · obtain ⟨ht, hb⟩ : trimEnd s = [] ∧ isBlank c = true := by simpa using h
      rw [ht] at ih
      simp [chunks, hb, ← ih]
    · rw [chunks, chunks, beginsChunk_trimEnd, ih]

theorem chunks_dropWhile_isBlank (s : Text) : chunks (s.dropWhile isBlank) = chunks s := by
  induction s with
  | nil => rfl
  | cons c s ih =>
    cases hb : isBlank c <;> simp [chunks, hb, ih]

@[simp] theorem chunks_trim (s : Text) : chunks (trim s) = chunks s := by
  rw [trim, chunks_trimEnd, chunks_dropWhile_isBlank]

/-- Without chunks there is nothing but blanks, and nothing is left of them. -/
theorem trim_eq_nil_iff (s : Text) : trim s = [] ↔ chunks s = [] := by
  constructor
  · intro h
    rw [← chunks_trim, h]
    rfl
  · intro h
    have hs := spaced_chunks s
    rw [h] at hs
    cases hs with
    | blank hg =>
      rw [trim, trimEnd_eq_nil_iff]
      exact fun c hc => hg c (List.dropWhile_subset _ hc)

theorem dropWhile_isBlank_append (gap s : Text) (hg : ∀ c ∈ gap, isBlank c = true)
    (hs : beginsChunk s = true) : (gap ++ s).dropWhile isBlank = s := by
  rw [List.dropWhile_append_of_pos hg]
  cases s with
  | nil => rfl
  | cons c s =>
    have hc : isBlank c = false := by simpa [beginsChunk] using hs
    simp [hc]

theorem trimEnd_append_blank (s gap : Text) (hg : ∀ c ∈ gap, isBlank c = true) :
    trimEnd (s ++ gap) = trimEnd s := by
  induction s with
  | nil => simpa [trimEnd] using (trimEnd_eq_nil_iff gap).mpr hg
  | cons c s ih => simp only [List.cons_append, trimEnd, ih]

theorem trimEnd_of_noBlank (s : Text) (h : ∀ c ∈ s, isBlank c = false) : trimEnd s = s := by
  induction s with
  | nil => rfl
  | cons c s ih =>
    have hc := h c (by simp)
    simp [trimEnd, hc, ih (fun d hd => h d (by simp [hd]))]

/-- A text trims to a chunk if the chunk is all there is between its blanks. -/
theorem trim_eq_iff_of_isChunk {chunk : Text} (hk : IsChunk chunk) (s : Text) :
    trim s = chunk ↔ chunks s = [chunk] := by
  constructor
  · intro h
    rw [← chunks_trim, h, chunks_of_isChunk hk]
  · intro h
    have hs := spaced_chunks s
    rw [h] at hs
    generalize s = t at hs ⊢
    cases hs with
    | @chunk gap _ rest _ hg hc hr hs =>
      have hb : beginsChunk (chunk ++ rest) = true := by
        obtain ⟨c, chunk, rfl⟩ := List.exists_cons_of_ne_nil hc.1
        simpa [beginsChunk] using hc.2 c (by simp)
      cases hs with
      | blank hrest =>
        rw [trim, List.append_assoc, dropWhile_isBlank_append gap _ hg hb,
          trimEnd_append_blank _ _ hrest, trimEnd_of_noBlank _ hc.2]

end PostfixCalc.Text
