import PostfixCalc.Proofs.Text.Chunks

namespace PostfixCalc.Text

theorem isChunk_of_mem_chunks {s chunk : Text} (h : chunk ∈ chunks s) : IsChunk chunk := by
  have hspaced := spaced_chunks s
  generalize chunks s = cs at h hspaced
  induction hspaced with
  | blank hg => cases h
  | chunk hg hc hr hs ih =>
    rcases List.mem_cons.mp h with rfl | h
    · exact hc
    · exact ih h

/-- The chunks are the text without its blanks. -/
theorem flatten_chunks (s : Text) : (chunks s).flatten = s.filter (!isBlank ·) := by
  have hspaced := spaced_chunks s
  generalize chunks s = cs at hspaced
  induction hspaced with
  | blank hg =>
    rw [List.filter_eq_nil_iff.mpr fun c hc => by simp [hg c hc]]
    rfl
  | @chunk gap chunk rest cs hg hc hr hs ih =>
    rw [List.filter_append, List.filter_append, ← ih,
      List.filter_eq_nil_iff.mpr fun c hc => by simp [hg c hc],
      List.filter_eq_self.mpr fun c hmem => by simp [hc.2 c hmem]]
    rfl

theorem flatMap_chunks {cs : List Text} (h : ∀ c ∈ cs, IsChunk c) : cs.flatMap chunks = cs := by
  induction cs with
  | nil => rfl
  | cons c cs ih =>
    obtain ⟨hc, hcs⟩ := List.forall_mem_cons.mp h
    rw [List.flatMap_cons, chunks_of_isChunk hc, ih hcs, List.singleton_append]

theorem chunks_intercalate {cs : List Text} (h : ∀ c ∈ cs, IsChunk c) :
    chunks ([' '].intercalate cs) = cs := by
  induction cs with
  | nil => rfl
  | cons c cs ih =>
    have hc := h c List.mem_cons_self
    have hcs : ∀ d ∈ cs, IsChunk d := fun d hd => h d (List.mem_cons_of_mem c hd)
    cases cs with
    | nil =>
      rw [List.intercalate_singleton, chunks_of_isChunk hc]
    | cons d cs =>
      have hblank : ∀ e ∈ [' '], isBlank e = true := List.forall_mem_singleton.mpr rfl
      rw [List.intercalate_cons_cons, List.append_assoc, chunks_append_of_chunk c _ hc rfl,
        chunks_append_of_blank _ _ hblank, ih hcs]

theorem intercalate_concat {cs : List Text} (h : cs ≠ []) (chunk : Text) :
    [' '].intercalate (cs ++ [chunk]) = [' '].intercalate cs ++ ' ' :: chunk := by
  induction cs with
  | nil => exact absurd rfl h
  | cons c cs ih =>
    cases cs with
    | nil =>
      rw [List.singleton_append, List.intercalate_cons_cons, List.intercalate_singleton,
        List.intercalate_singleton, List.append_assoc, List.singleton_append]
    | cons d cs =>
      have hrest := ih (List.cons_ne_nil d cs)
      rw [List.cons_append, List.cons_append, List.intercalate_cons_cons, ← List.cons_append, hrest,
        List.intercalate_cons_cons, List.append_assoc _ _ (' ' :: chunk)]

theorem intercalate_eq_nil_iff {cs : List Text} (h : ∀ c ∈ cs, IsChunk c) :
    [' '].intercalate cs = [] ↔ cs = [] := by
  constructor
  · intro hnil
    rw [← chunks_intercalate h, hnil]
    rfl
  · rintro rfl
    rfl

/-- One blank stands between any two chunks, and no other one anywhere. -/
def Tidy (s : Text) : Prop := [' '].intercalate (chunks s) = s

instance (s : Text) : Decidable (Tidy s) := inferInstanceAs (Decidable (_ = s))

theorem tidy_nil : Tidy [] := rfl

theorem tidy_intercalate {cs : List Text} (h : ∀ c ∈ cs, IsChunk c) :
    Tidy ([' '].intercalate cs) := by
  rw [Tidy, chunks_intercalate h]

theorem IsChunk.tidy {chunk : Text} (h : IsChunk chunk) : Tidy chunk := by
  rw [Tidy, chunks_of_isChunk h, List.intercalate_singleton]

theorem Tidy.chunks_concat {s : Text} (h : Tidy s) (hne : s ≠ []) {chunk : Text}
    (hc : IsChunk chunk) : Tidy (s ++ ' ' :: chunk) ∧ chunks (s ++ ' ' :: chunk) = chunks s ++ [chunk] := by
  have hchunks : chunks s ≠ [] := by
    intro hnil
    rw [Tidy, hnil] at h
    exact hne h.symm
  have hall : ∀ c ∈ chunks s ++ [chunk], IsChunk c := by
    intro c hmem
    rcases List.mem_append.mp hmem with hmem | hmem
    · exact isChunk_of_mem_chunks hmem
    · rwa [List.mem_singleton.mp hmem]
  have hjoin : [' '].intercalate (chunks s ++ [chunk]) = s ++ ' ' :: chunk := by
    rw [intercalate_concat hchunks, h]
  rw [← hjoin]
  exact ⟨tidy_intercalate hall, chunks_intercalate hall⟩

theorem trimEnd_append {s : Text} (hne : s ≠ []) (hs : trimEnd s = s) (before : Text) :
    trimEnd (before ++ s) = before ++ s := by
  induction before with
  | nil => exact hs
  | cons c before ih =>
    have hrest : before ++ s ≠ [] := List.append_ne_nil_of_right_ne_nil _ hne
    simp [trimEnd, ih, hrest]

theorem trimEnd_intercalate {cs : List Text} (h : ∀ c ∈ cs, IsChunk c) :
    trimEnd ([' '].intercalate cs) = [' '].intercalate cs := by
  induction cs with
  | nil => rfl
  | cons c cs ih =>
    have hcs : ∀ d ∈ cs, IsChunk d := fun d hd => h d (List.mem_cons_of_mem c hd)
    cases cs with
    | nil =>
      rw [List.intercalate_singleton]
      exact trimEnd_of_noBlank c (h c List.mem_cons_self).2
    | cons d cs =>
      have hne : [' '].intercalate (d :: cs) ≠ [] :=
        mt (intercalate_eq_nil_iff hcs).mp (List.cons_ne_nil d cs)
      rw [List.intercalate_cons_cons]
      exact trimEnd_append hne (ih hcs) _

theorem Tidy.trim_eq {s : Text} (h : Tidy s) : trim s = s := by
  have hall : ∀ c ∈ chunks s, IsChunk c := fun c hc => isChunk_of_mem_chunks hc
  have hfront : s.dropWhile isBlank = s := by
    cases hcs : chunks s with
    | nil =>
      rw [Tidy, hcs] at h
      rw [← h]
      rfl
    | cons c cs =>
      obtain ⟨hne, hfree⟩ := hall c (by rw [hcs]; exact List.mem_cons_self)
      obtain ⟨x, c, rfl⟩ := List.exists_cons_of_ne_nil hne
      have hx : ¬ isBlank x = true := by simp [hfree x List.mem_cons_self]
      rw [Tidy, hcs, List.intercalate_cons_cons_left] at h
      rw [← h, List.dropWhile_cons_of_neg hx]
  rw [trim, hfront, ← h]
  exact trimEnd_intercalate hall

end PostfixCalc.Text
