import Mathlib.Data.List.Induction
import PostfixCalc.Text.Wrap
import PostfixCalc.Proofs.Text.Columns
import PostfixCalc.Proofs.Text.Spacing

namespace PostfixCalc.Text

theorem pointColumns_concat (s : Text) (c : Char) :
    pointColumns (s ++ [c]) = pointColumns s + charWidth c := by
  simp [pointColumns]

/-- A text whose code points have room by themselves, or which cannot be cut any more. -/
def Cut (limit : Nat) (s : Text) : Prop := pointColumns s ≤ limit ∨ s.length = 1

theorem flatten_cutFrom (limit : Nat) (piece : Text) (used : Nat) (s : Text) :
    (cutFrom limit piece used s).flatten = piece ++ s := by
  induction s generalizing piece used with
  | nil => simp [cutFrom]
  | cons c s ih =>
    rw [cutFrom]
    split
    · rw [List.flatten_cons, ih, List.singleton_append]
    · rw [ih, List.append_assoc, List.singleton_append]

theorem ne_nil_of_mem_cutFrom {limit : Nat} {piece s : Text} (used : Nat)
    (h : piece ≠ [] ∨ s ≠ []) : ∀ p ∈ cutFrom limit piece used s, p ≠ [] := by
  induction s generalizing piece used with
  | nil =>
    have hpiece : piece ≠ [] := h.resolve_right (not_not_intro rfl)
    exact List.forall_mem_singleton.mpr hpiece
  | cons c s ih =>
    rw [cutFrom]
    split
    · next hfull =>
      exact List.forall_mem_cons.mpr ⟨hfull.2, ih _ (.inl (List.cons_ne_nil c []))⟩
    · exact ih _ (.inl (List.append_ne_nil_of_right_ne_nil _ (List.cons_ne_nil c [])))

theorem cut_of_mem_cutFrom {limit : Nat} {piece : Text} (h : Cut limit piece) (s : Text) :
    ∀ p ∈ cutFrom limit piece (pointColumns piece) s, Cut limit p := by
  induction s generalizing piece with
  | nil => exact List.forall_mem_singleton.mpr h
  | cons c s ih =>
    have hone : pointColumns [c] = charWidth c := pointColumns_concat [] c ▸ Nat.zero_add _
    rw [cutFrom]
    split
    · have hrest : ∀ p ∈ cutFrom limit [c] (pointColumns [c]) s, Cut limit p := ih (.inr rfl)
      rw [hone] at hrest
      exact List.forall_mem_cons.mpr ⟨h, hrest⟩
    · next hroom =>
      have hlonger : Cut limit (piece ++ [c]) := by
        by_cases hfull : limit < pointColumns piece + charWidth c
        · have hnil : piece = [] := by
            by_contra hne
            exact hroom ⟨hfull, hne⟩
          exact .inr (by rw [hnil]; rfl)
        · exact .inl (by rw [pointColumns_concat]; omega)
      rw [← pointColumns_concat]
      exact ih hlonger

theorem cutFrom_of_room {limit used : Nat} {s : Text} (h : used + pointColumns s ≤ limit)
    (piece : Text) : cutFrom limit piece used s = [piece ++ s] := by
  induction s generalizing piece used with
  | nil => rw [cutFrom, List.append_nil]
  | cons c s ih =>
    have hpoints : pointColumns (c :: s) = charWidth c + pointColumns s := rfl
    have hfits : ¬ (limit < used + charWidth c ∧ piece ≠ []) := by
      intro hfull
      omega
    rw [cutFrom, if_neg hfits, ih (by omega), List.append_assoc, List.singleton_append]

/-- What is cut already is not cut again. -/
theorem cutChunk_of_cut {limit : Nat} {piece : Text} (h : Cut limit piece) :
    cutChunk limit piece = [piece] := by
  rcases h with hfits | hone
  · exact cutFrom_of_room (by omega) []
  · obtain ⟨c, rfl⟩ := List.length_eq_one_iff.mp hone
    simp [cutChunk, cutFrom]

/-- What a chunk contributes to the lines: itself if there is room for it, else its pieces. -/
def parts (limit : Nat) (chunk : Text) : List Text :=
  if limit < width chunk then cutChunk limit chunk else [chunk]

theorem flatten_parts (limit : Nat) (chunk : Text) : (parts limit chunk).flatten = chunk := by
  rw [parts]
  split
  · exact flatten_cutFrom limit [] 0 chunk
  · exact List.flatten_singleton

/-- A chunk without blanks, cut far enough. -/
structure IsPiece (limit : Nat) (p : Text) : Prop where
  isChunk : IsChunk p
  cut : Cut limit p

theorem isPiece_of_mem_cutChunk {limit : Nat} {chunk : Text} (h : IsChunk chunk) :
    ∀ p ∈ cutChunk limit chunk, IsPiece limit p := by
  intro p hp
  have hnil : Cut limit [] := .inl (Nat.zero_le _)
  refine ⟨⟨ne_nil_of_mem_cutFrom 0 (.inr h.1) p hp, fun c hc => h.2 c ?_⟩,
    cut_of_mem_cutFrom hnil chunk p hp⟩
  have hmem : c ∈ (cutChunk limit chunk).flatten := List.mem_flatten.mpr ⟨p, hp, hc⟩
  rwa [cutChunk, flatten_cutFrom] at hmem

/-- A line for a room of `limit` columns: chunks with one blank between them that have room
together, or one piece. -/
structure IsLine (limit : Nat) (l : Text) : Prop where
  tidy : Tidy l
  room : width l ≤ limit ∨ IsPiece limit l

namespace Wrapped

/-- The chunks of all lines. -/
def chunks (w : Wrapped) : List Text := w.done.flatMap Text.chunks ++ Text.chunks w.line

/-- The columns are counted rightly, and every line is one. -/
structure Sound (limit : Nat) (w : Wrapped) : Prop where
  used_eq : w.used = width w.line
  tidy : Tidy w.line
  room : width w.line ≤ limit
  done : ∀ l ∈ w.done, l ≠ [] ∧ IsLine limit l

theorem sound_start (limit : Nat) : start.Sound limit :=
  ⟨rfl, tidy_nil, Nat.zero_le _, fun l hl => by cases hl⟩

theorem flush_line (w : Wrapped) : w.flush.line = [] := by
  rw [flush]
  split
  · assumption
  · rfl

theorem chunks_flush (w : Wrapped) : w.flush.chunks = w.chunks := by
  rw [flush]
  split
  · rfl
  · simp [chunks, Text.chunks]

theorem Sound.flush {limit : Nat} {w : Wrapped} (h : w.Sound limit) : w.flush.Sound limit := by
  rw [Wrapped.flush]
  split
  · exact h
  · next hline =>
    refine ⟨rfl, tidy_nil, Nat.zero_le _, ?_⟩
    intro l hl
    rcases List.mem_append.mp hl with hl | hl
    · exact h.done l hl
    · rw [List.mem_singleton.mp hl]
      exact ⟨hline, h.tidy, .inl h.room⟩

section Append

variable {limit : Nat} {w : Wrapped} {chunk : Text} (h : w.Sound limit) (hc : IsChunk chunk)

include h hc

theorem append_of_nil (hline : w.line = []) (hroom : width chunk ≤ limit) :
    (w.append chunk).Sound limit ∧ (w.append chunk).chunks = w.chunks ++ [chunk] := by
  have hused : w.used = 0 := by rw [h.used_eq, hline]; rfl
  have happend : w.append chunk = ⟨w.done, chunk, width chunk⟩ := by
    rw [append, if_pos hline, hused, Nat.zero_add]
  rw [happend]
  refine ⟨⟨rfl, hc.tidy, hroom, h.done⟩, ?_⟩
  simp [chunks, hline, Text.chunks, chunks_of_isChunk hc]

theorem append_of_line (hline : w.line ≠ []) (hroom : w.used + width chunk + 1 ≤ limit) :
    (w.append chunk).Sound limit ∧ (w.append chunk).chunks = w.chunks ++ [chunk] := by
  obtain ⟨htidy, hchunks⟩ := h.tidy.chunks_concat hline hc
  have hwidth := width_append_blank w.line chunk
  have happend : w.append chunk = ⟨w.done, w.line ++ ' ' :: chunk, w.used + 1 + width chunk⟩ := by
    rw [append, if_neg hline]
  have hused := h.used_eq
  rw [happend]
  refine ⟨⟨by simp only; omega, htidy, by simp only; omega, h.done⟩, ?_⟩
  simp [chunks, hchunks]

/-- A step keeps the lines sound and puts the parts of its chunk behind the chunks so far. -/
theorem Sound.step :
    (step limit w chunk).Sound limit ∧ (step limit w chunk).chunks = w.chunks ++ parts limit chunk := by
  have hflush := h.flush
  rw [Wrapped.step, parts]
  split
  · have hline := w.flush_line
    refine ⟨⟨hflush.used_eq, hflush.tidy, hflush.room, ?_⟩, ?_⟩
    · intro l hl
      rcases List.mem_append.mp hl with hl | hl
      · exact hflush.done l hl
      · have hpiece := isPiece_of_mem_cutChunk hc l hl
        exact ⟨hpiece.isChunk.1, hpiece.isChunk.tidy, .inr hpiece⟩
    · have hpieces : (cutChunk limit chunk).flatMap Text.chunks = cutChunk limit chunk :=
        flatMap_chunks fun p hp => (isPiece_of_mem_cutChunk hc p hp).isChunk
      rw [← w.chunks_flush]
      simp [chunks, hline, Text.chunks, hpieces]
  · next hwide =>
    split
    · rw [← w.chunks_flush]
      exact append_of_nil hflush hc w.flush_line (Nat.le_of_not_lt hwide)
    · next hfull =>
      by_cases hline : w.line = []
      · exact append_of_nil h hc hline (Nat.le_of_not_lt hwide)
      · exact append_of_line h hc hline (Nat.le_of_not_lt hfull)

end Append

theorem foldl_step_sound {limit : Nat} {w : Wrapped} (h : w.Sound limit) {cs : List Text}
    (hcs : ∀ c ∈ cs, IsChunk c) :
    (cs.foldl (step limit) w).Sound limit ∧
      (cs.foldl (step limit) w).chunks = w.chunks ++ cs.flatMap (parts limit) := by
  induction cs generalizing w with
  | nil => exact ⟨h, (List.append_nil _).symm⟩
  | cons c cs ih =>
    obtain ⟨hc, hcs⟩ := List.forall_mem_cons.mp hcs
    obtain ⟨hsound, hchunks⟩ := h.step hc
    obtain ⟨hsound', hchunks'⟩ := ih hsound hcs
    refine ⟨hsound', ?_⟩
    rw [List.foldl_cons, hchunks', hchunks, List.flatMap_cons, List.append_assoc]

theorem foldl_step_start (limit : Nat) (s : Text) :
    ((Text.chunks s).foldl (step limit) start).Sound limit ∧
      ((Text.chunks s).foldl (step limit) start).chunks = (Text.chunks s).flatMap (parts limit) :=
  foldl_step_sound (sound_start limit) fun _ => isChunk_of_mem_chunks

theorem Sound.isLine {limit : Nat} {w : Wrapped} (h : w.Sound limit) :
    ∀ l ∈ w.lines, IsLine limit l := by
  have hline : IsLine limit w.line := ⟨h.tidy, .inl h.room⟩
  intro l hl
  rw [lines] at hl
  split at hl
  · rcases List.mem_append.mp hl with hl | hl
    · exact (h.done l hl).2
    · rwa [List.mem_singleton.mp hl]
  · exact (h.done l hl).2

theorem flatMap_chunks_lines (w : Wrapped) : w.lines.flatMap Text.chunks = w.chunks := by
  rw [lines]
  split
  · simp [chunks]
  · next hnone =>
    have hline : w.line = [] := by
      by_contra hne
      exact hnone (.inl hne)
    simp [chunks, hline, Text.chunks]

/-- Chunks that have room together are one line. -/
theorem foldl_step_of_room {limit : Nat} {cs : List Text} (hcs : ∀ c ∈ cs, IsChunk c)
    (hroom : width ([' '].intercalate cs) ≤ limit) :
    cs.foldl (step limit) start = ⟨[], [' '].intercalate cs, width ([' '].intercalate cs)⟩ := by
  induction cs using List.reverseRecOn with
  | nil => rfl
  | append_singleton cs c ih =>
    have hbefore : ∀ d ∈ cs, IsChunk d := fun d hd => hcs d (List.mem_append_left _ hd)
    rw [List.foldl_append, List.foldl_cons, List.foldl_nil]
    by_cases hnil : cs = []
    · subst hnil
      rw [List.nil_append, List.intercalate_singleton] at hroom ⊢
      rw [List.foldl_nil, step, if_neg (Nat.not_lt.mpr hroom)]
      simp [start, flush, append]
    · have hjoin := intercalate_concat hnil c
      have hwidth := width_append_blank ([' '].intercalate cs) c
      rw [hjoin] at hroom ⊢
      have hwide : ¬ limit < width c := by omega
      have hfull : ¬ limit < width ([' '].intercalate cs) + width c + 1 := by omega
      have hline : [' '].intercalate cs ≠ [] := mt (intercalate_eq_nil_iff hbefore).mp hnil
      rw [ih hbefore (by omega), step, if_neg hwide, if_neg hfull, append, if_neg hline, hwidth]

end Wrapped

section Wrap

variable {limit : Nat} (h : 0 < limit)

include h

theorem wrap_eq (s : Text) :
    wrap s limit = ((chunks s).foldl (Wrapped.step limit) .start).lines :=
  if_neg (Nat.ne_of_gt h)

theorem isLine_of_mem_wrap (s : Text) : ∀ l ∈ wrap s limit, IsLine limit l := by
  rw [wrap_eq h]
  exact (Wrapped.foldl_step_start limit s).1.isLine

/-- The chunks of the lines are the parts of the text's chunks. -/
theorem flatMap_chunks_wrap (s : Text) :
    (wrap s limit).flatMap chunks = (chunks s).flatMap (parts limit) := by
  rw [wrap_eq h, Wrapped.flatMap_chunks_lines, (Wrapped.foldl_step_start limit s).2]

theorem filter_wrap (s : Text) :
    (wrap s limit).flatMap (·.filter (!isBlank ·)) = s.filter (!isBlank ·) := by
  calc (wrap s limit).flatMap (·.filter (!isBlank ·))
      = (wrap s limit).flatMap fun l => (chunks l).flatten := by simp only [flatten_chunks]
    _ = ((wrap s limit).flatMap chunks).flatten := by
      simp only [List.flatten_eq_flatMap, List.flatMap_assoc]
    _ = ((chunks s).flatMap (parts limit)).flatten := by rw [flatMap_chunks_wrap h]
    _ = (chunks s).flatMap fun c => (parts limit c).flatten := by
      simp only [List.flatten_eq_flatMap, List.flatMap_assoc]
    _ = (chunks s).flatten := by simp only [flatten_parts, List.flatMap_id']
    _ = s.filter (!isBlank ·) := flatten_chunks s

/-- A line is not wrapped any further. -/
theorem wrap_of_isLine {l : Text} (hl : IsLine limit l) : wrap l limit = [l] := by
  rw [wrap_eq h]
  by_cases hroom : width l ≤ limit
  · have hjoined : width ([' '].intercalate (chunks l)) ≤ limit := by
      rw [hl.tidy]
      exact hroom
    rw [Wrapped.foldl_step_of_room (fun c hc => isChunk_of_mem_chunks hc) hjoined, hl.tidy]
    simp [Wrapped.lines]
  · have hpiece := hl.room.resolve_left hroom
    rw [chunks_of_isChunk hpiece.isChunk, List.foldl_cons, List.foldl_nil, Wrapped.step,
      if_pos (Nat.lt_of_not_le hroom), cutChunk_of_cut hpiece.cut]
    rfl

end Wrap

/-- A line that is too wide is a piece of a chunk that is. -/
theorem exists_of_mem_wrap {s : Text} {limit : Nat} (h : 0 < limit) {l : Text}
    (hl : l ∈ wrap s limit) (hwide : limit < width l) :
    IsPiece limit l ∧ ∃ chunk ∈ chunks s, limit < width chunk ∧ l <:+: chunk := by
  have hline := isLine_of_mem_wrap h s l hl
  have hpiece := hline.room.resolve_left (Nat.not_le.mpr hwide)
  have hmem : l ∈ (wrap s limit).flatMap chunks :=
    List.mem_flatMap.mpr ⟨l, hl, by rw [chunks_of_isChunk hpiece.isChunk]; exact List.mem_cons_self⟩
  rw [flatMap_chunks_wrap h] at hmem
  obtain ⟨chunk, hchunk, hpart⟩ := List.mem_flatMap.mp hmem
  have hinfix : l <:+: chunk := by
    rw [← flatten_parts limit chunk]
    exact List.infix_of_mem_flatten hpart
  refine ⟨hpiece, chunk, hchunk, ?_, hinfix⟩
  by_contra hroom
  rw [parts, if_neg hroom, List.mem_singleton] at hpart
  exact hroom (hpart ▸ hwide)

/-- A code point that has no room by itself is the one of three columns. -/
theorem Cut.pointColumns_le_or {limit : Nat} {l : Text} (h : Cut limit l) (hlimit : 2 ≤ limit) :
    pointColumns l ≤ limit ∨ (limit = 2 ∧ l = ['\u17d8']) := by
  rcases h with hfits | hone
  · exact .inl hfits
  · obtain ⟨c, rfl⟩ := List.length_eq_one_iff.mp hone
    have hpoints : pointColumns [c] = charWidth c := rfl
    rw [hpoints]
    rcases charWidth_le_or c with hnarrow | ⟨rfl, hthree⟩
    · exact .inl (Nat.le_trans hnarrow hlimit)
    · by_cases htwo : limit = 2
      · exact .inr ⟨htwo, rfl⟩
      · left
        omega

/-- How wide the lines are. A line goes beyond its room only if it is a piece of a chunk that is too
wide. Its code points have room by themselves, unless it is the one code point of three columns on a
line of two. So it goes beyond its room by no more than one column for each narrow sign in it that
an emoji variation selector makes wide, and to no more than twice the room. -/
theorem width_of_mem_wrap (s : Text) {limit : Nat} (h : 2 ≤ limit) {l : Text}
    (hl : l ∈ wrap s limit) :
    (limit < width l → (pointColumns l ≤ limit ∨ (limit = 2 ∧ l = ['\u17d8'])) ∧
        ∃ chunk ∈ chunks s, limit < width chunk ∧ l <:+: chunk) ∧
      (width l ≤ limit + widened l ∨ (limit = 2 ∧ l = ['\u17d8'])) ∧ width l ≤ 2 * limit := by
  by_cases hroom : width l ≤ limit
  · exact ⟨fun hwide => absurd hroom (Nat.not_le.mpr hwide), .inl (by omega), by omega⟩
  · have hpos : 0 < limit := Nat.lt_of_lt_of_le Nat.zero_lt_two h
    obtain ⟨hpiece, hchunk⟩ := exists_of_mem_wrap hpos hl (Nat.lt_of_not_le hroom)
    have hpoints := hpiece.cut.pointColumns_le_or h
    refine ⟨fun _ => ⟨hpoints, hchunk⟩, ?_⟩
    rcases hpoints with hpoints | ⟨rfl, rfl⟩
    · have hwidth := width_le_pointColumns l
      have hwidened := widened_le_pointColumns l
      exact ⟨.inl (by omega), by omega⟩
    · exact ⟨.inr ⟨rfl, rfl⟩, by decide +kernel⟩

/-- Two digits that are made wide stand on a line of two columns. -/
theorem width_of_mem_wrap_digits :
    let digits := Text.lit "1\ufe0f1\ufe0f"
    let s := digits ++ Text.lit "1\ufe0f"
    digits ∈ wrap s 2 ∧ width digits = 4 ∧ widened digits = 2 ∧
      width digits ≤ 2 + widened digits ∧ width digits ≤ 2 * 2 := by
  intro digits s
  have hmem : digits ∈ wrap s 2 := by decide +kernel
  obtain ⟨-, hwidth, hdouble⟩ := width_of_mem_wrap s (Nat.le_refl 2) hmem
  have hdigits : ¬ (2 = 2 ∧ digits = ['\u17d8']) := by decide
  exact ⟨hmem, by decide +kernel, by decide +kernel, hwidth.resolve_right hdigits, hdouble⟩

/-- A line can be wider than its room. -/
theorem not_width_of_mem_wrap_le :
    ¬ ∀ (s : Text) (limit : Nat), 2 ≤ limit → ∀ l ∈ wrap s limit, width l ≤ limit := by
  intro h
  have hwidth := h (Text.lit "1\ufe0f1\ufe0f1\ufe0f") 2 (Nat.le_refl 2) (Text.lit "1\ufe0f1\ufe0f")
    (by decide +kernel)
  exact absurd hwidth (by decide +kernel)

end PostfixCalc.Text
