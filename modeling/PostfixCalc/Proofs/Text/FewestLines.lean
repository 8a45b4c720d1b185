import Mathlib.Algebra.BigOperators.Group.List.Basic
import PostfixCalc.Proofs.Text.Wrapping

namespace PostfixCalc.Text

/-- The columns that chunks take on one line: their own, and one for each gap between two of them.
-/
def lineColumns (cs : List Text) : Nat := (cs.map width).sum + (cs.length - 1)

/-- Consecutive groups of chunks, each of which has room on a line of its own. -/
structure IsLayout (limit : Nat) (cs : List Text) (groups : List (List Text)) : Prop where
  flatten_eq : groups.flatten = cs
  room : ∀ g ∈ groups, lineColumns g ≤ limit

/-- The columns that chunks take behind a chunk, with the blanks in front of them. -/
def columnsBehind (cs : List Text) : Nat := (cs.map fun c => width c + 1).sum

theorem columnsBehind_cons (c : Text) (cs : List Text) :
    columnsBehind (c :: cs) = width c + 1 + columnsBehind cs := by
  rw [columnsBehind, List.map_cons, List.sum_cons, columnsBehind]

theorem lineColumns_cons (c : Text) (cs : List Text) :
    lineColumns (c :: cs) = width c + columnsBehind cs := by
  simp [lineColumns, columnsBehind, List.sum_map_add, Nat.add_assoc]

theorem lineColumns_le_cons (c : Text) (cs : List Text) : lineColumns cs ≤ lineColumns (c :: cs) := by
  simp only [lineColumns, List.map_cons, List.sum_cons, List.length_cons]
  omega

theorem width_intercalate (cs : List Text) : width ([' '].intercalate cs) = lineColumns cs := by
  cases cs with
  | nil => rfl
  | cons c cs =>
    rw [lineColumns_cons]
    induction cs generalizing c with
    | nil =>
      rw [List.intercalate_singleton]
      rfl
    | cons d cs ih =>
      have hjoin : [' '].intercalate (c :: d :: cs) = c ++ ' ' :: [' '].intercalate (d :: cs) := by
        rw [List.intercalate_cons_cons, List.append_assoc, List.singleton_append]
      have hblank := width_append_blank c ([' '].intercalate (d :: cs))
      have hrest := ih d
      rw [hjoin, columnsBehind_cons]
      omega

namespace Wrapped

/-- The number of lines, the one under way counted among them. -/
def height (w : Wrapped) : Nat := w.done.length + if w.line = [] then 0 else 1

theorem length_lines {w : Wrapped} (h : w.chunks ≠ []) : w.lines.length = w.height := by
  rw [lines, height]
  by_cases hline : w.line = []
  · have hdone : w.done ≠ [] := by
      intro hnil
      exact h (by simp [chunks, hnil, hline, Text.chunks])
    rw [if_neg (not_or.mpr ⟨not_not_intro hline, hdone⟩), if_pos hline, Nat.add_zero]
  · rw [if_pos (.inl hline), if_neg hline, List.length_append, List.length_singleton]

section Height

variable {limit : Nat} {w : Wrapped} {chunk : Text}

/-- A chunk that has room behind the line stays on it. -/
theorem step_of_room (hline : w.line ≠ []) (hroom : w.used + width chunk + 1 ≤ limit) :
    step limit w chunk = ⟨w.done, w.line ++ ' ' :: chunk, w.used + 1 + width chunk⟩ := by
  have hwide : ¬ limit < width chunk := by omega
  rw [step, if_neg hwide, if_neg (Nat.not_lt.mpr hroom), append, if_neg hline]

theorem height_step_of_room (hline : w.line ≠ []) (hroom : w.used + width chunk + 1 ≤ limit) :
    (step limit w chunk).height = w.height := by
  simp [step_of_room hline hroom, height, hline]

/-- Otherwise a new line begins with it, or the first one does. -/
theorem step_of_full (hused : w.line = [] → w.used = 0) (hwide : width chunk ≤ limit)
    (hfull : w.line = [] ∨ limit < w.used + width chunk + 1) :
    ∃ done, step limit w chunk = ⟨done, chunk, width chunk⟩ ∧ done.length = w.height := by
  rw [step, if_neg (Nat.not_lt.mpr hwide)]
  by_cases hline : w.line = []
  · have hflush : w.flush = w := if_pos hline
    refine ⟨w.done, ?_, by rw [height, if_pos hline, Nat.add_zero]⟩
    rw [hflush, ite_self, append, if_pos hline, hused hline, Nat.zero_add]
  · have hflush : w.flush = ⟨w.done ++ [w.line], [], 0⟩ := if_neg hline
    refine ⟨w.done ++ [w.line], ?_, ?_⟩
    · rw [if_pos (hfull.resolve_left hline), hflush, append, if_pos rfl, Nat.zero_add]
    · rw [height, if_neg hline, List.length_append, List.length_singleton]

end Height

/-- Chunks that have room behind the line make no new one. -/
theorem foldl_step_behind {limit : Nat} {w : Wrapped} (hline : w.line ≠ []) {cs : List Text}
    (hroom : w.used + columnsBehind cs ≤ limit) :
    (cs.foldl (step limit) w).height = w.height := by
  induction cs generalizing w with
  | nil => rfl
  | cons c cs ih =>
    rw [columnsBehind_cons] at hroom
    have hfits : w.used + width c + 1 ≤ limit := by omega
    have hstep := step_of_room hline hfits
    rw [List.foldl_cons, ← height_step_of_room hline hfits]
    apply ih
    · simp [hstep]
    · simp only [hstep]
      omega

/-- Chunks that have room together make at most one new line: once it is begun among them, the rest
of them has room behind it. -/
theorem foldl_step_group {limit : Nat} {w : Wrapped} (hw : w.Sound limit) {cs : List Text}
    (hcs : ∀ c ∈ cs, IsChunk c) (hroom : lineColumns cs ≤ limit) :
    (cs.foldl (step limit) w).height ≤ w.height + 1 := by
  induction cs generalizing w with
  | nil => exact Nat.le_succ w.height
  | cons c cs ih =>
    obtain ⟨hc, hcs⟩ := List.forall_mem_cons.mp hcs
    rw [List.foldl_cons]
    by_cases hbehind : w.line ≠ [] ∧ w.used + width c + 1 ≤ limit
    · rw [← height_step_of_room hbehind.1 hbehind.2]
      exact ih (hw.step hc).1 hcs (Nat.le_trans (lineColumns_le_cons c cs) hroom)
    · rw [lineColumns_cons] at hroom
      have hwide : width c ≤ limit := by omega
      have hused : w.line = [] → w.used = 0 := by
        intro hnil
        rw [hw.used_eq, hnil]
        rfl
      have hfull : w.line = [] ∨ limit < w.used + width c + 1 := by
        by_cases hnil : w.line = []
        · exact .inl hnil
        · exact .inr (Nat.lt_of_not_le fun hle => hbehind ⟨hnil, hle⟩)
      obtain ⟨done, hstep, hdone⟩ := step_of_full hused hwide hfull
      have hrest : (⟨done, c, width c⟩ : Wrapped).used + columnsBehind cs ≤ limit := by
        simp only
        omega
      rw [hstep, foldl_step_behind hc.1 hrest, height, if_neg hc.1, hdone]

/-- Every group costs at most one line. -/
theorem foldl_step_layout {limit : Nat} {w : Wrapped} (hw : w.Sound limit)
    {groups : List (List Text)} (hchunks : ∀ g ∈ groups, ∀ c ∈ g, IsChunk c)
    (hroom : ∀ g ∈ groups, lineColumns g ≤ limit) :
    (groups.flatten.foldl (step limit) w).height ≤ w.height + groups.length := by
  induction groups generalizing w with
  | nil => exact Nat.le_refl w.height
  | cons g groups ih =>
    obtain ⟨hg, hchunks⟩ := List.forall_mem_cons.mp hchunks
    obtain ⟨hfirst, hroom⟩ := List.forall_mem_cons.mp hroom
    have hone := foldl_step_group hw hg hfirst
    have hrest := ih (foldl_step_sound hw hg).1 hchunks hroom
    rw [List.flatten_cons, List.foldl_append, List.length_cons]
    omega

end Wrapped

section Wrap

variable {s : Text} {limit : Nat} (hlimit : 0 < limit) (hroom : ∀ c ∈ chunks s, width c ≤ limit)

include hlimit hroom

/-- Chunks that have room stay whole. -/
theorem flatMap_chunks_wrap_of_room : (wrap s limit).flatMap chunks = chunks s := by
  have hparts : ∀ c ∈ chunks s, parts limit c = [c] :=
    fun c hc => if_neg (Nat.not_lt.mpr (hroom c hc))
  rw [flatMap_chunks_wrap hlimit, List.flatMap_congr hparts, List.flatMap_singleton']

theorem width_of_mem_wrap_of_room {l : Text} (hl : l ∈ wrap s limit) : width l ≤ limit := by
  by_contra hwide
  obtain ⟨-, c, hc, hbroad, -⟩ := exists_of_mem_wrap hlimit hl (Nat.lt_of_not_le hwide)
  exact absurd (hroom c hc) (Nat.not_le.mpr hbroad)

theorem isLayout_wrap : IsLayout limit (chunks s) ((wrap s limit).map chunks) := by
  refine ⟨?_, fun g hg => ?_⟩
  · rw [← List.flatMap_def, flatMap_chunks_wrap_of_room hlimit hroom]
  · obtain ⟨l, hl, rfl⟩ := List.mem_map.mp hg
    rw [← width_intercalate, (isLine_of_mem_wrap hlimit s l hl).tidy]
    exact width_of_mem_wrap_of_room hlimit hroom hl

end Wrap

/-- A text whose chunks all have room is wrapped to the fewest lines: its lines are a way of putting
the chunks on lines, and no other way has fewer. -/
theorem wrap_fewest {s : Text} {limit : Nat} (hlimit : 0 < limit) (hsome : chunks s ≠ [])
    (hroom : ∀ c ∈ chunks s, width c ≤ limit) :
    IsLayout limit (chunks s) ((wrap s limit).map chunks) ∧
      ∀ groups, IsLayout limit (chunks s) groups → (wrap s limit).length ≤ groups.length := by
  refine ⟨isLayout_wrap hlimit hroom, fun groups hgroups => ?_⟩
  have hchunks : ∀ g ∈ groups, ∀ c ∈ g, IsChunk c := by
    intro g hg c hc
    have hmem : c ∈ groups.flatten := List.mem_flatten.mpr ⟨g, hg, hc⟩
    exact isChunk_of_mem_chunks (hgroups.flatten_eq ▸ hmem)
  let w := (chunks s).foldl (Wrapped.step limit) .start
  have hwrapped : w.chunks ≠ [] := by
    rw [← Wrapped.flatMap_chunks_lines, ← wrap_eq hlimit, flatMap_chunks_wrap_of_room hlimit hroom]
    exact hsome
  calc (wrap s limit).length
      = w.height := by rw [wrap_eq hlimit, Wrapped.length_lines hwrapped]
    _ = (groups.flatten.foldl (Wrapped.step limit) .start).height := by rw [hgroups.flatten_eq]
    _ ≤ Wrapped.start.height + groups.length :=
      Wrapped.foldl_step_layout (Wrapped.sound_start limit) hchunks hgroups.room
    _ = groups.length := Nat.zero_add _

/-- A chunk without columns still takes a gap, so that it does not fit behind a full line. -/
theorem wrap_fewest_gap :
    let s := Text.lit "12 345 \u200b 6 7890"
    let lines := [Text.lit "12 345", Text.lit "\u200b 6", Text.lit "7890"]
    let groups :=
      [[Text.lit "12"], [Text.lit "345", Text.lit "\u200b"], [Text.lit "6", Text.lit "7890"]]
    wrap s 6 = lines ∧ (∀ c ∈ chunks s, width c ≤ 6) ∧ IsLayout 6 (chunks s) groups ∧
      lines.length ≤ groups.length := by
  intro s lines groups
  have hwrap : wrap s 6 = lines := by decide +kernel
  have hroom : ∀ c ∈ chunks s, width c ≤ 6 := by decide +kernel
  have hgroups : IsLayout 6 (chunks s) groups := ⟨by decide +kernel, by decide +kernel⟩
  obtain ⟨-, hfewest⟩ := wrap_fewest (by decide) (by decide +kernel) hroom
  exact ⟨hwrap, hroom, hgroups, hwrap ▸ hfewest groups hgroups⟩

end PostfixCalc.Text
