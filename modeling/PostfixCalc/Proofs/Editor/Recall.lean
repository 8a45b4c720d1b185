import Mathlib.Data.List.Destutter
import PostfixCalc.Editor
import PostfixCalc.Proofs.Text.Chunks

namespace PostfixCalc

namespace Text

theorem trim_trim_eq_nil_iff (s : Text) : trim (trim s) = [] ↔ trim s = [] := by
  rw [trim_eq_nil_iff, trim_eq_nil_iff, chunks_trim]

end Text

namespace History

theorem destutter'_concat (a x : Text) (ls : List Text) :
    (ls ++ [x]).destutter' (· ≠ ·) a =
      if (ls.destutter' (· ≠ ·) a).getLast? ≠ some x then ls.destutter' (· ≠ ·) a ++ [x]
      else ls.destutter' (· ≠ ·) a := by
  induction ls generalizing a with
  | nil =>
    by_cases h : a = x <;> simp [h]
  | cons b ls ih =>
    by_cases h : a = b
    · rw [List.cons_append, List.destutter'_cons_neg _ (by simp [h]), ih,
        List.destutter'_cons_neg _ (by simp [h])]
    · rw [List.cons_append, List.destutter'_cons_pos _ h, ih, List.destutter'_cons_pos _ h]
      have hne : ls.destutter' (· ≠ ·) b ≠ [] := List.destutter'_ne_nil _ _
      obtain ⟨first, more, hcons⟩ := List.exists_cons_of_ne_nil hne
      rw [hcons, List.getLast?_cons_cons]
      split <;> rfl

/-- One more item counts if it is not what is kept last. -/
theorem destutter_concat (ls : List Text) (x : Text) :
    (ls ++ [x]).destutter (· ≠ ·) =
      if (ls.destutter (· ≠ ·)).getLast? ≠ some x then ls.destutter (· ≠ ·) ++ [x]
      else ls.destutter (· ≠ ·) := by
  cases ls with
  | nil => rfl
  | cons a ls => exact destutter'_concat a x ls

/-- What is kept of the texts that are pushed: no blank one, and of repetitions in a row the
first. -/
def kept (pushed : List Text) : List Text :=
  (pushed.filter fun s => decide (Text.trim s ≠ [])).destutter (· ≠ ·)

theorem push_entries {h : History} {pushed : List Text} (hentries : h.entries = kept pushed)
    (entry : Text) : (h.push entry).entries = kept (pushed ++ [entry]) := by
  have hpush : (h.push entry).entries =
      if Text.trim entry ≠ [] ∧ h.entries.getLast? ≠ some entry then h.entries ++ [entry]
      else h.entries := rfl
  rw [hpush, hentries, kept, kept, List.filter_append]
  by_cases hblank : Text.trim entry = []
  · simp [hblank]
  · have hone : [entry].filter (fun s => decide (Text.trim s ≠ [])) = [entry] := by
      simp [hblank]
    rw [hone, destutter_concat]
    simp only [ne_eq, hblank, not_false_eq_true, true_and]

theorem previous_entries (h : History) (current : Text) :
    (h.previous current).2.entries = h.entries := by
  unfold previous
  split
  · split <;> rfl
  · rfl

theorem next_entries (h : History) : h.next.2.entries = h.entries := by
  unfold next
  split
  · rfl
  · split <;> rfl

/-- Of trimmed texts the blank ones are empty. -/
theorem kept_map_trim (lines : List Text) :
    kept (lines.map Text.trim) =
      ((lines.map Text.trim).filter (· ≠ [])).destutter (· ≠ ·) := by
  have hfilter : (lines.map Text.trim).filter (fun s => decide (Text.trim s ≠ [])) =
      (lines.map Text.trim).filter (· ≠ []) := by
    apply List.filter_congr
    intro s hs
    obtain ⟨line, -, rfl⟩ := List.mem_map.mp hs
    simp only [ne_eq, Text.trim_trim_eq_nil_iff]
  rw [kept, hfilter]

end History

namespace Editor

theorem bringBack_entries (e : Editor) (found : Option Text × History) :
    (e.bringBack found).history.entries = found.2.entries := by
  obtain ⟨entry, h⟩ := found
  cases entry <;> rfl

theorem recallPrevious_entries (e : Editor) :
    e.recallPrevious.history.entries = e.history.entries := by
  rw [recallPrevious, bringBack_entries, History.previous_entries]

theorem recallNext_entries (e : Editor) :
    e.recallNext.history.entries = e.history.entries := by
  rw [recallNext, bringBack_entries, History.next_entries]

end Editor

end PostfixCalc
