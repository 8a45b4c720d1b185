import PostfixCalc.Proofs.App.Answer
import PostfixCalc.Proofs.Editor.Walk

namespace PostfixCalc

theorem SizeNotice.isNeeded_eq_false_iff {width height : Nat} :
    SizeNotice.isNeeded width height = false ↔ 50 ≤ width ∧ 10 ≤ height := by
  rw [SizeNotice.isNeeded, Bool.or_eq_false_iff, decide_eq_false_iff_not, decide_eq_false_iff_not,
    Nat.not_lt, Nat.not_lt]
  rfl

namespace App

/-- What events leave true of an application: the cursor is in the line, a walk through the history
stands at one of its entries, and the next drawing goes to the end of the transcript only if there
is one. -/
structure Reached (a : App) : Prop where
  line_inRange : a.editor.line.InRange
  history_stands : a.editor.history.Stands
  transcript_ne_nil : a.view.toBottom = true → a.transcript ≠ []

theorem reached_start (showBanner : Bool) : (start showBanner).Reached := by
  refine ⟨Nat.le_refl _, fun p hp => ?_, fun h => absurd h Bool.false_ne_true⟩
  cases hp

namespace Reached

variable {a : App}

theorem bringBack (h : a.Reached) {found : Option Text × History} (hfound : found.2.Stands) :
    (a.onEditor (·.bringBack found)).Reached := by
  obtain ⟨entry, history⟩ := found
  cases entry with
  | none => exact ⟨h.line_inRange, hfound, h.transcript_ne_nil⟩
  | some entry => exact ⟨Nat.le_refl _, hfound, h.transcript_ne_nil⟩

theorem step (h : a.Reached) {b : App} (hstep : a.Step b) : b.Reached := by
  have hcall := History.call_stands h.history_stands
  cases hstep with
  | look help hbottom =>
    exact ⟨h.line_inRange, h.history_stands, fun hb => h.transcript_ne_nil (hbottom hb)⟩
  | edit e hbottom =>
    exact ⟨h.line_inRange.edit e, h.history_stands, fun hb => h.transcript_ne_nil (hbottom hb)⟩
  | recallPrevious => exact h.bringBack (hcall (.previous a.editor.line.text))
  | recallNext => exact h.bringBack (hcall .next)
  | clear hbottom =>
    exact ⟨Nat.le_refl _, hcall .rest, fun hb => h.transcript_ne_nil (hbottom hb)⟩
  | askHelp hline hbottom =>
    exact ⟨Nat.le_refl _, h.history_stands, fun hb => h.transcript_ne_nil (hbottom hb)⟩
  | answer hline =>
    refine ⟨Nat.le_refl _, hcall (.push (Text.trim a.editor.line.text)), fun _ => ?_⟩
    exact List.append_ne_nil_of_right_ne_nil _ (List.cons_ne_nil _ _)

theorem handle (h : a.Reached) (e : Event) : (a.handle e).Reached := by
  rcases a.handle_cases e with ⟨-, hquit⟩ | ⟨-, hstep⟩
  · rw [hquit]
    exact ⟨h.line_inRange, h.history_stands, h.transcript_ne_nil⟩
  · exact h.step hstep

theorem foldl_handle (h : a.Reached) (es : List Event) : (es.foldl App.handle a).Reached := by
  induction es generalizing a with
  | nil => exact h
  | cons e es ih => exact ih (h.handle e)

end Reached

theorem after_reached (showBanner : Bool) (es : List Event) : (after showBanner es).Reached :=
  (reached_start showBanner).foldl_handle es

theorem two_le_transcriptWidth {width : Nat} (h : 50 ≤ width) : 2 ≤ transcriptWidth width := by
  change 2 ≤ width - 26
  omega

theorem two_le_bodyHeight {height : Nat} (h : 10 ≤ height) : 2 ≤ bodyHeight height := by
  change 2 ≤ height - 3 - 1
  omega

theorem draw_of_room {a : App} (h : a.help = false) {width height : Nat} (hw : 50 ≤ width)
    (hh : 10 ≤ height) :
    a.draw width height = (a.settle width height, (a.settle width height).frame width height) := by
  rw [draw, h, SizeNotice.isNeeded_eq_false_iff.mpr ⟨hw, hh⟩]
  rfl

end App

end PostfixCalc
