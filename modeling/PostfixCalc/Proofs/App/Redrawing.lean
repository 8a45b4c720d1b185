import PostfixCalc.Proofs.App.InputStart
import PostfixCalc.Proofs.App.Reached

namespace PostfixCalc.App

/-- The application is looked at in a way that a drawing on a screen of this size leaves alone. -/
structure Settled (a : App) (width height : Nat) : Prop where
  admissible : InputBox.Admissible a.editor.line.size a.editor.line.cursor (InputBox.room width)
    a.view.inputScroll
  scroll_le : a.view.transcriptScroll ≤ a.maxScroll width height
  toBottom_eq : a.view.toBottom = false
  listHeight_eq : a.view.listHeight = bodyHeight height
  tooSmall_eq : a.view.tooSmall = false

theorem scroll_settle_le (a : App) (width height : Nat) :
    (a.settle width height).view.transcriptScroll ≤ a.maxScroll width height := by
  show (if a.view.toBottom then _ else _ : Nat) ≤ _
  split
  · exact Nat.le_refl _
  · exact Nat.min_le_right _ _

section Settling

variable {a : App} {width height : Nat} (hroom : 0 < InputBox.room width)
  (hrange : a.editor.line.InRange)

include hroom hrange

theorem settle_settled : (a.settle width height).Settled width height where
  admissible := InputBox.admissible_scrollTo hroom hrange a.view.inputScroll
  scroll_le := a.scroll_settle_le width height
  toBottom_eq := rfl
  listHeight_eq := rfl
  tooSmall_eq := rfl

theorem Settled.settle_eq (h : a.Settled width height) : a.settle width height = a := by
  have hinput := h.admissible.scrollTo_eq_self hroom hrange
  have hscroll := Nat.min_eq_left h.scroll_le
  calc a.settle width height
      = { a with view := { a.view with
          inputScroll := InputBox.scrollTo a.editor.line.size a.editor.line.cursor
            a.view.inputScroll (InputBox.room width)
          transcriptScroll := if a.view.toBottom then a.maxScroll width height
            else min a.view.transcriptScroll (a.maxScroll width height)
          toBottom := false
          listHeight := bodyHeight height
          tooSmall := false } } := rfl
    _ = { a with view := { a.view with
          inputScroll := a.view.inputScroll
          transcriptScroll := a.view.transcriptScroll
          toBottom := a.view.toBottom
          listHeight := a.view.listHeight
          tooSmall := a.view.tooSmall } } := by
        rw [h.toBottom_eq, h.listHeight_eq, h.tooSmall_eq, hinput, if_neg Bool.false_ne_true,
          hscroll]
    _ = a := rfl

end Settling

theorem draw_of_help {a : App} (hhelp : a.help = true) (width height : Nat) :
    a.draw width height = (a, HelpScreen.frame a.view.helpScroll width height) := if_pos hhelp

theorem draw_of_small {a : App} (hhelp : a.help = false) {width height : Nat}
    (hsmall : SizeNotice.isNeeded width height = true) :
    a.draw width height =
      (a.onView ({ · with tooSmall := true }), SizeNotice.frame width height) := by
  rw [draw, hhelp, hsmall]
  rfl

theorem draw_draw {a : App} (hrange : a.editor.line.InRange) (width height : Nat) :
    (a.draw width height).1.draw width height = a.draw width height := by
  cases hhelp : a.help with
  | true =>
    have hdraw := draw_of_help hhelp width height
    rw [hdraw]
    exact hdraw
  | false =>
    cases hsize : SizeNotice.isNeeded width height with
    | true =>
      have hagain :=
        draw_of_small (a := a.onView ({ · with tooSmall := true })) hhelp hsize
      rw [draw_of_small hhelp hsize]
      exact hagain
    | false =>
      obtain ⟨hw, hh⟩ := SizeNotice.isNeeded_eq_false_iff.mp hsize
      have hroom : 0 < InputBox.room width := by
        show 0 < width - 2 - 2
        omega
      have hsettled : (a.settle width height).settle width height = a.settle width height :=
        Settled.settle_eq hroom hrange (settle_settled hroom hrange)
      have hagain := draw_of_room (a := a.settle width height) hhelp hw hh
      rw [draw_of_room hhelp hw hh]
      rw [hsettled] at hagain
      exact hagain

/-- Whatever events came before: a drawing that follows another one on a screen of the same size,
large enough or not and with the help text open or not, shows the same cells and puts the cursor to
the same place, and it leaves the whole application as it is. -/
theorem after_draw_draw (showBanner : Bool) (es : List Event) (width height : Nat) :
    let a := after showBanner es
    let once := a.draw width height
    let twice := once.1.draw width height
    twice.2.rows = once.2.rows ∧ twice.2.cursor = once.2.cursor ∧ twice.1 = once.1 := by
  intro a once twice
  have hsame : twice = once := draw_draw (after_reached showBanner es).line_inRange width height
  rw [hsame]
  exact ⟨rfl, rfl, rfl⟩

end PostfixCalc.App
