import PostfixCalc.Proofs.App.Redrawing
import PostfixCalc.Proofs.App.TranscriptRows

namespace PostfixCalc.App

theorem length_transcriptRows_draw {a : App} (hhelp : a.help = false) {width height : Nat}
    (hw : 50 ≤ width) (hh : 10 ≤ height) :
    (transcriptRows (a.draw width height).2 width height).length =
      Box.inner (bodyHeight height) := by
  have hframe := transcriptRows_frame (a.settle width height) hw hh
  rw [draw_of_room hhelp hw hh]
  show (transcriptRows ((a.settle width height).frame width height) width height).length = _
  rw [hframe]
  exact Paragraph.length_fillRows _ _ _ _

theorem press_page {a : App} (hhelp : a.help = false) {k : Key}
    (hk : k.code = .pageUp ∨ k.code = .pageDown) : a.press k = a.pressPlain k.code := by
  rw [press_paging a hk, hhelp, if_neg Bool.false_ne_true]

theorem page_settle (a : App) (width : Nat) {height : Nat} (hh : 10 ≤ height) :
    (a.settle width height).page = Box.inner (bodyHeight height) + 1 := by
  show max (height - 3 - 1 - 1) 1 = height - 3 - 1 - 2 + 1
  omega

section Page

variable {a : App} {width height : Nat} (hw : 50 ≤ width) (hh : 10 ≤ height)
  (hhelp : a.help = false)

include hw hh hhelp

theorem scroll_draw (hbottom : a.view.toBottom = false) :
    (a.draw width height).1.view.transcriptScroll =
      min a.view.transcriptScroll (a.maxScroll width height) := by
  rw [draw_of_room hhelp hw hh]
  show (if a.view.toBottom then _ else _ : Nat) = _
  rw [hbottom]
  rfl

variable {k : Key}

theorem scroll_pageDown (hk : k.code = .pageDown) :
    (((a.settle width height).press k).draw width height).1.view.transcriptScroll =
      min ((a.settle width height).view.transcriptScroll + (Box.inner (bodyHeight height) + 1))
        (a.maxScroll width height) := by
  have hpress := press_page (a := a.settle width height) hhelp (.inr hk)
  rw [hpress, hk, ← a.page_settle width hh]
  exact scroll_draw (a := (a.settle width height).pressPlain .pageDown) hw hh hhelp rfl

theorem scroll_pageUp (hk : k.code = .pageUp) :
    (((a.settle width height).press k).draw width height).1.view.transcriptScroll =
      (a.settle width height).view.transcriptScroll - (Box.inner (bodyHeight height) + 1) := by
  have hpress := press_page (a := a.settle width height) hhelp (.inl hk)
  have hdraw := scroll_draw (a := (a.settle width height).pressPlain .pageUp) hw hh hhelp rfl
  have hle : (a.settle width height).view.transcriptScroll - (a.settle width height).page ≤
      a.maxScroll width height :=
    Nat.le_trans (Nat.sub_le _ _) (a.scroll_settle_le width height)
  rw [hpress, hk, hdraw, ← a.page_settle width hh]
  exact Nat.min_eq_left hle

end Page

/-- Where a page leads from a place that has just been drawn, by one row more than the rows that are
inside the border. So one row, and never more, is in neither of the two windows: on the way down if
there are more rows to come than the panel has, on the way up if more have been passed. -/
theorem draw_page_draw {a : App} (hhelp : a.help = false) {width height : Nat} (hw : 50 ≤ width)
    (hh : 10 ≤ height) (k : Key) :
    let drawn := (a.draw width height).1
    let rows := (transcriptRows (a.draw width height).2 width height).length
    let start := drawn.view.transcriptScroll
    let paged := ((drawn.press k).draw width height).1.view.transcriptScroll
    rows = height - 6 ∧
      (k.code = .pageDown → paged = min (start + (rows + 1)) (a.maxScroll width height) ∧
        (paged ≤ start + rows ↔ a.maxScroll width height ≤ start + rows)) ∧
      (k.code = .pageUp → paged = start - (rows + 1) ∧ (start ≤ paged + rows ↔ start ≤ rows)) := by
  intro drawn rows start paged
  have hrows : rows = Box.inner (bodyHeight height) := length_transcriptRows_draw hhelp hw hh
  have hdrawn : drawn = a.settle width height := congrArg Prod.fst (draw_of_room hhelp hw hh)
  have hle : start ≤ a.maxScroll width height := by
    show drawn.view.transcriptScroll ≤ _
    rw [hdrawn]
    exact a.scroll_settle_le width height
  refine ⟨?rows, ?down, ?up⟩
  case rows =>
    rw [hrows]
    show height - 3 - 1 - 2 = height - 6
    omega
  case down =>
    intro hk
    have hscroll := scroll_pageDown hw hh hhelp hk
    rw [← hdrawn, ← hrows] at hscroll
    have hpaged : paged = min (start + (rows + 1)) (a.maxScroll width height) := hscroll
    exact ⟨hpaged, by omega⟩
  case up =>
    intro hk
    have hscroll := scroll_pageUp hw hh hhelp hk
    rw [← hdrawn, ← hrows] at hscroll
    have hpaged : paged = start - (rows + 1) := hscroll
    exact ⟨hpaged, by omega⟩

/-- The nine rows of the banner on the smallest screen: the page leads from the first row to the
sixth, and there are four rows in the panel. -/
theorem draw_page_draw_banner :
    (transcriptRows ((start true).draw 50 10).2 50 10).length = 4 ∧
      ((start true).draw 50 10).1.view.transcriptScroll = 0 ∧
      ((((start true).draw 50 10).1.press (.plain .pageDown)).draw 50
        10).1.view.transcriptScroll = 5 := by
  obtain ⟨hrows, hdown, -⟩ :=
    draw_page_draw (a := start true) rfl (Nat.le_refl 50) (Nat.le_refl 10) (.plain .pageDown)
  obtain ⟨hpaged, -⟩ := hdown rfl
  have hstart : ((start true).draw 50 10).1.view.transcriptScroll = 0 := by decide +kernel
  have hmost : (start true).maxScroll 50 10 = 5 := by decide +kernel
  rw [hrows, hstart, hmost] at hpaged
  exact ⟨hrows, hstart, hpaged⟩

/-- A page can leave out a row of the transcript. -/
theorem not_draw_page_draw_touches :
    ¬ ∀ (showBanner : Bool) (es : List Event) (width height : Nat) (k : Key), 50 ≤ width →
      10 ≤ height → (after showBanner es).help = false →
        (k.code = .pageUp ∨ k.code = .pageDown) →
          let drawn := ((after showBanner es).draw width height)
          let rows := (transcriptRows drawn.2 width height).length
          let start := drawn.1.view.transcriptScroll
          let paged := ((drawn.1.press k).draw width height).1.view.transcriptScroll
          paged ≤ start + rows ∧ start ≤ paged + rows := by
  intro h
  obtain ⟨hdown, -⟩ := h true [] 50 10 (.plain .pageDown) (Nat.le_refl 50) (Nat.le_refl 10) rfl
    (.inr rfl)
  exact absurd hdown (by decide +kernel)

end PostfixCalc.App
