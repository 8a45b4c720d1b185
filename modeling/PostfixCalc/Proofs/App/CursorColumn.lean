import PostfixCalc.Proofs.App.InputStart
import PostfixCalc.Proofs.App.Reached
import PostfixCalc.Proofs.Text.Ascii

namespace PostfixCalc

namespace Line

/-- No cluster moves what is behind it by more than one column. -/
def Narrow (l : Line) : Prop := ∀ n < l.size, l.widthBefore (n + 1) ≤ l.widthBefore n + 1

theorem Narrow.widthBefore_le {l : Line} (h : l.Narrow) {m n : Nat} (hmn : m ≤ n)
    (hn : n ≤ l.size) : l.widthBefore n ≤ l.widthBefore m + (n - m) := by
  induction n, hmn using Nat.le_induction with
  | base => exact Nat.le_add_right _ _
  | succ n hmn ih =>
    have hstep := h n hn
    have hbefore := ih (Nat.le_of_succ_le hn)
    omega

theorem widthBefore_printable {l : Line} (h : Text.AllPrintable l.text) (n : Nat) :
    l.widthBefore n = min n l.size := by
  have hbefore : Text.AllPrintable (l.textBefore n) := h.take _
  have hclusters := l.clusters_textBefore n
  rw [Text.clusters_printable hbefore] at hclusters
  have hlength := congrArg List.length hclusters
  rw [List.length_map, List.length_take] at hlength
  rw [widthBefore, Text.width_printable hbefore, hlength, size]

end Line

namespace InputBox

/-- The clusters in a box from `start` on, for a cursor that is to show. The cursor is among them,
or it is at the end of the line behind the last of them. -/
structure Frames (total cursor room start : Nat) : Prop where
  start_le : start ≤ cursor
  cursor_le : cursor < start + room ∨ cursor = total
  start_of_end : cursor = total → start = total - room

theorem frames_scrollTo {total cursor room : Nat} (start : Nat) (hroom : 0 < room)
    (hcursor : cursor ≤ total) : Frames total cursor room (scrollTo total cursor start room) := by
  obtain ⟨hstart, hfill, hshows⟩ := admissible_scrollTo hroom hcursor start
  constructor <;> omega

/-- The columns from the left border of the screen to the cursor. -/
def cursorColumn (l : Line) (start : Nat) : Nat := (cursor l start).1

theorem cursorColumn_eq (l : Line) (start : Nat) :
    cursorColumn l start = (3 + (l.cursorWidth - l.widthBefore start)) % 65536 := rfl

theorem three_le_cursorColumn_iff (l : Line) (start : Nat) :
    3 ≤ cursorColumn l start ↔ (l.cursorWidth - l.widthBefore start) % 65536 < 65533 := by
  rw [cursorColumn_eq]
  omega

theorem cursorColumn_eq_of_lt {l : Line} {start : Nat}
    (h : (l.cursorWidth - l.widthBefore start) % 65536 < 65533) :
    cursorColumn l start = 3 + (l.cursorWidth - l.widthBefore start) % 65536 := by
  rw [cursorColumn_eq]
  omega

theorem columns_le_of_narrow {l : Line} {start : Nat} (hrange : l.InRange)
    (hstart : start ≤ l.cursor) (hnarrow : l.Narrow) : l.cursorWidth - l.widthBefore start ≤ l.cursor - start := by
  have hwidth : l.cursorWidth ≤ l.widthBefore start + (l.cursor - start) :=
    hnarrow.widthBefore_le hstart hrange
  omega

theorem columns_printable {l : Line} {start : Nat} (hrange : l.InRange) (hstart : start ≤ l.cursor)
    (h : Text.AllPrintable l.text) :
    l.cursorWidth - l.widthBefore start = l.cursor - start := by
  have hcursor : l.cursor ≤ l.size := hrange
  rw [Line.cursorWidth, Line.widthBefore_printable h, Line.widthBefore_printable h,
    Nat.min_eq_left hcursor, Nat.min_eq_left (Nat.le_trans hstart hcursor)]

end InputBox

namespace App

/-- Where a drawing puts the cursor, whatever events came before: into the row of the input box, and
not in front of its text unless the sum of the columns goes beyond what a coordinate holds. It is
inside the box as long as the clusters from the first that shows to the cursor take fewer columns
than there is room. They do if no cluster takes more than one, unless the line fills the box and the
cursor is at its end. Then a line of printable ASCII has the cursor on the border. -/
theorem after_draw_cursor (showBanner : Bool) (es : List Event) {width height : Nat}
    (hw : 50 ≤ width) (hh : 10 ≤ height) (hhelp : (after showBanner es).help = false) :
    let a := after showBanner es
    let line := a.editor.line
    let start := (a.draw width height).1.view.inputScroll
    let room := InputBox.room width
    let column := InputBox.cursorColumn line start
    let columns := (line.cursorWidth - line.widthBefore start) % 65536
    (a.draw width height).2.cursor = some (column, 1) ∧
      InputBox.Frames line.size line.cursor room start ∧
      (3 ≤ column ↔ columns < 65533) ∧
      (columns < 65533 → (column ≤ width - 2 ↔ columns < room)) ∧
      (line.Narrow → line.cursor < line.size ∨ line.size < room →
        column ≤ width - 2 ∧ (width < 65536 → 3 ≤ column)) ∧
      (Text.AllPrintable line.text → width < 65536 → column = 3 + (line.cursor - start) ∧
        (column ≤ width - 2 ↔ line.cursor < line.size ∨ line.size < room)) := by
  intro a line start room column columns
  have hdraw := draw_of_room hhelp hw hh
  have hroom : room = width - 4 := by
    change width - 2 - 2 = width - 4
    omega
  have hrange : line.InRange := (after_reached showBanner es).line_inRange
  have hframes : InputBox.Frames line.size line.cursor room start := by
    change InputBox.Frames _ _ _ (a.draw width height).1.view.inputScroll
    rw [hdraw]
    exact InputBox.frames_scrollTo a.view.inputScroll (by omega) hrange
  have hcursor : (a.draw width height).2.cursor = some (column, 1) := by
    have hstart : start = (a.settle width height).view.inputScroll :=
      congrArg (fun drawn => drawn.1.view.inputScroll) hdraw
    change _ = some (InputBox.cursorColumn line start, 1)
    rw [hdraw, hstart]
    rfl
  have hthree : 3 ≤ column ↔ columns < 65533 := InputBox.three_le_cursorColumn_iff line start
  have hcolumn (h : columns < 65533) : column = 3 + columns := InputBox.cursorColumn_eq_of_lt h
  have hle : line.cursor ≤ line.size := hrange
  obtain ⟨hstart, hlast, hend⟩ := hframes
  refine ⟨hcursor, ⟨hstart, hlast, hend⟩, hthree, fun hbits => ?_, fun hnarrow hinside => ?_,
    fun hprintable hbits => ?_⟩
  · have hsum := hcolumn hbits
    omega
  · have hclusters : line.cursorWidth - line.widthBefore start ≤ line.cursor - start :=
      InputBox.columns_le_of_narrow hrange hstart hnarrow
    have hcolumns : columns ≤ line.cursorWidth - line.widthBefore start := Nat.mod_le _ _
    by_cases hbits : columns < 65533
    · have hsum := hcolumn hbits
      exact ⟨by omega, fun _ => hthree.mpr hbits⟩
    · exact ⟨by omega, fun hwidth => by omega⟩
  · have hclusters : line.cursorWidth - line.widthBefore start = line.cursor - start :=
      InputBox.columns_printable hrange hstart hprintable
    have hcolumns : columns = line.cursor - start := by
      change (line.cursorWidth - line.widthBefore start) % 65536 = _
      rw [hclusters]
      exact Nat.mod_eq_of_lt (by omega)
    have hsum := hcolumn (by omega)
    rw [hcolumns] at hsum
    refine ⟨hsum, ?_⟩
    omega

/-- Just as many digits as the box has room for. -/
theorem after_draw_cursor_digits :
    (after false (List.replicate 46 (.key (.typed '1')))).editor.line.size = InputBox.room 50 ∧
      ((after false (List.replicate 46 (.key (.typed '1')))).draw 50 10).2.cursor =
        some (49, 1) := by
  have hline : (after false (List.replicate 46 (.key (.typed '1')))).editor.line.cursor = 46 := by
    decide +kernel
  have hsize : (after false (List.replicate 46 (.key (.typed '1')))).editor.line.size = 46 := by
    decide +kernel
  obtain ⟨hcursor, hframes, -, -, -, hprintable⟩ :=
    after_draw_cursor false (List.replicate 46 (.key (.typed '1'))) (Nat.le_refl 50)
      (Nat.le_refl 10) (by decide +kernel)
  obtain ⟨hcolumn, -⟩ := hprintable (by decide +kernel) (by decide)
  have hstart := hframes.start_of_end (hline.trans hsize.symm)
  rw [hcolumn, hstart, hline, hsize] at hcursor
  exact ⟨hsize, hcursor⟩

/-- The cursor is not always inside the input box: ideographs, of two columns each, put it behind
the right edge of the screen. -/
theorem not_after_draw_cursor_inside :
    ¬ ∀ (showBanner : Bool) (es : List Event) (width height : Nat), 50 ≤ width → 10 ≤ height →
      (after showBanner es).help = false →
        ∃ column, ((after showBanner es).draw width height).2.cursor = some (column, 1) ∧
          1 ≤ column ∧ column ≤ width - 2 := by
  intro h
  let es : List Event := List.replicate 24 (.key (.typed '漢'))
  have hcursor : ((after false es).draw 50 10).2.cursor = some (51, 1) := by decide +kernel
  obtain ⟨column, hcolumn, -, hinside⟩ :=
    h false es 50 10 (Nat.le_refl 50) (Nat.le_refl 10) (by decide +kernel)
  obtain rfl : 51 = column := by simpa [hcursor] using hcolumn
  omega

end App

end PostfixCalc
