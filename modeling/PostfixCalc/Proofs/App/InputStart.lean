import Mathlib.Data.Nat.Dist
import PostfixCalc.App.State
import PostfixCalc.Proofs.Editor.Edits

namespace PostfixCalc

namespace InputBox

/-- The cursor shows in a box that starts here, at the end of the line at least behind the last
cluster of the box, and the box is filled if the line is long enough for it. -/
structure Admissible (total cursor room start : Nat) : Prop where
  start_le : start ≤ cursor
  start_le_fill : start ≤ total - room
  cursor_shows : cursor < start + room ∨ (cursor = total ∧ cursor ≤ start + room)

/-- The first start from which the cursor shows. -/
def firstStart (total cursor room : Nat) : Nat := min (cursor + 1 - room) (total - room)

/-- The last one, for a cursor that is not to be passed and a box that is to be filled. -/
def lastStart (total cursor room : Nat) : Nat := min cursor (total - room)

section Interval

variable {total cursor room : Nat} (hroom : 0 < room) (hcursor : cursor ≤ total)

include hroom

theorem firstStart_le_lastStart : firstStart total cursor room ≤ lastStart total cursor room := by
  rw [firstStart, lastStart]
  omega

/-- Following the cursor can go past the start that fills the room, and the correction takes it
back. -/
theorem scrollTo_eq (start : Nat) : scrollTo total cursor start room =
    max (firstStart total cursor room) (min (lastStart total cursor room) start) := by
  have hmax : max room 1 = room := Nat.max_eq_left hroom
  simp only [scrollTo, firstStart, lastStart, hmax]
  split_ifs <;> omega

include hcursor

theorem admissible_iff (start : Nat) : Admissible total cursor room start ↔
    firstStart total cursor room ≤ start ∧ start ≤ lastStart total cursor room := by
  rw [firstStart, lastStart]
  constructor
  · rintro ⟨hstart, hfill, hshows⟩
    omega
  · intro hbetween
    constructor <;> omega

theorem admissible_scrollTo (start : Nat) :
    Admissible total cursor room (scrollTo total cursor start room) := by
  have hle : firstStart total cursor room ≤ lastStart total cursor room :=
    firstStart_le_lastStart hroom
  rw [admissible_iff hroom hcursor, scrollTo_eq hroom]
  omega

/-- Scrolling leaves a line alone that starts where it may. -/
theorem Admissible.scrollTo_eq_self {start : Nat} (h : Admissible total cursor room start) :
    scrollTo total cursor start room = start := by
  have hbetween := (admissible_iff hroom hcursor start).mp h
  rw [scrollTo_eq hroom]
  omega

theorem dist_scrollTo_lt {start other : Nat} (h : Admissible total cursor room other)
    (hne : other ≠ scrollTo total cursor start room) :
    Nat.dist (scrollTo total cursor start room) start < Nat.dist other start := by
  have hbetween := (admissible_iff hroom hcursor other).mp h
  rw [scrollTo_eq hroom] at hne ⊢
  rw [Nat.dist, Nat.dist]
  omega

end Interval

end InputBox

namespace App

open InputBox (Admissible)

/-- Whatever the line, its cursor and the place it was scrolled to before, an adjustment scrolls it
to the nearest admissible start, and changes nothing else. -/
theorem adjustInput_nearest {a : App} (hrange : a.editor.line.InRange) {room : Nat}
    (hroom : 0 < room) :
    let total := a.editor.line.size
    let cursor := a.editor.line.cursor
    let start := (a.adjustInput room).view.inputScroll
    Admissible total cursor room start ∧
      (∀ other, Admissible total cursor room other → other ≠ start →
        Nat.dist start a.view.inputScroll < Nat.dist other a.view.inputScroll) ∧
      (Admissible total cursor room a.view.inputScroll → start = a.view.inputScroll) ∧
      a.adjustInput room = { a with view := { a.view with inputScroll := start } } := by
  intro total cursor start
  refine ⟨InputBox.admissible_scrollTo hroom hrange a.view.inputScroll, ?nearest, ?kept, rfl⟩
  case nearest =>
    intro other hother hne
    exact InputBox.dist_scrollTo_lt hroom hrange hother hne
  case kept =>
    intro hold
    exact hold.scrollTo_eq_self hroom hrange

/-- A line that started behind its own end, with its cursor among its first clusters. -/
theorem adjustInput_nearest_stale :
    let a : App := { start false with
      editor := ⟨⟨Text.lit "12 3+ 4", 2⟩, .empty⟩
      view := { View.start with inputScroll := 9 } }
    a.editor.line.InRange ∧ (a.adjustInput 4).view.inputScroll = 2 ∧
      Admissible a.editor.line.size 2 4 2 ∧ Admissible a.editor.line.size 2 4 0 ∧
      Nat.dist 2 9 < Nat.dist 0 9 := by
  intro a
  have hsize : a.editor.line.size = 7 := by decide
  have hrange : a.editor.line.InRange := by
    show 2 ≤ a.editor.line.size
    omega
  have hstart : (a.adjustInput 4).view.inputScroll = 2 := by decide
  have hother : Admissible a.editor.line.size 2 4 0 := by
    constructor <;> omega
  obtain ⟨hadmissible, hnearest, -, -⟩ := adjustInput_nearest hrange (Nat.succ_pos 3)
  rw [hstart] at hadmissible hnearest
  exact ⟨hrange, hstart, hadmissible, hother, hnearest 0 hother (Nat.zero_ne_add_one 1)⟩

end App

end PostfixCalc
