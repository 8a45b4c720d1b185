import PostfixCalc.Proofs.App.TranscriptRows
import PostfixCalc.Proofs.Number.Notation
import PostfixCalc.Proofs.Screen.Narrow
import PostfixCalc.Proofs.Text.Digits

namespace PostfixCalc

namespace Stack

theorem length_padLeft {width : Nat} {s : Text} (h : s.length ≤ width) :
    (padLeft width s).length = width := by
  rw [padLeft, List.length_append, List.length_replicate]
  omega

theorem levelRow_printable (labelWidth level : Nat) (v : Binary64) :
    Text.AllPrintable (levelRow labelWidth level v) := by
  have hgraphic : ∀ c, Text.isGraphic c = true → Text.IsPrintable c := by
    intro c hc
    simp only [Text.isGraphic, decide_eq_true_eq] at hc
    simp only [Text.IsPrintable]
    omega
  have hblank : Text.IsPrintable ' ' := by decide
  intro c hc
  simp only [levelRow, padLeft, List.mem_append, List.mem_replicate] at hc
  rcases hc with ((⟨-, rfl⟩ | hc) | hc) | hc
  · exact hblank
  · apply hgraphic c (Text.isGraphic_of_mem_toDigits hc)
  · have hsign : Text.AllPrintable (Text.lit ": ") := by decide
    apply hsign c hc
  · apply hgraphic c (v.displayText_graphic c hc)

end Stack

namespace StackPanel

theorem length_abbreviate_le {room : Nat} (h : 0 < room) (row : Text) :
    (abbreviate room row).length ≤ room := by
  rw [abbreviate]
  split
  · rw [List.length_append, List.length_take, List.length_singleton]
    omega
  · omega

theorem narrow_abbreviate (room : Nat) {row : Text} (h : Text.AllPrintable row) :
    (abbreviate room row).Narrow := by
  rw [abbreviate]
  split
  · apply (h.take _).narrow.append Text.narrow_ellipsis
  · apply h.narrow

/-- The row of a level of a stack, cut to its room. -/
def levelCells (s : Stack) (room level : Nat) (v : Binary64) : Row :=
  Row.spelled .untouched (.colored .yellow) room
    (abbreviate room (Stack.levelRow (Nat.toDigits 10 s.length).length level v))

theorem rows_drop (s : Stack) (height : Nat) :
    s.rows.drop (s.rows.length - height) =
      ((s.zipIdx.take height).map fun x =>
        Stack.levelRow (Nat.toDigits 10 s.length).length (x.2 + 1) x.1).reverse := by
  have hlength : s.rows.length = s.length := by
    rw [Stack.rows, List.length_reverse, List.length_map, List.length_zipIdx]
  have hall : s.length - (s.length - height) = min height s.length := by omega
  rw [hlength, Stack.rows, List.drop_reverse, List.length_map, List.length_zipIdx, hall,
    ← List.map_take]
  congr 2
  rw [← List.length_zipIdx, ← List.take_eq_take_min]

/-- The rows of the panel from the last one up. -/
theorem content_reverse (s : Stack) {width : Nat} (hwidth : 0 < width) (height : Nat) :
    (content s width height).reverse =
      ((s.zipIdx.take height).map fun x => levelCells s width (x.2 + 1) x.1) ++
        List.replicate (height - s.length) (Row.blank .untouched width) := by
  have hline : ∀ x : Binary64 × Nat,
      Row.ofGlyphs .untouched width 0 (StyledLine.cut width [⟨abbreviate width
        (Stack.levelRow (Nat.toDigits 10 s.length).length (x.2 + 1) x.1), .colored .yellow⟩]) =
      levelCells s width (x.2 + 1) x.1 := by
    intro x
    apply Row.ofGlyphs_cut_narrow
    · apply narrow_abbreviate _ (Stack.levelRow_printable _ _ _)
    · apply length_abbreviate_le hwidth
  have hroom : height - min height s.length = height - s.length := by omega
  rw [content, rows_drop, Paragraph.plain, Paragraph.fillRows_of_le _ _ (by simp)]
  simp only [Alignment.indent, List.map_reverse, List.map_map, Function.comp_def, hline,
    List.length_reverse, List.length_map, List.length_take, List.length_zipIdx,
    List.reverse_append, List.reverse_replicate, hroom]
  congr 1
  rw [List.take_of_length_le (by simp), List.reverse_reverse]

theorem length_of_mem_content {s : Stack} {width height : Nat} (hwidth : 0 < width) :
    ∀ r ∈ content s width height, r.length = width := by
  intro r hr
  rw [← List.mem_reverse, content_reverse s hwidth] at hr
  rcases List.mem_append.mp hr with hr | hr
  · obtain ⟨x, -, rfl⟩ := List.mem_map.mp hr
    apply Row.length_spelled _ _ (length_abbreviate_le hwidth _)
  · rw [List.eq_of_mem_replicate hr, Row.blank, List.length_replicate]

end StackPanel

namespace App

/-- The rows inside the border of the stack's panel. -/
def stackRows (f : Frame) (width height : Nat) : List Row :=
  f.area (transcriptWidth width + 1) 5 (Box.inner StackPanel.width) (Box.inner (bodyHeight height))

theorem stackRows_frame {a : App} (h : a.stack ≠ []) {width height : Nat} (hw : 50 ≤ width)
    (hh : 10 ≤ height) :
    stackRows (a.frame width height) width height =
      StackPanel.content a.stack (Box.inner StackPanel.width) (Box.inner (bodyHeight height)) := by
  have hinside : (if a.stack.isEmpty then StackPanel.emptyContent else StackPanel.content a.stack) =
      StackPanel.content a.stack := if_neg (by simpa using h)
  have hlength := StackPanel.length_inside a.stack (Box.inner StackPanel.width)
    (Box.inner (bodyHeight height))
  rw [hinside] at hlength
  have hright := Box.inside_right (Box.titled .darkGray title)
    (Box.titled .darkGray (StackPanel.title a.stack)) (two_le_transcriptWidth hw)
    (by decide : 2 ≤ StackPanel.width) (two_le_bodyHeight hh) Paragraph.length_of_mem_items
    (StackPanel.length_of_mem_content (by decide))
    (Paragraph.length_fillRows .untouched (Box.inner (transcriptWidth width)) _
      ((a.itemsOn width).map (TranscriptPanel.itemRow (Box.inner (transcriptWidth width))))) hlength
  rw [← hinside] at hright ⊢
  exact hright

/-- The rows of the panel from the last one up. -/
theorem draw_stackRows_reverse {a : App} (hhelp : a.help = false) (h : a.stack ≠ [])
    {width height : Nat} (hw : 50 ≤ width) (hh : 10 ≤ height) :
    (stackRows (a.draw width height).2 width height).reverse =
      ((a.stack.zipIdx.take (height - 6)).map fun x =>
        StackPanel.levelCells a.stack 24 (x.2 + 1) x.1) ++
      List.replicate (height - 6 - a.stack.length) (Row.blank .untouched 24) := by
  have hroom : Box.inner (bodyHeight height) = height - 6 := by
    change height - 3 - 1 - 2 = height - 6
    omega
  have hframe := stackRows_frame (a := a.settle width height) h hw hh
  rw [draw_of_room hhelp hw hh, hframe, hroom]
  apply StackPanel.content_reverse a.stack (by decide)

/-- What a drawing shows of a stack with values on it. The panel has six rows less than the screen.
Counted from the bottom, its rows are the levels of the stack from its top on; the numbers of the
levels end in one column, and a row that is too long for the panel ends in an ellipsis. Rows without
a level are blank, and only levels for which there is no row do not show. -/
theorem draw_stackRows {a : App} (hhelp : a.help = false) (h : a.stack ≠ []) {width height : Nat}
    (hw : 50 ≤ width) (hh : 10 ≤ height) :
    let shown := stackRows (a.draw width height).2 width height
    let room := height - 6
    shown.length = room ∧
      (∀ level v, 1 ≤ level → level ≤ room → a.stack[level - 1]? = some v →
        ∃ label row : Text,
          (∃ blanks, label = List.replicate blanks ' ' ++ Nat.toDigits 10 level) ∧
          label.length = (Nat.toDigits 10 a.stack.length).length ∧
          row = label ++ Text.lit ": " ++ v.displayText ∧
          shown.reverse[level - 1]? = some (Row.spelled .untouched (.colored .yellow) 24
            (if 24 < row.length then row.take 23 ++ ['…'] else row))) ∧
      (∀ level, a.stack.length < level → level ≤ room →
        shown.reverse[level - 1]? = some (Row.blank .untouched 24)) ∧
      ∀ r ∈ shown, r = Row.blank .untouched 24 ∨
        ∃ level v, 1 ≤ level ∧ level ≤ room ∧ a.stack[level - 1]? = some v ∧
          r = StackPanel.levelCells a.stack 24 level v := by
  intro shown room
  have hshown : shown.reverse = _ := draw_stackRows_reverse hhelp h hw hh
  have hlevels : ((a.stack.zipIdx.take (height - 6)).map fun x =>
      StackPanel.levelCells a.stack 24 (x.2 + 1) x.1).length = min room a.stack.length := by
    rw [List.length_map, List.length_take, List.length_zipIdx]
  refine ⟨?rows, ?levels, ?blanks, ?only⟩
  case rows =>
    rw [← List.length_reverse, hshown, List.length_append, hlevels, List.length_replicate]
    omega
  case levels =>
    intro level v hfirst hlast hv
    obtain ⟨hdepth, -⟩ := List.getElem?_eq_some_iff.mp hv
    have hlabel : (Stack.padLeft (Nat.toDigits 10 a.stack.length).length
        (Nat.toDigits 10 level)).length = (Nat.toDigits 10 a.stack.length).length := by
      apply Stack.length_padLeft
      apply Text.length_toDigits_le
      omega
    have hbefore : level - 1 < min room a.stack.length := by omega
    have hnumber : 0 + (level - 1) + 1 = level := by omega
    refine ⟨_, _, ⟨_, rfl⟩, hlabel, rfl, ?_⟩
    rw [hshown, List.getElem?_append_left (by rwa [hlevels]), List.getElem?_map,
      List.getElem?_take_of_lt (by omega), List.getElem?_zipIdx, hv, Option.map_some,
      Option.map_some, hnumber]
    rfl
  case blanks =>
    intro level hdepth hlast
    rw [hshown, List.getElem?_append_right (by omega), List.getElem?_replicate, hlevels,
      if_pos (by omega)]
  case only =>
    intro r hr
    rw [← List.mem_reverse, hshown] at hr
    rcases List.mem_append.mp hr with hr | hr
    · right
      obtain ⟨x, hx, rfl⟩ := List.mem_map.mp hr
      obtain ⟨n, hn, rfl⟩ := List.mem_take_iff_getElem.mp hx
      rw [List.length_zipIdx] at hn
      have hdepth : n < a.stack.length := by omega
      have hlast : n + 1 ≤ room := by omega
      refine ⟨n + 1, a.stack[n], Nat.succ_pos n, hlast, List.getElem?_eq_getElem hdepth, ?_⟩
      rw [List.getElem_zipIdx, Nat.zero_add]
    · exact .inl (List.eq_of_mem_replicate hr)

/-- Ten values on one line, the last one with twenty-one digits. -/
def tenSubmitted : List Event :=
  (Text.lit "1 2 3 4 5 6 7 8 9 -123456789012345680000").map (fun c => .key (.typed c)) ++
    [.key (.plain .enter)]

/-- The number of the top level makes room for that of the tenth, which does not show itself. -/
theorem draw_stackRows_ten :
    let shown := stackRows ((after false tenSubmitted).draw 50 10).2 50 10
    shown.length = 4 ∧
      shown.reverse[0]? = some (Row.spelled .untouched (.colored .yellow) 24
        (Text.lit " 1: -123456789012345680…")) := by
  have hhelp : (after false tenSubmitted).help = false := by decide +kernel
  have hdepth : (after false tenSubmitted).stack.length = 10 := by decide +kernel
  have hstack : (after false tenSubmitted).stack ≠ [] := by
    apply List.ne_nil_of_length_pos
    omega
  obtain ⟨hlength, hlevels, -, -⟩ :=
    draw_stackRows hhelp hstack (Nat.le_refl 50) (Nat.le_refl 10)
  have htop : (after false tenSubmitted).stack[0]?.map Binary64.displayText =
      some (Text.lit "-123456789012345680000") := by
    decide +kernel
  obtain ⟨v, hv, htext⟩ := Option.map_eq_some_iff.mp htop
  obtain ⟨label, row, ⟨blanks, rfl⟩, hlabel, rfl, hrow⟩ := hlevels 1 v (by decide) (by decide) hv
  have hblanks : blanks = 1 := by
    rw [hdepth, List.length_append, List.length_replicate] at hlabel
    exact Nat.succ.inj hlabel
  subst hblanks
  refine ⟨hlength, ?_⟩
  rw [hrow, htext]
  rfl

end App

end PostfixCalc
