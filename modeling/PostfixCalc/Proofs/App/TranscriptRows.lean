import PostfixCalc.Proofs.App.Reached
import PostfixCalc.Proofs.App.Recorded
import PostfixCalc.Proofs.Screen.Areas

namespace PostfixCalc

namespace Text

theorem Wrapped.lines_ne_nil (w : Wrapped) : w.lines ≠ [] := by
  rw [lines]
  split
  · exact List.append_ne_nil_of_right_ne_nil _ (List.cons_ne_nil _ _)
  · next h =>
    intro hdone
    exact h (.inr hdone)

theorem wrap_ne_nil (s : Text) (limit : Nat) : wrap s limit ≠ [] := by
  rw [wrap]
  split
  · exact List.cons_ne_nil _ _
  · exact Wrapped.lines_ne_nil _

end Text

namespace TranscriptPanel

def itemRow (width : Nat) (item : StyledLine) : Row :=
  Row.ofGlyphs .untouched width 0 (Span.cutEach width item)

/-- The last line of a reply that is wrapped. -/
def lastItem (x : Exchange) (piece : Text) : StyledLine := [⟨' ' :: ' ' :: piece, replyStyle x⟩]

/-- The rows of a transcript end with the last line of the last reply. -/
theorem items_concat (banner : List Text) (earlier : List Exchange) {x : Exchange} (room : Nat)
    (h : x.reply.lines = [x.reply.message]) :
    ∃ before piece, (Text.wrap x.reply.message room).getLast? = some piece ∧
      items banner (earlier ++ [x]) room = before ++ [lastItem x piece] := by
  obtain hnil | ⟨pieces, piece, hwrap⟩ := List.eq_nil_or_concat' (Text.wrap x.reply.message room)
  · exact absurd hnil (Text.wrap_ne_nil _ _)
  have hreply : replyItems x room =
      pieces.map (fun piece => lastItem x piece) ++ [lastItem x piece] := by
    rw [replyItems, h, List.flatMap_singleton, hwrap, List.map_append]
    rfl
  refine ⟨banner.map (fun l => [⟨l, .colored .green⟩]) ++
    (earlier.flatMap (fun x => inputItems x room ++ replyItems x room) ++ inputItems x room) ++
      pieces.map (fun piece => lastItem x piece), piece, ?_, ?_⟩
  · rw [hwrap, List.getLast?_concat]
  · rw [items, List.flatMap_append, List.flatMap_singleton, hreply]
    simp only [List.append_assoc]

end TranscriptPanel

theorem StackPanel.length_inside (s : Stack) (width height : Nat) :
    ((if s.isEmpty then emptyContent else content s) width height).length = height := by
  split
  · exact Paragraph.length_fillRows _ _ _ _
  · rw [content, List.length_append, List.length_replicate, Paragraph.plain,
      Paragraph.length_fillRows, List.length_drop]
    omega

namespace App

/-- The rows inside the border of the transcript's panel. -/
def transcriptRows (f : Frame) (width height : Nat) : List Row :=
  f.area 1 5 (Box.inner (transcriptWidth width)) (Box.inner (bodyHeight height))

/-- The rows of the panel are the rows of the transcript from the first one on. -/
theorem transcriptRows_frame (a : App) {width height : Nat} (hw : 50 ≤ width) (hh : 10 ≤ height) :
    transcriptRows (a.frame width height) width height =
      Paragraph.items .untouched (Box.inner (transcriptWidth width))
        (Box.inner (bodyHeight height)) (a.itemsOn width) := by
  exact Box.inside_left (Box.titled .darkGray title) (Box.titled .darkGray (StackPanel.title a.stack))
    StackPanel.width (two_le_transcriptWidth hw) (two_le_bodyHeight hh)
    Paragraph.length_of_mem_items
    (Paragraph.length_fillRows _ _ _ _) (StackPanel.length_inside a.stack _ _)

/-- What a drawing shows of the transcript after a line has been submitted, whatever events came
before. Its rows end with the last line of the last reply. This line shows if all rows have room in
the panel, below the rows before it; otherwise only rows in front of it show, although the drawing
has taken the end of the transcript for the place that it has scrolled to. -/
theorem after_draw_transcript (showBanner : Bool) (es : List Event) {width height : Nat}
    (hw : 50 ≤ width) (hh : 10 ≤ height) (hhelp : (after showBanner es).help = false)
    (hbottom : (after showBanner es).view.toBottom = true) :
    let a := after showBanner es
    let view := (a.draw width height).1.view
    let shown := transcriptRows (a.draw width height).2 width height
    let columns := Box.inner (transcriptWidth width)
    let room := Box.inner (bodyHeight height)
    ∃ x before piece, a.transcript.getLast? = some x ∧
      (Text.wrap x.reply.message (TranscriptPanel.room (transcriptWidth width))).getLast? =
        some piece ∧
      a.itemsOn width = before ++ [TranscriptPanel.lastItem x piece] ∧
      (before.length < room →
        shown[before.length]? =
          some (TranscriptPanel.itemRow columns (TranscriptPanel.lastItem x piece))) ∧
      (room ≤ before.length →
        shown = (before.take room).map (TranscriptPanel.itemRow columns)) ∧
      shown.length = room ∧
      view.transcriptScroll = before.length + 1 - room ∧ view.toBottom = false := by
  intro a view shown columns room
  have hdraw := draw_of_room hhelp hw hh
  obtain hnil | ⟨earlier, x, htranscript⟩ := List.eq_nil_or_concat' a.transcript
  · exact absurd hnil ((after_reached showBanner es).transcript_ne_nil hbottom)
  have hrecorded : Recorded es a := foldl_handle_recorded (recorded_start showBanner) es
  have hx : x ∈ Calculator.exchanges [] a.inputs := by
    rw [← hrecorded.transcript_eq, htranscript]
    exact List.mem_append_right _ List.mem_cons_self
  obtain ⟨before, piece, hpiece, hitems⟩ := TranscriptPanel.items_concat a.banner earlier
    (TranscriptPanel.room (transcriptWidth width)) (Calculator.exchanges_answered hx).1
  have hitems : a.itemsOn width = before ++ [TranscriptPanel.lastItem x piece] := by
    rw [itemsOn, htranscript]
    exact hitems
  have hshown : shown = Paragraph.fillRows .untouched columns room
      ((a.itemsOn width).map (TranscriptPanel.itemRow columns)) := by
    have hframe := transcriptRows_frame (a.settle width height) hw hh
    change transcriptRows (a.draw width height).2 width height = _
    rw [hdraw]
    exact hframe
  have hview : view = (a.settle width height).view :=
    congrArg (fun drawn => drawn.1.view) hdraw
  refine ⟨x, before, piece, ?last, hpiece, hitems, ?fits, ?exceeds, ?rows, ?scroll, ?settled⟩
  case last => rw [htranscript, List.getLast?_concat]
  case fits =>
    intro hroom
    rw [hshown, Paragraph.getElem?_fillRows _ (by simp [hitems]) hroom, hitems]
    simp
  case exceeds =>
    intro hroom
    have hmany : room ≤ ((a.itemsOn width).map (TranscriptPanel.itemRow columns)).length := by
      rw [List.length_map, hitems, List.length_append]
      omega
    rw [hshown, Paragraph.fillRows_of_le _ _ hmany, ← List.map_take, hitems,
      List.take_append_of_le_length hroom]
  case rows => rw [hshown, Paragraph.length_fillRows]
  case scroll =>
    rw [hview]
    change (if a.view.toBottom then a.maxScroll width height else _) = _
    rw [hbottom, if_pos rfl, maxScroll, TranscriptPanel.maxScroll, hitems, List.length_append]
    rfl
  case settled =>
    rw [hview]
    rfl

/-- Three digits, each on a line that is submitted. -/
def digitsSubmitted : List Event :=
  ['1', '2', '3'].flatMap fun c => [.key (.typed c), .key (.plain .enter)]

/-- On the smallest screen the last exchange does not show behind two others. -/
theorem after_draw_transcript_digits :
    ((after false digitsSubmitted).draw 50 10).1.view.transcriptScroll = 2 ∧
      transcriptRows ((after false digitsSubmitted).draw 50 10).2 50 10 =
        (((after false digitsSubmitted).itemsOn 50).take 4).map (TranscriptPanel.itemRow 22) := by
  obtain ⟨x, before, piece, -, -, hitems, -, hexceeds, -, hscroll, -⟩ :=
    after_draw_transcript false digitsSubmitted (Nat.le_refl 50) (Nat.le_refl 10)
      (by decide +kernel) (by decide +kernel)
  have hlength : ((after false digitsSubmitted).itemsOn 50).length = 6 := by decide +kernel
  rw [hitems, List.length_append, List.length_singleton] at hlength
  have hbefore : before.length = 5 := Nat.succ.inj hlength
  have hroom : Box.inner (bodyHeight 10) = 4 := rfl
  rw [hbefore, hroom] at hscroll hexceeds
  refine ⟨hscroll, ?_⟩
  rw [hexceeds (by decide), hitems, List.take_append_of_le_length (by omega)]
  rfl

/-- The end of the transcript does not always show after a line has been submitted. -/
theorem not_after_draw_transcript_end :
    ¬ ∀ (showBanner : Bool) (es : List Event) (width height : Nat), 50 ≤ width → 10 ≤ height →
      (after showBanner es).help = false → (after showBanner es).view.toBottom = true →
        ∀ x piece, (after showBanner es).transcript.getLast? = some x →
          (Text.wrap x.reply.message (TranscriptPanel.room (transcriptWidth width))).getLast? =
            some piece →
          TranscriptPanel.itemRow (Box.inner (transcriptWidth width))
              (TranscriptPanel.lastItem x piece) ∈
            transcriptRows ((after showBanner es).draw width height).2 width height := by
  intro h
  have hshown := h false digitsSubmitted 50 10 (Nat.le_refl 50) (Nat.le_refl 10)
    (by decide +kernel) (by decide +kernel) ⟨['3'], .line ['3']⟩ ['3'] (by decide +kernel)
    (by decide +kernel)
  exact absurd hshown (by decide +kernel)

end App

end PostfixCalc
