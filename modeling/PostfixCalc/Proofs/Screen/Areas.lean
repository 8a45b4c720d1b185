import PostfixCalc.Screen.Box
import PostfixCalc.Screen.Row
import PostfixCalc.Screen.Paragraph

namespace PostfixCalc

/-- The cells of a frame in an area, given by its first column and row and its size. -/
def Frame.area (f : Frame) (column row width height : Nat) : List Row :=
  ((f.rows.drop row).take height).map fun r => (r.drop column).take width

theorem Row.length_fill (base : CellStyle) (width : Nat) (cells : List Cell) :
    (Row.fill base width cells).length = width := by
  rw [fill, List.length_take, List.length_append, blank, List.length_replicate]
  omega

theorem Row.length_ofGlyphs (base : CellStyle) (width indent : Nat) (gs : List Glyph) :
    (Row.ofGlyphs base width indent gs).length = width := Row.length_fill base width _

namespace Paragraph

theorem length_fillRows (base : CellStyle) (width height : Nat) (rows : List Row) :
    (fillRows base width height rows).length = height := by
  rw [fillRows, List.length_take, List.length_append, List.length_replicate]
  omega

theorem getElem?_fillRows (base : CellStyle) {width height : Nat} {rows : List Row} {n : Nat}
    (hn : n < rows.length) (hroom : n < height) :
    (fillRows base width height rows)[n]? = rows[n]? := by
  rw [fillRows, List.getElem?_take_of_lt hroom, List.getElem?_append_left hn]

theorem fillRows_of_le (base : CellStyle) (width : Nat) {height : Nat} {rows : List Row}
    (h : height ≤ rows.length) : fillRows base width height rows = rows.take height :=
  List.take_append_of_le_length h

theorem length_of_mem_fillRows {base : CellStyle} {width height : Nat} {rows : List Row}
    (h : ∀ r ∈ rows, r.length = width) :
    ∀ r ∈ fillRows base width height rows, r.length = width := by
  intro r hr
  rcases List.mem_append.mp (List.mem_of_mem_take hr) with hr | hr
  · exact h r hr
  · rw [List.eq_of_mem_replicate hr, Row.blank, List.length_replicate]

theorem length_of_mem_items {base : CellStyle} {width height : Nat} {lines : List StyledLine} :
    ∀ r ∈ items base width height lines, r.length = width := by
  refine length_of_mem_fillRows fun r hr => ?_
  obtain ⟨l, -, rfl⟩ := List.mem_map.mp hr
  exact Row.length_ofGlyphs base width 0 _

end Paragraph

namespace Box

theorem rowBetween_eq (b : Box) (left right : Char) {width : Nat} (h : 2 ≤ width) (row : Row) :
    b.rowBetween left right width row = b.edge left :: row ++ [b.edge right] := by
  match width, h with
  | width + 2, _ => rfl

theorem around_eq (b : Box) (width : Nat) {height : Nat} (h : 2 ≤ height) (rows : List Row) :
    b.around width height rows =
      b.topRow width :: rows.map (b.rowBetween b.symbols.vertical b.symbols.vertical width) ++
        [b.bottomRow width] := by
  match height, h with
  | height + 2, _ => rfl

/-- A row inside a box stands between two cells of the border, whatever is behind it. -/
theorem take_drop_rowBetween (b : Box) (left right : Char) {width : Nat} (h : 2 ≤ width) {row : Row}
    (hrow : row.length = inner width) (more : Row) :
    ((b.rowBetween left right width row ++ more).drop 1).take (inner width) = row := by
  rw [rowBetween_eq b left right h, ← hrow, List.cons_append, List.cons_append, List.drop_one,
    List.tail_cons, List.append_assoc]
  exact List.take_left

/-- The rows between the first and the last row of two boxes that stand side by side. -/
theorem rows_beside (b c : Box) (width width' : Nat) {height : Nat} (hheight : 2 ≤ height)
    {rows rows' : List Row} (hlength : rows.length = inner height)
    (hlength' : rows'.length = inner height) :
    ((List.zipWith (· ++ ·) (b.around width height rows) (c.around width' height rows')).drop
        1).take (inner height) =
      List.zipWith (fun r r' =>
        b.rowBetween b.symbols.vertical b.symbols.vertical width r ++
          c.rowBetween c.symbols.vertical c.symbols.vertical width' r') rows rows' := by
  have hsame : (rows.map (b.rowBetween b.symbols.vertical b.symbols.vertical width)).length =
      (rows'.map (c.rowBetween c.symbols.vertical c.symbols.vertical width')).length := by
    rw [List.length_map, List.length_map, hlength, hlength']
  rw [around_eq b width hheight, around_eq c width' hheight, List.cons_append, List.cons_append,
    List.zipWith_cons_cons, List.drop_one, List.tail_cons, List.zipWith_append hsame,
    List.zipWith_map]
  refine List.take_left' ?_
  rw [List.length_zipWith, hlength, hlength', Nat.min_self]

theorem length_rowBetween (b : Box) (left right : Char) {width : Nat} (h : 2 ≤ width) {row : Row}
    (hrow : row.length = inner width) : (b.rowBetween left right width row).length = width := by
  rw [rowBetween_eq b left right h, List.cons_append, List.length_cons, List.length_append, hrow,
    List.length_singleton, inner]
  omega

/-- What is inside the left one of two boxes that stand side by side. -/
theorem inside_left (b c : Box) {width height : Nat} (width' : Nat) (hwidth : 2 ≤ width)
    (hheight : 2 ≤ height) {rows rows' : List Row} (hrows : ∀ r ∈ rows, r.length = inner width)
    (hlength : rows.length = inner height) (hlength' : rows'.length = inner height) :
    (((List.zipWith (· ++ ·) (b.around width height rows) (c.around width' height rows')).drop
        1).take (inner height)).map (fun r => (r.drop 1).take (inner width)) = rows := by
  rw [rows_beside b c width width' hheight hlength hlength', List.map_zipWith]
  apply List.ext_getElem
  · rw [List.length_zipWith, hlength', hlength, Nat.min_self]
  · intro n hn hn'
    rw [List.getElem_zipWith]
    exact b.take_drop_rowBetween _ _ hwidth (hrows _ (List.getElem_mem hn')) _

/-- What is inside the right one of two boxes that stand side by side. -/
theorem inside_right (b c : Box) {width width' height : Nat} (hwidth : 2 ≤ width)
    (hwidth' : 2 ≤ width') (hheight : 2 ≤ height) {rows rows' : List Row}
    (hrows : ∀ r ∈ rows, r.length = inner width) (hrows' : ∀ r ∈ rows', r.length = inner width')
    (hlength : rows.length = inner height) (hlength' : rows'.length = inner height) :
    (((List.zipWith (· ++ ·) (b.around width height rows) (c.around width' height rows')).drop
        1).take (inner height)).map (fun r => (r.drop (width + 1)).take (inner width')) = rows' := by
  rw [rows_beside b c width width' hheight hlength hlength', List.map_zipWith]
  apply List.ext_getElem
  · rw [List.length_zipWith, hlength, hlength', Nat.min_self]
  · intro n hn hn'
    have hr := hrows _ (List.getElem_mem (hlength.trans hlength'.symm ▸ hn' : n < rows.length))
    have hr' := hrows' _ (List.getElem_mem hn')
    have hleft := b.length_rowBetween b.symbols.vertical b.symbols.vertical hwidth hr
    have hinside := c.take_drop_rowBetween c.symbols.vertical c.symbols.vertical hwidth' hr' []
    rw [List.append_nil] at hinside
    rw [List.getElem_zipWith, ← List.drop_drop, List.drop_left' hleft, hinside]

end Box

end PostfixCalc
