import PostfixCalc.Editor.Line
import PostfixCalc.Proofs.Text.Cuts

namespace PostfixCalc.Line

/-- What is done to a line. -/
inductive Edit
  | set (s : Text)
  | insert (c : Char)
  | take
  | clear
  | backspace
  | delete
  | left
  | right
  | home
  | toEnd
  | wordLeft
  | wordRight
  deriving DecidableEq, Repr

def edit (l : Line) : Edit → Line
  | .set s => ofText s
  | .insert c => l.insert c
  | .take | .clear => empty
  | .backspace => l.backspace
  | .delete => l.delete
  | .left => l.left
  | .right => l.right
  | .home => l.home
  | .toEnd => l.toEnd
  | .wordLeft => l.wordLeft
  | .wordRight => l.wordRight

/-- The line that edits lead to. -/
def edited (es : List Edit) : Line := es.foldl edit empty

theorem clusters_textBefore (l : Line) (n : Nat) :
    Text.clusters (l.textBefore n) = (Text.clusters l.text).take n :=
  Text.clusters_take_clusterOffset l.text n

theorem clusters_textFrom (l : Line) (n : Nat) :
    Text.clusters (l.textFrom n) = (Text.clusters l.text).drop n :=
  Text.clusters_drop_clusterOffset l.text n

theorem length_clusters_textBefore (l : Line) {n : Nat} (hn : n ≤ l.size) :
    (Text.clusters (l.textBefore n)).length = n := by
  rw [clusters_textBefore, List.length_take]
  exact Nat.min_eq_left hn

/-- The cursor stands in front of a cluster or behind the last. -/
def InRange (l : Line) : Prop := l.cursor ≤ l.size

/-- Behind a text that keeps its clusters the cursor is in range, whatever follows. -/
theorem inRange_append (a b : Text) : InRange ⟨a ++ b, (Text.clusters a).length⟩ :=
  Text.length_clusters_le_append a b

theorem InRange.insert {l : Line} (h : l.InRange) (c : Char) : (l.insert c).InRange := by
  have hbefore := length_clusters_textBefore l h
  have hkept := inRange_append (l.textBefore l.cursor) (c :: l.textFrom l.cursor)
  rw [hbefore] at hkept
  rw [Line.insert]
  split
  · next hgrown => exact Nat.succ_le_of_lt (Nat.lt_of_le_of_lt h hgrown)
  · exact hkept

theorem InRange.backspace {l : Line} (h : l.InRange) : l.backspace.InRange := by
  rw [Line.backspace]
  split
  · exact h
  · have hfewer : l.cursor - 1 ≤ l.size := Nat.le_trans (Nat.sub_le _ _) h
    have hkept := inRange_append (l.textBefore (l.cursor - 1)) (l.textFrom l.cursor)
    rwa [length_clusters_textBefore l hfewer] at hkept

theorem InRange.delete {l : Line} (h : l.InRange) : l.delete.InRange := by
  rw [Line.delete]
  split
  · exact h
  · have hkept := inRange_append (l.textBefore l.cursor) (l.textFrom (l.cursor + 1))
    rwa [length_clusters_textBefore l h] at hkept

theorem InRange.wordLeft {l : Line} (h : l.InRange) : l.wordLeft.InRange := by
  let before := ((Text.clusters l.text).take l.cursor).reverse
  have hblanks := (List.dropWhile_suffix isBlankCluster (l := before)).length_le
  have hword := (List.dropWhile_suffix (!isBlankCluster ·)
    (l := before.dropWhile isBlankCluster)).length_le
  have hbefore : before.length ≤ l.cursor := by
    rw [List.length_reverse, List.length_take]
    exact Nat.min_le_left _ _
  exact Nat.le_trans (Nat.le_trans hword hblanks) (Nat.le_trans hbefore h)

theorem InRange.wordRight {l : Line} (h : l.InRange) : l.wordRight.InRange := by
  let after := (Text.clusters l.text).drop l.cursor
  let rest := after.dropWhile (!isBlankCluster ·)
  have hword : (after.takeWhile (!isBlankCluster ·)).length + rest.length = after.length := by
    rw [← List.length_append, List.takeWhile_append_dropWhile]
  have hblanks := (List.takeWhile_prefix isBlankCluster (l := rest)).length_le
  have hafter : after.length = l.size - l.cursor := List.length_drop
  have hrange : l.cursor ≤ l.size := h
  change l.cursor + (after.takeWhile (!isBlankCluster ·)).length +
    (rest.takeWhile isBlankCluster).length ≤ l.size
  omega

theorem InRange.edit {l : Line} (h : l.InRange) (e : Edit) : (l.edit e).InRange := by
  cases e with
  | set s => exact Nat.le_refl _
  | insert c => exact h.insert c
  | take => exact Nat.le_refl _
  | clear => exact Nat.le_refl _
  | backspace => exact h.backspace
  | delete => exact h.delete
  | left => exact Nat.le_trans (Nat.sub_le _ _) h
  | right => exact Nat.min_le_right _ _
  | home => exact Nat.zero_le _
  | toEnd => exact Nat.le_refl _
  | wordLeft => exact h.wordLeft
  | wordRight => exact h.wordRight

theorem foldl_edit_inRange {l : Line} (h : l.InRange) (es : List Edit) :
    (es.foldl edit l).InRange := by
  induction es generalizing l with
  | nil => exact h
  | cons e es ih => exact ih (h.edit e)

theorem edited_inRange (es : List Edit) : (edited es).InRange :=
  foldl_edit_inRange (Nat.le_refl _) es

theorem textBefore_end (s : Text) : (ofText s).textBefore (ofText s).cursor = s := by
  have hall : Text.clusterOffset s (ofText s).cursor = s.length :=
    Text.clusterOffset_all s (Nat.le_refl _)
  rw [textBefore]
  change s.take (Text.clusterOffset s (ofText s).cursor) = s
  rw [hall, List.take_length]

theorem textFrom_end (s : Text) : (ofText s).textFrom (ofText s).cursor = [] := by
  have hall : Text.clusterOffset s (ofText s).cursor = s.length :=
    Text.clusterOffset_all s (Nat.le_refl _)
  rw [textFrom]
  change s.drop (Text.clusterOffset s (ofText s).cursor) = []
  rw [hall, List.drop_length]

/-- A code point at the end goes behind the text, and the cursor behind it. -/
theorem insert_ofText (s : Text) (c : Char) : (ofText s).insert c = ofText (s ++ [c]) := by
  have hcursor : (ofText s).cursor = (Text.clusters s).length := rfl
  have hsize : (ofText s).size = (Text.clusters s).length := rfl
  rw [insert, textBefore_end, textFrom_end, hsize, hcursor, ofText]
  rcases Text.length_clusters_concat s c with hlen | hlen
  · rw [hlen, if_neg (Nat.lt_irrefl _)]
  · rw [hlen, if_pos (Nat.lt_succ_self _)]

theorem foldl_insert (s typed : Text) : typed.foldl insert (ofText s) = ofText (s ++ typed) := by
  induction typed generalizing s with
  | nil => rw [List.foldl_nil, List.append_nil]
  | cons c typed ih =>
    rw [List.foldl_cons, insert_ofText, ih, List.append_assoc, List.singleton_append]

end PostfixCalc.Line
