import PostfixCalc.Proofs.Editor.Edits
import PostfixCalc.Proofs.Text.Beginnings

namespace PostfixCalc.Line

theorem textBefore_of_size_le (l : Line) {n : Nat} (h : l.size ≤ n) : l.textBefore n = l.text := by
  rw [textBefore, Text.clusterOffset_all _ h, List.take_length]

/-- What is in front of a place begins with what is in front of an earlier one, and no cluster runs
across that. -/
theorem textBefore_append (l : Line) {m n : Nat} (h : m ≤ n) :
    ∃ rest, l.textBefore n = l.textBefore m ++ rest ∧ Text.Apart (l.textBefore m) rest := by
  have hbefore : l.textBefore m = (l.textBefore n).take (Text.clusterOffset (l.textBefore n) m) := by
    rw [Text.take_clusterOffset, clusters_textBefore, List.take_take, Nat.min_eq_left h, textBefore,
      Text.take_clusterOffset]
  refine ⟨(l.textBefore n).drop (Text.clusterOffset (l.textBefore n) m), ?_, ?_⟩
  · rw [hbefore, List.take_append_drop]
  · rw [hbefore]
    exact Text.apart_clusterOffset _ _

/-- A place between two Tifinagh consonants that are one sign. -/
def Bonded (l : Line) (n : Nat) : Prop := Text.Bonded (l.textBefore n) (l.textFrom n)

theorem not_bonded_of_none {l : Line} {n : Nat}
    (h : (l.textFrom n).all (fun c => !Text.Property.tifinaghConsonants.holds c) = true) :
    ¬ l.Bonded n := by
  rintro ⟨s, c, w, w', d, r, -, hfrom, -, -, hd⟩
  have hmem : d ∈ l.textFrom n := by
    rw [hfrom]
    exact List.mem_append_right w' List.mem_cons_self
  have hnone := List.all_eq_true.mp h d hmem
  rw [hd] at hnone
  cases hnone

theorem widthBefore_le (l : Line) {m n : Nat} (h : m ≤ n) :
    (¬ l.Bonded m → l.widthBefore m ≤ l.widthBefore n) ∧
      l.widthBefore m ≤ l.widthBefore n + Text.joiners (l.textBefore m) := by
  obtain ⟨rest, htext, hapart⟩ := l.textBefore_append h
  obtain ⟨hfree, hbonded⟩ := Text.width_le_append hapart
  have hfrom : l.textFrom m = rest ++ l.textFrom n := by
    have hall : l.textBefore m ++ l.textFrom m = l.textBefore n ++ l.textFrom n := by
      simp only [textBefore, textFrom, List.take_append_drop]
    rw [htext, List.append_assoc] at hall
    exact List.append_cancel_left hall
  rw [widthBefore, widthBefore, htext]
  refine ⟨fun hplace => hfree fun hrest => hplace ?_, hbonded⟩
  rw [Bonded, hfrom]
  exact hrest.append _

theorem widthBefore_of_size_le (l : Line) {n : Nat} (h : l.size ≤ n) :
    l.widthBefore n = Text.width l.text := by
  rw [widthBefore, l.textBefore_of_size_le h]

/-- A cursor that is not put back, but for a place behind the end, is not put back on the screen. -/
theorem cursorWidth_le_of_le {l : Line} {n : Nat} (hplace : ¬ l.Bonded l.cursor)
    (h : min l.cursor l.size ≤ n) : l.cursorWidth ≤ l.widthBefore n := by
  by_cases hcursor : l.cursor ≤ l.size
  · exact (l.widthBefore_le (by omega)).1 hplace
  · have hend : l.size ≤ l.cursor := by omega
    have hn : l.size ≤ n := by omega
    rw [cursorWidth, l.widthBefore_of_size_le hend, l.widthBefore_of_size_le hn]

/-- The columns in front of the places of any line ascend, up to those of the whole text, which
every place from the end on has in front of it. A place between two Tifinagh consonants that are one
sign makes the exception: it may have a column more in front of it for each consonant joiner there
than a place behind it. From any other place no movement to the right leads the cursor to the left
on the screen, and the columns from any other place to a cursor behind it are a difference that is
not cut off at zero. -/
theorem widthBefore_rises (l : Line) :
    (∀ m n, m ≤ n → (¬ l.Bonded m → l.widthBefore m ≤ l.widthBefore n) ∧
        l.widthBefore m ≤ l.widthBefore n + Text.joiners (l.textBefore m)) ∧
      (∀ n, l.size ≤ n → l.widthBefore n = Text.width l.text) ∧
      (¬ l.Bonded l.cursor → l.cursorWidth ≤ l.right.cursorWidth ∧
        l.cursorWidth ≤ l.wordRight.cursorWidth ∧ l.cursorWidth ≤ l.toEnd.cursorWidth) ∧
      ∀ start ≤ l.cursor, ¬ l.Bonded start →
        ((l.cursorWidth - l.widthBefore start : Nat) : Int) =
          (l.cursorWidth : Int) - (l.widthBefore start : Int) := by
  refine ⟨fun m n => l.widthBefore_le, fun n => l.widthBefore_of_size_le,
    fun hplace => ⟨?_, ?_, ?_⟩, ?_⟩
  · apply cursorWidth_le_of_le hplace
    change min l.cursor l.size ≤ min (l.cursor + 1) l.size
    omega
  · apply cursorWidth_le_of_le hplace
    change min l.cursor l.size ≤ l.cursor + _ + _
    omega
  · exact cursorWidth_le_of_le hplace (Nat.min_le_right _ _)
  · intro start hstart hplace
    have hle : l.widthBefore start ≤ l.cursorWidth := (l.widthBefore_le hstart).1 hplace
    omega

/-- Two consonants with a joiner, in front of a digit and an ideograph. Between the consonants there
is one column more in front than behind the second one; from there on the columns ascend. -/
theorem widthBefore_rises_tifinagh :
    let l : Line := ⟨Text.lit "\u2d4f\u2d7f\u2d3e1漢", 3⟩
    l.size = 4 ∧ l.widthBefore 1 = 2 ∧ l.widthBefore 2 = 1 ∧ ¬ l.Bonded 2 ∧
      l.widthBefore 1 ≤ l.widthBefore 2 + Text.joiners (l.textBefore 1) ∧
      l.widthBefore 2 ≤ l.widthBefore 3 ∧ l.widthBefore 7 = Text.width l.text ∧
      l.cursorWidth ≤ l.right.cursorWidth ∧
      ((l.cursorWidth - l.widthBefore 2 : Nat) : Int) =
        (l.cursorWidth : Int) - (l.widthBefore 2 : Int) := by
  intro l
  obtain ⟨hrises, hend, hmoves, hcolumn⟩ := widthBefore_rises l
  have hsize : l.size = 4 := by decide +kernel
  have hplace : ¬ l.Bonded 2 := not_bonded_of_none (by decide +kernel)
  have hcursor : ¬ l.Bonded l.cursor := not_bonded_of_none (by decide +kernel)
  refine ⟨hsize, by decide +kernel, by decide +kernel, hplace, (hrises 1 2 (by decide)).2,
    (hrises 2 3 (by decide)).1 hplace, ?_, (hmoves hcursor).1, ?_⟩
  · apply hend
    rw [hsize]
    decide
  · exact hcolumn 2 (by decide) hplace

/-- The consonant joiner takes a column only as long as no second consonant is behind it. -/
theorem not_widthBefore_mono :
    ¬ ∀ (l : Line) (m n : Nat), m ≤ n → l.widthBefore m ≤ l.widthBefore n := by
  intro h
  let l : Line := .ofText (Text.lit "\u2d4f\u2d7f\u2d3e")
  have hbetween : l.widthBefore 1 = 2 := by decide +kernel
  have hbehind : l.widthBefore 2 = 1 := by decide +kernel
  have hmono := h l 1 2 (by decide)
  omega

end PostfixCalc.Line
