import Mathlib.Order.Bounds.Defs
import Mathlib.Tactic.ByContra
import PostfixCalc.Proofs.Editor.Checked

namespace PostfixCalc.Line

open Text (clusters)

/-- Going back over clusters stops in front of all that `p` holds of, and behind one that it does
not hold of. -/
theorem skipBack?_stops {p : Text → Bool} {cs : List Text} {n m : Nat}
    (h : skipBack? p cs n = some m) :
    m ≤ n ∧ (∀ i, m ≤ i → i < n → cs[i]?.any p = true) ∧
      (m ≠ 0 → cs[m - 1]?.any (!p ·) = true) := by
  induction n with
  | zero =>
    obtain rfl : 0 = m := by simpa [skipBack?] using h
    refine ⟨Nat.le_refl _, ?_, fun hne => absurd rfl hne⟩
    intro i _ hi
    omega
  | succ n ih =>
    cases hc : cs[n]? with
    | none => simp [skipBack?, hc] at h
    | some c =>
      cases hp : p c with
      | true =>
        obtain ⟨hle, hall, hstop⟩ := ih (by simpa [skipBack?, hc, hp] using h)
        refine ⟨by omega, ?_, hstop⟩
        intro i hm hi
        by_cases hlast : i = n
        · simp [hlast, hc, hp]
        · apply hall i hm
          omega
      | false =>
        obtain rfl : n + 1 = m := by simpa [skipBack?, hc, hp] using h
        refine ⟨Nat.le_refl _, ?_, ?_⟩
        · intro i hm hi
          omega
        · intro _
          simp [hc, hp]

/-- Going on over clusters stops behind all that `p` holds of, and at the end or at one that it does
not hold of. -/
theorem skipOn?_stops {p : Text → Bool} {cs : List Text} {n m : Nat}
    (h : skipOn? p cs n = some m) :
    n ≤ m ∧ (∀ i, n ≤ i → i < m → cs[i]?.any p = true) ∧ (n ≤ cs.length → m ≤ cs.length) ∧
      (m < cs.length → cs[m]?.any (!p ·) = true) := by
  fun_induction skipOn? p cs n with
  | case1 n hn ih =>
    have hc := List.getElem?_eq_getElem hn
    cases hp : p cs[n] with
    | true =>
      obtain ⟨hle, hall, hend, hstop⟩ := ih (by simpa [hc, hp] using h)
      refine ⟨by omega, ?_, fun _ => hend hn, hstop⟩
      intro i hm hi
      by_cases hfirst : i = n
      · simp [hfirst, hc, hp]
      · apply hall i _ hi
        omega
    | false =>
      obtain rfl : n = m := by simpa [hc, hp] using h
      refine ⟨Nat.le_refl _, ?_, id, ?_⟩
      · intro i hm hi
        omega
      · intro _
        simp [hc, hp]
  | case2 n hn =>
    obtain rfl : n = m := by simpa using h
    refine ⟨Nat.le_refl _, ?_, id, fun hlt => absurd hlt hn⟩
    intro i hm hi
    omega

/-- There is a blank cluster at a place. -/
def BlankAt (l : Line) (n : Nat) : Prop := (clusters l.text)[n]?.any isBlankCluster = true

/-- There is a cluster at a place that is not blank. -/
def FilledAt (l : Line) (n : Nat) : Prop := (clusters l.text)[n]?.any (!isBlankCluster ·) = true

def IsWordStart (l : Line) (n : Nat) : Prop := l.FilledAt n ∧ (n = 0 ∨ l.BlankAt (n - 1))

/-- The last word start before a place, or the beginning of the line if there is none. -/
def LastStart (l : Line) (n start : Nat) : Prop :=
  IsGreatest {m | l.IsWordStart m ∧ m < n} start ∨ ((∀ m < n, ¬ l.IsWordStart m) ∧ start = 0)

/-- The first word start behind a place, or the end of the line if there is none. -/
def NextStart (l : Line) (n start : Nat) : Prop :=
  IsLeast {m | l.IsWordStart m ∧ n < m} start ∨ ((∀ m > n, ¬ l.IsWordStart m) ∧ start = l.size)

instance (l : Line) (n : Nat) : Decidable (l.BlankAt n) := inferInstanceAs (Decidable (_ = true))

instance (l : Line) (n : Nat) : Decidable (l.FilledAt n) := inferInstanceAs (Decidable (_ = true))

instance (l : Line) (n : Nat) : Decidable (l.IsWordStart n) := inferInstanceAs (Decidable (_ ∧ _))

theorem FilledAt.not_blankAt {l : Line} {n : Nat} (h : l.FilledAt n) : ¬ l.BlankAt n := by
  unfold FilledAt at h
  unfold BlankAt
  cases hc : (clusters l.text)[n]? with
  | none => simp [hc] at h
  | some c => simpa [hc] using h

theorem FilledAt.lt_size {l : Line} {n : Nat} (h : l.FilledAt n) : n < l.size := by
  unfold FilledAt at h
  cases hc : (clusters l.text)[n]? with
  | none => simp [hc] at h
  | some c => exact (List.getElem?_eq_some_iff.mp hc).1

/-- Clusters that are not blank up to `behind`, and blank ones from there on. -/
structure Stretch (l : Line) (start behind stop : Nat) : Prop where
  filled : ∀ i, start ≤ i → i < behind → l.FilledAt i
  blank : ∀ i, behind ≤ i → i < stop → l.BlankAt i

/-- Inside a stretch no word starts: a cluster is blank there or follows one that is not. -/
theorem Stretch.not_isWordStart {l : Line} {start behind stop : Nat}
    (h : l.Stretch start behind stop) {m : Nat} (hm : start < m) (hstop : m < stop) :
    ¬ l.IsWordStart m := by
  intro hword
  by_cases hbehind : m < behind
  · have hbefore := h.filled (m - 1) (by omega) (by omega)
    rcases hword.2 with hzero | hblank
    · omega
    · exact hbefore.not_blankAt hblank
  · exact hword.1.not_blankAt (h.blank m (by omega) hstop)

/-- A movement to the left passes blank clusters, and then a word up to its first cluster. -/
theorem wordLeft_passes {l : Line} (h : l.InRange) :
    ∃ behind, l.wordLeft.cursor ≤ behind ∧ behind ≤ l.cursor ∧
      l.Stretch l.wordLeft.cursor behind l.cursor ∧
      (behind ≠ 0 → l.FilledAt (behind - 1)) ∧
      (l.wordLeft.cursor ≠ 0 → l.BlankAt (l.wordLeft.cursor - 1)) := by
  have hloops := wordLeft?_eq h
  unfold wordLeft? at hloops
  cases hblanks : skipBack? isBlankCluster (clusters l.text) l.cursor with
  | none => simp [hblanks] at hloops
  | some behind =>
    cases hword : skipBack? (!isBlankCluster ·) (clusters l.text) behind with
    | none => simp [hblanks, hword] at hloops
    | some start =>
      have hline : { l with cursor := start } = l.wordLeft := by
        simpa [hblanks, hword] using hloops
      obtain ⟨hle, hblank, hbehind⟩ := skipBack?_stops hblanks
      obtain ⟨hle', hfilled, hstart⟩ := skipBack?_stops hword
      rw [← hline]
      refine ⟨behind, hle', hle, ⟨hfilled, hblank⟩, hbehind, ?_⟩
      intro hne
      simpa [BlankAt] using hstart hne

/-- A movement to the right passes a word from the cursor on, and then blank clusters. -/
theorem wordRight_passes {l : Line} (h : l.InRange) :
    ∃ behind, l.cursor ≤ behind ∧ behind ≤ l.wordRight.cursor ∧ l.wordRight.cursor ≤ l.size ∧
      l.Stretch l.cursor behind l.wordRight.cursor ∧
      (behind < l.size → l.BlankAt behind) ∧
      (l.wordRight.cursor < l.size → l.FilledAt l.wordRight.cursor) := by
  have hloops := wordRight?_eq l
  unfold wordRight? at hloops
  cases hword : skipOn? (!isBlankCluster ·) (clusters l.text) l.cursor with
  | none => simp [hword] at hloops
  | some behind =>
    cases hblanks : skipOn? isBlankCluster (clusters l.text) behind with
    | none => simp [hword, hblanks] at hloops
    | some start =>
      have hline : { l with cursor := start } = l.wordRight := by
        simpa [hword, hblanks] using hloops
      obtain ⟨hle, hfilled, hroom, hbehind⟩ := skipOn?_stops hword
      obtain ⟨hle', hblank, hroom', hstart⟩ := skipOn?_stops hblanks
      rw [← hline]
      refine ⟨behind, hle, hle', hroom' (hroom h), ⟨hfilled, hblank⟩, ?_, hstart⟩
      intro hlt
      simpa [BlankAt] using hbehind hlt

theorem wordLeft_lastStart {l : Line} (h : l.InRange) :
    l.LastStart l.cursor l.wordLeft.cursor := by
  obtain ⟨behind, hle, hcursor, hpassed, hbehind, hstart⟩ := wordLeft_passes h
  by_cases hword : l.wordLeft.cursor < behind
  · left
    have hfilled := hpassed.filled _ (Nat.le_refl _) hword
    have hfirst : l.wordLeft.cursor = 0 ∨ l.BlankAt (l.wordLeft.cursor - 1) := by
      by_cases hzero : l.wordLeft.cursor = 0
      · exact .inl hzero
      · exact .inr (hstart hzero)
    refine ⟨⟨⟨hfilled, hfirst⟩, by omega⟩, ?_⟩
    intro m hm
    by_contra hlt
    exact hpassed.not_isWordStart (Nat.lt_of_not_le hlt) hm.2 hm.1
  · right
    have hsame : l.wordLeft.cursor = behind := by omega
    have hzero : behind = 0 := by
      by_contra hne
      rw [hsame] at hstart
      exact (hbehind hne).not_blankAt (hstart hne)
    refine ⟨?_, hsame.trans hzero⟩
    intro m hm hword
    exact hword.1.not_blankAt (hpassed.blank m (by omega) hm)

theorem wordRight_nextStart {l : Line} (h : l.InRange) :
    l.NextStart l.cursor l.wordRight.cursor := by
  obtain ⟨behind, hcursor, hle, hroom, hpassed, hbehind, hstart⟩ := wordRight_passes h
  by_cases hend : l.wordRight.cursor < l.size
  · left
    have hfilled := hstart hend
    have hbefore : behind < l.wordRight.cursor := by
      by_contra hno
      have hsame : behind = l.wordRight.cursor := by omega
      rw [← hsame] at hfilled hend
      exact hfilled.not_blankAt (hbehind hend)
    have hblank := hpassed.blank (l.wordRight.cursor - 1) (by omega) (by omega)
    refine ⟨⟨⟨hfilled, .inr hblank⟩, by omega⟩, ?_⟩
    intro m hm
    by_contra hlt
    exact hpassed.not_isWordStart hm.2 (Nat.lt_of_not_le hlt) hm.1
  · right
    refine ⟨?_, by omega⟩
    intro m hm hword
    have hlt := hword.1.lt_size
    exact hpassed.not_isWordStart hm (by omega) hword

/-- Between a place and the next word start there is none, so that the way back ends at the place
itself if a word starts there. -/
theorem LastStart.eq_of_nextStart {l : Line} {n next start : Nat} (hn : l.IsWordStart n)
    (hnext : l.NextStart n next) (hstart : l.LastStart next start) : start = n := by
  have hlt : n < next := by
    rcases hnext with hleast | ⟨-, hend⟩
    · exact hleast.1.2
    · rw [hend]
      exact hn.1.lt_size
  have hnone : ∀ m, n < m → m < next → ¬ l.IsWordStart m := by
    intro m hm hbefore hword
    rcases hnext with hleast | ⟨hno, -⟩
    · have hle := hleast.2 ⟨hword, hm⟩
      omega
    · exact hno m hm hword
  rcases hstart with ⟨⟨hword, hbefore⟩, hgreatest⟩ | ⟨hno, -⟩
  · have hle := hgreatest ⟨hn, hlt⟩
    by_contra hne
    exact hnone start (by omega) hbefore hword
  · exact absurd hn (hno n hlt)

/-- The way to the next word start and back, from a word start on. -/
theorem wordLeft_wordRight {l : Line} (h : l.IsWordStart l.cursor) : l.wordRight.wordLeft = l := by
  have hrange : l.InRange := Nat.le_of_lt h.1.lt_size
  have hnext := wordRight_nextStart hrange
  have hlast : l.LastStart l.wordRight.cursor l.wordRight.wordLeft.cursor :=
    wordLeft_lastStart hrange.wordRight
  have hback := hlast.eq_of_nextStart h hnext
  change { l with cursor := l.wordRight.wordLeft.cursor } = l
  rw [hback]

/-- Where movements by words lead from a line that edits lead to: to the left, to the last word
start before the cursor or to the beginning; to the right, to the first word start behind it or to
the end. The text stays, and from a word start the way to the right and back leads nowhere else. -/
theorem edited_words (es : List Edit) :
    let l := edited es
    l.wordLeft.text = l.text ∧ l.wordRight.text = l.text ∧
      l.LastStart l.cursor l.wordLeft.cursor ∧ l.NextStart l.cursor l.wordRight.cursor ∧
      ∀ n, l.IsWordStart n → wordLeft (wordRight { l with cursor := n }) = { l with cursor := n } := by
  intro l
  have hrange : l.InRange := edited_inRange es
  refine ⟨rfl, rfl, wordLeft_lastStart hrange, wordRight_nextStart hrange, ?_⟩
  intro n hn
  have hstart : IsWordStart { l with cursor := n } n := hn
  exact wordLeft_wordRight hstart

/-- A blank with a mark on it is not blank, so that a word starts there. -/
theorem edited_words_marked :
    let l := edited [.set (Text.lit "17  \u0301x -"), .left, .left]
    l.IsWordStart 3 ∧ l.LastStart 5 3 ∧ l.NextStart 5 6 ∧
      wordLeft (wordRight { l with cursor := 3 }) = { l with cursor := 3 } := by
  intro l
  obtain ⟨-, -, hleft, hright, hback⟩ :=
    edited_words [.set (Text.lit "17  \u0301x -"), .left, .left]
  have hstart : l.IsWordStart 3 := by decide +kernel
  have hcursor : l.cursor = 5 := by decide +kernel
  have hbefore : l.wordLeft.cursor = 3 := by decide +kernel
  have hbehind : l.wordRight.cursor = 6 := by decide +kernel
  refine ⟨hstart, ?_, ?_, hback 3 hstart⟩
  · rwa [hcursor, hbefore] at hleft
  · rwa [hcursor, hbehind] at hright

end PostfixCalc.Line
