import PostfixCalc.Proofs.Editor.Edits
import PostfixCalc.Proofs.Text.Joins

namespace PostfixCalc

/-- The text in front of a cursor and the text behind it. -/
structure Halves where
  before : Text
  after : Text
  deriving DecidableEq, Repr

namespace Halves

/-- No cluster runs across the place between the two. -/
def IsCut (h : Halves) : Prop := Text.Apart h.before h.after

instance (h : Halves) : Decidable h.IsCut := inferInstanceAs (Decidable (Text.Apart _ _))

def insert (h : Halves) (c : Char) : Halves := ⟨h.before ++ [c], h.after⟩

/-- Takes the last cluster away in front. -/
def backspace (h : Halves) : Halves := ⟨(Text.clusters h.before).dropLast.flatten, h.after⟩

/-- Takes the first cluster away behind. -/
def delete (h : Halves) : Halves := ⟨h.before, (Text.clusters h.after).tail.flatten⟩

end Halves

namespace Line

def halves (l : Line) : Halves := ⟨l.textBefore l.cursor, l.textFrom l.cursor⟩

theorem halves_isCut (l : Line) : l.halves.IsCut := Text.apart_clusterOffset l.text l.cursor

/-- The line has the two texts in it, and its cursor stands between them. Where a cluster runs
across that place, the cursor stands at the first place behind it that no cluster runs across. -/
structure Holds (l : Line) (h : Halves) : Prop where
  text_eq : l.text = h.before ++ h.after
  isCut : l.halves.IsCut
  halves_eq : h.IsCut → l.halves = h
  behind : h.before <+: l.halves.before
  first : ∀ h' : Halves, h'.IsCut → h'.before ++ h'.after = l.text → h.before <+: h'.before →
    l.halves.before <+: h'.before

theorem holds_of_cursor (h : Halves) :
    Holds ⟨h.before ++ h.after, (Text.clusters h.before).length⟩ h := by
  let l : Line := ⟨h.before ++ h.after, (Text.clusters h.before).length⟩
  let n := (Text.clusters h.before).length
  have hbefore : l.halves.before = ((Text.clusters l.text).take n).flatten :=
    Text.take_clusterOffset l.text n
  have hafter : l.halves.after = ((Text.clusters l.text).drop n).flatten :=
    Text.drop_clusterOffset l.text n
  refine ⟨rfl, halves_isCut l, ?exact, ?behind, ?first⟩
  case exact =>
    intro hcut
    rw [Text.Apart.flatten_take hcut] at hbefore
    rw [Text.Apart.flatten_drop hcut] at hafter
    cases h
    exact congr (congrArg Halves.mk hbefore) hafter
  case behind =>
    change h.before <+: l.halves.before
    rw [hbefore]
    exact Text.prefix_flatten_take h.before h.after
  case first =>
    intro h' hcut htext hprefix
    have hle : n ≤ (Text.clusters h'.before).length := by
      obtain ⟨rest, hrest⟩ := hprefix
      rw [← hrest]
      exact Text.length_clusters_le_append h.before rest
    change h'.before ++ h'.after = l.text at htext
    change l.halves.before <+: h'.before
    rw [hbefore, ← htext]
    exact Text.Apart.flatten_take_prefix hcut hle

theorem length_clusters_before {l : Line} (h : l.InRange) :
    (Text.clusters l.halves.before).length = l.cursor := length_clusters_textBefore l h

theorem length_clusters_after (l : Line) :
    (Text.clusters l.halves.after).length = l.size - l.cursor := by
  change (Text.clusters (l.textFrom l.cursor)).length = _
  rw [clusters_textFrom, List.length_drop, size]

/-- A code point goes in between the two texts. -/
theorem insert_holds {l : Line} (h : l.InRange) {c : Char}
    (hc : (l.halves.insert c).IsCut ∨ ¬ Text.Apart l.halves.before [c]) :
    (l.insert c).Holds (l.halves.insert c) := by
  let L := l.halves.before
  let R := l.halves.after
  have hL : (Text.clusters L).length = l.cursor := length_clusters_before h
  have hR : (Text.clusters R).length = l.size - l.cursor := length_clusters_after l
  have hrange : l.cursor ≤ l.size := h
  have htext : L ++ c :: R = L ++ [c] ++ R := by simp
  have hcursor : (if l.size < (Text.clusters (L ++ [c] ++ R)).length then l.cursor + 1
      else l.cursor) = (Text.clusters (L ++ [c])).length := by
    by_cases hjoin : Text.Apart L [c]
    · have hcut : Text.Apart (L ++ [c]) R := hc.resolve_right (fun hno => hno hjoin)
      have hfront := Text.length_clusters_concat_of_apart hjoin
      rw [hcut, List.length_append, hfront, hL, hR, if_pos (by omega)]
    · have hfront := Text.length_clusters_concat_of_not_apart hjoin
      have hall := Text.length_clusters_insert_le hjoin R
      rw [hfront, hL, if_neg (by omega)]
  have hline : l.insert c = ⟨L ++ [c] ++ R, (Text.clusters (L ++ [c])).length⟩ := by
    rw [← hcursor, ← htext]
    rfl
  rw [hline]
  exact holds_of_cursor (l.halves.insert c)

theorem backspace_holds {l : Line} (h : l.InRange) (hne : l.halves.before ≠ []) :
    l.backspace.Holds l.halves.backspace := by
  have hcursor : l.cursor ≠ 0 := by
    intro hzero
    apply hne
    change l.textBefore l.cursor = []
    rw [hzero]
    rfl
  have hfewer : l.cursor - 1 ≤ l.size := Nat.le_trans (Nat.sub_le _ _) h
  have hbefore : l.halves.backspace.before = l.textBefore (l.cursor - 1) := by
    have hsize : l.cursor ≤ (Text.clusters l.text).length := h
    have hmin : min (min l.cursor (Text.clusters l.text).length - 1) l.cursor = l.cursor - 1 := by
      omega
    change (Text.clusters (l.textBefore l.cursor)).dropLast.flatten = _
    rw [clusters_textBefore, List.dropLast_eq_take, List.length_take, List.take_take, hmin,
      textBefore, Text.take_clusterOffset]
  have hline : l.backspace = ⟨l.halves.backspace.before ++ l.halves.backspace.after,
      (Text.clusters l.halves.backspace.before).length⟩ := by
    rw [hbefore, length_clusters_textBefore l hfewer, backspace, if_neg hcursor]
    rfl
  rw [hline]
  exact holds_of_cursor l.halves.backspace

theorem delete_holds {l : Line} (h : l.InRange) (hne : l.halves.after ≠ []) :
    l.delete.Holds l.halves.delete := by
  have hcursor : ¬ l.size ≤ l.cursor := by
    intro hend
    apply hne
    change l.textFrom l.cursor = []
    rw [textFrom, Text.clusterOffset_all _ hend, List.drop_length]
  have hafter : l.halves.delete.after = l.textFrom (l.cursor + 1) := by
    change (Text.clusters (l.textFrom l.cursor)).tail.flatten = _
    rw [clusters_textFrom, List.tail_drop, textFrom, Text.drop_clusterOffset]
  have hline : l.delete = ⟨l.halves.delete.before ++ l.halves.delete.after,
      (Text.clusters l.halves.delete.before).length⟩ := by
    have hlength : (Text.clusters l.halves.delete.before).length = l.cursor :=
      length_clusters_before h
    rw [hafter, hlength, delete, if_neg hcursor]
    rfl
  rw [hline]
  exact holds_of_cursor l.halves.delete

/-- Typing where nothing joins the text behind the cursor. -/
theorem foldl_insert_halves {l : Line} (h : l.InRange) {typed : Text}
    (hcut : ∀ n < typed.length,
      Text.Apart (l.halves.before ++ typed.take (n + 1)) l.halves.after) :
    (typed.foldl insert l).halves = ⟨l.halves.before ++ typed, l.halves.after⟩ := by
  induction typed generalizing l with
  | nil =>
    rw [List.append_nil]
    rfl
  | cons c typed ih =>
    have hfirst : (l.halves.insert c).IsCut := hcut 0 (Nat.zero_lt_succ _)
    have hhalves : (l.insert c).halves = l.halves.insert c :=
      (insert_holds h (.inl hfirst)).halves_eq hfirst
    have hrest : ∀ n < typed.length,
        Text.Apart ((l.insert c).halves.before ++ typed.take (n + 1)) (l.insert c).halves.after := by
      intro n hn
      have hmore := hcut (n + 1) (Nat.succ_lt_succ hn)
      rw [hhalves]
      change Text.Apart (l.halves.before ++ [c] ++ typed.take (n + 1)) l.halves.after
      rwa [List.append_assoc]
    rw [List.foldl_cons, ih (h.insert c) hrest, hhalves]
    change (⟨l.halves.before ++ [c] ++ typed, l.halves.after⟩ : Halves) = _
    rw [List.append_assoc]
    rfl

/-- What edits of a line do to the two texts at its cursor. A code point goes in between them, a
cluster goes away in front or behind, and the cursor stands between the texts that this leads to.
Where a cluster of the new text runs across that place, no cursor can stand there; it is behind that
cluster then, except that nothing is said of a code point that begins a cluster of its own which
runs on into the text behind. -/
theorem edited_halves (es : List Edit) :
    let l := edited es
    (∀ c, (l.insert c).text = l.halves.before ++ c :: l.halves.after ∧
      ((l.halves.insert c).IsCut ∨ ¬ Text.Apart l.halves.before [c] →
        (l.insert c).Holds (l.halves.insert c))) ∧
    (∀ typed : Text,
      (∀ n < typed.length,
        Text.Apart (l.halves.before ++ typed.take (n + 1)) l.halves.after) →
      (typed.foldl insert l).halves = ⟨l.halves.before ++ typed, l.halves.after⟩) ∧
    (l.halves.before ≠ [] → l.backspace.Holds l.halves.backspace) ∧
    (l.halves.after ≠ [] → l.delete.Holds l.halves.delete) := by
  intro l
  have h : l.InRange := edited_inRange es
  refine ⟨?_, ?_, ?_, ?_⟩
  · intro c
    exact ⟨rfl, insert_holds h⟩
  · intro typed hcut
    exact foldl_insert_halves h hcut
  · exact backspace_holds h
  · exact delete_holds h

/-- In front of a regional indicator: a letter and its mark go in as they are typed. Without the
letter that keeps it from the regional indicator before it, the two are a flag, and the cursor is
behind that. -/
theorem edited_halves_flag :
    let l := edited [.insert '🇦', .insert 'x', .insert '🇧', .left]
    ((Text.lit "e\u0301").foldl insert l).halves = ⟨Text.lit "🇦xe\u0301", ['🇧']⟩ ∧
      l.backspace.Holds ⟨['🇦'], ['🇧']⟩ ∧ l.backspace.halves.before = ['🇦', '🇧'] := by
  intro l
  obtain ⟨-, htyped, hbackspace, -⟩ :=
    edited_halves [.insert '🇦', .insert 'x', .insert '🇧', .left]
  refine ⟨?_, ?_, by decide +kernel⟩
  · have hhalves : l.halves = ⟨Text.lit "🇦x", ['🇧']⟩ := by decide +kernel
    calc ((Text.lit "e\u0301").foldl insert l).halves
        = ⟨l.halves.before ++ Text.lit "e\u0301", l.halves.after⟩ :=
          htyped (Text.lit "e\u0301") (by decide +kernel)
      _ = ⟨Text.lit "🇦xe\u0301", ['🇧']⟩ := by
          rw [hhalves]
          rfl
  · have hhalves : l.halves.backspace = ⟨['🇦'], ['🇧']⟩ := by decide +kernel
    rw [← hhalves]
    exact hbackspace (by decide +kernel)

/-- The cursor is not always between the texts that an edit of the two texts leads to: two people
are joined to one cluster, and so are regional indicators once nothing stands between them. -/
theorem not_halves_of_edits :
    (¬ ∀ (es : List Edit) (c : Char),
      ((edited es).insert c).halves = (edited es).halves.insert c) ∧
    (¬ ∀ es : List Edit, (edited es).halves.before ≠ [] →
      (edited es).backspace.halves = (edited es).halves.backspace) ∧
    (¬ ∀ es : List Edit, (edited es).halves.after ≠ [] →
      (edited es).delete.halves = (edited es).halves.delete) := by
  refine ⟨?_, ?_, ?_⟩
  · intro h
    have hpeople := h [.insert '👩', .insert '👩', .left] '\u200d'
    revert hpeople
    decide +kernel
  · intro h
    have hflag := h [.insert '🇦', .insert 'x', .insert '🇧', .left]
    revert hflag
    decide +kernel
  · intro h
    have hflag := h [.insert '🇦', .insert 'x', .insert '🇧', .left, .left]
    revert hflag
    decide +kernel

end Line

end PostfixCalc
