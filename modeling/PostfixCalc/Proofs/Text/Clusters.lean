import PostfixCalc.Text.Cluster

namespace PostfixCalc.Text

/-- The tail of the cluster that a text ends in, if the text goes on from a tail. -/
def Tail.after (tail : Tail) : Text → Tail
  | [] => tail
  | c :: s =>
    let k := ClusterClass.of c
    if tail.joins k then (tail.next k).after s else (start k).after s

/-- The tail of the last cluster of a text. -/
def endTail : Text → Tail
  | [] => .plain
  | c :: s => (Tail.start (ClusterClass.of c)).after s

/-- What goes on from a tail: the rest of the cluster before, then new clusters. -/
def pieces (tail : Tail) (s : Text) : List Text := (splitFrom tail s).1 :: (splitFrom tail s).2

/-- Puts a text behind the last of some clusters. -/
def extendLast : List Text → Text → List Text
  | [], _ => []
  | [last], s => [last ++ s]
  | first :: next :: more, s => first :: extendLast (next :: more) s

theorem extendLast_length (ls : List Text) (s : Text) : (extendLast ls s).length = ls.length := by
  induction ls with
  | nil => rfl
  | cons l ls ih =>
    cases ls with
    | nil => rfl
    | cons m ls => simpa [extendLast] using ih

theorem extendLast_consFirst (c : Char) (l : Text) (ls : List Text) (s : Text) :
    extendLast (consFirst c (l :: ls)) s = consFirst c (extendLast (l :: ls) s) := by
  cases ls <;> rfl

theorem extendLast_nil (ls : List Text) : extendLast ls [] = ls := by
  induction ls with
  | nil => rfl
  | cons l ls ih =>
    cases ls with
    | nil => simp [extendLast]
    | cons m ls => rw [extendLast, ih]

theorem flatten_extendLast {ls : List Text} (hne : ls ≠ []) (s : Text) :
    (extendLast ls s).flatten = ls.flatten ++ s := by
  induction ls with
  | nil => exact absurd rfl hne
  | cons l ls ih =>
    cases ls with
    | nil => simp [extendLast]
    | cons m ls =>
      have hrest := ih (by simp)
      rw [extendLast, List.flatten_cons, hrest, ← List.append_assoc, ← List.flatten_cons]

theorem pieces_cons (tail : Tail) (c : Char) (s : Text) :
    pieces tail (c :: s) =
      if tail.joins (ClusterClass.of c) then consFirst c (pieces (tail.next (ClusterClass.of c)) s)
      else [] :: consFirst c (pieces (.start (ClusterClass.of c)) s) := by
  unfold pieces
  rw [splitFrom]
  split <;> rfl

theorem clusters_cons (c : Char) (s : Text) :
    clusters (c :: s) = consFirst c (pieces (.start (ClusterClass.of c)) s) := rfl

theorem pieces_append (tail : Tail) (a b : Text) :
    pieces tail (a ++ b) =
      extendLast (pieces tail a) (splitFrom (tail.after a) b).1 ++
        (splitFrom (tail.after a) b).2 := by
  induction a generalizing tail with
  | nil => rfl
  | cons c a ih =>
    rw [List.cons_append, pieces_cons, pieces_cons, Tail.after]
    split
    · rw [ih, pieces, extendLast_consFirst]
      cases h : (splitFrom (tail.next (ClusterClass.of c)) a).2 <;> rfl
    · rw [ih, pieces]
      cases h : (splitFrom (.start (ClusterClass.of c)) a).2 <;> rfl

/-- Behind a text only its last cluster can grow; what joins it is told by its tail. -/
theorem clusters_append {a : Text} (ha : a ≠ []) (b : Text) :
    clusters (a ++ b) =
      extendLast (clusters a) (splitFrom (endTail a) b).1 ++ (splitFrom (endTail a) b).2 := by
  cases a with
  | nil => exact absurd rfl ha
  | cons c a =>
    rw [List.cons_append, clusters_cons, clusters_cons, pieces_append, pieces,
      extendLast_consFirst, endTail]
    cases h : (splitFrom (.start (ClusterClass.of c)) a).2 <;> rfl

theorem flatten_pieces (tail : Tail) (s : Text) : (pieces tail s).flatten = s := by
  induction s generalizing tail with
  | nil => rfl
  | cons c s ih =>
    rw [pieces_cons]
    split
    · simpa [pieces, consFirst] using ih (tail.next (ClusterClass.of c))
    · simpa [pieces, consFirst] using ih (.start (ClusterClass.of c))

/-- The clusters of a text are the whole text. -/
theorem flatten_clusters (s : Text) : (clusters s).flatten = s := by
  cases s with
  | nil => rfl
  | cons c s =>
    have h := flatten_pieces (.start (ClusterClass.of c)) s
    simpa [clusters_cons, pieces, consFirst] using h

theorem clusterOffset_all (s : Text) {n : Nat} (hn : (clusters s).length ≤ n) :
    clusterOffset s n = s.length := by
  rw [clusterOffset, List.take_of_length_le hn, flatten_clusters]

/-- One more code point at the end joins the last cluster or makes a new one. -/
theorem length_clusters_concat (s : Text) (c : Char) :
    (clusters (s ++ [c])).length = (clusters s).length ∨
      (clusters (s ++ [c])).length = (clusters s).length + 1 := by
  by_cases hs : s = []
  · subst hs
    exact .inr rfl
  rw [clusters_append hs, List.length_append, extendLast_length, splitFrom]
  split
  · exact .inl rfl
  · exact .inr rfl

end PostfixCalc.Text
