import PostfixCalc.Proofs.Text.Clusters

namespace PostfixCalc.Text

/-- No cluster runs across the place where the two texts meet. -/
def Apart (a b : Text) : Prop := clusters (a ++ b) = clusters a ++ clusters b

instance (a b : Text) : Decidable (Apart a b) := inferInstanceAs (Decidable (_ = _))

theorem pieces_nil (tail : Tail) : pieces tail [] = [[]] := rfl

theorem pieces_take (tail : Tail) (s : Text) (n : Nat) :
    pieces tail ((pieces tail s).take (n + 1)).flatten = (pieces tail s).take (n + 1) := by
  induction s generalizing tail n with
  | nil => simp [pieces_nil]
  | cons c s ih =>
    let k := ClusterClass.of c
    by_cases hk : tail.joins k = true
    · have hs : pieces tail (c :: s) = consFirst c (pieces (tail.next k) s) := by
        rw [pieces_cons, if_pos hk]
      rw [hs]
      change pieces tail (c :: ((pieces (tail.next k) s).take (n + 1)).flatten) = _
      rw [pieces_cons, if_pos hk, ih]
      rfl
    · have hs : pieces tail (c :: s) = [] :: consFirst c (pieces (.start k) s) := by
        rw [pieces_cons, if_neg hk]
      rw [hs]
      cases n with
      | zero => rfl
      | succ n =>
        change pieces tail (c :: ((pieces (.start k) s).take (n + 1)).flatten) = _
        rw [pieces_cons, if_neg hk, ih]
        rfl

theorem clusters_drop_pieces (tail : Tail) (s : Text) (n : Nat) :
    clusters ((pieces tail s).drop (n + 1)).flatten = (pieces tail s).drop (n + 1) := by
  induction s generalizing tail n with
  | nil => simp [pieces_nil, clusters]
  | cons c s ih =>
    rw [pieces_cons]
    split
    · exact ih _ n
    · cases n with
      | zero =>
        change clusters (c :: (pieces _ s).flatten) = consFirst c (pieces _ s)
        rw [flatten_pieces, clusters_cons]
      | succ n => exact ih _ n

/-- The first clusters of a text, taken by themselves, are cut as they were. -/
theorem clusters_take (s : Text) (n : Nat) :
    clusters ((clusters s).take n).flatten = (clusters s).take n := by
  cases n with
  | zero => rfl
  | succ n =>
    cases s with
    | nil => rfl
    | cons c s =>
      have h := pieces_take (.start (ClusterClass.of c)) s n
      change clusters (c :: ((pieces _ s).take (n + 1)).flatten) = _
      rw [clusters_cons, h]
      rfl

/-- What is left behind the first clusters is cut as it was. -/
theorem clusters_drop (s : Text) (n : Nat) :
    clusters ((clusters s).drop n).flatten = (clusters s).drop n := by
  cases n with
  | zero => rw [List.drop_zero, flatten_clusters]
  | succ n =>
    cases s with
    | nil => rfl
    | cons c s => exact clusters_drop_pieces (.start (ClusterClass.of c)) s n

theorem flatten_take_append_flatten_drop (s : Text) (n : Nat) :
    ((clusters s).take n).flatten ++ ((clusters s).drop n).flatten = s := by
  rw [← List.flatten_append, List.take_append_drop, flatten_clusters]

theorem take_clusterOffset (s : Text) (n : Nat) :
    s.take (clusterOffset s n) = ((clusters s).take n).flatten := by
  calc s.take (clusterOffset s n)
      = (((clusters s).take n).flatten ++ ((clusters s).drop n).flatten).take
          (clusterOffset s n) := by rw [flatten_take_append_flatten_drop]
    _ = ((clusters s).take n).flatten := List.take_left

theorem drop_clusterOffset (s : Text) (n : Nat) :
    s.drop (clusterOffset s n) = ((clusters s).drop n).flatten := by
  calc s.drop (clusterOffset s n)
      = (((clusters s).take n).flatten ++ ((clusters s).drop n).flatten).drop
          (clusterOffset s n) := by rw [flatten_take_append_flatten_drop]
    _ = ((clusters s).drop n).flatten := List.drop_left

theorem clusters_take_clusterOffset (s : Text) (n : Nat) :
    clusters (s.take (clusterOffset s n)) = (clusters s).take n := by
  rw [take_clusterOffset, clusters_take]

theorem clusters_drop_clusterOffset (s : Text) (n : Nat) :
    clusters (s.drop (clusterOffset s n)) = (clusters s).drop n := by
  rw [drop_clusterOffset, clusters_drop]

/-- Nothing runs across a place between two clusters. -/
theorem apart_clusterOffset (s : Text) (n : Nat) :
    Apart (s.take (clusterOffset s n)) (s.drop (clusterOffset s n)) := by
  rw [Apart, List.take_append_drop, clusters_take_clusterOffset, clusters_drop_clusterOffset,
    List.take_append_drop]

namespace Apart

variable {a b : Text} (h : Apart a b)

include h

theorem flatten_take : ((clusters (a ++ b)).take (clusters a).length).flatten = a := by
  rw [h, List.take_left, flatten_clusters]

theorem flatten_drop : ((clusters (a ++ b)).drop (clusters a).length).flatten = b := by
  rw [h, List.drop_left, flatten_clusters]

theorem flatten_take_prefix {n : Nat} (hn : n ≤ (clusters a).length) :
    ((clusters (a ++ b)).take n).flatten <+: a := by
  rw [h, List.take_append_of_le_length hn]
  exact ⟨_, flatten_take_append_flatten_drop a n⟩

end Apart

theorem clusters_ne_nil {s : Text} (h : s ≠ []) : clusters s ≠ [] := by
  intro hnil
  have hflat := flatten_clusters s
  rw [hnil] at hflat
  exact h hflat.symm

/-- As many clusters as a text has hold it at least, whatever stands behind it. -/
theorem prefix_flatten_take (a b : Text) :
    a <+: ((clusters (a ++ b)).take (clusters a).length).flatten := by
  by_cases ha : a = []
  · rw [ha]
    exact List.nil_prefix
  · have hlength := extendLast_length (clusters a) (splitFrom (endTail a) b).1
    rw [clusters_append ha, List.take_left' hlength, flatten_extendLast (clusters_ne_nil ha),
      flatten_clusters]
    exact List.prefix_append _ _

/-- Text behind another takes none of its clusters away. -/
theorem length_clusters_le_append (a b : Text) :
    (clusters a).length ≤ (clusters (a ++ b)).length := by
  by_cases ha : a = []
  · rw [ha]
    exact Nat.zero_le _
  · rw [clusters_append ha, List.length_append, extendLast_length]
    exact Nat.le_add_right _ _

end PostfixCalc.Text
