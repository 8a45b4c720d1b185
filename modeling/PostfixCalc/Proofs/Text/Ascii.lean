import PostfixCalc.Text.Cluster
import PostfixCalc.Text.Width

namespace PostfixCalc.Text

/-- A blank, or a sign of ASCII. -/
def IsPrintable (c : Char) : Prop := 0x20 ≤ c.toNat ∧ c.toNat < 0x7F

instance (c : Char) : Decidable (IsPrintable c) := inferInstanceAs (Decidable (_ ∧ _))

def AllPrintable (s : Text) : Prop := ∀ c ∈ s, IsPrintable c

instance (s : Text) : Decidable (AllPrintable s) := List.decidableBAll _ s

theorem AllPrintable.take {s : Text} (h : AllPrintable s) (n : Nat) : AllPrintable (s.take n) :=
  fun c hc => h c (List.mem_of_mem_take hc)

theorem IsPrintable.ne {c d : Char} (h : IsPrintable c) (hd : ¬ IsPrintable d) : c ≠ d :=
  fun heq => hd (heq ▸ h)

theorem IsPrintable.class_eq {c : Char} (h : IsPrintable c) : ClusterClass.of c = .other := by
  have hreturn : c ≠ '\r' := h.ne (by decide)
  have hfeed : c ≠ '\n' := h.ne (by decide)
  obtain ⟨hlow, hhigh⟩ := h
  have hascii : c.toNat < 0x80 := by omega
  have hcontrol : ¬ (c.toNat < 0x20 ∨ c.toNat = 0x7F) := by omega
  rw [ClusterClass.of, if_neg hreturn, if_neg hfeed, if_pos hascii, if_neg hcontrol]

theorem splitFrom_other {s : Text} (h : ∀ c ∈ s, ClusterClass.of c = .other) :
    splitFrom .plain s = ([], s.map ([·])) := by
  induction s with
  | nil => rfl
  | cons c s ih =>
    have hc := h c List.mem_cons_self
    have hs : ∀ d ∈ s, ClusterClass.of d = .other := fun d hd => h d (List.mem_cons_of_mem c hd)
    rw [splitFrom, hc]
    change ([], (c :: (splitFrom .plain s).1) :: (splitFrom .plain s).2) = _
    rw [ih hs]
    rfl

/-- Code points without a class of their own are clusters by themselves. -/
theorem clusters_other {s : Text} (h : ∀ c ∈ s, ClusterClass.of c = .other) :
    clusters s = s.map ([·]) := by
  cases s with
  | nil => rfl
  | cons c s =>
    have hc := h c List.mem_cons_self
    have hs : ∀ d ∈ s, ClusterClass.of d = .other := fun d hd => h d (List.mem_cons_of_mem c hd)
    rw [clusters, hc]
    change (c :: (splitFrom .plain s).1) :: (splitFrom .plain s).2 = _
    rw [splitFrom_other hs]
    rfl

theorem clusters_printable {s : Text} (h : AllPrintable s) : clusters s = s.map ([·]) :=
  clusters_other fun c hc => (h c hc).class_eq

/-- A table that begins above ASCII holds of no printable sign. -/
theorem IsPrintable.not_holds {c : Char} (h : IsPrintable c) {table : Property.Ranges}
    (htable : ∀ interval ∈ table, 0x7F ≤ interval.1) : table.holds c = false := by
  rw [Property.Ranges.holds, List.any_eq_false]
  intro interval hi
  have hlow := htable interval hi
  have hhigh := h.2
  simp only [Bool.and_eq_true, decide_eq_true_eq]
  omega

theorem IsPrintable.charWidth_eq {c : Char} (h : IsPrintable c) : charWidth c = 1 := by
  obtain ⟨hlow, hhigh⟩ := h
  have hcontrol : isControl c = false := by
    simp only [isControl, Bool.or_eq_false_iff, decide_eq_false_iff_not]
    omega
  have hascii : c.toNat < 0x80 := by omega
  rw [charWidth, charWidth?, hcontrol, if_neg Bool.false_ne_true, if_pos hascii]
  rfl

theorem IsPrintable.ofEmoji?_eq {c : Char} (h : IsPrintable c) (columns : Nat) :
    Lead.ofEmoji? c columns = none := by
  have hmodifier : Property.emojiModifiers.holds c = false := h.not_holds (by decide)
  have hemoji : Property.defaultEmoji.holds c = false := h.not_holds (by decide)
  rw [Lead.ofEmoji?, hmodifier, hemoji]
  rfl

theorem IsPrintable.ofLetter?_eq {c : Char} (h : IsPrintable c) : Lead.ofLetter? c = none := by
  have hletter : Ligature.ofLetter? c = none := by
    rw [Ligature.ofLetter?, Option.map_eq_none_iff, List.find?_eq_none]
    intro opening hopening
    have hlow : ∀ o ∈ Ligature.openings, ∀ i ∈ o.1, 0x7F ≤ i.1 := by decide
    simp [h.not_holds (hlow opening hopening)]
  have hne {n : Nat} (hn : 0x7F ≤ n) : c.toNat ≠ n := Nat.ne_of_lt (Nat.lt_of_lt_of_le h.2 hn)
  simp [Lead.ofLetter?, hletter, hne]

theorem IsPrintable.alone_eq {c : Char} (h : IsPrintable c) : Lead.alone c = .plain 1 := by
  have hfeed : c ≠ '\n' := h.ne (by decide)
  have hne {n : Nat} (hn : 0x7F ≤ n) : c.toNat ≠ n := Nat.ne_of_lt (Nat.lt_of_lt_of_le h.2 hn)
  have hregional : isRegional c = false := by
    have hhigh := h.2
    simp only [isRegional, decide_eq_false_iff_not]
    omega
  rw [Lead.alone, if_neg hfeed, h.ofEmoji?_eq 2, h.ofLetter?_eq, h.charWidth_eq]
  simp [isEmojiSelector, isTextSelector, isJoiner, hregional, hne]

theorem IsPrintable.cons_plain {c : Char} (h : IsPrintable c) (n : Nat) :
    Lead.cons c (.plain n) = (n, .plain 1) := by
  have hturned : (Lead.plain n).turned? c = none := by simp [Lead.turned?, Lead.isEmoji]
  change (n, ((Lead.plain n).turned? c).getD (Lead.alone c)) = _
  rw [hturned, h.alone_eq]
  rfl

theorem width_printable {s : Text} (h : AllPrintable s) : width s = s.length := by
  have hmeasure : ∃ n, (measure s).2 = .plain n ∧ (measure s).1 + n = s.length := by
    induction s with
    | nil => exact ⟨0, rfl, rfl⟩
    | cons c s ih =>
      obtain ⟨n, hlead, hcolumns⟩ := ih fun d hd => h d (List.mem_cons_of_mem c hd)
      have hcons := (h c List.mem_cons_self).cons_plain n
      have hc : measure (c :: s) = (n + (measure s).1, .plain 1) := by
        change ((Lead.cons c (measure s).2).1 + (measure s).1, (Lead.cons c (measure s).2).2) = _
        rw [hlead, hcons]
      refine ⟨1, by rw [hc], ?_⟩
      rw [hc, List.length_cons]
      omega
  obtain ⟨n, hlead, hcolumns⟩ := hmeasure
  rw [width, hlead]
  exact hcolumns

end PostfixCalc.Text
