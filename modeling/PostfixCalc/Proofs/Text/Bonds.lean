import PostfixCalc.Proofs.Text.Ligatures

namespace PostfixCalc.Text

set_option maxRecDepth 8192

/-- Marks that make one sign of the Tifinagh consonants on their two sides: joiners and marks that
are not to be seen, with a consonant joiner at most once, and at least one that joins. -/
structure IsBond (marks : Text) : Prop where
  mark : ∀ c ∈ marks,
    isJoiner c = true ∨ isConsonantJoiner c = true ∨ Property.ignorableMarks.holds c = true
  once : marks.countP isConsonantJoiner ≤ 1
  joins : ∃ c ∈ marks, isJoiner c = true ∨ isConsonantJoiner c = true

/-- A place between two Tifinagh consonants that marks make one sign of. -/
def Bonded (a b : Text) : Prop :=
  ∃ s c w w' d r, a = s ++ c :: w ∧ b = w' ++ d :: r ∧ IsBond (w ++ w') ∧
    Property.tifinaghConsonants.holds c = true ∧ Property.tifinaghConsonants.holds d = true

theorem Bonded.cons {a b : Text} (h : Bonded a b) (c : Char) : Bonded (c :: a) b := by
  obtain ⟨s, d, w, w', e, r, rfl, hb⟩ := h
  exact ⟨c :: s, d, w, w', e, r, rfl, hb⟩

theorem Bonded.append {a b : Text} (h : Bonded a b) (t : Text) : Bonded a (b ++ t) := by
  obtain ⟨s, d, w, w', e, r, ha, rfl, hb⟩ := h
  exact ⟨s, d, w, w', e, r ++ t, ha, by simp, hb⟩

/-- The marks in front of a Tifinagh consonant, and what they make of it. -/
inductive Trail : Text → Ligature → Prop
  | nil : Trail [] (.consonant false)
  | cons {c : Char} {w : Text} {l next : Ligature} (h : Trail w l) (hc : l.Grows c next) :
      Trail (c :: w) next

namespace Trail

variable {w : Text} {l : Ligature} (h : Trail w l)

include h

theorem isTifinagh : l.isTifinagh = true := by
  induction h with
  | nil => rfl
  | cons h hc ih => exact hc.isTifinagh_eq.trans ih

theorem columns_eq : l.columns = w.countP isConsonantJoiner + 1 := by
  induction h with
  | nil => rfl
  | @cons c w l next h hc ih =>
    rw [List.countP_cons]
    rcases hc.zeroWidth_or with ⟨hzero, hcolumns⟩ | ⟨hjoiner, hcolumns⟩
    · have hnone : isConsonantJoiner c = false := by
        cases hjoiner : isConsonantJoiner c with
        | false => rfl
        | true =>
          obtain rfl : c = '\u2d7f' := eq_of_toNat_beq hjoiner
          exact absurd hzero (by decide)
      simp [hnone, hcolumns, ih]
    · simp [hjoiner, hcolumns, ih]

theorem mark : ∀ c ∈ w,
    isJoiner c = true ∨ isConsonantJoiner c = true ∨ Property.ignorableMarks.holds c = true := by
  induction h with
  | nil => exact fun c hc => by cases hc
  | @cons c w l next h hc ih =>
    have hl := h.isTifinagh
    intro d hd
    rcases List.mem_cons.mp hd with rfl | hd
    case inr => exact ih d hd
    cases hc with
    | transparent hc => cases hl
    | joiner _ hc => exact .inl hc
    | mark _ hc => exact .inr (.inr hc)
    | vowel hc => cases hl
    | consonantJoiner linked hc => exact .inr (.inl hc)

/-- Without a joiner the consonant is as it was. -/
theorem joins (hl : l ≠ .consonant false) :
    ∃ c ∈ w, isJoiner c = true ∨ isConsonantJoiner c = true := by
  induction h with
  | nil => exact absurd rfl hl
  | @cons c w l next h hc ih =>
    have htifinagh := h.isTifinagh
    cases hc with
    | transparent hc => cases htifinagh
    | joiner _ hc => exact ⟨c, List.mem_cons_self, .inl hc⟩
    | mark _ hc =>
      obtain ⟨d, hd, hjoins⟩ := ih hl
      exact ⟨d, List.mem_cons_of_mem c hd, hjoins⟩
    | vowel hc => cases htifinagh
    | consonantJoiner linked hc => exact ⟨c, List.mem_cons_self, .inr hc⟩

theorem isBond {c : Char} (hc : l.closing.holds c = true) : IsBond w := by
  refine ⟨h.mark, ?_, h.joins ?_⟩
  · have hcolumns := h.columns_eq
    have hle : l.columns ≤ 2 := by
      cases l <;> simp [Ligature.columns]
    omega
  · rintro rfl
    cases hc

end Trail

/-- A text that begins with a Tifinagh letter is marks and a consonant. -/
theorem exists_trail {b : Text} {l : Ligature} (h : (measure b).2.letter? = some l)
    (hl : l.isTifinagh = true) :
    ∃ w d r, b = w ++ d :: r ∧ Property.tifinaghConsonants.holds d = true ∧ Trail w l := by
  induction b generalizing l with
  | nil => cases h
  | cons c b ih =>
    rcases Lead.letter?_cons h with ⟨l', hbehind, hgrows⟩ | hletter
    · obtain ⟨w, d, r, rfl, hd, htrail⟩ := ih hbehind (hgrows.isTifinagh_eq.symm.trans hl)
      exact ⟨c :: w, d, r, rfl, hd, htrail.cons hgrows⟩
    · obtain ⟨hc, rfl⟩ := Ligature.consonant_of_ofLetter? hletter hl
      exact ⟨[], c, b, rfl, hc, .nil⟩

/-- The consonant joiners in a text. -/
def joiners (s : Text) : Nat := s.countP isConsonantJoiner

theorem joiners_cons (c : Char) (s : Text) :
    joiners (c :: s) = joiners s + (isConsonantJoiner c).toNat := by
  rw [joiners, joiners, List.countP_cons]
  cases isConsonantJoiner c <;> rfl

theorem joiners_append (s t : Text) : joiners (s ++ t) = joiners s + joiners t := List.countP_append

/-- What the measures of a text have to do with each other, alone and in front of the marks `w` and
a Tifinagh consonant. As long as the text is marks, the consonant behind them makes the difference.
Once a bond has been closed, a consonant that is free in one reading is bonded in the other, and the
two take turns. -/
inductive Chain (w b a : Text) : Nat × Lead → Nat × Lead → Prop
  | same {n m : Nat} {lead : Lead} (h : n ≤ m) : Chain w b a (n, lead) (m, lead)
  | marks {n m : Nat} {u v : Lead} {l : Ligature} (hbare : u.Bare l v) (htrail : Trail (a ++ w) l)
      (h : n + u.columns ≤ joiners a) : Chain w b a (n, u) (m, v)
  | behind {n m : Nat} {u v : Lead} {l : Ligature} (hbond : Bonded a b) (hbare : u.Bare l v)
      (hl : l.isTifinagh = true) (h : n + u.columns ≤ m + joiners a) : Chain w b a (n, u) (m, v)
  | ahead {n m : Nat} {u v : Lead} {l : Ligature} (hbond : Bonded a b) (hbare : v.Bare l u)
      (hl : l.isTifinagh = true) (h : n + u.columns ≤ m + v.columns + joiners a) :
      Chain w b a (n, u) (m, v)
  | settled {n m : Nat} {lead : Lead} (hbond : Bonded a b) (h : n ≤ m + joiners a) :
      Chain w b a (n, lead) (m, lead)

namespace Chain

variable {w b a : Text} {x y : Nat × Lead}

theorem columns_le_of_not_bonded (h : Chain w b a x y) (hb : ¬ Bonded a b) :
    x.1 + x.2.columns ≤ y.1 + y.2.columns := by
  cases h with
  | same h => exact Nat.add_le_add_right h _
  | marks hbare htrail h =>
    have htrailed := htrail.columns_eq
    have hcolumns := hbare.columns_eq
    have hjoiners := joiners_append a w
    rw [joiners] at hjoiners
    dsimp only
    omega
  | behind hbond => exact absurd hbond hb
  | ahead hbond => exact absurd hbond hb
  | settled hbond => exact absurd hbond hb

theorem columns_le (h : Chain w b a x y) :
    x.1 + x.2.columns ≤ y.1 + y.2.columns + joiners a := by
  cases h with
  | same h => dsimp only; omega
  | marks hbare htrail h => dsimp only; omega
  | behind hbond hbare hl h => dsimp only; omega
  | ahead hbond hbare hl h => exact h
  | settled hbond h => dsimp only; omega

/-- A code point that the letter takes in, where the letter is missing in the first reading. -/
theorem of_takes {n m : Nat} {l : Ligature} {c : Char} {lead : Lead} (htakes : Lead.Takes c l lead)
    (hl : l.isTifinagh = true) (hbond : l.closing.holds c = true → Bonded (c :: a) b)
    (hopen : Bonded a b ∨ Trail (a ++ w) l ∧ n ≤ joiners a) (h : n ≤ m + joiners a) :
    Chain w b (c :: a) (n, Lead.alone c) (m, lead) := by
  have hjoiners := joiners_cons c a
  rcases htakes.alone_cases with
    ⟨next, hbare, hgrows, hcolumns, hjoiner⟩ | ⟨hnot, -⟩ | ⟨-, hcloses, halone, rfl⟩
  · have hnext : next.isTifinagh = true := hgrows.isTifinagh_eq.trans hl
    rcases hopen with hbonded | ⟨htrail, hle⟩
    · exact .behind (hbonded.cons c) hbare hnext (by omega)
    · exact .marks hbare (htrail.cons hgrows) (by omega)
  · rw [hnot] at hl
    cases hl
  · rw [halone]
    apply Chain.ahead (hbond hcloses) (.plain 1 (.consonant false)) rfl
    change n + 1 ≤ m + 1 + joiners (c :: a)
    omega

/-- A code point that the letter takes in, where the letter is missing in the second reading. -/
theorem of_takes_ahead {n m : Nat} {l : Ligature} {c : Char} {lead : Lead}
    (htakes : Lead.Takes c l lead) (hl : l.isTifinagh = true) (hbond : Bonded a b)
    (h : n + l.columns ≤ m + joiners a) : Chain w b (c :: a) (n, lead) (m, Lead.alone c) := by
  have hjoiners := joiners_cons c a
  rcases htakes.alone_cases with
    ⟨next, hnext, hgrows, hgrown, hjoiner⟩ | ⟨hnot, -⟩ | ⟨-, hcloses, halone, rfl⟩
  · have hlead := hnext.columns_eq
    exact .ahead (hbond.cons c) hnext (hgrows.isTifinagh_eq.trans hl) (by omega)
  · rw [hnot] at hl
    cases hl
  · rw [halone]
    apply Chain.behind (hbond.cons c) (.plain 1 (.consonant false)) rfl
    have hpos : 1 ≤ l.columns := by
      cases l <;> simp [Ligature.columns]
    change n + 1 ≤ m + joiners (c :: a)
    omega

/-- One code point in front of both. -/
theorem measureCons {d : Char} {r : Text} (hb : b = w ++ d :: r)
    (hd : Property.tifinaghConsonants.holds d = true) (h : Chain w b a x y) (c : Char) :
    Chain w b (c :: a) (measureCons c x) (measureCons c y) := by
  have hjoiners := joiners_cons c a
  unfold Text.measureCons
  cases h with
  | same h => exact .same (Nat.add_le_add_left h _)
  | settled hbond h => exact .settled (hbond.cons c) (by dsimp only; omega)
  | @marks n m u v l hbare htrail h =>
    rcases hbare.cons_cases c with ⟨lead, hu, hv⟩ | ⟨lead, htakes, hu, hv⟩
    · have htrailed := htrail.columns_eq
      have happend := joiners_append a w
      rw [joiners] at happend
      rw [hu, hv]
      exact .same (by dsimp only; omega)
    · have hbond (hcloses : l.closing.holds c = true) : Bonded (c :: a) b := by
        obtain ⟨hconsonant, -⟩ := Ligature.closing_of_isTifinagh htrail.isTifinagh hcloses
        exact ⟨[], c, a, w, d, r, rfl, hb, htrail.isBond hcloses, hconsonant, hd⟩
      rw [hu, hv]
      exact of_takes htakes htrail.isTifinagh hbond (.inr ⟨htrail, by dsimp only; omega⟩)
        (by dsimp only; omega)
  | @behind n m u v l hbond hbare hl h =>
    rcases hbare.cons_cases c with ⟨lead, hu, hv⟩ | ⟨lead, htakes, hu, hv⟩
    · rw [hu, hv]
      exact .settled (hbond.cons c) (by dsimp only; omega)
    · rw [hu, hv]
      exact of_takes htakes hl (fun _ => hbond.cons c) (.inl hbond) (by dsimp only; omega)
  | @ahead n m u v l hbond hbare hl h =>
    have hcolumns := hbare.columns_eq
    rcases hbare.cons_cases c with ⟨lead, hv, hu⟩ | ⟨lead, htakes, hv, hu⟩
    · rw [hu, hv]
      exact .settled (hbond.cons c) (by dsimp only; omega)
    · rw [hu, hv]
      exact of_takes_ahead htakes hl hbond (by dsimp only; omega)

theorem foldr {d : Char} {r : Text} (hb : b = w ++ d :: r)
    (hd : Property.tifinaghConsonants.holds d = true) (h : Chain w b a x y) (s : Text) :
    Chain w b (s ++ a) (s.foldr Text.measureCons x) (s.foldr Text.measureCons y) := by
  induction s with
  | nil => exact h
  | cons c s ih => exact ih.measureCons hb hd c

end Chain

/-- The code point in front of marks and a consonant that do not change it. -/
theorem chain_of_trail {b w r : Text} {d : Char} {l : Ligature} (hb : b = w ++ d :: r)
    (hd : Property.tifinaghConsonants.holds d = true) (hletter : (measure b).2.letter? = some l)
    (htrail : Trail w l) {c : Char} (hturned : (measure b).2.turned? c = none) :
    Chain w b [c] (measureCons c (0, .plain 0)) (measureCons c (measure b)) := by
  have hextend := Lead.extend?_of_letter? hletter c
  rw [measureCons_nil, measureCons, Lead.cons, hextend]
  cases htakes : Lead.extendLetter? c l with
  | none =>
    dsimp only
    rw [Lead.start, hturned]
    exact .same (Nat.zero_le _)
  | some lead =>
    have hbond (hcloses : l.closing.holds c = true) : Bonded [c] b := by
      obtain ⟨hconsonant, -⟩ := Ligature.closing_of_isTifinagh htrail.isTifinagh hcloses
      exact ⟨[], c, [], w, d, r, rfl, hb, htrail.isBond hcloses, hconsonant, hd⟩
    exact Chain.of_takes (Lead.takes_of_extendLetter? htakes) htrail.isTifinagh hbond
      (.inr ⟨htrail, Nat.zero_le _⟩) (Nat.zero_le _)

end PostfixCalc.Text
