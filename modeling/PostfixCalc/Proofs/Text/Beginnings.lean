import PostfixCalc.Proofs.Text.Bonds
import PostfixCalc.Proofs.Text.Hidden
import PostfixCalc.Proofs.Text.Sequences

namespace PostfixCalc.Text

set_option maxRecDepth 8192

/-- What the second measure has settled makes up for what it hides of the first one, whatever is put
in front of both. -/
inductive Kept : Nat × Lead → Nat × Lead → Prop
  | same {n m : Nat} {lead : Lead} (h : n ≤ m) : Kept (n, lead) (m, lead)
  | paired {n m i j : Nat} (h : n ≤ m) (hi : 2 ≤ i) (hij : i ≤ j) :
      Kept (n, .regionals i) (m, .regionals j)
  | hides {n m : Nat} {lead lead' : Lead} (hhides : lead.Hides lead') (h : n + 2 ≤ m) :
      Kept (n, lead) (m, lead')
  | bare {n m : Nat} {u v : Lead} {l : Ligature} (hbare : u.Bare l v) (hl : l.isTifinagh = false)
      (h : n + u.columns ≤ m) : Kept (n, u) (m, v)

namespace Kept

variable {x y : Nat × Lead}

/-- A code point that a letter of the second reading takes in. -/
theorem of_takes {n m : Nat} {l : Ligature} {c : Char} {lead : Lead} (htakes : Lead.Takes c l lead)
    (hl : l.isTifinagh = false) (h : n ≤ m) : Kept (n, Lead.alone c) (m, lead) := by
  rcases htakes.alone_cases with ⟨next, hbare, hgrows, hcolumns, -⟩ | ⟨-, halone, -⟩ | ⟨hnot, -⟩
  · have hnone := hgrows.columns_eq hl
    exact .bare hbare (hgrows.isTifinagh_eq.trans hl) (by omega)
  · rw [halone]
    exact .same h
  · rw [hl] at hnot
    cases hnot

theorem columns_le (h : Kept x y) : x.1 + x.2.columns ≤ y.1 + y.2.columns := by
  cases h with
  | same h => exact Nat.add_le_add_right h _
  | paired h hi hij => exact Nat.add_le_add h hij
  | hides hhides h =>
    have hcolumns := hhides.columns_le
    dsimp only
    omega
  | bare hbare hl h => exact Nat.le_trans h (Nat.le_add_right _ _)

/-- A run of regional indicators goes on in both readings, or is settled in both. -/
theorem measureCons_regionals {n m i j : Nat} (h : n ≤ m) (hi : 2 ≤ i) (hij : i ≤ j) (c : Char) :
    Kept (Text.measureCons c (n, .regionals i)) (Text.measureCons c (m, .regionals j)) := by
  by_cases hc : isRegional c = true
  · have hx : Text.measureCons c (n, .regionals i) = (0 + n, .regionals (i + 1)) := by
      simp [Text.measureCons, Lead.cons, Lead.extend?, hc]
    have hy : Text.measureCons c (m, .regionals j) = (0 + m, .regionals (j + 1)) := by
      simp [Text.measureCons, Lead.cons, Lead.extend?, hc]
    rw [hx, hy]
    apply Kept.paired
    · omega
    · omega
    · omega
  · have hturned : (Lead.regionals i).turned? c = (Lead.regionals j).turned? c := by
      have hemoji : (Lead.regionals i).isEmoji = (Lead.regionals j).isEmoji := by
        simp only [Lead.isEmoji, decide_eq_decide]
        omega
      simp [Lead.turned?, hemoji]
    have hx : Text.measureCons c (n, .regionals i) = (i + n, Lead.start c (.regionals j)) := by
      simp [Text.measureCons, Lead.cons, Lead.extend?, hc, Lead.columns, Lead.start, hturned]
    have hy : Text.measureCons c (m, .regionals j) = (j + m, Lead.start c (.regionals j)) := by
      simp [Text.measureCons, Lead.cons, Lead.extend?, hc, Lead.columns]
    rw [hx, hy]
    exact .same (Nat.add_le_add hij h)

theorem measureCons (h : Kept x y) (c : Char) : Kept (measureCons c x) (measureCons c y) := by
  cases h with
  | same h => exact .same (Nat.add_le_add_left h _)
  | paired h hi hij => exact measureCons_regionals h hi hij c
  | @hides n m lead lead' hhides h =>
    unfold Text.measureCons
    dsimp only
    rcases hhides.cons c with ⟨hnext, hsettled⟩ | ⟨hlead, hsettled⟩
    · rw [hsettled]
      exact .hides hnext (by omega)
    · rw [hlead]
      exact .same (by omega)
  | @bare n m u v l hbare hl h =>
    unfold Text.measureCons
    dsimp only
    rcases hbare.cons_cases c with ⟨lead, hu, hv⟩ | ⟨lead, htakes, hu, hv⟩
    · rw [hu, hv]
      exact .same (by dsimp only; omega)
    · rw [hu, hv]
      exact of_takes htakes hl (by dsimp only; omega)

theorem foldr (h : Kept x y) (s : Text) :
    Kept (s.foldr Text.measureCons x) (s.foldr Text.measureCons y) := by
  induction s with
  | nil => exact h
  | cons c s ih => exact ih.measureCons c

end Kept

theorem settledBehind_measure_le (s : Text) : (measure s).2.settledBehind ≤ (measure s).1 := by
  induction s with
  | nil => exact Nat.le_refl _
  | cons c s ih =>
    have hcons := Lead.settledBehind_cons_le c (measure s).2
    rw [measure_cons]
    dsimp only
    omega

/-- Two regional indicators in front of more of them are a flag of their own. -/
theorem kept_of_regionals {y : Nat × Lead} (hy : y.2.settledBehind ≤ y.1)
    (hlead : y.2.firstClass? = some .regional) {c d : Char} (hc : isRegional c = true)
    (hd : isRegional d = true) :
    Kept (measureCons c (measureCons d (0, .plain 0))) (measureCons c (measureCons d y)) := by
  have hx : measureCons c (measureCons d (0, .plain 0)) = (0, .regionals 2) := by
    have hfirst : measureCons d (0, .plain 0) = (0, .regionals 1) := by
      rw [measureCons_nil, Lead.alone_of_regional hd]
    rw [hfirst]
    simp [measureCons, Lead.cons, Lead.extend?, hc]
  obtain ⟨m, lead⟩ := y
  rw [hx]
  cases lead with
  | regionals n =>
    have hcons : measureCons c (measureCons d (m, .regionals n)) = (m, .regionals (n + 2)) := by
      simp [measureCons, Lead.cons, Lead.extend?, hc, hd]
    rw [hcons]
    exact .paired (Nat.zero_le _) (Nat.le_refl _) (Nat.le_add_left _ _)
  | linkedRegionals n =>
    have hcons : measureCons c (measureCons d (m, .linkedRegionals n)) =
        (m, .linkedRegionals (n + 2)) := by
      simp [measureCons, Lead.cons, Lead.extend?, hc, hd]
    rw [hcons]
    exact .hides (.regionals (Nat.le_add_left _ _) (.inl (Nat.le_refl _))) hy
  | _ => simp [Lead.firstClass?] at hlead

/-- Between clusters no sequence turns the code point in front into another, but for a joiner. -/
theorem turned?_of_apart {s b : Text} {c : Char} (h : Apart (s ++ [c]) b) :
    (measure b).2.turned? c = none ∨
      (isJoiner c = true ∧ (measure b).2.isEmoji = true ∧
        (measure b).2.turned? c = some .link) := by
  cases hturned : (measure b).2.turned? c with
  | none => exact .inl rfl
  | some lead =>
    rcases (Lead.turned_of_turned? hturned).joined with ⟨k, hk, hjoined⟩ | ⟨hjoiner, hemoji, rfl⟩
    · exact absurd hjoined (not_joined_of_apart h hk)
    · exact .inr ⟨hjoiner, hemoji, rfl⟩

theorem kept_of_apart {s b : Text} {c : Char} (h : Apart (s ++ [c]) b)
    (hletter : ∀ l, (measure b).2.letter? = some l → l.isTifinagh = false) :
    Kept (measure (s ++ [c])) (measure (s ++ [c] ++ b)) := by
  have hshown := settledBehind_measure_le b
  have halone : measure (s ++ [c]) = s.foldr measureCons (measureCons c (0, .plain 0)) :=
    measure_append_eq s [c]
  have hall : measure (s ++ [c] ++ b) = s.foldr measureCons (measureCons c (measure b)) := by
    rw [List.append_assoc, measure_append_eq]
    rfl
  rw [halone, hall]
  cases hextend : (measure b).2.extend? c with
  | none =>
    apply Kept.foldr
    have hcons : measureCons c (measure b) =
        ((measure b).2.columns + (measure b).1, Lead.start c (measure b).2) := by
      simp [measureCons, Lead.cons, hextend]
    rw [measureCons_nil, hcons, Lead.start]
    rcases turned?_of_apart h with hturned | ⟨hjoiner, hemoji, hturned⟩
    · rw [hturned]
      exact .same (Nat.zero_le _)
    · obtain rfl : c = '\u200d' := eq_of_toNat_beq hjoiner
      have htwo := Lead.two_le_columns hemoji
      rw [hturned]
      exact .hides .link (by omega)
  | some lead =>
    rcases (Lead.extends_of_extend? hextend).joined with
      ⟨k, hk, hjoined⟩ | ⟨hk, hregional⟩ | ⟨l, hl, htakes⟩
    · exact absurd hjoined (not_joined_of_apart h hk)
    · have hpaired := endTail_of_regional (ClusterClass.of_eq_regional hregional)
        (not_joins_of_firstClass? h hk)
      obtain ⟨s', c', rfl, hc'⟩ := exists_regional_of_endTail hpaired
      rw [List.foldr_append, List.foldr_append]
      exact (kept_of_regionals hshown hk (ClusterClass.isRegional_of_eq hc') hregional).foldr s'
    · apply Kept.foldr
      have hcons : measureCons c (measure b) = ((measure b).1, lead) := by
        simp [measureCons, Lead.cons, hextend]
      rw [measureCons_nil, hcons]
      exact .of_takes htakes (hletter l hl) (Nat.zero_le _)

theorem chain_of_apart {s b w r : Text} {c d : Char} {l : Ligature} (h : Apart (s ++ [c]) b)
    (hb : b = w ++ d :: r) (hd : Property.tifinaghConsonants.holds d = true) (htrail : Trail w l)
    (hletter : (measure b).2.letter? = some l) :
    Chain w b (s ++ [c]) (measure (s ++ [c])) (measure (s ++ [c] ++ b)) := by
  have hturned : (measure b).2.turned? c = none := by
    rcases turned?_of_apart h with hnone | ⟨-, hemoji, -⟩
    · exact hnone
    · rw [Lead.isEmoji_of_letter? hletter] at hemoji
      cases hemoji
  have halone : measure (s ++ [c]) = s.foldr measureCons (measureCons c (0, .plain 0)) :=
    measure_append_eq s [c]
  have hall : measure (s ++ [c] ++ b) = s.foldr measureCons (measureCons c (measure b)) := by
    rw [List.append_assoc, measure_append_eq]
    rfl
  rw [halone, hall]
  exact (chain_of_trail hb hd hletter htrail hturned).foldr hb hd s

/-- A text is at least as wide as what is in front of a place between its clusters, unless that is a
place between two Tifinagh consonants that are one sign. Then it may fall short by a column for each
consonant joiner in front of the place. -/
theorem width_le_append {a b : Text} (h : Apart a b) :
    (¬ Bonded a b → width a ≤ width (a ++ b)) ∧ width a ≤ width (a ++ b) + joiners a := by
  rcases List.eq_nil_or_concat' a with rfl | ⟨s, c, rfl⟩
  · exact ⟨fun _ => Nat.zero_le _, Nat.zero_le _⟩
  · by_cases hletter : ∃ l, (measure b).2.letter? = some l ∧ l.isTifinagh = true
    · obtain ⟨l, hl, htifinagh⟩ := hletter
      obtain ⟨w, d, r, hb, hd, htrail⟩ := exists_trail hl htifinagh
      have hchain := chain_of_apart h hb hd htrail hl
      exact ⟨hchain.columns_le_of_not_bonded, hchain.columns_le⟩
    · have hkept := kept_of_apart h fun l hl => by
        cases htifinagh : l.isTifinagh with
        | false => rfl
        | true => exact absurd ⟨l, hl, htifinagh⟩ hletter
      have hcolumns := hkept.columns_le
      exact ⟨fun _ => hcolumns, Nat.le_trans hcolumns (Nat.le_add_right _ _)⟩

end PostfixCalc.Text
