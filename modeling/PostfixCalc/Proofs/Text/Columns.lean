import Mathlib.Tactic.Ring
import Mathlib.Tactic.SplitIfs
import PostfixCalc.Proofs.Text.Ascii
import PostfixCalc.Proofs.Text.Leads
import PostfixCalc.Proofs.Text.Tables

namespace PostfixCalc.Text

set_option maxRecDepth 8192

theorem charWidth_le {c : Char} (h : isBeyyal c = false) : charWidth c ≤ 2 := by
  unfold charWidth charWidth?
  rw [h, if_neg Bool.false_ne_true]
  split_ifs <;> decide

/-- One code point alone has more than two columns. -/
theorem charWidth_le_or (c : Char) : charWidth c ≤ 2 ∨ (c = '\u17d8' ∧ charWidth c = 3) := by
  cases h : isBeyyal c with
  | false => exact .inl (charWidth_le h)
  | true =>
    obtain rfl : c = '\u17d8' := eq_of_toNat_beq h
    exact .inr ⟨rfl, by decide⟩

theorem charWidth_pos {c : Char} (h : Property.zeroWidth.holds c = false) : 0 < charWidth c := by
  unfold charWidth charWidth?
  rw [h, if_neg Bool.false_ne_true]
  split_ifs <;> decide

theorem zeroWidth_ascending : Property.zeroWidth.Ascending := by decide

/-- A sign of a wide table that begins behind the controls. -/
theorem charWidth_of_wide {table : Property.Ranges} (hasc : table.Ascending)
    (hwide : table.within Property.wide = true) (hzero : table.avoids Property.zeroWidth = true)
    (hlow : ∀ i ∈ table, 0xA0 ≤ i.1) {c : Char} (hc : table.holds c = true) : charWidth c = 2 := by
  have hfrom := Property.Ranges.le_toNat_of_holds hlow hc
  have hcontrol : isControl c = false := by
    simp only [isControl, Bool.or_eq_false_iff, decide_eq_false_iff_not]
    omega
  have hascii : ¬ c.toNat < 0x80 := by omega
  have hwideAscending : Property.wide.Ascending := by decide
  have hnone := Property.Ranges.not_holds_of_avoids hasc zeroWidth_ascending hzero hc
  have htwo := Property.Ranges.holds_of_within hasc hwideAscending hwide hc
  rw [charWidth, charWidth?, hcontrol, if_neg Bool.false_ne_true, if_neg hascii, hnone,
    if_neg Bool.false_ne_true, htwo]
  rfl

/-- A sign of a table without marks and wide signs takes one column. -/
theorem charWidth_of_narrow {table : Property.Ranges} (hasc : table.Ascending)
    (hlow : ∀ i ∈ table, 0xA0 ≤ i.1) (hzero : table.avoids Property.zeroWidth = true)
    (hwide : table.avoids Property.wide = true)
    (hbeyyal : table.avoids [(0x17D8, 0x17D8)] = true) {c : Char} (hc : table.holds c = true) :
    charWidth c = 1 := by
  have hfrom := Property.Ranges.le_toNat_of_holds hlow hc
  have hcontrol : isControl c = false := by
    simp only [isControl, Bool.or_eq_false_iff, decide_eq_false_iff_not]
    omega
  have hascii : ¬ c.toNat < 0x80 := by omega
  have hwideAscending : Property.wide.Ascending := by decide
  have hone := Property.Ranges.not_holds_of_avoids hasc zeroWidth_ascending hzero hc
  have htwo := Property.Ranges.not_holds_of_avoids hasc hwideAscending hwide hc
  have hthree := Property.Ranges.not_holds_of_avoids hasc
    (by decide : Property.Ranges.Ascending [(0x17D8, 0x17D8)]) hbeyyal hc
  have hnot : isBeyyal c = false := by
    simp only [Property.Ranges.holds, List.any_cons, List.any_nil, Bool.or_false,
      Bool.and_eq_false_iff, decide_eq_false_iff_not] at hthree
    simp only [isBeyyal, beq_eq_false_iff_ne]
    omega
  simp [charWidth, charWidth?, hcontrol, hascii, hone, htwo, hnot]

theorem charWidth_defaultEmoji {c : Char} (h : Property.defaultEmoji.holds c = true) :
    charWidth c = 2 :=
  charWidth_of_wide (by decide) (by decide) (by decide) (by decide) h

theorem charWidth_emojiModifier {c : Char} (h : Property.emojiModifiers.holds c = true) :
    charWidth c = 2 :=
  charWidth_of_wide (by decide) (by decide) (by decide) (by decide) h

/-- A sign of a table without marks takes a column. -/
theorem charWidth_pos_of_avoids {table : Property.Ranges} (hasc : table.Ascending)
    (hzero : table.avoids Property.zeroWidth = true) {c : Char} (hc : table.holds c = true) :
    0 < charWidth c :=
  charWidth_pos (Property.Ranges.not_holds_of_avoids hasc zeroWidth_ascending hzero hc)

theorem charWidth_selectorBase {c : Char} (h : Property.selectorBases.holds c = true) :
    0 < charWidth c :=
  charWidth_pos_of_avoids (by decide) (by decide) h

theorem charWidth_regional {c : Char} (h : isRegional c = true) : 0 < charWidth c := by
  have hholds : Property.Ranges.holds [(0x1F1E6, 0x1F1FF)] c = true := by
    simpa [Property.Ranges.holds, isRegional] using h
  exact charWidth_pos_of_avoids (by decide) (by decide) hholds

theorem measure_cons (c : Char) (s : Text) :
    measure (c :: s) =
      ((Lead.cons c (measure s).2).1 + (measure s).1, (Lead.cons c (measure s).2).2) := rfl

section Blank

/-- What nothing in front changes is settled. -/
theorem Lead.cons_plain (c : Char) (n : Nat) :
    Lead.cons c (.plain n) = (n, Lead.start c (.plain 0)) := rfl

theorem measure_append {s : Text} {n : Nat} (hs : (measure s).2 = .plain n) {t : Text}
    (ht : t ≠ []) : measure (t ++ s) = ((measure t).1 + width s, (measure t).2) := by
  have hwidth : width s = (measure s).1 + n := by rw [width, hs]; rfl
  induction t with
  | nil => exact absurd rfl ht
  | cons c t ih =>
    cases t with
    | nil =>
      have hnil : measure ([] : Text) = (0, .plain 0) := rfl
      rw [List.singleton_append, measure_cons, measure_cons, hs, hnil, Lead.cons_plain,
        Lead.cons_plain, hwidth]
      simp [Nat.add_comm]
    | cons d t =>
      have ht := ih (List.cons_ne_nil d t)
      rw [List.cons_append, measure_cons, measure_cons, ht]
      simp [Nat.add_assoc]

theorem width_append {s : Text} {n : Nat} (hs : (measure s).2 = .plain n) (t : Text) :
    width (t ++ s) = width t + width s := by
  cases t with
  | nil => exact (Nat.zero_add _).symm
  | cons c t =>
    have hmeasure := measure_append hs (List.cons_ne_nil c t)
    show (measure (c :: t ++ s)).1 + (measure (c :: t ++ s)).2.columns =
      (measure (c :: t)).1 + (measure (c :: t)).2.columns + width s
    rw [hmeasure]
    exact Nat.add_right_comm _ _ _

theorem Lead.extendLetter?_blank (l : Ligature) : Lead.extendLetter? ' ' l = none := by
  cases h : Lead.extendLetter? ' ' l with
  | none => rfl
  | some lead =>
    have hblank {table : Property.Ranges} (hlow : ∀ i ∈ table, 0x7F ≤ i.1) :
        table.holds ' ' ≠ true := by
      have hprintable : IsPrintable ' ' := by decide
      simp [hprintable.not_holds hlow]
    have hclosings : ∀ t ∈ Ligature.closings, ∀ i ∈ t, 0x7F ≤ i.1 := by decide
    have hclosing : ∀ i ∈ l.closing, 0x7F ≤ i.1 := hclosings _ l.closing_mem
    cases takes_of_extendLetter? h with
    | emojiSelector hc => exact absurd hc (by decide)
    | textSelector hc => exact absurd hc (by decide)
    | completes hc => exact absurd hc (hblank hclosing)
    | grows hselector htext hc =>
      cases hc with
      | mark hl hc => exact absurd hc (hblank (by decide))
      | joiner hl hc => exact absurd hc (by decide)
      | transparent hc => exact absurd hc (by decide)
      | vowel hc => exact absurd hc (by decide)
      | consonantJoiner linked hc => exact absurd hc (by decide)

theorem Lead.extend?_blank (behind : Lead) : behind.extend? ' ' = none := by
  have hbase : Property.selectorBases.holds ' ' = false := by decide
  have hmodifier : Property.modifierBases.holds ' ' = false := by decide
  have hlink : Lead.extendLink? ' ' = none := by decide
  cases behind with
  | letter l => exact extendLetter?_blank l
  | emojiSelector l => cases l <;> simp [Lead.extend?, extendLetter?_blank]
  | textSelector l => cases l <;> simp [Lead.extend?, extendLetter?_blank]
  | linkedTags letters digits =>
    simp [Lead.extend?, Lead.extendTags?, isTagLetter, isTagDigit, isBlackFlag]
  | _ => simp [Lead.extend?, hbase, hmodifier, hlink] <;> decide

theorem Lead.turned?_blank (behind : Lead) : behind.turned? ' ' = none := by
  have hbase : Property.selectorBases.holds ' ' = false := by decide
  have htext : isTextSelectorBase ' ' = false := by decide
  have hjoiner : isJoiner ' ' = false := by decide
  cases behind <;> simp [Lead.turned?, hbase, htext, hjoiner]

theorem measure_blank (s : Text) : measure (' ' :: s) = (width s, .plain 1) := by
  have hblank : IsPrintable ' ' := by decide
  rw [measure_cons, Lead.cons, (measure s).2.extend?_blank]
  change ((measure s).2.columns + (measure s).1,
    ((measure s).2.turned? ' ').getD (Lead.alone ' ')) = _
  rw [Lead.turned?_blank, hblank.alone_eq, width, Nat.add_comm]
  rfl

/-- A blank is a column of its own, and no sequence runs across it. -/
theorem width_append_blank (t s : Text) : width (t ++ ' ' :: s) = width t + 1 + width s := by
  have hlead : (measure (' ' :: s)).2 = .plain 1 := by rw [measure_blank]
  have hwidth : width (' ' :: s) = width s + 1 := by
    rw [width, measure_blank]
    rfl
  rw [width_append hlead, hwidth]
  omega

end Blank

/-- The columns of the code points by themselves. -/
def pointColumns (s : Text) : Nat := (s.map charWidth).sum

/-- Whether a narrow sign stands right before an emoji variation selector that makes it wide. -/
def widens (c : Char) (behind : Text) : Bool :=
  Property.selectorBases.holds c && decide (charWidth c < 2) && behind.head?.any isEmojiSelector

/-- The number of signs that are made wide. -/
def widened : Text → Nat
  | [] => 0
  | c :: s => (widens c s).toNat + widened s

namespace Lead

/-- The columns of a sequence if nothing of it is hidden. -/
def most : Lead → Nat
  | linkedRegionals n => n
  | lead => lead.columns

theorem columns_le_most (lead : Lead) : lead.columns ≤ lead.most := by
  cases lead with
  | linkedRegionals n =>
    show (if n % 2 = 1 then n else n - 2) ≤ n
    split <;> omega
  | _ => exact Nat.le_refl _

theorem IsOfEmoji.charWidth_eq {c : Char} {columns : Nat} {lead : Lead}
    (h : IsOfEmoji c columns lead) : charWidth c = 2 := by
  cases h with
  | modifier h => exact charWidth_emojiModifier h
  | emoji h => exact charWidth_defaultEmoji h

theorem IsOfEmoji.most_eq {c : Char} {columns : Nat} {lead : Lead}
    (h : IsOfEmoji c columns lead) : lead.most = columns := by
  cases h <;> rfl

theorem selectorBase_of_isTextSelectorBase {c : Char} (h : isTextSelectorBase c = true) :
    Property.selectorBases.holds c = true := by
  simp only [isTextSelectorBase, Bool.and_eq_true] at h
  exact h.1.1

/-- Whether a text begins with the emoji variation selector. -/
def asksForEmoji : Lead → Bool
  | emojiSelector _ => true
  | _ => false

theorem most_of_letter? {lead : Lead} {l : Ligature} (h : lead.letter? = some l) :
    lead.most = l.columns := by
  rcases eq_of_letter? h with rfl | rfl | rfl <;> rfl

theorem columns_link (l : Ligature) : l.link.columns = l.columns := by
  cases l <;> rfl

theorem closedColumns_le (l : Ligature) : l.closedColumns ≤ l.columns := by
  cases l <;> simp [Ligature.closedColumns, Ligature.columns]

section Most

variable {c : Char} {behind lead : Lead}

theorem columns_le_of_grows {l next : Ligature} (h : l.Grows c next) :
    next.columns ≤ l.columns + charWidth c := by
  cases h with
  | joiner hl h =>
    rw [columns_link]
    exact Nat.le_add_right _ _
  | consonantJoiner linked h =>
    obtain rfl : c = '\u2d7f' := eq_of_toNat_beq h
    change 2 ≤ 1 + charWidth '\u2d7f'
    decide
  | vowel h => exact Nat.le_add_right 1 _
  | _ => exact Nat.le_add_right _ _

theorem Takes.most_le {l : Ligature} (h : Takes c l lead) :
    lead.most ≤ l.columns + charWidth c := by
  cases h with
  | completes h => exact Nat.le_trans (closedColumns_le l) (Nat.le_add_right _ _)
  | grows hselector htext h => exact columns_le_of_grows h
  | _ => exact Nat.le_add_right _ _

/-- What a code point may add to the sequence behind it. -/
theorem Extends.most_le (h : Extends c behind lead) : lead.most ≤ behind.most + charWidth c := by
  cases h with
  | regionals n h => exact Nat.add_le_add_left (charWidth_regional h) n
  | linkRegional h => exact Nat.le_trans (charWidth_regional h) (Nat.le_add_left _ _)
  | linkedRegionals n h => exact Nat.add_le_add_left (charWidth_regional h) n
  | linkEmoji h =>
    rw [h.most_eq]
    exact Nat.zero_le _
  | letter hbehind h =>
    rw [most_of_letter? hbehind]
    exact h.most_le
  | modifier n h => exact Nat.le_add_right _ _
  | vowelE h => exact Nat.le_add_right _ _
  | vowelO h => exact Nat.le_add_right _ _
  | vowelAu h => exact Nat.le_add_right _ _
  | _ => exact Nat.zero_le _

theorem columns_le_of_ofLetter? {l : Ligature} (h : Ligature.ofLetter? c = some l) :
    l.columns ≤ charWidth c := by
  obtain ⟨opening, hfind, rfl⟩ := Option.map_eq_some_iff.mp h
  have hmem := List.mem_of_find?_eq_some hfind
  have hholds := List.find?_some hfind
  have hopenings : ∀ o ∈ Ligature.openings, o.1.Ascending ∧ o.1.avoids Property.zeroWidth = true ∧
      o.2.columns = 1 := by decide
  obtain ⟨hasc, havoids, hcolumns⟩ := hopenings opening hmem
  rw [hcolumns]
  exact charWidth_pos_of_avoids hasc havoids hholds

/-- A Kirat Rai vowel sign has a column of its own. -/
theorem charWidth_vowel {n : Nat} (hc : c.toNat = n) (hn : 0x16D67 ≤ n ∧ n ≤ 0x16D68) :
    0 < charWidth c := by
  have hholds : Property.Ranges.holds [(0x16D67, 0x16D68)] c = true := by
    simpa [Property.Ranges.holds, hc] using hn
  exact charWidth_pos_of_avoids (by decide) (by decide) hholds

theorem IsAlone.most_le (h : IsAlone c lead) : lead.most ≤ charWidth c := by
  cases h with
  | regional h => exact charWidth_regional h
  | emoji h => rw [h.most_eq, h.charWidth_eq]
  | letter h => exact columns_le_of_ofLetter? h
  | vowelE h => exact charWidth_vowel h (by decide)
  | vowelAi h => exact charWidth_vowel h (by decide)
  | plain => exact Nat.le_refl _
  | _ => exact Nat.zero_le _

/-- Only a selector behind a narrow sign makes it wider than it is alone. -/
theorem Turned.most_le (h : Turned c behind lead) :
    lead.most ≤ charWidth c +
      (behind.asksForEmoji && Property.selectorBases.holds c && decide (charWidth c < 2)).toNat := by
  cases h with
  | emojiSelector l h =>
    have hpos := charWidth_selectorBase h
    rw [h]
    change 2 ≤ charWidth c + (decide (charWidth c < 2)).toNat
    by_cases hnarrow : charWidth c < 2
    · rw [decide_eq_true hnarrow, Bool.toNat_true]
      omega
    · omega
  | textSelector l h =>
    have hpos := charWidth_selectorBase (selectorBase_of_isTextSelectorBase h)
    exact Nat.le_trans hpos (Nat.le_add_right _ _)
  | vowelE h => exact Nat.le_trans (charWidth_vowel h (by decide)) (Nat.le_add_right _ _)
  | link h hbehind => exact Nat.zero_le _

end Most

/-- Only a selector makes a text begin with one. -/
theorem isEmojiSelector_of_cons {c : Char} {behind : Lead}
    (h : (cons c behind).2.asksForEmoji = true) : isEmojiSelector c = true := by
  rcases cons_cases c behind with ⟨lead, hextends, heq⟩ | ⟨lead, hturned, heq⟩ | ⟨lead, halone, heq⟩
  · rw [heq] at h
    cases hextends with
    | letter hbehind htakes =>
      cases htakes with
      | emojiSelector hc => exact hc
      | _ => cases h
    | linkEmoji hemoji => cases hemoji <;> cases h
    | _ => cases h
  · rw [heq] at h
    cases hturned <;> cases h
  · rw [heq] at h
    cases halone with
    | emojiSelector hc => exact hc
    | emoji hemoji => cases hemoji <;> cases h
    | _ => cases h

/-- What a code point may add to the text behind it. -/
theorem most_cons_le (c : Char) (behind : Lead) :
    (cons c behind).1 + (cons c behind).2.most ≤ behind.most + charWidth c +
      (behind.asksForEmoji && Property.selectorBases.holds c && decide (charWidth c < 2)).toNat := by
  have hbehind := behind.columns_le_most
  rcases cons_cases c behind with ⟨lead, hextends, heq⟩ | ⟨lead, hturned, heq⟩ | ⟨lead, halone, heq⟩
  · have hmost := hextends.most_le
    rw [heq]
    dsimp only
    omega
  · have hmost := hturned.most_le
    rw [heq]
    dsimp only
    omega
  · have hmost := halone.most_le
    rw [heq]
    dsimp only
    omega

end Lead

theorem head?_of_asksForEmoji {s : Text} (h : (measure s).2.asksForEmoji = true) :
    s.head?.any isEmojiSelector = true := by
  cases s with
  | nil => cases h
  | cons c s => exact Lead.isEmojiSelector_of_cons h

theorem measure_le (s : Text) :
    (measure s).1 + (measure s).2.most ≤ pointColumns s + widened s := by
  induction s with
  | nil => exact Nat.le_refl _
  | cons c s ih =>
    have hcons := Lead.most_cons_le c (measure s).2
    have hwidens : ((measure s).2.asksForEmoji && Property.selectorBases.holds c &&
        decide (charWidth c < 2)).toNat ≤ (widens c s).toNat := by
      cases hselector : (measure s).2.asksForEmoji with
      | false => exact Nat.zero_le _
      | true => simp [widens, head?_of_asksForEmoji hselector]
    have hpoints : pointColumns (c :: s) = charWidth c + pointColumns s := rfl
    rw [measure_cons, widened, hpoints]
    simp only
    omega

/-- A text is wider than its code points only by the signs that a selector makes wide. -/
theorem width_le_pointColumns (s : Text) : width s ≤ pointColumns s + widened s := by
  have hmeasure := measure_le s
  have hcolumns := (measure s).2.columns_le_most
  unfold width
  omega

/-- A sign that is made wide takes a column by itself. -/
theorem widened_le_pointColumns (s : Text) : widened s ≤ pointColumns s := by
  induction s with
  | nil => exact Nat.le_refl _
  | cons c s ih =>
    have hpoints : pointColumns (c :: s) = charWidth c + pointColumns s := rfl
    rw [widened, hpoints]
    cases h : widens c s with
    | false =>
      rw [Bool.toNat_false]
      omega
    | true =>
      simp only [widens, Bool.and_eq_true] at h
      have hpos := charWidth_selectorBase h.1.1
      rw [Bool.toNat_true]
      omega

end PostfixCalc.Text
