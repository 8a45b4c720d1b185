import PostfixCalc.Proofs.Text.Boundaries
import PostfixCalc.Proofs.Text.Columns

namespace PostfixCalc.Text

set_option maxRecDepth 8192

namespace Lead

/-- The class of the first code point of a sequence, where it is told by the kind of sequence. -/
def firstClass? : Lead → Option ClusterClass
  | lineFeed => some .lf
  | emojiSelector _ | textSelector _ | modifier _ => some .extend
  | linkedKeycap | linkedSelector | linkedTags _ _ => some .extend
  | link => some .joiner
  | regionals _ | linkedRegionals _ => some .regional
  | vowelE | vowelAi => some .vowel
  | plain _ | emoji _ | letter _ => none

section FirstClass

variable {c : Char} {k : ClusterClass}

theorem class_emojiSelector (h : isEmojiSelector c = true) : ClusterClass.of c = .extend := by
  obtain rfl : c = '\ufe0f' := eq_of_toNat_beq h
  decide

theorem class_textSelector (h : isTextSelector c = true) : ClusterClass.of c = .extend := by
  obtain rfl : c = '\ufe0e' := eq_of_toNat_beq h
  decide

theorem class_keycap (h : isKeycap c = true) : ClusterClass.of c = .extend := by
  obtain rfl : c = '\u20e3' := eq_of_toNat_beq h
  decide

theorem class_joiner (h : isJoiner c = true) : ClusterClass.of c = .joiner := by
  obtain rfl : c = '\u200d' := eq_of_toNat_beq h
  decide

theorem class_emojiModifier (h : Property.emojiModifiers.holds c = true) :
    ClusterClass.of c = .extend :=
  ClusterClass.of_eq_extend (by decide) (by decide) (by decide)
    (by decide) h

theorem class_tag {low high : Nat} (hlow : 0xE0020 ≤ low) (hhigh : high ≤ 0xE007F)
    (h : low ≤ c.toNat ∧ c.toNat ≤ high) : ClusterClass.of c = .extend := by
  have hholds : Property.Ranges.holds [(0xE0020, 0xE007F)] c = true := by
    simp only [Property.Ranges.holds, List.any_cons, List.any_nil, Bool.or_false, Bool.and_eq_true,
      decide_eq_true_eq]
    omega
  exact ClusterClass.of_eq_extend (by decide) (by decide) (by decide) (by decide) hholds

theorem class_tagEnd (h : isTagEnd c = true) : ClusterClass.of c = .extend := by
  have hc : c.toNat = 0xE007F := beq_iff_eq.mp h
  exact class_tag (by decide) (by decide) ⟨Nat.le_of_eq hc.symm, Nat.le_of_eq hc⟩

theorem class_tagLetter (h : isTagLetter c = true) : ClusterClass.of c = .extend :=
  class_tag (by decide) (by decide) (of_decide_eq_true h)

theorem class_tagDigit (h : isTagDigit c = true) : ClusterClass.of c = .extend :=
  class_tag (by decide) (by decide) (of_decide_eq_true h)

/-- A vowel sign of the Kirat Rai script. -/
theorem class_vowel {n : Nat} (hc : c.toNat = n) (hn : n = 0x16D63 ∨ 0x16D67 ≤ n ∧ n ≤ 0x16D69) :
    ClusterClass.of c = .vowel := by
  obtain rfl : c = Char.ofNat n := by rw [← hc, Char.ofNat_toNat]
  obtain rfl | rfl | rfl | rfl : n = 0x16D63 ∨ n = 0x16D67 ∨ n = 0x16D68 ∨ n = 0x16D69 := by omega
  · decide
  · decide
  · decide
  · decide

theorem IsOfEmoji.class_eq {columns : Nat} {lead : Lead} (h : IsOfEmoji c columns lead)
    (hk : lead.firstClass? = some k) : ClusterClass.of c = k := by
  cases h with
  | modifier h => exact (class_emojiModifier h).trans (Option.some.inj hk)
  | emoji h => cases hk

theorem IsAlone.class_eq {lead : Lead} (h : IsAlone c lead) (hk : lead.firstClass? = some k) :
    ClusterClass.of c = k := by
  cases h with
  | lineFeed h =>
    obtain rfl := h
    exact Option.some.inj hk
  | emojiSelector h => exact (class_emojiSelector h).trans (Option.some.inj hk)
  | textSelector h => exact (class_textSelector h).trans (Option.some.inj hk)
  | regional h => exact (ClusterClass.of_eq_regional h).trans (Option.some.inj hk)
  | emoji h => exact h.class_eq hk
  | vowelE h => exact (class_vowel h (by decide)).trans (Option.some.inj hk)
  | vowelAi h => exact (class_vowel h (by decide)).trans (Option.some.inj hk)
  | _ => cases hk

theorem Turned.class_eq {behind lead : Lead} (h : Turned c behind lead)
    (hk : lead.firstClass? = some k) : ClusterClass.of c = k := by
  cases h with
  | vowelE h => exact (class_vowel h (by decide)).trans (Option.some.inj hk)
  | link h => exact (class_joiner h).trans (Option.some.inj hk)
  | _ => cases hk

theorem Takes.class_eq {l : Ligature} {lead : Lead} (h : Takes c l lead)
    (hk : lead.firstClass? = some k) : ClusterClass.of c = k := by
  cases h with
  | emojiSelector h => exact (class_emojiSelector h).trans (Option.some.inj hk)
  | textSelector h => exact (class_textSelector h).trans (Option.some.inj hk)
  | _ => cases hk

theorem Extends.class_eq {behind lead : Lead} (h : Extends c behind lead)
    (hk : lead.firstClass? = some k) : ClusterClass.of c = k := by
  cases h with
  | linkSelector h => exact (class_emojiSelector h).trans (Option.some.inj hk)
  | linkKeycap h => exact (class_keycap h).trans (Option.some.inj hk)
  | linkRegional h => exact (ClusterClass.of_eq_regional h).trans (Option.some.inj hk)
  | linkTags h => exact (class_tagEnd h).trans (Option.some.inj hk)
  | linkEmoji h => exact h.class_eq hk
  | linkedKeycap h => exact (class_emojiSelector h).trans (Option.some.inj hk)
  | regionals n h => exact (ClusterClass.of_eq_regional h).trans (Option.some.inj hk)
  | linkedRegionals n h => exact (ClusterClass.of_eq_regional h).trans (Option.some.inj hk)
  | tagLetter letters digits h => exact (class_tagLetter h).trans (Option.some.inj hk)
  | tagDigit letters digits h => exact (class_tagDigit h).trans (Option.some.inj hk)
  | letter hbehind h => exact h.class_eq hk
  | vowelE h => exact (class_vowel h (by decide)).trans (Option.some.inj hk)
  | _ => cases hk

theorem class_cons {behind : Lead} (h : (cons c behind).2.firstClass? = some k) :
    ClusterClass.of c = k := by
  rcases cons_cases c behind with ⟨lead, hextends, heq⟩ | ⟨lead, hturned, heq⟩ | ⟨lead, halone, heq⟩
  · rw [heq] at h
    exact hextends.class_eq h
  · rw [heq] at h
    exact hturned.class_eq h
  · rw [heq] at h
    exact halone.class_eq h

end FirstClass

section Joined

variable {c : Char}

theorem selectorBase_open (h : Property.selectorBases.holds c = true) :
    (ClusterClass.of c).standsAlone = false :=
  ClusterClass.not_standsAlone_of_avoids (by decide) (by decide) (by decide) h

theorem modifierBase_open (h : Property.modifierBases.holds c = true) :
    (ClusterClass.of c).standsAlone = false :=
  ClusterClass.not_standsAlone_of_avoids (by decide) (by decide) (by decide) h

theorem defaultEmoji_open (h : Property.defaultEmoji.holds c = true) :
    (ClusterClass.of c).standsAlone = false :=
  ClusterClass.not_standsAlone_of_avoids (by decide) (by decide) (by decide) h

theorem mark_open (h : ClusterClass.of c = .extend) : (ClusterClass.of c).standsAlone = false := by
  rw [h]
  rfl

theorem regional_open (h : isRegional c = true) : (ClusterClass.of c).standsAlone = false := by
  rw [ClusterClass.of_eq_regional h]
  rfl

theorem IsOfEmoji.standsAlone_eq {columns : Nat} {lead : Lead} (h : IsOfEmoji c columns lead) :
    (ClusterClass.of c).standsAlone = false := by
  cases h with
  | modifier h => exact mark_open (class_emojiModifier h)
  | emoji h => exact defaultEmoji_open h

theorem blackFlag_open (h : isBlackFlag c = true) : (ClusterClass.of c).standsAlone = false := by
  obtain rfl : c = '🏴' := eq_of_toNat_beq h
  decide

/-- A code point and one of the class behind it are of one cluster, whatever is in front. -/
inductive Joined (c : Char) : ClusterClass → Prop
  | lineFeed (h : c = '\r') : Joined c .lf
  | vowel (h : ClusterClass.of c = .vowel) : Joined c .vowel
  | mark (h : (ClusterClass.of c).standsAlone = false) : Joined c .extend
  | joiner (h : (ClusterClass.of c).standsAlone = false) : Joined c .joiner

theorem Joined.joins {k : ClusterClass} (h : Joined c k) (s : Text) :
    (endTail (s ++ [c])).joins k = true := by
  cases h with
  | lineFeed h =>
    obtain rfl := h
    exact endTail_return s
  | vowel h => exact endTail_joins_vowel s h
  | mark h => exact (endTail_joins_mark s h).1
  | joiner h => exact (endTail_joins_mark s h).2

/-- A sequence that a code point extends is joined by its cluster, unless both are regional
indicators or it is a letter that makes one sign with a letter in front. -/
theorem Extends.joined {behind lead : Lead} (h : Extends c behind lead) :
    (∃ k, behind.firstClass? = some k ∧ Joined c k) ∨
      (behind.firstClass? = some .regional ∧ isRegional c = true) ∨
      ∃ l, behind.letter? = some l ∧ Takes c l lead := by
  cases h with
  | regionals n h => exact .inr (.inl ⟨rfl, h⟩)
  | linkedRegionals n h => exact .inr (.inl ⟨rfl, h⟩)
  | letter hbehind h => exact .inr (.inr ⟨_, hbehind, h⟩)
  | lineFeed h => exact .inl ⟨_, rfl, .lineFeed h⟩
  | modifier n h => exact .inl ⟨_, rfl, .mark (modifierBase_open h)⟩
  | linkedKeycap h => exact .inl ⟨_, rfl, .mark (mark_open (class_emojiSelector h))⟩
  | linkedSelector h => exact .inl ⟨_, rfl, .mark (selectorBase_open h)⟩
  | tagLetter letters digits h => exact .inl ⟨_, rfl, .mark (mark_open (class_tagLetter h))⟩
  | tagDigit letters digits h => exact .inl ⟨_, rfl, .mark (mark_open (class_tagDigit h))⟩
  | blackFlag letters digits h => exact .inl ⟨_, rfl, .mark (blackFlag_open h)⟩
  | linkSelector h => exact .inl ⟨_, rfl, .joiner (mark_open (class_emojiSelector h))⟩
  | linkKeycap h => exact .inl ⟨_, rfl, .joiner (mark_open (class_keycap h))⟩
  | linkRegional h => exact .inl ⟨_, rfl, .joiner (regional_open h)⟩
  | linkTags h => exact .inl ⟨_, rfl, .joiner (mark_open (class_tagEnd h))⟩
  | linkEmoji h => exact .inl ⟨_, rfl, .joiner h.standsAlone_eq⟩
  | vowelE h => exact .inl ⟨_, rfl, .vowel (class_vowel h (by decide))⟩
  | vowelAu h => exact .inl ⟨_, rfl, .vowel (class_vowel h (by decide))⟩
  | vowelO h =>
    rcases h with h | h
    · exact .inl ⟨_, rfl, .vowel (class_vowel h (by decide))⟩
    · exact .inl ⟨_, rfl, .vowel (class_vowel h (by decide))⟩

/-- A sequence that changes the code point in front is joined by its cluster, unless that is a
joiner and links. -/
theorem Turned.joined {behind lead : Lead} (h : Turned c behind lead) :
    (∃ k, behind.firstClass? = some k ∧ Joined c k) ∨
      (isJoiner c = true ∧ behind.isEmoji = true ∧ lead = Lead.link) := by
  cases h with
  | emojiSelector l h => exact .inl ⟨_, rfl, .mark (selectorBase_open h)⟩
  | textSelector l h =>
    exact .inl ⟨_, rfl, .mark (selectorBase_open (selectorBase_of_isTextSelectorBase h))⟩
  | vowelE h => exact .inl ⟨_, rfl, .vowel (class_vowel h (by decide))⟩
  | link h hbehind => exact .inr ⟨h, hbehind, rfl⟩

end Joined

end Lead

/-- Between clusters the first code point of the second text does not join the cluster in front. -/
theorem not_joins_of_firstClass? {s b : Text} {c : Char} (h : Apart (s ++ [c]) b) {k : ClusterClass}
    (hk : (measure b).2.firstClass? = some k) : (endTail (s ++ [c])).joins k = false := by
  cases b with
  | nil => cases hk
  | cons d b =>
    have hd : ClusterClass.of d = k := Lead.class_cons hk
    have hne : s ++ [c] ≠ [] := List.append_ne_nil_of_right_ne_nil s (List.cons_ne_nil c [])
    rw [← hd]
    exact not_joins_of_apart hne h

theorem not_joined_of_apart {s b : Text} {c : Char} (h : Apart (s ++ [c]) b) {k : ClusterClass}
    (hk : (measure b).2.firstClass? = some k) : ¬ Lead.Joined c k := by
  intro hjoined
  have hnot := not_joins_of_firstClass? h hk
  rw [hjoined.joins s] at hnot
  cases hnot

end PostfixCalc.Text
