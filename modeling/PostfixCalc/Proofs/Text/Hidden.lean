import PostfixCalc.Proofs.Text.Ligatures

namespace PostfixCalc.Text

set_option maxRecDepth 8192

namespace Lead

/-- The columns that are certainly settled behind a sequence: an emoji that hides another one shows
by itself. -/
def settledBehind : Lead → Nat
  | modifier n | emoji n => 2 - n
  | link | linkedKeycap | linkedSelector | linkedRegionals _ | linkedTags _ _ => 2
  | _ => 0

theorem two_le_columns {lead : Lead} (h : lead.isEmoji = true) :
    2 ≤ lead.columns + lead.settledBehind := by
  cases lead with
  | modifier n =>
    change 2 ≤ n + (2 - n)
    omega
  | emoji n =>
    change 2 ≤ n + (2 - n)
    omega
  | regionals n => exact of_decide_eq_true h
  | linkedRegionals n => exact Nat.le_add_left 2 _
  | _ => cases h

theorem IsOfEmoji.settledBehind_eq {c : Char} {columns : Nat} {lead : Lead}
    (h : IsOfEmoji c columns lead) : lead.settledBehind = 2 - columns := by
  cases h <;> rfl

theorem IsAlone.settledBehind_eq {c : Char} {lead : Lead} (h : IsAlone c lead) :
    lead.settledBehind = 0 := by
  cases h with
  | emoji h => exact h.settledBehind_eq
  | _ => rfl

theorem Turned.settledBehind_le {c : Char} {behind lead : Lead} (h : Turned c behind lead) :
    lead.settledBehind ≤ behind.columns + behind.settledBehind := by
  cases h with
  | link _ hbehind => exact two_le_columns hbehind
  | _ => exact Nat.zero_le _

theorem Takes.settledBehind_eq {c : Char} {l : Ligature} {lead : Lead} (h : Takes c l lead) :
    lead.settledBehind = 0 := by
  cases h <;> rfl

theorem Extends.settledBehind_le {c : Char} {behind lead : Lead} (h : Extends c behind lead) :
    lead.settledBehind ≤ behind.settledBehind := by
  cases h with
  | linkEmoji h =>
    rw [h.settledBehind_eq]
    exact Nat.le_refl _
  | letter hbehind h =>
    rw [h.settledBehind_eq]
    exact Nat.zero_le _
  | _ => simp [settledBehind]

theorem settledBehind_cons_le (c : Char) (behind : Lead) :
    (cons c behind).2.settledBehind ≤ (cons c behind).1 + behind.settledBehind := by
  rcases cons_cases c behind with ⟨lead, hextends, heq⟩ | ⟨lead, hturned, heq⟩ | ⟨lead, halone, heq⟩
  · rw [heq]
    exact Nat.le_trans hextends.settledBehind_le (Nat.le_add_left _ _)
  · rw [heq]
    exact hturned.settledBehind_le
  · rw [heq]
    dsimp only
    rw [halone.settledBehind_eq]
    exact Nat.zero_le _

/-- The second sequence begins with the same code points as the first, but a joiner between clusters
has linked it to an emoji, which hides what the first one shows. -/
inductive Hides : Lead → Lead → Prop
  | link : Hides (plain 0) link
  | keycap : Hides (plain 0) linkedKeycap
  | selector : Hides (emojiSelector none) linkedSelector
  | tags (letters digits : Nat) : Hides (plain 0) (linkedTags letters digits)
  | modifier : Hides (modifier 2) (modifier 0)
  | emoji : Hides (emoji 2) (emoji 0)
  | regionals {n m : Nat} (hle : n ≤ m) (hpaired : 2 ≤ n ∨ n = m) :
      Hides (regionals n) (linkedRegionals m)

/-- No more than an emoji is hidden. -/
theorem Hides.columns_le {lead lead' : Lead} (h : Hides lead lead') :
    lead.columns ≤ lead'.columns + 2 := by
  cases h with
  | @regionals n m hle hpaired =>
    change n ≤ (if m % 2 = 1 then m else m - 2) + 2
    split <;> omega
  | _ => simp [columns]

theorem Hides.isEmoji_eq {lead lead' : Lead} (h : Hides lead lead') :
    lead.isEmoji = lead'.isEmoji := by
  cases h with
  | @regionals n m hle hpaired =>
    change decide (2 ≤ n) = decide (2 ≤ m)
    rw [decide_eq_decide]
    omega
  | _ => rfl

theorem alone_of_selector {c : Char} (h : isEmojiSelector c = true) :
    alone c = emojiSelector none := by
  obtain rfl : c = '\ufe0f' := eq_of_toNat_beq h
  rfl

theorem alone_of_keycap {c : Char} (h : isKeycap c = true) : alone c = plain 0 := by
  obtain rfl : c = '\u20e3' := eq_of_toNat_beq h
  decide

theorem alone_of_regional {c : Char} (h : isRegional c = true) : alone c = regionals 1 := by
  have hrange : 0x1F1E6 ≤ c.toNat ∧ c.toNat ≤ 0x1F1FF := by simpa [isRegional] using h
  have hfeed : c ≠ '\n' := by
    rintro rfl
    exact absurd hrange.1 (by decide)
  have hselector : c.toNat ≠ 0xFE0F := by omega
  have htext : c.toNat ≠ 0xFE0E := by omega
  have hjoiner : c.toNat ≠ 0x200D := by omega
  simp [alone, hfeed, isEmojiSelector, hselector, isTextSelector, htext, isJoiner, hjoiner, h]

theorem alone_of_tag {c : Char} (h : 0xE0020 ≤ c.toNat ∧ c.toNat ≤ 0xE007F) :
    alone c = plain 0 := by
  have htags : Property.Ranges.holds [(0xE0020, 0xE007F)] c = true := by
    simpa [Property.Ranges.holds] using h
  have hzero := Property.Ranges.holds_of_within (by decide) zeroWidth_ascending (by decide) htags
  apply alone_of_zeroWidth hzero
  · simp only [isEmojiSelector, beq_eq_false_iff_ne]
    omega
  · simp only [isTextSelector, beq_eq_false_iff_ne]
    omega

theorem alone_of_blackFlag {c : Char} (h : isBlackFlag c = true) : alone c = emoji 2 := by
  obtain rfl : c = '🏴' := eq_of_toNat_beq h
  decide

/-- A code point that is an emoji begins one, shown or hidden. -/
theorem hides_ofEmoji? {c : Char} {lead : Lead} (hselector : isEmojiSelector c = false)
    (hregional : isRegional c = false) (h : ofEmoji? c 0 = some lead) : Hides (alone c) lead := by
  have hwidth := (isOfEmoji_of_ofEmoji? h).charWidth_eq
  have hfeed : c ≠ '\n' := by
    rintro rfl
    exact absurd hwidth (by decide)
  have htext : isTextSelector c = false := by
    by_contra hc
    obtain rfl : c = '\ufe0e' := Char.toNat_inj.mp (by simpa [isTextSelector] using hc)
    exact absurd hwidth (by decide)
  have hjoiner : isJoiner c = false := by
    by_contra hc
    obtain rfl : c = '\u200d' := Char.toNat_inj.mp (by simpa [isJoiner] using hc)
    exact absurd hwidth (by decide)
  simp only [alone, hfeed, hselector, htext, hjoiner, hregional, Bool.false_eq_true, if_false]
  unfold ofEmoji? at h ⊢
  split_ifs at h with hmodifier hemoji
  · obtain rfl := Option.some.inj h
    rw [if_pos hmodifier]
    exact .modifier
  · obtain rfl := Option.some.inj h
    rw [if_neg hmodifier, if_pos hemoji]
    exact .emoji

theorem hides_extendLink? {c : Char} {lead : Lead} (h : extendLink? c = some lead) :
    Hides (alone c) lead := by
  unfold extendLink? at h
  split_ifs at h with hselector hkeycap hregional htag
  · obtain rfl := Option.some.inj h
    rw [alone_of_selector hselector]
    exact .selector
  · obtain rfl := Option.some.inj h
    rw [alone_of_keycap hkeycap]
    exact .keycap
  · obtain rfl := Option.some.inj h
    rw [alone_of_regional hregional]
    exact .regionals (Nat.le_refl _) (.inr rfl)
  · obtain rfl := Option.some.inj h
    have hc : c.toNat = 0xE007F := beq_iff_eq.mp htag
    rw [alone_of_tag (by omega)]
    exact .tags 0 0
  · exact hides_ofEmoji? (by simpa using hselector) (by simpa using hregional) h

theorem hides_extendTags? {c : Char} {letters digits : Nat} {lead : Lead}
    (h : extendTags? c letters digits = some lead) : Hides (alone c) lead := by
  unfold extendTags? at h
  split_ifs at h with hletter hdigit hflag
  · obtain rfl := Option.some.inj h
    have hc : 0xE0061 ≤ c.toNat ∧ c.toNat ≤ 0xE007A :=
      of_decide_eq_true (Bool.and_eq_true_iff.mp hletter).1
    rw [alone_of_tag (by omega)]
    exact .tags (letters + 1) 0
  · obtain rfl := Option.some.inj h
    have hc : 0xE0030 ≤ c.toNat ∧ c.toNat ≤ 0xE0039 :=
      of_decide_eq_true (Bool.and_eq_true_iff.mp hdigit).1
    rw [alone_of_tag (by omega)]
    exact .tags letters (digits + 1)
  · obtain rfl := Option.some.inj h
    rw [alone_of_blackFlag (Bool.and_eq_true_iff.mp hflag).1]
    exact .emoji

theorem cons_plain_zero (c : Char) : cons c (plain 0) = (0, alone c) := by
  simp [cons, extend?, columns, start, turned?, isEmoji]

/-- What neither sequence takes in settles what has been hidden. -/
theorem Hides.cons_of_none {c : Char} {lead lead' : Lead} (h : Hides lead lead')
    (hl : lead.extend? c = none) (hl' : lead'.extend? c = none)
    (hturned : lead.turned? c = lead'.turned? c) :
    (cons c lead).2 = (cons c lead').2 ∧ (cons c lead).1 ≤ (cons c lead').1 + 2 := by
  have hcolumns := h.columns_le
  simp only [cons, hl, hl', start, hturned, true_and]
  exact hcolumns

/-- A code point in front is taken in by both sequences or by none of them, and then what has been
hidden is settled. -/
theorem Hides.cons {lead lead' : Lead} (h : Hides lead lead') (c : Char) :
    (Hides (cons c lead).2 (cons c lead').2 ∧ (cons c lead).1 = (cons c lead').1) ∨
      ((cons c lead).2 = (cons c lead').2 ∧ (cons c lead).1 ≤ (cons c lead').1 + 2) := by
  have hnone := h.cons_of_none (c := c)
  have hboth {next next' : Lead} (hl : lead.extend? c = some next)
      (hl' : lead'.extend? c = some next') (hnext : Hides next next') :
      Hides (Lead.cons c lead).2 (Lead.cons c lead').2 ∧
        (Lead.cons c lead).1 = (Lead.cons c lead').1 := by
    simpa [Lead.cons, hl, hl'] using hnext
  cases h with
  | link =>
    cases hc : extendLink? c with
    | none => exact .inr (hnone rfl hc rfl)
    | some next =>
      left
      rw [cons_plain_zero, Lead.cons, extend?, hc]
      exact ⟨hides_extendLink? hc, rfl⟩
  | tags letters digits =>
    cases hc : extendTags? c letters digits with
    | none => exact .inr (hnone rfl hc rfl)
    | some next =>
      left
      rw [cons_plain_zero, Lead.cons, extend?, hc]
      exact ⟨hides_extendTags? hc, rfl⟩
  | keycap =>
    by_cases hc : isEmojiSelector c = true
    · left
      rw [cons_plain_zero, Lead.cons, extend?, if_pos hc, alone_of_selector hc]
      exact ⟨.selector, rfl⟩
    · exact .inr (hnone rfl (if_neg hc) rfl)
  | selector =>
    by_cases hc : Property.selectorBases.holds c = true
    · left
      simp only [Lead.cons, extend?, Option.bind_none, start, turned?, hc, if_true, columns]
      exact ⟨.emoji, rfl⟩
    · refine .inr (hnone rfl (if_neg hc) ?_)
      simp [turned?, hc, isEmoji]
  | modifier =>
    by_cases hc : Property.modifierBases.holds c = true
    · exact .inl (hboth (if_pos hc) (if_pos hc) .emoji)
    · exact .inr (hnone (if_neg hc) (if_neg hc) rfl)
  | emoji => exact .inr (hnone rfl rfl rfl)
  | @regionals n m hle hpaired =>
    by_cases hc : isRegional c = true
    · refine .inl (hboth (if_pos hc) (if_pos hc) (.regionals ?_ ?_))
      · omega
      · omega
    · have hemoji := (Hides.regionals hle hpaired).isEmoji_eq
      refine .inr (hnone (if_neg hc) (if_neg hc) ?_)
      simp [turned?, hemoji]

end Lead

end PostfixCalc.Text
