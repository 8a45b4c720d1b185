import PostfixCalc.Proofs.Text.Columns

namespace PostfixCalc.Text

set_option maxRecDepth 8192

namespace Ligature

def isTifinagh : Ligature → Bool
  | consonant _ | joinedConsonant => true
  | _ => false

theorem Grows.isTifinagh_eq {c : Char} {l next : Ligature} (h : l.Grows c next) :
    next.isTifinagh = l.isTifinagh := by
  cases h with
  | joiner hl h => cases l <;> rfl
  | _ => rfl

theorem Grows.columns_eq {c : Char} {l next : Ligature} (h : l.Grows c next)
    (hl : l.isTifinagh = false) : next.columns = l.columns := by
  cases h with
  | joiner hl' h => exact Lead.columns_link l
  | consonantJoiner linked h => cases hl
  | _ => rfl

/-- Only the consonant joiner has a column of its own. -/
theorem Grows.zeroWidth_or {c : Char} {l next : Ligature} (h : l.Grows c next) :
    (Property.zeroWidth.holds c = true ∧ next.columns = l.columns) ∨
      (isConsonantJoiner c = true ∧ next.columns = l.columns + 1) := by
  cases h with
  | transparent h => exact .inl ⟨(Bool.and_eq_true_iff.mp h).1, rfl⟩
  | joiner hl h =>
    obtain rfl : c = '\u200d' := eq_of_toNat_beq h
    exact .inl ⟨by decide, Lead.columns_link l⟩
  | mark hl h =>
    have hzero := Property.Ranges.holds_of_within (by decide) zeroWidth_ascending (by decide) h
    exact .inl ⟨hzero, rfl⟩
  | vowel h =>
    obtain rfl : c = '\u1a17' := Char.toNat_inj.mp h
    exact .inl ⟨by decide, rfl⟩
  | consonantJoiner linked h => exact .inr ⟨h, rfl⟩

/-- A variation selector keeps any letter open. -/
theorem grows_selector (l : Ligature) {c : Char} (h : c = '\ufe0f' ∨ c = '\ufe0e') :
    l.Grows c l := by
  by_cases hl : l = alef
  · subst hl
    rcases h with rfl | rfl
    · exact .transparent (by decide)
    · exact .transparent (by decide)
  · rcases h with rfl | rfl
    · exact .mark hl (by decide)
    · exact .mark hl (by decide)

theorem closing_of_isTifinagh {l : Ligature} (hl : l.isTifinagh = true) {c : Char}
    (hc : l.closing.holds c = true) :
    Property.tifinaghConsonants.holds c = true ∧ l.closedColumns = 1 := by
  cases l with
  | consonant linked =>
    cases linked with
    | false => cases hc
    | true => exact ⟨hc, rfl⟩
  | joinedConsonant => exact ⟨hc, rfl⟩
  | _ => cases hl

/-- Only consonants open a Tifinagh sign. -/
theorem consonant_of_ofLetter? {c : Char} {l : Ligature} (h : ofLetter? c = some l)
    (hl : l.isTifinagh = true) :
    Property.tifinaghConsonants.holds c = true ∧ l = consonant false := by
  obtain ⟨opening, hfind, rfl⟩ := Option.map_eq_some_iff.mp h
  have hmem := List.mem_of_find?_eq_some hfind
  have hholds := List.find?_some hfind
  have hopenings : ∀ o ∈ openings, o.2.isTifinagh = true →
      o = (Property.tifinaghConsonants, consonant false) := by decide
  rw [hopenings opening hmem hl] at hholds ⊢
  exact ⟨hholds, rfl⟩

theorem closing_ascending (l : Ligature) : l.closing.Ascending := by
  have hclosings : ∀ t ∈ closings, Property.Ranges.Ascending t := by decide
  exact hclosings _ l.closing_mem

theorem closing_avoids_selectorBases (l : Ligature) :
    l.closing.avoids Property.selectorBases = true := by
  have hclosings : ∀ t ∈ closings, t.avoids Property.selectorBases = true := by decide
  exact hclosings _ l.closing_mem

end Ligature

namespace Lead

variable {c : Char}

/-- The joiner, the selectors, the regional indicators and the skin tone modifiers. -/
def signs : Property.Ranges :=
  [(0x200D, 0x200D), (0xFE0E, 0xFE0F), (0x1F1E6, 0x1F1FF), (0x1F3FB, 0x1F3FF)]

def vowelSigns : Property.Ranges := [(0x16D67, 0x16D68)]

theorem alone_eq (hfeed : c ≠ '\n') (hselector : isEmojiSelector c = false)
    (htext : isTextSelector c = false) (hjoiner : isJoiner c = false)
    (hregional : isRegional c = false) (hmodifier : Property.emojiModifiers.holds c = false)
    (hemoji : Property.defaultEmoji.holds c = false) :
    alone c = (ofLetter? c).getD (plain (charWidth c)) := by
  simp [alone, ofEmoji?, hfeed, hselector, htext, hjoiner, hregional, hmodifier, hemoji]

theorem ofLetter?_eq_none {table : Property.Ranges} (hasc : table.Ascending)
    (hopenings : ∀ o ∈ Ligature.openings, table.avoids o.1 = true)
    (hvowels : table.avoids vowelSigns = true) (hc : table.holds c = true) :
    ofLetter? c = none := by
  have hletter : Ligature.ofLetter? c = none := by
    rw [Ligature.ofLetter?, Option.map_eq_none_iff, List.find?_eq_none]
    intro opening hopening
    have hascending : ∀ o ∈ Ligature.openings, o.1.Ascending := by decide
    simp [Property.Ranges.not_holds_of_avoids hasc (hascending opening hopening)
      (hopenings opening hopening) hc]
  have hvowel := Property.Ranges.not_holds_of_avoids hasc
    (by decide : vowelSigns.Ascending) hvowels hc
  have hrange : ¬ (0x16D67 ≤ c.toNat ∧ c.toNat ≤ 0x16D68) := by
    simpa [Property.Ranges.holds, vowelSigns] using hvowel
  have he : c.toNat ≠ 0x16D67 := by omega
  have hai : c.toNat ≠ 0x16D68 := by omega
  simp [ofLetter?, hletter, he, hai]

theorem isRegional_eq_false {table : Property.Ranges} (hasc : table.Ascending)
    (havoids : table.avoids [(0x1F1E6, 0x1F1FF)] = true) (hc : table.holds c = true) :
    isRegional c = false := by
  have hnone := Property.Ranges.not_holds_of_avoids hasc
    (by decide : Property.Ranges.Ascending [(0x1F1E6, 0x1F1FF)]) havoids hc
  simpa [Property.Ranges.holds, isRegional] using hnone

/-- What has no column of its own begins nothing, the selectors apart. -/
theorem alone_of_zeroWidth (hc : Property.zeroWidth.holds c = true)
    (hselector : isEmojiSelector c = false) (htext : isTextSelector c = false) :
    alone c = plain 0 := by
  cases hjoiner : isJoiner c with
  | true =>
    obtain rfl : c = '\u200d' := eq_of_toNat_beq hjoiner
    decide
  | false =>
    have hlow : 0xA0 ≤ c.toNat := Property.Ranges.le_toNat_of_holds (by decide) hc
    have hfeed : c ≠ '\n' := by
      rintro rfl
      exact absurd hlow (by decide)
    have hregional := isRegional_eq_false zeroWidth_ascending (by decide) hc
    have hmodifier := Property.Ranges.not_holds_of_avoids zeroWidth_ascending
      (by decide : Property.emojiModifiers.Ascending) (by decide) hc
    have hemoji := Property.Ranges.not_holds_of_avoids zeroWidth_ascending
      (by decide : Property.defaultEmoji.Ascending) (by decide) hc
    have hletter := ofLetter?_eq_none zeroWidth_ascending (by decide) (by decide) hc
    have hcontrol : isControl c = false := by
      simp only [isControl, Bool.or_eq_false_iff, decide_eq_false_iff_not]
      omega
    have hascii : ¬ c.toNat < 0x80 := by omega
    have hwidth : charWidth c = 0 := by
      rw [charWidth, charWidth?, hcontrol, if_neg Bool.false_ne_true, if_neg hascii, if_pos hc]
      rfl
    rw [alone_eq hfeed hselector htext hjoiner hregional hmodifier hemoji, hletter, hwidth]
    rfl

/-- A letter or a sign in a table that has none of those with a rule of their own. -/
theorem alone_of_avoids {table : Property.Ranges} (hasc : table.Ascending)
    (hlow : ∀ i ∈ table, 0xA0 ≤ i.1) (hsigns : table.avoids signs = true)
    (hemoji : table.avoids Property.defaultEmoji = true) (hc : table.holds c = true) :
    alone c = (ofLetter? c).getD (plain (charWidth c)) := by
  have hfrom := Property.Ranges.le_toNat_of_holds hlow hc
  have hsign := Property.Ranges.not_holds_of_avoids hasc (by decide : signs.Ascending) hsigns hc
  have hplain := Property.Ranges.not_holds_of_avoids hasc
    (by decide : Property.defaultEmoji.Ascending) hemoji hc
  simp only [Property.Ranges.holds, signs, List.any_cons, List.any_nil, Bool.or_eq_false_iff,
    Bool.and_eq_false_iff, decide_eq_false_iff_not] at hsign
  have hfeed : c ≠ '\n' := by
    rintro rfl
    exact absurd hfrom (by decide)
  apply alone_eq hfeed
  · simp only [isEmojiSelector, beq_eq_false_iff_ne]
    omega
  · simp only [isTextSelector, beq_eq_false_iff_ne]
    omega
  · simp only [isJoiner, beq_eq_false_iff_ne]
    omega
  · simp only [isRegional, decide_eq_false_iff_not]
    omega
  · simp only [Property.emojiModifiers, Property.Ranges.holds, List.any_cons, List.any_nil,
      Bool.or_false, Bool.and_eq_false_iff, decide_eq_false_iff_not]
    omega
  · exact hplain

theorem alone_of_consonant (hc : Property.tifinaghConsonants.holds c = true) :
    alone c = letter (.consonant false) := by
  have hasc : Property.tifinaghConsonants.Ascending := by decide
  have hnone {table : Property.Ranges} (htable : table.Ascending)
      (havoids : Property.tifinaghConsonants.avoids table = true) : table.holds c = false :=
    Property.Ranges.not_holds_of_avoids hasc htable havoids hc
  have halef : Property.alefs.holds c = false := hnone (by decide) (by decide)
  have hlamed : Property.Ranges.holds [(0x5DC, 0x5DC)] c = false := hnone (by decide) (by decide)
  have hcoeng : Property.coengLetters.holds c = false := hnone (by decide) (by decide)
  have hya : Property.Ranges.holds [(0x1A10, 0x1A10)] c = false := hnone (by decide) (by decide)
  have hletter : Ligature.ofLetter? c = some (.consonant false) := by
    simp [Ligature.ofLetter?, Ligature.openings, halef, hlamed, hcoeng, hya, hc]
  have hrange : c.toNat ≤ 0x2D6F := by
    simp only [Property.tifinaghConsonants, Property.Ranges.holds, List.any_cons, List.any_nil,
      Bool.or_false, Bool.or_eq_true, Bool.and_eq_true, decide_eq_true_eq] at hc
    omega
  have he : c.toNat ≠ 0x16D67 := by omega
  have hai : c.toNat ≠ 0x16D68 := by omega
  rw [alone_of_avoids hasc (by decide) (by decide) (by decide) hc]
  simp [ofLetter?, he, hai, hletter]

/-- What completes a sign begins nothing by itself, Tifinagh consonants apart. -/
theorem alone_of_closing {l : Ligature} (hl : l.isTifinagh = false)
    (hc : l.closing.holds c = true) : alone c = plain l.closedColumns := by
  by_cases hcoeng : l = .coengLetter
  · subst hcoeng
    have hrange : 0x17D2 ≤ c.toNat ∧ c.toNat ≤ 0x17D2 := by
      simpa [Ligature.closing, Property.Ranges.holds] using hc
    obtain rfl : c = '\u17d2' := Char.toNat_inj.mp (Nat.le_antisymm hrange.2 hrange.1)
    decide
  · have hclosing : (∀ i ∈ l.closing, 0xA0 ≤ i.1) ∧ l.closing.avoids signs = true ∧
        l.closing.avoids Property.defaultEmoji = true ∧
        (∀ o ∈ Ligature.openings, l.closing.avoids o.1 = true) ∧
        l.closing.avoids vowelSigns = true ∧ l.closing.avoids Property.zeroWidth = true ∧
        l.closing.avoids Property.wide = true ∧ l.closing.avoids [(0x17D8, 0x17D8)] = true ∧
        l.closedColumns = 1 := by
      rcases l with _ | linked | linked | _ | linked | _ | _ | linked | _
      any_goals cases linked
      all_goals first
        | exact absurd rfl hcoeng
        | decide
        | cases hl
    obtain ⟨hlow, hsigns, hemoji, hopenings, hvowels, hzero, hwide, hbeyyal, hcolumns⟩ := hclosing
    have hasc := l.closing_ascending
    rw [alone_of_avoids hasc hlow hsigns hemoji hc, ofLetter?_eq_none hasc hopenings hvowels hc,
      charWidth_of_narrow hasc hlow hzero hwide hbeyyal hc, hcolumns]
    rfl

end Lead

/-- What keeps a letter open begins nothing by itself, but the consonant joiner has a column. -/
theorem Ligature.Grows.alone_eq {c : Char} {l next : Ligature} (h : l.Grows c next)
    (hselector : isEmojiSelector c = false) (htext : isTextSelector c = false) :
    ∃ n, Lead.alone c = .plain n ∧ next.columns = l.columns + n ∧
      n ≤ (isConsonantJoiner c).toNat := by
  rcases h.zeroWidth_or with ⟨hc, hcolumns⟩ | ⟨hc, hcolumns⟩
  · exact ⟨0, Lead.alone_of_zeroWidth hc hselector htext, hcolumns, Nat.zero_le _⟩
  · obtain rfl : c = '\u2d7f' := eq_of_toNat_beq hc
    exact ⟨1, by decide, hcolumns, by decide⟩

namespace Lead

variable {c : Char}

theorem Takes.not_selectorBase {l : Ligature} {lead : Lead} (h : Takes c l lead) :
    Property.selectorBases.holds c = false := by
  have hbases : Property.selectorBases.Ascending := by decide
  have hzero (hc : Property.zeroWidth.holds c = true) : Property.selectorBases.holds c = false :=
    Property.Ranges.not_holds_of_avoids zeroWidth_ascending hbases (by decide) hc
  cases h with
  | emojiSelector h =>
    obtain rfl : c = '\ufe0f' := eq_of_toNat_beq h
    decide
  | textSelector h =>
    obtain rfl : c = '\ufe0e' := eq_of_toNat_beq h
    decide
  | completes h =>
    exact Property.Ranges.not_holds_of_avoids l.closing_ascending hbases
      l.closing_avoids_selectorBases h
  | grows hselector htext h =>
    rcases h.zeroWidth_or with ⟨hc, -⟩ | ⟨hc, -⟩
    · exact hzero hc
    · obtain rfl : c = '\u2d7f' := eq_of_toNat_beq hc
      decide

/-- The second sequence ends in a letter that the first one lacks. -/
inductive Bare : Lead → Ligature → Lead → Prop
  | plain (n : Nat) (l : Ligature) : Bare (plain n) l (letter l)
  | emojiSelector (l : Ligature) : Bare (emojiSelector none) l (emojiSelector (some l))
  | textSelector (l : Ligature) : Bare (textSelector none) l (textSelector (some l))

/-- What a code point begins by itself that a letter takes in: nothing if the letter stays open or
the sign is complete, but a Tifinagh consonant is a letter again. -/
theorem Takes.alone_cases {l : Ligature} {lead : Lead} (h : Takes c l lead) :
    (∃ next, Bare (alone c) next lead ∧ l.Grows c next ∧
        next.columns = l.columns + (alone c).columns ∧
        (alone c).columns ≤ (isConsonantJoiner c).toNat) ∨
      (l.isTifinagh = false ∧ alone c = lead ∧ lead = plain l.closedColumns) ∨
      (l.isTifinagh = true ∧ l.closing.holds c = true ∧ alone c = letter (.consonant false) ∧
        lead = plain 1) := by
  cases h with
  | emojiSelector h =>
    obtain rfl : c = '\ufe0f' := eq_of_toNat_beq h
    exact .inl ⟨l, .emojiSelector l, l.grows_selector (.inl rfl), rfl, Nat.zero_le _⟩
  | textSelector h =>
    obtain rfl : c = '\ufe0e' := eq_of_toNat_beq h
    exact .inl ⟨l, .textSelector l, l.grows_selector (.inr rfl), rfl, Nat.zero_le _⟩
  | @grows next hselector htext h =>
    obtain ⟨n, halone, hcolumns, hjoiner⟩ := h.alone_eq hselector htext
    rw [halone]
    exact .inl ⟨next, .plain n next, h, hcolumns, hjoiner⟩
  | completes h =>
    right
    cases hl : l.isTifinagh with
    | false => exact .inl ⟨rfl, alone_of_closing hl h, rfl⟩
    | true =>
      obtain ⟨hconsonant, hcolumns⟩ := Ligature.closing_of_isTifinagh hl h
      rw [hcolumns]
      exact .inr ⟨rfl, h, alone_of_consonant hconsonant, rfl⟩

/-- A text begins with a letter that the code point in front has kept open, or begins. -/
theorem letter?_cons {behind : Lead} {l : Ligature} (h : (cons c behind).2.letter? = some l) :
    (∃ l', behind.letter? = some l' ∧ l'.Grows c l) ∨ Ligature.ofLetter? c = some l := by
  rcases Lead.cons_cases c behind with
    ⟨lead, hextends, heq⟩ | ⟨lead, hturned, heq⟩ | ⟨lead, halone, heq⟩
  · rw [heq] at h
    cases hextends with
    | @letter _ _ l' hbehind htakes =>
      refine .inl ⟨l', hbehind, ?_⟩
      cases htakes with
      | emojiSelector hc =>
        obtain rfl : l' = l := Option.some.inj h
        exact l'.grows_selector (.inl (eq_of_toNat_beq hc))
      | textSelector hc =>
        obtain rfl : l' = l := Option.some.inj h
        exact l'.grows_selector (.inr (eq_of_toNat_beq hc))
      | completes hc => cases h
      | grows hselector htext hc =>
        obtain rfl := Option.some.inj h
        exact hc
    | linkEmoji hemoji => cases hemoji <;> cases h
    | _ => cases h
  · rw [heq] at h
    cases hturned <;> cases h
  · rw [heq] at h
    cases halone with
    | letter hletter =>
      obtain rfl := Option.some.inj h
      exact .inr hletter
    | emoji hemoji => cases hemoji <;> cases h
    | _ => cases h

theorem extend?_of_letter? {lead : Lead} {l : Ligature} (h : lead.letter? = some l) (c : Char) :
    lead.extend? c = extendLetter? c l := by
  rcases eq_of_letter? h with rfl | rfl | rfl <;> rfl

theorem isEmoji_of_letter? {lead : Lead} {l : Ligature} (h : lead.letter? = some l) :
    lead.isEmoji = false := by
  rcases eq_of_letter? h with rfl | rfl | rfl <;> rfl

namespace Bare

variable {u v : Lead} {l : Ligature} (h : Bare u l v)

include h

theorem letter?_eq : v.letter? = some l := by
  cases h <;> rfl

theorem columns_eq : v.columns = l.columns := by
  cases h <;> rfl

theorem cons_eq (c : Char) : cons c u = (u.columns, start c u) := by
  cases h <;> rfl

theorem start_eq (c : Char) : start c v = start c u := by
  cases h <;> rfl

theorem start_of_takes {c : Char} {lead : Lead} (htakes : Takes c l lead) :
    start c u = alone c := by
  have hbase := htakes.not_selectorBase
  cases h with
  | plain n l => simp [start, turned?, isEmoji]
  | emojiSelector l => simp [start, turned?, hbase]
  | textSelector l => simp [start, turned?, isTextSelectorBase, hbase]

/-- A code point settles the letter with what else there is, or the letter takes it in. -/
theorem cons_cases (c : Char) :
    (∃ lead, cons c u = (u.columns, lead) ∧ cons c v = (l.columns, lead)) ∨
      ∃ lead, Takes c l lead ∧ cons c u = (u.columns, alone c) ∧ cons c v = (0, lead) := by
  have hv : v.extend? c = extendLetter? c l := extend?_of_letter? h.letter?_eq c
  cases hextend : extendLetter? c l with
  | none =>
    refine .inl ⟨start c u, h.cons_eq c, ?_⟩
    rw [cons, hv, hextend, h.columns_eq, h.start_eq]
  | some lead =>
    have htakes := takes_of_extendLetter? hextend
    refine .inr ⟨lead, htakes, ?_, ?_⟩
    · rw [h.cons_eq, h.start_of_takes htakes]
    · rw [cons, hv, hextend]

end Bare

end Lead

/-- Puts a code point in front of a text that has been measured. -/
def measureCons (c : Char) (rest : Nat × Lead) : Nat × Lead :=
  ((Lead.cons c rest.2).1 + rest.1, (Lead.cons c rest.2).2)

theorem measure_eq (s : Text) : measure s = s.foldr measureCons (0, .plain 0) := rfl

theorem measure_append_eq (a b : Text) : measure (a ++ b) = a.foldr measureCons (measure b) := by
  rw [measure_eq, List.foldr_append, ← measure_eq]

theorem measureCons_nil (c : Char) : measureCons c (0, .plain 0) = (0, Lead.alone c) := by
  simp [measureCons, Lead.cons, Lead.extend?, Lead.columns, Lead.start, Lead.turned?, Lead.isEmoji]

end PostfixCalc.Text
