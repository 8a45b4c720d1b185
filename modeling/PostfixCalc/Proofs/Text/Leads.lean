import Mathlib.Tactic.SplitIfs
import PostfixCalc.Text.Width

namespace PostfixCalc.Text

/-- A test for the number of a code point is a test for that code point. -/
theorem eq_of_toNat_beq {c d : Char} (h : (c.toNat == d.toNat) = true) : c = d :=
  Char.toNat_inj.mp (beq_iff_eq.mp h)

namespace Ligature

/-- A code point keeps a letter open: it does not interrupt the ligature, or it is a sign that needs
one more in front. -/
inductive Grows (c : Char) : Ligature → Ligature → Prop
  | transparent (h : isTransparent c = true) : Grows c alef alef
  | joiner {l : Ligature} (hl : l ≠ alef) (h : isJoiner c = true) : Grows c l l.link
  | mark {l : Ligature} (hl : l ≠ alef) (h : Property.ignorableMarks.holds c = true) : Grows c l l
  | vowel (h : c.toNat = 0x1A17) : Grows c (ya true) signedYa
  | consonantJoiner (linked : Bool) (h : isConsonantJoiner c = true) :
      Grows c (consonant linked) joinedConsonant

theorem grows_of_pass? {c : Char} {l next : Ligature} (h : l.pass? c = some next) :
    Grows c l next := by
  unfold pass? at h
  split_ifs at h with halef htransparent hjoiner hmark
  · obtain rfl := Option.some.inj h
    rw [halef]
    exact .transparent htransparent
  · obtain rfl := Option.some.inj h
    exact .joiner halef hjoiner
  · obtain rfl := Option.some.inj h
    exact .mark halef hmark

theorem grows_of_sign? {c : Char} {l next : Ligature} (h : l.sign? c = some next) :
    Grows c l next := by
  cases l with
  | ya linked =>
    cases linked with
    | false => cases h
    | true =>
      obtain ⟨hc, hnext⟩ := Option.ite_none_right_eq_some.mp h
      obtain rfl := Option.some.inj hnext
      exact .vowel hc
  | consonant linked =>
    obtain ⟨hc, hnext⟩ := Option.ite_none_right_eq_some.mp h
    obtain rfl := Option.some.inj hnext
    exact .consonantJoiner linked hc
  | _ => cases h

/-- All that may complete a sign. -/
def closings : List Property.Ranges :=
  [Property.lams, [(0x5D0, 0x5D0)], [(0x1A15, 0x1A15)], Property.tifinaghConsonants,
   Property.firstTones, [(0x10C32, 0x10C32)], [(0x17D2, 0x17D2)], []]

theorem closing_mem (l : Ligature) : l.closing ∈ closings := by
  rcases l with _ | linked | linked | _ | linked | _ | _ | linked | _
  any_goals cases linked
  all_goals decide

end Ligature

namespace Lead

/-- What a code point begins that is an emoji by itself. -/
inductive IsOfEmoji (c : Char) (columns : Nat) : Lead → Prop
  | modifier (h : Property.emojiModifiers.holds c = true) : IsOfEmoji c columns (modifier columns)
  | emoji (h : Property.defaultEmoji.holds c = true) : IsOfEmoji c columns (emoji columns)

theorem isOfEmoji_of_ofEmoji? {c : Char} {columns : Nat} {lead : Lead}
    (h : ofEmoji? c columns = some lead) : IsOfEmoji c columns lead := by
  unfold ofEmoji? at h
  split_ifs at h with hmodifier hemoji
  · obtain rfl := Option.some.inj h
    exact .modifier hmodifier
  · obtain rfl := Option.some.inj h
    exact .emoji hemoji

/-- A code point is taken in by a letter behind it. -/
inductive Takes (c : Char) (l : Ligature) : Lead → Prop
  | emojiSelector (h : isEmojiSelector c = true) : Takes c l (emojiSelector (some l))
  | textSelector (h : isTextSelector c = true) : Takes c l (textSelector (some l))
  | completes (h : l.closing.holds c = true) : Takes c l (plain l.closedColumns)
  | grows {next : Ligature} (hselector : isEmojiSelector c = false)
      (htext : isTextSelector c = false) (h : l.Grows c next) : Takes c l (letter next)

theorem takes_of_extendLetter? {c : Char} {l : Ligature} {lead : Lead}
    (h : extendLetter? c l = some lead) : Takes c l lead := by
  unfold extendLetter? at h
  split_ifs at h with hselector htext hcloses
  · obtain rfl := Option.some.inj h
    exact .emojiSelector hselector
  · obtain rfl := Option.some.inj h
    exact .textSelector htext
  · obtain rfl := Option.some.inj h
    exact .completes hcloses
  · obtain ⟨next, hnext, rfl⟩ := Option.map_eq_some_iff.mp h
    have hselector := Bool.eq_false_iff.mpr hselector
    have htext := Bool.eq_false_iff.mpr htext
    rcases Option.or_eq_some_iff.mp hnext with hpass | ⟨-, hsign⟩
    · exact .grows hselector htext (Ligature.grows_of_pass? hpass)
    · exact .grows hselector htext (Ligature.grows_of_sign? hsign)

/-- The letter that a sequence ends in, if a code point in front may still make a sign with it. -/
def letter? : Lead → Option Ligature
  | letter l => some l
  | emojiSelector l | textSelector l => l
  | _ => none

theorem eq_of_letter? {lead : Lead} {l : Ligature} (h : lead.letter? = some l) :
    lead = letter l ∨ lead = emojiSelector (some l) ∨ lead = textSelector (some l) := by
  cases lead with
  | letter l' =>
    obtain rfl := Option.some.inj h
    exact .inl rfl
  | emojiSelector l' =>
    obtain rfl : l' = some l := h
    exact .inr (.inl rfl)
  | textSelector l' =>
    obtain rfl : l' = some l := h
    exact .inr (.inr rfl)
  | _ => cases h

/-- A code point and the sequence behind it make one sequence together. -/
inductive Extends (c : Char) : Lead → Lead → Prop
  | lineFeed (h : c = '\r') : Extends c lineFeed (plain 0)
  | modifier (n : Nat) (h : Property.modifierBases.holds c = true) :
      Extends c (modifier n) (emoji n)
  | regionals (n : Nat) (h : isRegional c = true) : Extends c (regionals n) (regionals (n + 1))
  | linkSelector (h : isEmojiSelector c = true) : Extends c link linkedSelector
  | linkKeycap (h : isKeycap c = true) : Extends c link linkedKeycap
  | linkRegional (h : isRegional c = true) : Extends c link (linkedRegionals 1)
  | linkTags (h : isTagEnd c = true) : Extends c link (linkedTags 0 0)
  | linkEmoji {lead : Lead} (h : IsOfEmoji c 0 lead) : Extends c link lead
  | linkedKeycap (h : isEmojiSelector c = true) : Extends c linkedKeycap linkedSelector
  | linkedSelector (h : Property.selectorBases.holds c = true) : Extends c linkedSelector (emoji 0)
  | linkedRegionals (n : Nat) (h : isRegional c = true) :
      Extends c (linkedRegionals n) (linkedRegionals (n + 1))
  | tagLetter (letters digits : Nat) (h : isTagLetter c = true) :
      Extends c (linkedTags letters digits) (linkedTags (letters + 1) 0)
  | tagDigit (letters digits : Nat) (h : isTagDigit c = true) :
      Extends c (linkedTags letters digits) (linkedTags letters (digits + 1))
  | blackFlag (letters digits : Nat) (h : isBlackFlag c = true) :
      Extends c (linkedTags letters digits) (emoji 0)
  | vowelE (h : c.toNat = 0x16D67) : Extends c vowelE vowelAi
  | vowelO (h : c.toNat = 0x16D63 ∨ c.toNat = 0x16D69) : Extends c vowelE (plain 1)
  | vowelAu (h : c.toNat = 0x16D63) : Extends c vowelAi (plain 1)
  | letter {behind lead : Lead} {l : Ligature} (hbehind : behind.letter? = some l)
      (h : Takes c l lead) : Extends c behind lead

theorem extends_of_extendLink? {c : Char} {lead : Lead} (h : extendLink? c = some lead) :
    Extends c link lead := by
  unfold extendLink? at h
  split_ifs at h with hselector hkeycap hregional htag
  · obtain rfl := Option.some.inj h
    exact .linkSelector hselector
  · obtain rfl := Option.some.inj h
    exact .linkKeycap hkeycap
  · obtain rfl := Option.some.inj h
    exact .linkRegional hregional
  · obtain rfl := Option.some.inj h
    exact .linkTags htag
  · exact .linkEmoji (isOfEmoji_of_ofEmoji? h)

theorem extends_of_extendTags? {c : Char} {letters digits : Nat} {lead : Lead}
    (h : extendTags? c letters digits = some lead) :
    Extends c (linkedTags letters digits) lead := by
  unfold extendTags? at h
  split_ifs at h with hletter hdigit hflag
  · obtain rfl := Option.some.inj h
    exact .tagLetter letters digits (Bool.and_eq_true_iff.mp hletter).1
  · obtain rfl := Option.some.inj h
    exact .tagDigit letters digits (Bool.and_eq_true_iff.mp hdigit).1
  · obtain rfl := Option.some.inj h
    exact .blackFlag letters digits (Bool.and_eq_true_iff.mp hflag).1

theorem extends_of_extendVowelE? {c : Char} {lead : Lead} (h : extendVowelE? c = some lead) :
    Extends c vowelE lead := by
  unfold extendVowelE? at h
  split_ifs at h with hai ho
  · obtain rfl := Option.some.inj h
    exact .vowelE hai
  · obtain rfl := Option.some.inj h
    exact .vowelO ho

theorem extends_of_bind {c : Char} {behind lead : Lead}
    (h : behind.letter?.bind (extendLetter? c) = some lead) : Extends c behind lead := by
  obtain ⟨l, hl, htakes⟩ := Option.bind_eq_some_iff.mp h
  exact .letter hl (takes_of_extendLetter? htakes)

theorem extends_of_extend? {c : Char} {behind lead : Lead} (h : behind.extend? c = some lead) :
    Extends c behind lead := by
  cases behind with
  | plain n => cases h
  | emoji n => cases h
  | link => exact extends_of_extendLink? h
  | linkedTags letters digits => exact extends_of_extendTags? h
  | letter l => exact .letter rfl (takes_of_extendLetter? h)
  | emojiSelector l => exact extends_of_bind h
  | textSelector l => exact extends_of_bind h
  | vowelE => exact extends_of_extendVowelE? h
  | _ =>
    obtain ⟨hc, hlead⟩ := Option.ite_none_right_eq_some.mp h
    obtain rfl := Option.some.inj hlead
    constructor
    exact hc

/-- A code point begins a sequence that what stands behind it has changed. -/
inductive Turned (c : Char) : Lead → Lead → Prop
  | emojiSelector (l : Option Ligature) (h : Property.selectorBases.holds c = true) :
      Turned c (emojiSelector l) (emoji 2)
  | textSelector (l : Option Ligature) (h : isTextSelectorBase c = true) :
      Turned c (textSelector l) (plain 1)
  | vowelE (h : c.toNat = 0x16D68) : Turned c vowelE vowelE
  | link {behind : Lead} (h : isJoiner c = true) (hbehind : behind.isEmoji = true) :
      Turned c behind link

theorem turned_of_turned? {c : Char} {behind lead : Lead} (h : behind.turned? c = some lead) :
    Turned c behind lead := by
  cases behind with
  | emojiSelector l =>
    obtain ⟨hc, hlead⟩ := Option.ite_none_right_eq_some.mp h
    obtain rfl := Option.some.inj hlead
    exact .emojiSelector l hc
  | textSelector l =>
    obtain ⟨hc, hlead⟩ := Option.ite_none_right_eq_some.mp h
    obtain rfl := Option.some.inj hlead
    exact .textSelector l hc
  | vowelE =>
    obtain ⟨hc, hlead⟩ := Option.ite_none_right_eq_some.mp h
    obtain rfl := Option.some.inj hlead
    exact .vowelE hc
  | _ =>
    obtain ⟨hc, hlead⟩ := Option.ite_none_right_eq_some.mp h
    obtain rfl := Option.some.inj hlead
    obtain ⟨hjoiner, hemoji⟩ := Bool.and_eq_true_iff.mp hc
    exact .link hjoiner hemoji

/-- A code point begins a sequence by itself. -/
inductive IsAlone (c : Char) : Lead → Prop
  | lineFeed (h : c = '\n') : IsAlone c lineFeed
  | emojiSelector (h : isEmojiSelector c = true) : IsAlone c (emojiSelector none)
  | textSelector (h : isTextSelector c = true) : IsAlone c (textSelector none)
  | joiner (h : isJoiner c = true) : IsAlone c (plain 0)
  | regional (h : isRegional c = true) : IsAlone c (regionals 1)
  | emoji {lead : Lead} (h : IsOfEmoji c 2 lead) : IsAlone c lead
  | vowelE (h : c.toNat = 0x16D67) : IsAlone c vowelE
  | vowelAi (h : c.toNat = 0x16D68) : IsAlone c vowelAi
  | letter {l : Ligature} (h : Ligature.ofLetter? c = some l) : IsAlone c (letter l)
  | plain : IsAlone c (plain (charWidth c))

theorem isAlone_of_ofLetter? {c : Char} {lead : Lead} (h : ofLetter? c = some lead) :
    IsAlone c lead := by
  unfold ofLetter? at h
  split_ifs at h with he hai
  · obtain rfl := Option.some.inj h
    exact .vowelE he
  · obtain rfl := Option.some.inj h
    exact .vowelAi hai
  · obtain ⟨l, hl, rfl⟩ := Option.map_eq_some_iff.mp h
    exact .letter hl

theorem isAlone_alone (c : Char) : IsAlone c (alone c) := by
  unfold alone
  split_ifs with hfeed hselector htext hjoiner hregional
  · exact .lineFeed hfeed
  · exact .emojiSelector hselector
  · exact .textSelector htext
  · exact .joiner hjoiner
  · exact .regional hregional
  · cases h : (ofEmoji? c 2).or (ofLetter? c) with
    | none => exact .plain
    | some lead =>
      rcases Option.or_eq_some_iff.mp h with hemoji | ⟨-, hletter⟩
      · exact .emoji (isOfEmoji_of_ofEmoji? hemoji)
      · exact isAlone_of_ofLetter? hletter

/-- A code point in front is taken into the sequence behind it, or it settles that sequence and
begins another one, changed by it or not. -/
theorem cons_cases (c : Char) (behind : Lead) :
    (∃ lead, Extends c behind lead ∧ cons c behind = (0, lead)) ∨
      (∃ lead, Turned c behind lead ∧ cons c behind = (behind.columns, lead)) ∨
      (∃ lead, IsAlone c lead ∧ cons c behind = (behind.columns, lead)) := by
  cases h : behind.extend? c with
  | some lead => exact .inl ⟨lead, extends_of_extend? h, by rw [cons, h]⟩
  | none =>
    cases hturned : behind.turned? c with
    | some lead =>
      exact .inr (.inl ⟨lead, turned_of_turned? hturned, by rw [cons, h, start, hturned]; rfl⟩)
    | none =>
      exact .inr (.inr ⟨alone c, isAlone_alone c, by rw [cons, h, start, hturned]; rfl⟩)

end Lead

end PostfixCalc.Text
