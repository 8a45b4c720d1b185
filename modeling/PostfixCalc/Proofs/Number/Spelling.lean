import PostfixCalc.Number.Numeral

namespace PostfixCalc.Numeral

open Text (isDigit digitsValue)

def IsDigits (s : Text) : Prop := s ≠ [] ∧ ∀ c ∈ s, isDigit c = true

inductive SpellsSign : Text → Bool → Prop
  | none : SpellsSign [] false
  | plus : SpellsSign ['+'] false
  | minus : SpellsSign ['-'] true

/-- How digits in front of the point and behind it are written. -/
inductive SpellsMantissa : Text → Text → Text → Prop
  | whole {ds : Text} (h : IsDigits ds) : SpellsMantissa ds ds []
  | point {ds fs : Text} (h : IsDigits ds) (hf : ∀ c ∈ fs, isDigit c = true) :
      SpellsMantissa (ds ++ '.' :: fs) ds fs
  | fraction {fs : Text} (h : IsDigits fs) : SpellsMantissa ('.' :: fs) [] fs

inductive SpellsExponent : Text → Int → Prop
  | none : SpellsExponent [] 0
  | some {letter : Char} {sign ds : Text} {negative : Bool} (hletter : letter = 'e' ∨ letter = 'E')
      (hsign : SpellsSign sign negative) (h : IsDigits ds) :
      SpellsExponent (letter :: (sign ++ ds))
        (if negative then -(digitsValue ds : Int) else digitsValue ds)

/-- The texts that write a numeral. -/
inductive Spells : Text → Numeral → Prop
  | intro {sign mantissa tail whole fraction : Text} {negative : Bool} {exponent : Int}
      (hsign : SpellsSign sign negative) (hmantissa : SpellsMantissa mantissa whole fraction)
      (htail : SpellsExponent tail exponent) :
      Spells (sign ++ (mantissa ++ tail)) ⟨negative, whole, fraction, exponent⟩

/-- No sign in front of which one might be missed. -/
def NoSign (s : Text) : Prop := ∀ c ∈ s.head?, c ≠ '+' ∧ c ≠ '-'

theorem isDigit_noSign {c : Char} (h : isDigit c = true) : c ≠ '+' ∧ c ≠ '-' := by
  constructor <;> rintro rfl <;> cases h

theorem IsDigits.noSign {ds : Text} (h : IsDigits ds) (rest : Text) : NoSign (ds ++ rest) := by
  obtain ⟨hne, hdigits⟩ := h
  cases ds with
  | nil => exact absurd rfl hne
  | cons d ds =>
    intro c hc
    obtain rfl : d = c := by simpa using hc
    exact isDigit_noSign (hdigits d List.mem_cons_self)

theorem SpellsMantissa.noSign {mantissa whole fraction : Text}
    (h : SpellsMantissa mantissa whole fraction) (rest : Text) : NoSign (mantissa ++ rest) := by
  cases h with
  | whole h => exact h.noSign rest
  | point h hf =>
    rw [List.append_assoc]
    exact h.noSign _
  | fraction h =>
    intro c hc
    obtain rfl : '.' = c := by simpa using hc
    decide

theorem takeSign_spells (s : Text) :
    ∃ sign, SpellsSign sign (takeSign s).1 ∧ s = sign ++ (takeSign s).2 := by
  unfold takeSign
  split
  · exact ⟨['+'], .plus, rfl⟩
  · exact ⟨['-'], .minus, rfl⟩
  · exact ⟨[], .none, rfl⟩

theorem SpellsSign.takeSign_append {sign rest : Text} {negative : Bool}
    (h : SpellsSign sign negative) (hrest : NoSign rest) : takeSign (sign ++ rest) = (negative, rest) := by
  cases h with
  | plus => rfl
  | minus => rfl
  | none =>
    cases rest with
    | nil => rfl
    | cons c rest =>
      obtain ⟨hplus, hminus⟩ := hrest c rfl
      simp [takeSign, hplus, hminus]

theorem readExponent?_eq_some_iff (s : Text) (e : Int) :
    readExponent? s = some e ↔ SpellsExponent s e := by
  constructor
  · intro h
    cases s with
    | nil =>
      obtain rfl : 0 = e := by simpa [readExponent?] using h
      exact .none
    | cons letter s =>
      obtain ⟨sign, hsign, hs⟩ := takeSign_spells s
      by_cases hletter : letter = 'e' ∨ letter = 'E'
      · rw [readExponent?, if_pos hletter] at h
        dsimp only at h
        split at h
        · next hdigits =>
          have hall : IsDigits (takeSign s).2 := ⟨hdigits.1, List.all_eq_true.mp hdigits.2⟩
          have he := SpellsExponent.some hletter hsign hall
          rw [← hs] at he
          exact Option.some.inj h ▸ he
        · cases h
      · rw [readExponent?, if_neg hletter] at h
        cases h
  · intro h
    cases h with
    | none => rfl
    | some hletter hsign h =>
      have hnone := h.noSign []
      rw [List.append_nil] at hnone
      have hall := List.all_eq_true.mpr h.2
      rw [readExponent?, if_pos hletter, hsign.takeSign_append hnone]
      dsimp only
      rw [if_pos ⟨h.1, hall⟩]

theorem takeWhile_digits {ds rest : Text} (hds : ∀ c ∈ ds, isDigit c = true)
    (hrest : ∀ c ∈ rest.head?, isDigit c = false) : (ds ++ rest).takeWhile isDigit = ds := by
  have hstop : rest.takeWhile isDigit = [] := by
    cases rest with
    | nil => rfl
    | cons c rest => rw [List.takeWhile_cons, hrest c rfl, if_neg Bool.false_ne_true]
  rw [List.takeWhile_append_of_pos hds, hstop, List.append_nil]

theorem dropWhile_digits {ds rest : Text} (hds : ∀ c ∈ ds, isDigit c = true)
    (hrest : ∀ c ∈ rest.head?, isDigit c = false) : (ds ++ rest).dropWhile isDigit = rest := by
  rw [List.dropWhile_append_of_pos hds]
  cases rest with
  | nil => rfl
  | cons c rest => rw [List.dropWhile_cons, hrest c rfl, if_neg Bool.false_ne_true]

/-- Behind the digits there is nothing or the letter of an exponent. -/
theorem SpellsExponent.head {tail : Text} {e : Int} (h : SpellsExponent tail e) :
    ∀ c ∈ tail.head?, isDigit c = false ∧ c ≠ '.' := by
  intro c hc
  cases h with
  | none => cases hc
  | some hletter =>
    cases hc
    rcases hletter with rfl | rfl <;> decide

/-- What the reader takes for the digits is written like that. -/
theorem spellsMantissa_scan (s : Text) :
    let whole := s.takeWhile isDigit
    let scanned := takeFraction (s.dropWhile isDigit)
    ¬ (whole = [] ∧ scanned.1 = []) →
      ∃ mantissa, SpellsMantissa mantissa whole scanned.1 ∧ s = mantissa ++ scanned.2 := by
  intro whole scanned hne
  have hs : s = whole ++ s.dropWhile isDigit := List.takeWhile_append_dropWhile.symm
  have htaken (t : Text) : ∀ c ∈ t.takeWhile isDigit, isDigit c = true :=
    List.all_eq_true.mp List.all_takeWhile
  by_cases hpoint : ∃ t, s.dropWhile isDigit = '.' :: t
  · obtain ⟨t, ht⟩ := hpoint
    have hscanned : scanned = (t.takeWhile isDigit, t.dropWhile isDigit) := by
      show takeFraction (s.dropWhile isDigit) = _
      rw [ht]
      rfl
    have ht' : t = t.takeWhile isDigit ++ t.dropWhile isDigit :=
      List.takeWhile_append_dropWhile.symm
    rw [hscanned] at hne ⊢
    by_cases hnil : whole = []
    · refine ⟨'.' :: t.takeWhile isDigit, ?_, ?_⟩
      · rw [hnil]
        exact .fraction ⟨fun hf => hne ⟨hnil, hf⟩, htaken t⟩
      · rw [hnil, ht] at hs
        rw [hs, List.nil_append, List.cons_append, ← ht']
    · refine ⟨whole ++ '.' :: t.takeWhile isDigit, .point ⟨hnil, htaken s⟩ (htaken t), ?_⟩
      rw [List.append_assoc, List.cons_append, ← ht', ← ht]
      exact hs
  · have hscanned : scanned = ([], s.dropWhile isDigit) := by
      show takeFraction (s.dropWhile isDigit) = _
      unfold takeFraction
      split
      · next t ht => exact absurd ⟨t, ht⟩ hpoint
      · rfl
    rw [hscanned] at hne ⊢
    have hnil : whole ≠ [] := fun hnil => hne ⟨hnil, rfl⟩
    exact ⟨whole, .whole ⟨hnil, htaken s⟩, hs⟩

theorem SpellsMantissa.scan {mantissa whole fraction tail : Text}
    (h : SpellsMantissa mantissa whole fraction)
    (htail : ∀ c ∈ tail.head?, isDigit c = false ∧ c ≠ '.') :
    (mantissa ++ tail).takeWhile isDigit = whole ∧
      takeFraction ((mantissa ++ tail).dropWhile isDigit) = (fraction, tail) ∧
        ¬ (whole = [] ∧ fraction = []) := by
  have hstop : ∀ c ∈ tail.head?, isDigit c = false := fun c hc => (htail c hc).1
  have hpoint : ∀ fs : Text, ∀ c ∈ ('.' :: fs).head?, isDigit c = false := by
    intro fs c hc
    cases hc
    rfl
  cases h with
  | whole h =>
    obtain ⟨hne, hdigits⟩ := h
    refine ⟨takeWhile_digits hdigits hstop, ?_, fun hnil => hne hnil.1⟩
    rw [dropWhile_digits hdigits hstop]
    cases tail with
    | nil => rfl
    | cons c tail =>
      have hc := (htail c rfl).2
      simp [takeFraction, hc]
  | point h hf =>
    obtain ⟨hne, hdigits⟩ := h
    rw [List.append_assoc, List.cons_append, takeWhile_digits hdigits (hpoint _),
      dropWhile_digits hdigits (hpoint _)]
    refine ⟨rfl, ?_, fun hnil => hne hnil.1⟩
    show ((fraction ++ tail).takeWhile isDigit, (fraction ++ tail).dropWhile isDigit) = _
    rw [takeWhile_digits hf hstop, dropWhile_digits hf hstop]
  | fraction h =>
    obtain ⟨hne, hdigits⟩ := h
    refine ⟨rfl, ?_, fun hnil => hne hnil.2⟩
    show ((fraction ++ tail).takeWhile isDigit, (fraction ++ tail).dropWhile isDigit) = _
    rw [takeWhile_digits hdigits hstop, dropWhile_digits hdigits hstop]

/-- The reader accepts what the grammar allows, and takes it apart as it was put together. -/
theorem read?_eq_some_iff (s : Text) (x : Numeral) : read? s = some x ↔ Spells s x := by
  constructor
  · intro h
    obtain ⟨sign, hsign, hs⟩ := takeSign_spells s
    have hscan := spellsMantissa_scan (takeSign s).2
    rw [read?] at h
    dsimp only at h
    split at h
    · cases h
    · next hne =>
      obtain ⟨exponent, hexponent, rfl⟩ := Option.map_eq_some_iff.mp h
      obtain ⟨mantissa, hmantissa, hrest⟩ := hscan hne
      have htail := (readExponent?_eq_some_iff _ _).mp hexponent
      have hspells := Spells.intro hsign hmantissa htail
      rwa [← hrest, ← hs] at hspells
  · intro h
    obtain ⟨hsign, hmantissa, htail⟩ := h
    obtain ⟨hwhole, hfraction, hne⟩ := hmantissa.scan htail.head
    have hexponent := (readExponent?_eq_some_iff _ _).mpr htail
    rw [read?, hsign.takeSign_append (hmantissa.noSign _)]
    dsimp only
    rw [hwhole, hfraction]
    dsimp only
    rw [if_neg hne, hexponent]
    rfl

/-- What stands in the text of a numeral. -/
def IsLetter (c : Char) : Prop := isDigit c = true ∨ c ∈ ['+', '-', '.', 'e', 'E']

theorem SpellsSign.isLetter {sign : Text} {negative : Bool} (h : SpellsSign sign negative) :
    ∀ c ∈ sign, IsLetter c := by
  cases h with
  | none => exact fun c hc => nomatch hc
  | plus => exact List.forall_mem_singleton.mpr (.inr (by decide))
  | minus => exact List.forall_mem_singleton.mpr (.inr (by decide))

theorem SpellsMantissa.isLetter {mantissa whole fraction : Text}
    (h : SpellsMantissa mantissa whole fraction) : ∀ c ∈ mantissa, IsLetter c := by
  have hpoint : IsLetter '.' := .inr (by decide)
  cases h with
  | whole h => exact fun c hc => .inl (h.2 c hc)
  | point h hf =>
    rw [List.forall_mem_append, List.forall_mem_cons]
    exact ⟨fun c hc => .inl (h.2 c hc), hpoint, fun c hc => .inl (hf c hc)⟩
  | fraction h =>
    rw [List.forall_mem_cons]
    exact ⟨hpoint, fun c hc => .inl (h.2 c hc)⟩

theorem SpellsExponent.isLetter {tail : Text} {e : Int} (h : SpellsExponent tail e) :
    ∀ c ∈ tail, IsLetter c := by
  cases h with
  | none => exact fun c hc => nomatch hc
  | some hletter hsign h =>
    rw [List.forall_mem_cons, List.forall_mem_append]
    refine ⟨?_, hsign.isLetter, fun c hc => .inl (h.2 c hc)⟩
    rcases hletter with rfl | rfl
    · exact .inr (by decide)
    · exact .inr (by decide)

theorem Spells.isLetter {s : Text} {x : Numeral} (h : Spells s x) : ∀ c ∈ s, IsLetter c := by
  obtain ⟨hsign, hmantissa, htail⟩ := h
  rw [List.forall_mem_append, List.forall_mem_append]
  exact ⟨hsign.isLetter, hmantissa.isLetter, htail.isLetter⟩

theorem SpellsMantissa.digits {mantissa whole fraction : Text}
    (h : SpellsMantissa mantissa whole fraction) : IsDigits (whole ++ fraction) := by
  cases h with
  | whole h => rwa [List.append_nil]
  | point h hf =>
    refine ⟨List.append_ne_nil_of_left_ne_nil h.1 _, ?_⟩
    rw [List.forall_mem_append]
    exact ⟨h.2, hf⟩
  | fraction h => exact h

theorem SpellsMantissa.mem {mantissa whole fraction : Text}
    (h : SpellsMantissa mantissa whole fraction) : ∀ c ∈ whole ++ fraction, c ∈ mantissa := by
  intro c hc
  cases h with
  | whole h => simpa using hc
  | point h hf => rcases List.mem_append.mp hc with hc | hc <;> simp [hc]
  | fraction h => exact List.mem_cons_of_mem _ hc

theorem Spells.digits {s : Text} {x : Numeral} (h : Spells s x) : IsDigits x.digits := by
  obtain ⟨_, hmantissa, _⟩ := h
  exact hmantissa.digits

theorem Spells.mem_of_mem_digits {s : Text} {x : Numeral} (h : Spells s x) :
    ∀ c ∈ x.digits, c ∈ s := by
  obtain ⟨_, hmantissa, _⟩ := h
  intro c hc
  exact List.mem_append_right _ (List.mem_append_left _ (hmantissa.mem c hc))

theorem read?_signed (negative : Bool) {mantissa whole fraction tail : Text} {exponent : Int}
    (hmantissa : SpellsMantissa mantissa whole fraction) (htail : SpellsExponent tail exponent) :
    read? (if negative then '-' :: (mantissa ++ tail) else mantissa ++ tail) =
      some ⟨negative, whole, fraction, exponent⟩ := by
  rw [read?_eq_some_iff]
  cases negative
  · exact .intro .none hmantissa htail
  · exact .intro .minus hmantissa htail

end PostfixCalc.Numeral
