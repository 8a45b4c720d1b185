import PostfixCalc.Proofs.Calculator.Process
import PostfixCalc.Proofs.Number.ReadBack
import PostfixCalc.Proofs.Text.Spacing

namespace PostfixCalc

namespace Binary64

theorem unsignedZero_isFinite {v : Binary64} (h : v.isFinite = true) :
    v.unsignedZero.isFinite = true := by
  unfold unsignedZero
  split
  · rfl
  · exact h

theorem classify_displayText {v : Binary64} (h : v.isFinite = true) :
    Token.classify v.displayText = .number v.unsignedZero :=
  (Token.classify_eq_number_iff _ _).mpr (readNumber?_displayText h)

theorem isBlank_of_isGraphic {c : Char} (h : Text.isGraphic c = true) : Text.isBlank c = false := by
  have hrange : 0x21 ≤ c.toNat ∧ c.toNat ≤ 0x7E := by simpa [Text.isGraphic] using h
  simp only [Text.isBlank, Bool.or_eq_false_iff, decide_eq_false_iff_not, beq_eq_false_iff_ne]
  omega

/-- A visible text that is read as a number is one chunk. -/
theorem isChunk_of_readNumber? {s : Text} {v : Binary64} (hread : Token.readNumber? s = some v)
    (hs : ∀ c ∈ s, Text.isGraphic c = true) : Text.IsChunk s := by
  refine ⟨fun hnil => ?_, fun c hc => isBlank_of_isGraphic (hs c hc)⟩
  rw [hnil] at hread
  cases hread

theorem displayText_isChunk {v : Binary64} (h : v.isFinite = true) :
    Text.IsChunk v.displayText :=
  isChunk_of_readNumber? (readNumber?_displayText h) v.displayText_graphic

end Binary64

namespace Stack

/-- Numbers are put on the stack one after the other. -/
theorem run_numbers (s : Stack) {vs : List Binary64} (h : ∀ v ∈ vs, v.isFinite = true) :
    s.run (vs.map .number) = .ok (vs.reverse ++ s) := by
  induction vs generalizing s with
  | nil => rfl
  | cons v vs ih =>
    have hv : s.step (.number v) = .ok (v :: s) := if_pos (h v List.mem_cons_self)
    rw [List.map_cons, run, hv, List.reverse_cons, List.append_assoc]
    exact ih (v :: s) fun w hw => h w (List.mem_cons_of_mem v hw)

end Stack

namespace Calculator

/-- The line in which some values are written as they are on display. -/
def displayed (vs : List Binary64) : Text := [' '].intercalate (vs.map Binary64.displayText)

section Displayed

variable {vs : List Binary64} (h : ∀ v ∈ vs, v.isFinite = true)

include h

theorem chunks_displayed : Text.chunks (displayed vs) = vs.map Binary64.displayText := by
  refine Text.chunks_intercalate fun c hc => ?_
  obtain ⟨v, hv, rfl⟩ := List.mem_map.mp hc
  exact Binary64.displayText_isChunk (h v hv)

theorem tokens_displayed :
    tokens (displayed vs) = (vs.map Binary64.unsignedZero).map Token.number := by
  rw [tokens, chunks_displayed h, List.map_map, List.map_map]
  exact List.map_congr_left fun v hv => Binary64.classify_displayText (h v hv)

theorem allValid_displayed : AllValid (Text.chunks (displayed vs)) := by
  rw [chunks_displayed h]
  intro c hc
  obtain ⟨v, hv, rfl⟩ := List.mem_map.mp hc
  rw [Binary64.classify_displayText (h v hv)]
  rfl

theorem evaluate_displayed (s : Stack) :
    s.evaluate (displayed vs) = .ok ((vs.map Binary64.unsignedZero).reverse ++ s) := by
  rw [Stack.evaluate_of_allValid s (allValid_displayed h), tokens_displayed h]
  refine s.run_numbers fun w hw => ?_
  obtain ⟨v, hv, rfl⟩ := List.mem_map.mp hw
  exact Binary64.unsignedZero_isFinite (h v hv)

end Displayed

/-- Nothing is lost by the way values are shown: written in one line and given to a new calculator,
finite values come back as they were, each in its place, but for the sign of a zero. -/
theorem process_displayed {vs : List Binary64} (h : ∀ v ∈ vs, v.isFinite = true) :
    let out := process [] (displayed vs)
    out.reply.rejection = none ∧ out.stack.values = vs.map Binary64.unsignedZero := by
  intro out
  by_cases hnil : vs = []
  · subst hnil
    exact ⟨rfl, rfl⟩
  have hvalid := allValid_displayed h
  have hne : Text.chunks (displayed vs) ≠ [] := by
    rw [chunks_displayed h]
    exact fun hmap => hnil (List.map_eq_nil_iff.mp hmap)
  have hexit : Text.chunks (displayed vs) ≠ [exitCommand] := fun heq =>
    no_command_of_allValid hvalid (.inl (heq ▸ List.mem_singleton_self _))
  have hreset : Text.chunks (displayed vs) ≠ [resetCommand] := fun heq =>
    no_command_of_allValid hvalid (.inr (heq ▸ List.mem_singleton_self _))
  have heval := evaluate_displayed h []
  rw [List.append_nil] at heval
  have hok : evaluate [] (Text.trim (displayed vs)) =
      (.ok (Stack.shown (vs.map Binary64.unsignedZero).reverse),
        (vs.map Binary64.unsignedZero).reverse) := by
    rw [evaluate_congr [] (Text.chunks_trim (displayed vs)), evaluate, heval]
  have hout : out = _ :=
    (process_expression [] hne hexit hreset).trans (processExpression_of_ok hok)
  rw [hout]
  exact ⟨rfl, List.reverse_reverse _⟩

/-- The smallest and the largest magnitude, a zero with a sign, and the numbers on both sides of
where the notation changes. -/
theorem process_displayed_boundaries :
    let before : List Binary64 := [.ofRank false 1, .ofRank true (Binary64.rankCount - 1)]
    let after : List Binary64 :=
      [.ofRank false (Binary64.largeRank - 1), .ofRank false Binary64.largeRank,
        .ofRank true Binary64.smallRank, .ofRank true (Binary64.smallRank - 1)]
    let line := Text.lit ("5e-324 -1.7976931348623157e308 0 999999999999999900000 1e21 " ++
      "-0.000001 -9.999999999999997e-7")
    displayed (before ++ .zero true :: after) = line ∧
      (∀ v ∈ before ++ .zero true :: after, v.isFinite = true) ∧
      (process [] line).reply.rejection = none ∧
      (process [] line).stack.values = before ++ .zero false :: after := by
  intro before after line
  have hline : displayed (before ++ .zero true :: after) = line := by decide +kernel
  have hfinite : ∀ v ∈ before ++ .zero true :: after, v.isFinite = true := by decide +kernel
  have hvalues : (before ++ .zero true :: after).map Binary64.unsignedZero =
      before ++ .zero false :: after := by decide +kernel
  have hprocess := process_displayed hfinite
  rw [hvalues, hline] at hprocess
  exact ⟨hline, hfinite, hprocess⟩

end Calculator

end PostfixCalc
