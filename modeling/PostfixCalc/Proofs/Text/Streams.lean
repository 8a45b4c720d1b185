import PostfixCalc.Proofs.Text.Lines

namespace PostfixCalc.Text

/-- Bytes without the carriage return at their end, if there is one. -/
def dropReturn (bytes : List UInt8) : List UInt8 :=
  if bytes.getLast? = some 13 then bytes.dropLast else bytes

/-- A stream and its lines. What stands in front of a line feed is a line, without one carriage
return at its end; bytes behind the last line feed are a line too. -/
inductive Lines : List UInt8 → List (List UInt8) → Prop
  | nil : Lines [] []
  | unended {bytes : List UInt8} (hne : bytes ≠ []) (h : 10 ∉ bytes) : Lines bytes [bytes]
  | ended {bytes rest : List UInt8} {ls : List (List UInt8)} (h : 10 ∉ bytes)
      (hrest : Lines rest ls) : Lines (bytes ++ 10 :: rest) (dropReturn bytes :: ls)

theorem dropReturn_cons_cons (b c : UInt8) (bytes : List UInt8) :
    dropReturn (b :: c :: bytes) = b :: dropReturn (c :: bytes) := by
  rw [dropReturn, dropReturn, List.getLast?_cons_cons]
  split <;> rfl

theorem dropReturn_subset (bytes : List UInt8) : dropReturn bytes ⊆ bytes := by
  rw [dropReturn]
  split
  · exact List.dropLast_subset bytes
  · exact List.Subset.refl bytes

theorem byteLines_ended {bytes : List UInt8} (rest : List UInt8) (h : 10 ∉ bytes) :
    byteLines (bytes ++ 10 :: rest) = dropReturn bytes :: byteLines rest := by
  induction bytes with
  | nil => rfl
  | cons b bytes ih =>
    simp only [List.mem_cons, not_or] at h
    have hb : b ≠ 10 := fun heq => h.1 heq.symm
    cases bytes with
    | nil =>
      by_cases hreturn : b = 13
      · subst hreturn
        rfl
      · have hkept : dropReturn [b] = [b] := if_neg (by simpa using hreturn)
        rw [hkept, List.singleton_append, byteLines]
        · rfl
        · exact hb
        · exact fun _ heq _ => hreturn heq
    | cons c bytes =>
      have hc : c ≠ 10 := fun heq => h.2 (heq ▸ List.mem_cons_self)
      rw [dropReturn_cons_cons, List.cons_append, byteLines, ih h.2]
      · rfl
      · exact hb
      · exact fun _ _ heq => hc (List.cons.inj heq).1

theorem byteLines_unended {bytes : List UInt8} (hne : bytes ≠ []) (h : 10 ∉ bytes) :
    byteLines bytes = [bytes] := by
  induction bytes with
  | nil => exact absurd rfl hne
  | cons b bytes ih =>
    simp only [List.mem_cons, not_or] at h
    rw [byteLines]
    · cases bytes with
      | nil => rfl
      | cons c bytes =>
        rw [ih (List.cons_ne_nil c bytes) h.2]
        rfl
    · exact fun heq => h.1 heq.symm
    · exact fun _ _ heq => h.2 (heq ▸ List.mem_cons_self)

theorem lines_byteLines (bytes : List UInt8) : Lines bytes (byteLines bytes) := by
  by_cases hfeed : 10 ∈ bytes
  · obtain ⟨line, rest, hsplit, hline⟩ := List.eq_append_cons_of_mem hfeed
    have hrest : Lines rest (byteLines rest) := lines_byteLines rest
    rw [hsplit, byteLines_ended rest hline]
    exact .ended hline hrest
  · cases bytes with
    | nil => exact .nil
    | cons b bytes =>
      rw [byteLines_unended (List.cons_ne_nil b bytes) hfeed]
      exact .unended (List.cons_ne_nil b bytes) hfeed
termination_by bytes.length
decreasing_by
  rw [hsplit, List.length_append, List.length_cons]
  omega

theorem Lines.byteLines_eq {bytes : List UInt8} {ls : List (List UInt8)} (h : Lines bytes ls) :
    byteLines bytes = ls := by
  induction h with
  | nil => rfl
  | unended hne h => exact byteLines_unended hne h
  | ended h hrest ih => rw [byteLines_ended _ h, ih]

theorem Lines.append {a b : List UInt8} {ls ms : List (List UInt8)} (h : Lines a ls)
    (hend : a.getLast? = some 10) (hb : Lines b ms) : Lines (a ++ b) (ls ++ ms) := by
  induction h with
  | nil => cases hend
  | unended hne h => exact absurd (List.mem_of_getLast? hend) h
  | @ended bytes rest ls h hrest ih =>
    rw [List.append_assoc, List.cons_append, List.cons_append]
    refine .ended h ?_
    cases rest with
    | nil =>
      obtain rfl : [] = ls := hrest.byteLines_eq
      exact hb
    | cons c rest =>
      refine ih ?_
      simpa [List.getLast?_append] using hend

theorem Lines.no_feed {bytes : List UInt8} {ls : List (List UInt8)} (h : Lines bytes ls) :
    ∀ l ∈ ls, 10 ∉ l := by
  induction h with
  | nil => exact fun l hl => absurd hl List.not_mem_nil
  | unended hne h => exact fun l hl => List.mem_singleton.mp hl ▸ h
  | ended h hrest ih =>
    intro l hl
    rcases List.mem_cons.mp hl with rfl | hl
    · exact fun hmem => h (dropReturn_subset _ hmem)
    · exact ih l hl

theorem encode_of_decode? {bytes : List UInt8} {s : Text} (h : decode? bytes = some s) :
    encode s = bytes := by
  unfold decode? String.fromUTF8? at h
  split at h
  · next hvalid =>
    obtain rfl : _ = s := Option.some.inj h
    rw [encode, String.ofList_toList, toList_eq_data]
    rfl
  · cases h

theorem no_feed_of_decode? {bytes : List UInt8} {s : Text} (h : decode? bytes = some s)
    (hfeed : 10 ∉ bytes) : '\n' ∉ s := by
  intro hmem
  rw [← encode_of_decode? h, encode_eq_flatMap] at hfeed
  exact hfeed (List.mem_flatMap.mpr ⟨'\n', hmem, by decide⟩)

end PostfixCalc.Text
