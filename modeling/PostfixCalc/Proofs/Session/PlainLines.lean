import Mathlib.Data.List.Basic
import PostfixCalc.Proofs.Session.TypedLines
import PostfixCalc.Proofs.Text.Streams

namespace PostfixCalc

/-- The two lines that a session shows of an exchange. -/
def Exchange.shownLines (x : Exchange) : List Text :=
  [Calculator.prompt ++ x.input, x.reply.message]

namespace PlainSession

/-- A session does not go on behind a line that is no text, or that is the command for the end. -/
def ends (bytes : List UInt8) : Bool :=
  match Text.decode? bytes with
  | none => true
  | some line => decide (Text.trim line = Calculator.exitCommand)

/-- The lines that a session reads: up to the first that ends it. -/
def heard : List (List UInt8) → List (List UInt8)
  | [] => []
  | l :: ls => if ends l then [l] else l :: heard ls

/-- The texts among the lines that a session reads. -/
def asked (ls : List (List UInt8)) : List Text := (heard ls).filterMap Text.decode?

theorem ends_of_none {l : List UInt8} (h : Text.decode? l = none) : ends l = true := by
  simp [ends, h]

theorem ends_of_some {l : List UInt8} {line : Text} (h : Text.decode? l = some line) :
    ends l = decide (Text.trim line = Calculator.exitCommand) := by
  simp [ends, h]

theorem heard_cons_of_ends {l : List UInt8} (h : ends l = true) (ls : List (List UInt8)) :
    heard (l :: ls) = [l] := by
  rw [heard, if_pos h]

theorem heard_cons_of_not_ends {l : List UInt8} (h : ends l = false) (ls : List (List UInt8)) :
    heard (l :: ls) = l :: heard ls := by
  rw [heard, if_neg (Bool.eq_false_iff.mp h)]

theorem ends_iff (l : List UInt8) : ends l = true ↔
    Text.decode? l = none ∨
      ∃ line, Text.decode? l = some line ∧ Text.trim line = Calculator.exitCommand := by
  cases h : Text.decode? l with
  | none => simp [ends_of_none h]
  | some line => simp [ends_of_some h]

theorem heard_subset (ls : List (List UInt8)) : heard ls ⊆ ls := by
  induction ls with
  | nil => exact List.Subset.refl []
  | cons l ls ih =>
    cases h : ends l with
    | true =>
      rw [heard_cons_of_ends h]
      exact List.cons_subset_cons l (List.nil_subset ls)
    | false =>
      rw [heard_cons_of_not_ends h]
      exact List.cons_subset_cons l ih

theorem heard_any_ends (ls : List (List UInt8)) : (heard ls).any ends = ls.any ends := by
  induction ls with
  | nil => rfl
  | cons l ls ih =>
    cases h : ends l with
    | true =>
      rw [heard_cons_of_ends h, List.any_cons, List.any_cons, h, Bool.true_or, Bool.true_or]
    | false =>
      rw [heard_cons_of_not_ends h, List.any_cons, List.any_cons, ih]

/-- Lines are put behind a session only as long as none has ended it. -/
theorem heard_append (ls ms : List (List UInt8)) :
    heard (ls ++ ms) = if ls.any ends then heard ls else heard ls ++ heard ms := by
  induction ls with
  | nil => rfl
  | cons l ls ih =>
    cases h : ends l with
    | true =>
      rw [List.cons_append, heard_cons_of_ends h, heard_cons_of_ends h, List.any_cons, h]
      rfl
    | false =>
      rw [List.cons_append, heard_cons_of_not_ends h, heard_cons_of_not_ends h, ih, List.any_cons, h,
        Bool.false_or]
      split <;> rfl

theorem asked_append (ls ms : List (List UInt8)) :
    asked (ls ++ ms) = if ls.any ends then asked ls else asked ls ++ asked ms := by
  rw [asked, heard_append]
  split
  · rfl
  · exact List.filterMap_append

/-- Only the last line that a session reads can be no text. -/
theorem heard_unreadable_iff (ls : List (List UInt8)) :
    (∃ l ∈ heard ls, Text.decode? l = none) ↔
      ∃ l, (heard ls).getLast? = some l ∧ Text.decode? l = none := by
  refine ⟨?_, fun ⟨l, hlast, hnone⟩ => ⟨l, List.mem_of_getLast? hlast, hnone⟩⟩
  induction ls with
  | nil => simp [heard]
  | cons l ls ih =>
    cases h : ends l with
    | true =>
      rw [heard_cons_of_ends h]
      simp
    | false =>
      rw [heard_cons_of_not_ends h]
      rintro ⟨m, hm, hnone⟩
      rcases List.mem_cons.mp hm with rfl | hm
      · rw [ends_of_none hnone] at h
        cases h
      · obtain ⟨m', hlast, hnone'⟩ := ih ⟨m, hm, hnone⟩
        exact ⟨m', by simp [List.getLast?_cons, hlast], hnone'⟩

/-- What a session leaves is told by the texts that it asks the calculator. -/
theorem run_eq (s : Stack) (ls : List (List UInt8)) :
    run s ls =
      ⟨(Calculator.exchanges s (asked ls)).flatMap Exchange.shown,
        (Calculator.exchanges s (asked ls)).map Exchange.reply,
        (heard ls).any fun l => (Text.decode? l).isNone,
        Calculator.stackAfter s (asked ls)⟩ := by
  induction ls generalizing s with
  | nil => rfl
  | cons l ls ih =>
    cases hdecode : Text.decode? l with
    | none =>
      have hends : ends l = true := ends_of_none hdecode
      rw [asked, heard_cons_of_ends hends]
      simp [run, exchange, hdecode, Calculator.exchanges, Calculator.stackAfter]
    | some line =>
      obtain rfl : Text.encode line = l := Text.encode_of_decode? hdecode
      have hends := ends_of_some hdecode
      have hhalts := Calculator.process_halts_iff s line
      rw [run, exchange_encode]
      by_cases hexit : Text.trim line = Calculator.exitCommand
      · rw [hhalts.mpr hexit]
        rw [asked, heard_cons_of_ends (hends.trans (decide_eq_true hexit))]
        simp [hdecode, Calculator.exchanges, Calculator.stackAfter]
      · have hgoes : (Calculator.process s line).reply.halts = false :=
          Bool.eq_false_iff.mpr (mt hhalts.mp hexit)
        rw [hgoes]
        rw [asked, heard_cons_of_not_ends (hends.trans (decide_eq_false hexit))]
        simp only [Bool.not_false, if_true, ih]
        simp [hdecode, asked, Calculator.exchanges, Calculator.stackAfter]

theorem written_append (lines more : List Text) :
    written (lines ++ more) = written lines ++ written more := List.flatMap_append

theorem flatMap_shown (s : Stack) (lines : List Text) :
    (Calculator.exchanges s lines).flatMap Exchange.shown =
      written ((Calculator.exchanges s lines).flatMap Exchange.shownLines) := by
  rw [written, List.flatMap_assoc]
  apply List.flatMap_congr
  intro x hx
  rw [Exchange.shown, (Calculator.exchanges_answered hx).1]
  rfl

theorem no_feed_of_mem_asked {bytes : List UInt8} {line : Text}
    (h : line ∈ asked (Text.byteLines bytes)) : '\n' ∉ line := by
  obtain ⟨l, hl, hdecode⟩ := List.mem_filterMap.mp h
  have hfeed : 10 ∉ l := (Text.lines_byteLines bytes).no_feed l (heard_subset _ hl)
  exact Text.no_feed_of_decode? hdecode hfeed

theorem no_feed_of_mem_shownLines {s : Stack} {lines : List Text} {x : Exchange}
    (hx : x ∈ Calculator.exchanges s lines) (hinput : '\n' ∉ x.input) :
    ∀ l ∈ x.shownLines, '\n' ∉ l := by
  have hone := (Calculator.exchanges_answered hx).2
  intro l hl
  rcases List.mem_pair.mp hl with rfl | rfl
  · have hprompt : '\n' ∉ Calculator.prompt := by decide
    exact fun hmem => (List.mem_append.mp hmem).elim hprompt hinput
  · exact fun hmem => absurd (hone '\n' hmem) (by decide)

/-- A session is over when one of its lines ends it. -/
theorem run_over_iff (s : Stack) (ls : List (List UInt8)) :
    (run s ls).halted = true ∨ (run s ls).unreadable = true ↔ ls.any ends = true := by
  have hhalted : (run s ls).halted = true ↔
      ∃ line ∈ asked ls, Text.trim line = Calculator.exitCommand := by
    rw [run_eq, halted, List.any_map]
    exact Calculator.exchanges_halt_iff s (asked ls)
  have hunreadable : (run s ls).unreadable = true ↔ ∃ l ∈ heard ls, Text.decode? l = none := by
    rw [run_eq]
    simp only [List.any_eq_true, Option.isNone_iff_eq_none]
  rw [hhalted, hunreadable, ← heard_any_ends, List.any_eq_true]
  constructor
  · rintro (⟨line, hline, hexit⟩ | ⟨l, hl, hnone⟩)
    · obtain ⟨l, hl, hdecode⟩ := List.mem_filterMap.mp hline
      exact ⟨l, hl, (ends_iff l).mpr (.inr ⟨line, hdecode, hexit⟩)⟩
    · exact ⟨l, hl, ends_of_none hnone⟩
  · rintro ⟨l, hl, hends⟩
    rcases (ends_iff l).mp hends with hnone | ⟨line, hdecode, hexit⟩
    · exact .inr ⟨l, hl, hnone⟩
    · exact .inl ⟨line, List.mem_filterMap.mpr ⟨l, hl, hdecode⟩, hexit⟩

/-- Lines behind a session that is over change nothing, and otherwise they only add to it. -/
theorem run_append (s : Stack) (ls ms : List (List UInt8)) :
    (ls.any ends = true → run s (ls ++ ms) = run s ls) ∧
      (run s ls).output <+: (run s (ls ++ ms)).output := by
  simp only [run_eq]
  rw [asked_append, heard_append]
  split
  · next hends => exact ⟨fun _ => rfl, List.prefix_rfl⟩
  · next hends =>
    refine ⟨fun h => absurd h hends, ?_⟩
    rw [Calculator.exchanges_append, List.flatMap_append]
    exact List.prefix_append _ _

end PlainSession

/-- What a session over a stream shows and leaves, for any bytes. Each line up to the one that ends
the session is shown behind the prompt if it is a text, with the one line that the calculator
answers to it below. A stream that goes on behind a line feed only adds to what is shown, and
nothing if the session was over before. -/
theorem PlainSession.ofBytes_shows (showBanner : Bool) (bytes : List UInt8) :
    let ls := Text.byteLines bytes
    let xs := Calculator.exchanges [] (asked ls)
    let shown := (if showBanner then Calculator.banner else []) ++ xs.flatMap Exchange.shownLines
    let session := ofBytes showBanner bytes
    Text.Lines bytes ls ∧
      session.output = written shown ∧
      (∀ l ∈ shown, '\n' ∉ l) ∧
      (∀ x ∈ xs, x.reply.lines = [x.reply.message]) ∧
      xs.map Exchange.input = asked ls ∧
      xs.map Exchange.reply = session.replies ∧
      session.stack = Calculator.stackAfter [] (asked ls) ∧
      (session.unreadable = true ↔
        ∃ l, (heard ls).getLast? = some l ∧ Text.decode? l = none) ∧
      ∀ more, bytes.getLast? = some 10 →
        let longer := ofBytes showBanner (bytes ++ more)
        session.output <+: longer.output ∧
          (session.halted = true ∨ session.unreadable = true → longer = session) := by
  intro ls xs shown session
  have hlines : Text.Lines bytes ls := Text.lines_byteLines bytes
  have hbanner : banner showBanner = written (if showBanner then Calculator.banner else []) := by
    cases showBanner <;> rfl
  have hsession : session = ⟨written shown, xs.map Exchange.reply,
      (heard ls).any fun l => (Text.decode? l).isNone, Calculator.stackAfter [] (asked ls)⟩ := by
    rw [written_append, ← hbanner, ← flatMap_shown]
    change ofBytes showBanner bytes = _
    rw [ofBytes, run_eq]
  refine ⟨hlines, ?output, ?feeds, ?one, Calculator.exchanges_inputs [] (asked ls), ?replies,
    ?stack, ?unreadable, ?goes_on⟩
  case output => rw [hsession]
  case feeds =>
    intro l hl
    rcases List.mem_append.mp hl with hl | hl
    · have hfeeds : ∀ line ∈ Calculator.banner, '\n' ∉ line := by decide
      split at hl
      · exact hfeeds l hl
      · cases hl
    · obtain ⟨x, hx, hl⟩ := List.mem_flatMap.mp hl
      have hinput := no_feed_of_mem_asked (Calculator.input_mem_of_mem_exchanges hx)
      exact no_feed_of_mem_shownLines hx hinput l hl
  case one => exact fun x hx => (Calculator.exchanges_answered hx).1
  case replies => rw [hsession]
  case stack => rw [hsession]
  case unreadable =>
    rw [← heard_unreadable_iff, hsession]
    simp only [List.any_eq_true, Option.isNone_iff_eq_none]
  case goes_on =>
    intro more hend longer
    have hmore : Text.byteLines (bytes ++ more) = ls ++ Text.byteLines more :=
      (hlines.append hend (Text.lines_byteLines more)).byteLines_eq
    obtain ⟨hover, hprefix⟩ := run_append [] ls (Text.byteLines more)
    have hlonger : longer = ofBytes showBanner (bytes ++ more) := rfl
    rw [ofBytes, hmore] at hlonger
    refine ⟨?_, fun hended => ?_⟩
    · rw [hlonger]
      exact (List.prefix_append_right_inj (banner showBanner)).mpr hprefix
    · rw [hlonger, hover ((run_over_iff [] ls).mp hended)]
      rfl

/-- Bytes that are no text are not read behind the command for the end. -/
theorem PlainSession.ofBytes_shows_halted :
    let bytes := Text.encode (Text.lit "2 3 +\r\nexit\n")
    let session := ofBytes false bytes
    bytes.getLast? = some 10 ∧ session.halted = true ∧
      session.output = Text.lit "rpn> 2 3 +\n5\nrpn> exit\nThanks for using RPN Calculator\n" ∧
      ofBytes false (bytes ++ [0xff, 10]) = session := by
  intro bytes session
  have hend : bytes.getLast? = some 10 := by decide +kernel
  have hhalted : session.halted = true := by decide +kernel
  have hshown : session.output =
      Text.lit "rpn> 2 3 +\n5\nrpn> exit\nThanks for using RPN Calculator\n" := by decide +kernel
  obtain ⟨-, -, -, -, -, -, -, -, hmore⟩ := ofBytes_shows false bytes
  obtain ⟨-, hsame⟩ := hmore [0xff, 10] hend
  exact ⟨hend, hhalted, hshown, hsame (.inl hhalted)⟩

end PostfixCalc
