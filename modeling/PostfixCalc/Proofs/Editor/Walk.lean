import PostfixCalc.Proofs.Editor.Recall

namespace PostfixCalc.History

/-- What can be asked of a history. -/
inductive Call
  | push (entry : Text)
  | previous (current : Text)
  | next
  | rest
  deriving DecidableEq, Repr

def Call.pushed? : Call → Option Text
  | .push entry => some entry
  | _ => none

/-- What a call answers, if anything, and the history behind it. -/
def call (h : History) : Call → Option Text × History
  | .push entry => (none, h.push entry)
  | .previous current => h.previous current
  | .next => h.next
  | .rest => (none, h.rest)

def after (h : History) (calls : List Call) : History := calls.foldl (fun h c => (h.call c).2) h

def answers (h : History) : List Call → List (Option Text)
  | [] => []
  | c :: calls => (h.call c).1 :: (h.call c).2.answers calls

theorem after_cons (h : History) (c : Call) (calls : List Call) :
    h.after (c :: calls) = (h.call c).2.after calls := rfl

theorem after_append (h : History) (calls more : List Call) :
    h.after (calls ++ more) = (h.after calls).after more := List.foldl_append

theorem after_entries {h : History} {before : List Text} (hentries : h.entries = kept before)
    (calls : List Call) :
    (h.after calls).entries = kept (before ++ calls.filterMap Call.pushed?) := by
  induction calls generalizing h before with
  | nil =>
    rw [List.filterMap_nil, List.append_nil]
    exact hentries
  | cons c calls ih =>
    rw [after_cons]
    cases c with
    | push entry =>
      have hpush := push_entries hentries entry
      have hpushed : Call.pushed? (.push entry) = some entry := rfl
      rw [List.filterMap_cons_some hpushed, List.append_cons]
      exact ih hpush
    | previous current => exact ih ((h.previous_entries current).trans hentries)
    | next => exact ih (h.next_entries.trans hentries)
    | rest => exact ih hentries

/-- A walk stands at one of the entries. -/
def Stands (h : History) : Prop := ∀ p ∈ h.position, p < h.entries.length

theorem call_stands {h : History} (hstands : h.Stands) (c : Call) : (h.call c).2.Stands := by
  cases c with
  | push entry => intro p hp; cases hp
  | rest => intro p hp; cases hp
  | previous current =>
    show (h.previous current).2.Stands
    unfold previous
    split
    · split
      · exact hstands
      · next hne =>
        have hpos := List.length_pos_iff.mpr hne
        simp [Stands]
        omega
    · next p hp =>
      have hlt := hstands p hp
      simp [Stands]
      omega
  | next =>
    show h.next.2.Stands
    unfold next
    split
    · exact hstands
    · split
      · next hlt => simpa [Stands] using hlt
      · intro p hp
        cases hp

theorem after_stands {h : History} (hstands : h.Stands) (calls : List Call) :
    (h.after calls).Stands := by
  induction calls generalizing h with
  | nil => exact hstands
  | cons c calls ih => exact ih (call_stands hstands c)

theorem answers_concat (h : History) (calls : List Call) (c : Call) :
    h.answers (calls ++ [c]) = h.answers calls ++ [((h.after calls).call c).1] := by
  induction calls generalizing h with
  | nil => rfl
  | cons d calls ih =>
    have hrest := ih (h.call d).2
    simp only [List.cons_append, answers, after_cons, hrest]

theorem previous_of_nil {h : History} (hstands : h.Stands) (hnil : h.entries = [])
    (current : Text) : h.previous current = (none, h) := by
  have hrest : h.position = none := by
    rw [Option.eq_none_iff_forall_not_mem]
    intro p hp
    have hlt := hstands p hp
    simp [hnil] at hlt
  simp [previous, hrest, hnil]

section Walk

variable {entries : List Text} {draft : Text}

theorem previous_of_rest (hne : entries ≠ []) (current : Text) :
    previous ⟨entries, none, draft⟩ current =
      (entries[entries.length - 1]?, ⟨entries, some (entries.length - 1), current⟩) := by
  simp [previous, hne]

theorem previous_of_walk (p : Nat) (current : Text) :
    previous ⟨entries, some p, draft⟩ current =
      (entries[p - 1]?, ⟨entries, some (p - 1), draft⟩) := rfl

theorem next_of_rest : next ⟨entries, none, draft⟩ = (none, ⟨entries, none, draft⟩) := rfl

theorem next_of_lt {p : Nat} (hlt : p + 1 < entries.length) :
    next ⟨entries, some p, draft⟩ = (entries[p + 1]?, ⟨entries, some (p + 1), draft⟩) := by
  simp [next, hlt]

theorem next_of_le {p : Nat} (hle : entries.length ≤ p + 1) :
    next ⟨entries, some p, draft⟩ = (some draft, ⟨entries, none, draft⟩) := by
  simp [next, hle]

/-- Behind the newest entry a walk finds its draft. -/
theorem next_of_walk (p : Nat) :
    (next ⟨entries, some p, draft⟩).1 = some (entries[p + 1]?.getD draft) := by
  by_cases hlt : p + 1 < entries.length
  · rw [next_of_lt hlt, List.getElem?_eq_getElem hlt]
    rfl
  · have hle : entries.length ≤ p + 1 := Nat.le_of_not_lt hlt
    rw [next_of_le hle, List.getElem?_eq_none hle]
    rfl

/-- Steps back stop at the oldest entry. -/
theorem after_previous (p : Nat) (later : List Text) :
    after ⟨entries, some p, draft⟩ (later.map .previous) =
      ⟨entries, some (p - later.length), draft⟩ := by
  induction later generalizing p with
  | nil => rfl
  | cons current later ih =>
    have hplace : p - 1 - later.length = p - (later.length + 1) := by omega
    rw [List.map_cons, after_cons, List.length_cons, ← hplace]
    exact ih (p - 1)

/-- Steps forward end the walk behind the newest entry. -/
theorem after_next {p : Nat} (hlt : p < entries.length) (m : Nat) :
    after ⟨entries, some p, draft⟩ (List.replicate m .next) =
      ⟨entries, if p + m < entries.length then some (p + m) else none, draft⟩ := by
  induction m with
  | zero => simp [after, hlt]
  | succ m ih =>
    rw [List.replicate_succ', after_append, ih, ← Nat.add_assoc]
    show (next _).2 = _
    by_cases hhere : p + m < entries.length
    · rw [if_pos hhere]
      by_cases hmore : p + m + 1 < entries.length
      · rw [next_of_lt hmore, if_pos hmore]
      · rw [next_of_le (Nat.le_of_not_lt hmore), if_neg hmore]
    · have hmore : ¬ p + m + 1 < entries.length := by omega
      rw [if_neg hhere, next_of_rest, if_neg hmore]

variable (hne : entries ≠ []) (current : Text) (later : List Text)

include hne

/-- Where a walk is behind its first steps back. -/
theorem after_walk_back :
    after ⟨entries, none, draft⟩ (.previous current :: later.map .previous) =
      ⟨entries, some (entries.length - min (later.length + 1) entries.length), current⟩ := by
  have hplace : entries.length - 1 - later.length =
      entries.length - min (later.length + 1) entries.length := by omega
  rw [after_cons, ← hplace]
  show after (previous _ current).2 _ = _
  rw [previous_of_rest hne]
  exact after_previous _ later

theorem answers_walk_back :
    (answers ⟨entries, none, draft⟩ (.previous current :: later.map .previous)).getLast? =
      some entries[entries.length - min (later.length + 1) entries.length]? := by
  obtain rfl | ⟨earlier, last, rfl⟩ := List.eq_nil_or_concat' later
  · have hpos : 0 < entries.length := List.length_pos_iff.mpr hne
    have hplace : entries.length - 1 = entries.length - min 1 entries.length := by omega
    simp [answers, call, previous_of_rest hne, ← hplace]
  · have hplace : entries.length - min (earlier.length + 1) entries.length - 1 =
        entries.length - min (earlier.length + 1 + 1) entries.length := by omega
    rw [List.map_append, List.map_singleton, ← List.cons_append, answers_concat,
      after_walk_back hne, List.getLast?_concat, List.length_append, List.length_singleton,
      ← hplace]
    show some (previous _ last).1 = _
    rw [previous_of_walk]

end Walk

/-- A history, whatever was asked of it. Its entries are the texts that were pushed, without blank
ones and without repetitions of the entry before. From rest, `j` steps back lead to the entry `j`
places before the end or to the oldest one; steps forward lead over the entries behind it to the
draft that the walk set out from, and no further. -/
theorem after_walk (calls : List Call) :
    let h := empty.after calls
    let n := h.entries.length
    h.entries = kept (calls.filterMap Call.pushed?) ∧
      (h.entries = [] → ∀ current, h.previous current = (none, h)) ∧
      (∀ entry, (h.push entry).position = none) ∧ h.rest.position = none ∧
      (h.position = none → h.entries ≠ [] → ∀ (draft : Text) (later : List Text) (m : Nat),
        let place := n - min (later.length + 1) n
        let steps := Call.previous draft :: later.map .previous
        let forth := (h.after steps).after (List.replicate m .next)
        (h.answers steps).getLast? = some h.entries[place]? ∧
          (place + (m + 1) < n → forth.next.1 = h.entries[place + (m + 1)]?) ∧
          (place + (m + 1) = n → forth.next.1 = some draft) ∧
          (n < place + (m + 1) → forth.next = (none, forth))) := by
  intro h n
  have hentries : h.entries = kept ([] ++ calls.filterMap Call.pushed?) := after_entries rfl calls
  rw [List.nil_append] at hentries
  have hstands : h.Stands := after_stands (fun p hp => by cases hp) calls
  refine ⟨hentries, fun hnil current => previous_of_nil hstands hnil current, fun entry => rfl, rfl,
    ?_⟩
  intro hrest hne draft later m place steps forth
  have hstart : h = ⟨h.entries, none, h.draft⟩ := by rw [← hrest]
  have hlt : place < n := by
    have hpos : 0 < n := List.length_pos_iff.mpr hne
    omega
  have hforth : forth =
      ⟨h.entries, if place + m < n then some (place + m) else none, draft⟩ := by
    show (h.after steps).after _ = _
    rw [hstart, after_walk_back hne draft later]
    exact after_next hlt m
  refine ⟨?back, ?among, ?draft, ?behind⟩
  case back =>
    rw [hstart]
    exact answers_walk_back hne draft later
  case among =>
    intro hmore
    have hhere : place + m < n := by omega
    have hnext : place + m + 1 < h.entries.length := hmore
    rw [hforth, if_pos hhere, next_of_lt hnext]
    rfl
  case draft =>
    intro hend
    have hhere : place + m < n := by omega
    have hnext : h.entries.length ≤ place + m + 1 := Nat.le_of_eq hend.symm
    rw [hforth, if_pos hhere, next_of_le hnext]
  case behind =>
    intro hbehind
    have hhere : ¬ place + m < n := by omega
    rw [hforth, if_neg hhere, next_of_rest]

/-- A blank entry and a repeated one are dropped, and the draft of an earlier walk is forgotten. -/
theorem after_walk_two :
    let calls : List Call :=
      [.push ['1'], .push [' '], .push ['2'], .previous ['x'], .push ['2']]
    let h := empty.after calls
    let forth := (h.after [.previous ['y'], .previous []]).after [.next]
    h.entries = [['1'], ['2']] ∧ h.position = none ∧
      (h.answers [.previous ['y'], .previous []]).getLast? = some (some ['1']) ∧
      forth.next.1 = some ['y'] ∧ forth.next.2.next = (none, forth.next.2) := by
  intro calls h forth
  have hentries : h.entries = [['1'], ['2']] := by decide
  have hrest : h.position = none := by decide
  have hne : h.entries ≠ [] := by decide
  obtain ⟨-, -, -, -, hwalk⟩ := after_walk calls
  obtain ⟨hback, -, hdraft, -⟩ := hwalk hrest hne ['y'] [[]] 1
  obtain ⟨-, -, -, hover⟩ := hwalk hrest hne ['y'] [[]] 2
  exact ⟨hentries, hrest, hback, hdraft rfl, hover (by decide)⟩

end PostfixCalc.History
