import PostfixCalc.Proofs.Text.Ascii
import PostfixCalc.Proofs.Screen.Areas

namespace PostfixCalc

namespace Text

/-- Every code point is a cluster by itself and takes one column. -/
def Narrow (s : Text) : Prop := ∀ c ∈ s, ClusterClass.of c = .other ∧ width [c] = 1

theorem AllPrintable.narrow {s : Text} (h : AllPrintable s) : Narrow s := by
  intro c hc
  have hsingle : AllPrintable [c] := List.forall_mem_singleton.mpr (h c hc)
  exact ⟨(h c hc).class_eq, width_printable hsingle⟩

theorem Narrow.append {a b : Text} (ha : Narrow a) (hb : Narrow b) : Narrow (a ++ b) := by
  intro c hc
  rcases List.mem_append.mp hc with hc | hc
  · apply ha c hc
  · apply hb c hc

theorem narrow_ellipsis : Narrow ['…'] := by
  intro c hc
  obtain rfl := List.mem_singleton.mp hc
  decide +kernel

end Text

namespace Glyph

theorem cut_of_narrow {gs : List Glyph} (h : ∀ g ∈ gs, g.width = 1) {room : Nat}
    (hroom : gs.length ≤ room) : cut room gs = gs := by
  induction gs generalizing room with
  | nil => simp [cut]
  | cons g gs ih =>
    have hg := h g List.mem_cons_self
    rw [List.length_cons] at hroom
    have hfits : g.width ≤ room := by omega
    have hrest : gs.length ≤ room - g.width := by omega
    rw [cut, if_pos hfits, ih (fun x hx => h x (List.mem_cons_of_mem g hx)) hrest]

theorem flatMap_cells_of_narrow (base : CellStyle) {gs : List Glyph} (h : ∀ g ∈ gs, g.width = 1) :
    gs.flatMap (cells base) = gs.map fun g => ⟨g.symbol, base.patch g.style⟩ := by
  induction gs with
  | nil => rfl
  | cons g gs ih =>
    have hg : g.cells base = [⟨g.symbol, base.patch g.style⟩] := by
      rw [cells, h g List.mem_cons_self]
      rfl
    rw [List.flatMap_cons, hg, ih (fun x hx => h x (List.mem_cons_of_mem g hx)), List.map_cons,
      List.singleton_append]

end Glyph

namespace Row

/-- A text from the first column on, one cell for each code point, and nothing behind it. -/
def spelled (base : CellStyle) (style : Style) (width : Nat) (s : Text) : Row :=
  s.map (fun c => ⟨[c], base.patch style⟩) ++ blank base (width - s.length)

theorem length_spelled (base : CellStyle) (style : Style) {width : Nat} {s : Text}
    (h : s.length ≤ width) : (spelled base style width s).length = width := by
  rw [spelled, blank, List.length_append, List.length_map, List.length_replicate]
  omega

/-- A narrow text that has room in its row is spelled there. -/
theorem ofGlyphs_cut_narrow (base : CellStyle) (style : Style) {width : Nat} {s : Text}
    (hs : s.Narrow) (hroom : s.length ≤ width) :
    ofGlyphs base width 0 (StyledLine.cut width [⟨s, style⟩]) = spelled base style width s := by
  let glyphs : List Glyph := s.map fun c => ⟨[c], style⟩
  have hlength : glyphs.length = s.length := List.length_map _
  have hglyphs : StyledLine.glyphs [⟨s, style⟩] = glyphs := by
    have hclusters := Text.clusters_other fun c hc => (hs c hc).1
    rw [StyledLine.glyphs, List.flatMap_singleton, Span.glyphs, hclusters, List.map_map]
    rfl
  have hone : ∀ g ∈ glyphs, g.width = 1 := by
    intro g hg
    obtain ⟨c, hc, rfl⟩ := List.mem_map.mp hg
    apply (hs c hc).2
  have hkept : ∀ g ∈ glyphs, decide (g.width ≤ width) = true := by
    intro g hg
    have hpos := List.length_pos_of_mem hg
    have hwidth := hone g hg
    rw [decide_eq_true_iff]
    omega
  have hcut : StyledLine.cut width [⟨s, style⟩] = glyphs := by
    rw [StyledLine.cut, hglyphs, List.filter_eq_self.mpr hkept,
      Glyph.cut_of_narrow hone (by omega)]
  have hcells : glyphs.flatMap (Glyph.cells base) = s.map fun c => ⟨[c], base.patch style⟩ := by
    rw [Glyph.flatMap_cells_of_narrow base hone, List.map_map]
    rfl
  have hfill : width - s.length ≤ width := Nat.sub_le _ _
  rw [ofGlyphs, hcut, hcells, fill, spelled]
  simp only [blank, List.replicate_zero, List.nil_append, List.take_append, List.take_replicate,
    List.length_map, Nat.min_eq_left hfill]
  rw [List.take_of_length_le (by rwa [List.length_map])]

end Row

end PostfixCalc
