import SyntaxServer.Proofs.Syntax.Columns

/-!
Places converted back and forth. A client's place goes to a place in the tree, and that one back to
the client's place it counts as; a place in the tree between characters comes back unchanged
(`Text.converts_of_size`). A carriage return at the end of a line is no part of it here: columns
stop before it in one direction, and the other one is asked for no place behind it.
-/

namespace SyntaxServer.Text

open String (utf8Len)

variable {text line before as bs : List Char} {p : Point} {r : Position} {n m : Nat}

/-! ### Beginnings of a line -/

theorem unitCount_le_of_prefix (h : as <+: bs) : unitCount as ≤ unitCount bs := by
  obtain ⟨cs, rfl⟩ := h
  rw [unitCount_append]
  exact Nat.le_add_right ..

theorem prefix_of_utf8Len_le (ha : as <+: line) (hb : bs <+: line) (h : utf8Len as ≤ utf8Len bs) :
    as <+: bs := by
  apply List.prefix_of_prefix_length_le ha hb
  have hlength := utf8Len_lt_iff_length hb ha
  omega

theorem Settles.eq_of_between (h : Settles line n m) (hbefore : before <+: line)
    (hn : unitCount before = n) : m = n := by
  have hle := unitCount_le_of_prefix hbefore
  have hreached := h.reached
  have hleast := h.least before hbefore (by omega)
  omega

theorem byteColumn_unitCount (h : before <+: line) :
    byteColumn (unitCount before) line = utf8Len before := by
  obtain ⟨other, hother, hcolumn, hsettles⟩ := exists_byteColumn (unitCount before) line
  have hunits : unitCount other = unitCount before := hsettles.eq_of_between h rfl
  have hlt := utf8Len_lt_iff h hother
  have hgt := utf8Len_lt_iff hother h
  rw [hcolumn]
  omega

/-! ### Back and forth -/

theorem pointAt_eq (h : (lines text)[r.line]? = some line) :
    pointAt text r = some ⟨r.line, byteColumn r.character (dropReturn line)⟩ := by
  unfold pointAt
  rw [h]
  rfl

theorem exists_pointAt_iff :
    (∃ p, pointAt text r = some p) ↔ ∃ line, (lines text)[r.line]? = some line := by
  constructor
  · rintro ⟨p, h⟩
    obtain ⟨line, hline, -⟩ := Option.map_eq_some_iff.1 h
    exact ⟨line, hline⟩
  · rintro ⟨line, h⟩
    exact ⟨_, pointAt_eq h⟩

/-- A client's place comes back at the settled column. -/
theorem positionOf_pointAt (hsize : utf8Len text < 4294967296)
    (hline : (lines text)[r.line]? = some line) (h : pointAt text r = some p) :
    p.row = r.line ∧ (∃ before, IsBetween text p line before) ∧
      ∃ column, positionOf text p = ⟨r.line, column⟩ ∧
        Settles (dropReturn line) r.character column := by
  obtain ⟨line', before, hrow, hbetween, hsettles⟩ := between_of_pointAt h
  have hsame : line' = line := by
    have hline' := hbetween.row
    rw [hrow, hline] at hline'
    exact (Option.some.inj hline').symm
  subst hsame
  refine ⟨hrow, ⟨before, hbetween⟩, unitCount before, ?_, hsettles⟩
  rw [positionOf_of_between hsize hbetween, hrow]

/-- A place in the tree comes back, unless it is behind the carriage return of its line. -/
theorem pointAt_positionOf (hsize : utf8Len text < 4294967296) (h : IsBetween text p line before)
    (hend : p.column ≤ utf8Len (dropReturn line)) :
    pointAt text (positionOf text p) = some p := by
  have hbefore : before <+: dropReturn line := by
    apply prefix_of_utf8Len_le h.behind (prefix_dropReturn line)
    rw [← h.column]
    exact hend
  rw [positionOf_of_between hsize h, pointAt_eq h.row, byteColumn_unitCount hbefore, ← h.column]

/-- The two conversions of places in a text undo each other up to rounding. A client's place has
one in the tree if its line is there; that one is between characters of the line and comes back at
the settled column, which is the column itself if it is between characters. A place in the tree
between characters of a line comes back as it was. -/
structure Converts (text : List Char) : Prop where
  found : ∀ r, (∃ p, pointAt text r = some p) ↔ ∃ line, (lines text)[r.line]? = some line
  rounded : ∀ r p line, (lines text)[r.line]? = some line → pointAt text r = some p →
    p.row = r.line ∧ (∃ before, IsBetween text p line before) ∧
      ∃ column, positionOf text p = ⟨r.line, column⟩ ∧ Settles (dropReturn line) r.character column
  kept : ∀ r line before, (lines text)[r.line]? = some line → before <+: dropReturn line →
    unitCount before = r.character → ∃ p, pointAt text r = some p ∧ positionOf text p = r
  returned : ∀ p line before, IsBetween text p line before →
    p.column ≤ utf8Len (dropReturn line) → pointAt text (positionOf text p) = some p

/-- **Places convert back and forth** in every text whose size has 32 bits. -/
theorem converts_of_size (hsize : utf8Len text < 4294967296) : Converts text := by
  refine ⟨fun r => exists_pointAt_iff, fun r p line => positionOf_pointAt hsize, ?_,
    fun p line before => pointAt_positionOf hsize⟩
  intro r line before hline hbefore hcolumn
  have hpoint := pointAt_eq hline
  obtain ⟨-, -, column, hposition, hsettles⟩ := positionOf_pointAt hsize hline hpoint
  refine ⟨_, hpoint, ?_⟩
  rw [hposition, hsettles.eq_of_between hbefore hcolumn]

/-- A line with a carriage return, and one with a clef, which has four bytes and two units: columns
behind the carriage return and within the clef are rounded. -/
theorem converts_of_clefLines :
    Converts "a\r\n𝄞é".toList ∧
      pointAt "a\r\n𝄞é".toList ⟨0, 2⟩ = some ⟨0, 1⟩ ∧ positionOf "a\r\n𝄞é".toList ⟨0, 1⟩ = ⟨0, 1⟩ ∧
      pointAt "a\r\n𝄞é".toList ⟨1, 1⟩ = some ⟨1, 4⟩ ∧ positionOf "a\r\n𝄞é".toList ⟨1, 4⟩ = ⟨1, 2⟩ :=
  ⟨converts_of_size (by decide), by decide, by decide, by decide, by decide⟩

end SyntaxServer.Text
