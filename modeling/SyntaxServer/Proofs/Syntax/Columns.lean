import Mathlib.Data.String.Basic
import SyntaxServer.Proofs.Syntax.Innermost

/-!
Columns in bytes and in units. A tree counts bytes and a client counts units of 16 bits; between the
characters of a line both count alike (`Text.before_iff_of_between`). So the range of a hover, which
was found in bytes, covers the place of the client that it was asked for (`Hover.covers_of_at?`):
its column counts as the end of the line if it is beyond it, and as the next place between
characters if it is within one.
-/

namespace SyntaxServer

open String (utf8Len)

def Position.Before (p q : Position) : Prop :=
  p.line < q.line ∨ p.line = q.line ∧ p.character < q.character

namespace Text

variable {text line line' before before' after as bs : List Char} {p q : Point} {n m : Nat}

/-! ### Sizes of texts -/

theorem unitCount_append (as bs : List Char) :
    unitCount (as ++ bs) = unitCount as + unitCount bs := by
  induction as with
  | nil => simp [unitCount]
  | cons a as ih => simp only [List.cons_append, unitCount, ih, Nat.add_assoc]

theorem units_pos (c : Char) : 0 < units c := by
  unfold units
  split <;> omega

theorem units_le (c : Char) : units c ≤ c.utf8Size := by
  have hpos := c.utf8Size_pos
  unfold units
  split
  case isTrue => exact hpos
  case isFalse h =>
    have hwide : ∀ n : UInt32, n.toNat < 0x10000 → ¬ c.val ≤ n := by
      intro n hn hle
      have hle : c.toNat ≤ n.toNat := UInt32.le_iff_toNat_le.1 hle
      omega
    unfold Char.utf8Size
    rw [if_neg (hwide _ (by decide)), if_neg (hwide _ (by decide)), if_neg (hwide _ (by decide))]
    decide

theorem unitCount_le (cs : List Char) : unitCount cs ≤ utf8Len cs := by
  induction cs with
  | nil => exact Nat.le_refl 0
  | cons c cs ih =>
    have hc := units_le c
    rw [unitCount, String.utf8Len_cons]
    omega

/-- Of two beginnings of a line, the longer one has the larger size, whatever is counted. -/
theorem size_lt_iff {size : List Char → Nat}
    (happend : ∀ as bs, size (as ++ bs) = size as + size bs)
    (hpos : ∀ c cs, 0 < size (c :: cs)) (ha : as <+: line) (hb : bs <+: line) :
    size as < size bs ↔ as.length < bs.length := by
  rcases List.prefix_or_prefix_of_prefix ha hb with ⟨cs, rfl⟩ | ⟨cs, rfl⟩
  · rw [happend, List.length_append]
    cases cs with
    | nil =>
      have hnil := happend [] []
      simp only [List.append_nil, List.length_nil] at hnil ⊢
      omega
    | cons c cs =>
      have hc := hpos c cs
      rw [List.length_cons]
      omega
  · rw [happend, List.length_append]
    omega

theorem utf8Len_lt_iff_length (ha : as <+: line) (hb : bs <+: line) :
    utf8Len as < utf8Len bs ↔ as.length < bs.length := by
  refine size_lt_iff String.utf8Len_append ?_ ha hb
  intro c cs
  have hc := c.utf8Size_pos
  rw [String.utf8Len_cons]
  omega

theorem unitCount_lt_iff_length (ha : as <+: line) (hb : bs <+: line) :
    unitCount as < unitCount bs ↔ as.length < bs.length := by
  refine size_lt_iff unitCount_append ?_ ha hb
  intro c cs
  have hc := units_pos c
  rw [unitCount]
  omega

theorem utf8Len_lt_iff (ha : as <+: line) (hb : bs <+: line) :
    utf8Len as < utf8Len bs ↔ unitCount as < unitCount bs := by
  rw [utf8Len_lt_iff_length ha hb, unitCount_lt_iff_length ha hb]

/-- Lines are no longer than their text, and their number is bounded by its size. -/
theorem size_of_intercalate (ls : List (List Char)) :
    (∀ l ∈ ls, utf8Len l ≤ utf8Len (['\n'].intercalate ls)) ∧
      ls.length ≤ utf8Len (['\n'].intercalate ls) + 1 := by
  induction ls with
  | nil => simp
  | cons l ls ih =>
    cases ls with
    | nil => simp
    | cons m ls =>
      obtain ⟨hlines, hcount⟩ := ih
      have hjoin : ['\n'].intercalate (l :: m :: ls) =
          l ++ '\n' :: ['\n'].intercalate (m :: ls) := by
        simp [List.intercalate]
      have hsize : utf8Len (['\n'].intercalate (l :: m :: ls)) =
          utf8Len l + (utf8Len (['\n'].intercalate (m :: ls)) + 1) := by
        rw [hjoin, String.utf8Len_append, String.utf8Len_cons]
        rfl
      rw [hsize]
      constructor
      · intro k hk
        rcases List.mem_cons.1 hk with rfl | hk
        · omega
        · have hle := hlines k hk
          omega
      · rw [List.length_cons]
        omega

theorem utf8Len_line_le (h : (lines text)[n]? = some line) :
    utf8Len line ≤ utf8Len text ∧ n ≤ utf8Len text := by
  obtain ⟨hlines, hcount⟩ := size_of_intercalate (lines text)
  have hjoin : ['\n'].intercalate (lines text) = text := List.intercalate_splitOn '\n'
  rw [hjoin] at hlines hcount
  obtain ⟨hn, -⟩ := List.getElem?_eq_some_iff.1 h
  exact ⟨hlines line (List.mem_of_getElem? h), by omega⟩

/-! ### Places between characters -/

/-- The place stands behind some characters of a line. -/
structure IsBetween (text : List Char) (p : Point) (line before : List Char) : Prop where
  row : (lines text)[p.row]? = some line
  behind : before <+: line
  column : p.column = utf8Len before

/-- **Both ways of counting order places alike.** -/
theorem before_iff_of_between (hp : IsBetween text p line before)
    (hq : IsBetween text q line' before') :
    p.before q = true ↔
      Position.Before ⟨p.row, unitCount before⟩ ⟨q.row, unitCount before'⟩ := by
  rw [Point.before_iff, hp.column, hq.column]
  unfold Position.Before
  refine or_congr_right (and_congr_right ?_)
  intro hrow
  have hline := hp.row
  rw [hrow, hq.row] at hline
  cases hline
  exact utf8Len_lt_iff hp.behind hq.behind

theorem splitBytes?_append (before after : List Char) :
    splitBytes? (utf8Len before) (before ++ after) = some (before, after) := by
  induction before with
  | nil =>
    rw [String.utf8Len_nil, splitBytes?]
    rfl
  | cons c before ih =>
    have hpos := c.utf8Size_pos
    obtain ⟨n, hn⟩ : ∃ n, utf8Len (c :: before) = n + 1 :=
      ⟨utf8Len (c :: before) - 1, by rw [String.utf8Len_cons]; omega⟩
    have hrest : n + 1 - c.utf8Size = utf8Len before := by
      rw [← hn, String.utf8Len_cons]
      omega
    have hle : c.utf8Size ≤ n + 1 := by
      rw [← hn, String.utf8Len_cons]
      omega
    rw [hn, List.cons_append, splitBytes?]
    · rw [if_pos hle, hrest, ih]
      rfl
    · exact Nat.succ_ne_zero n

/-- The client's place of a place between characters. -/
theorem positionOf_of_between (hsize : utf8Len text < 4294967296)
    (h : IsBetween text p line before) :
    positionOf text p = ⟨p.row, unitCount before⟩ := by
  obtain ⟨after, rfl⟩ := h.behind
  obtain ⟨hline, hrow⟩ := utf8Len_line_le h.row
  have hunits := unitCount_le before
  rw [String.utf8Len_append] at hline
  have hcolumn : unitCount before < 4294967296 := by omega
  unfold positionOf
  rw [h.row, h.column]
  dsimp only [Option.getD_some]
  rw [splitBytes?_append, Option.map_some, Option.getD_some, Width.low32_of_lt hcolumn,
    Width.low32_of_lt (by omega)]

/-! ### Requested places -/

/-- What becomes of a requested column: it is the end of the line if that is before it, and the next
place between characters. -/
structure Settles (line : List Char) (n m : Nat) : Prop where
  between : ∃ before, before <+: line ∧ unitCount before = m
  reached : min n (unitCount line) ≤ m
  least : ∀ before, before <+: line → min n (unitCount line) ≤ unitCount before →
    m ≤ unitCount before

/-- The column in bytes stands behind the characters up to the settled column in units. -/
theorem exists_byteColumn (n : Nat) (line : List Char) :
    ∃ before, before <+: line ∧ byteColumn n line = utf8Len before ∧
      Settles line n (unitCount before) := by
  induction line generalizing n with
  | nil =>
    refine ⟨[], List.nil_prefix, by cases n <;> rfl, ⟨[], List.nil_prefix, rfl⟩, ?_, ?_⟩
    · exact Nat.min_le_right ..
    · intro other hother hle
      exact Nat.zero_le _
  | cons c line ih =>
    cases n with
    | zero =>
      refine ⟨[], List.nil_prefix, rfl, ⟨[], List.nil_prefix, rfl⟩, ?_, ?_⟩
      · exact Nat.min_le_left ..
      · intro other hother hle
        exact Nat.zero_le _
    | succ n =>
      obtain ⟨before, hbehind, hcolumn, -, hreached, hleast⟩ := ih (n + 1 - units c)
      have hpos := units_pos c
      have hbehind' : c :: before <+: c :: line := List.cons_prefix_cons.2 ⟨rfl, hbehind⟩
      refine ⟨c :: before, hbehind', ?_, ⟨_, hbehind', rfl⟩, ?_, ?_⟩
      · rw [byteColumn, hcolumn, String.utf8Len_cons, Nat.add_comm]
        intro h
        cases h
      · rw [unitCount, unitCount]
        omega
      · intro other hother hle
        cases other with
        | nil =>
          simp only [unitCount] at hle
          omega
        | cons d other =>
          obtain ⟨rfl, hrest⟩ := List.cons_prefix_cons.1 hother
          have hle' := hleast other hrest
          simp only [unitCount] at hle ⊢
          omega

theorem prefix_dropReturn (line : List Char) : dropReturn line <+: line := by
  unfold dropReturn
  split
  · exact List.dropLast_prefix line
  · exact List.prefix_refl line

/-- The place in a tree of a client's place is between characters, at the settled column. -/
theorem between_of_pointAt {r : Position} (h : pointAt text r = some p) :
    ∃ line before, p.row = r.line ∧ IsBetween text p line before ∧
      Settles (dropReturn line) r.character (unitCount before) := by
  obtain ⟨line, hline, rfl⟩ := Option.map_eq_some_iff.1 h
  obtain ⟨before, hbehind, hcolumn, hsettles⟩ := exists_byteColumn r.character (dropReturn line)
  exact ⟨line, before, rfl, ⟨hline, hbehind.trans (prefix_dropReturn line), hcolumn⟩, hsettles⟩

end Text

/-- All nodes of the tree start and stop between characters of the text. -/
def Tree.Bounded (text : List Char) (t : Tree) : Prop :=
  ∀ is u, t.descendant? is = some u →
    (∃ line before, Text.IsBetween text u.info.start line before) ∧
      ∃ line before, Text.IsBetween text u.info.stop line before

theorem Tree.bounded_node {text : List Char} {i : NodeInfo} {cs : List Tree}
    (hstart : ∃ line before, Text.IsBetween text i.start line before)
    (hstop : ∃ line before, Text.IsBetween text i.stop line before)
    (h : ∀ c ∈ cs, c.Bounded text) : (node i cs).Bounded text := by
  intro is u hu
  cases is with
  | nil =>
    cases hu
    exact ⟨hstart, hstop⟩
  | cons k is =>
    rw [descendant?_cons, Option.bind_eq_some_iff] at hu
    obtain ⟨c, hc, hu⟩ := hu
    exact h c (List.mem_of_getElem? hc) is u hu

theorem Tree.range_of_holds {text line before : List Char} {t u : Tree} {p : Point} {is : List Nat}
    (hsize : utf8Len text < 4294967296) (hbounded : t.Bounded text)
    (hp : Text.IsBetween text p line before) (hu : t.Reaches p is u) :
    ¬ Position.Before ⟨p.row, Text.unitCount before⟩ (u.range text).start ∧
      Position.Before ⟨p.row, Text.unitCount before⟩ (u.range text).stop := by
  obtain ⟨⟨_, _, hstart⟩, ⟨_, _, hstop⟩⟩ := hbounded is u hu.found
  obtain ⟨hfrom, hto⟩ := holds_iff.1 hu.holds
  unfold range
  rw [Text.positionOf_of_between hsize hstart, Text.positionOf_of_between hsize hstop]
  exact ⟨mt (Text.before_iff_of_between hp hstart).2 hfrom,
    (Text.before_iff_of_between hp hstop).1 hto⟩

namespace Hover

variable {grammars : Grammars} {languageId uri text : String} {p : Position} {cancelled : Bool}
  {hover : Hover}

theorem exists_of_at? (h : at? grammars languageId uri text p cancelled = .ok (some hover)) :
    ∃ language t point is u, Language.detect languageId uri = some language ∧
      grammars language text = .ok t ∧ Text.pointAt text.toList p = some point ∧
        t.Reaches point is u ∧ hover.range = u.range text.toList := by
  obtain ⟨language, t, point, u, hlanguage, ht, hpoint, hlast, rfl⟩ := drawn_of_at? h
  obtain ⟨is, hu⟩ := Tree.reaches_of_getLast? hlast
  exact ⟨language, t, point, is, u, hlanguage, ht, hpoint, hu, rfl⟩

/-- **The range of a hover covers the place** that it was asked for, in the order of the client, if
the nodes of the tree start and stop between characters. -/
theorem covers_of_at? (hsize : text.utf8ByteSize < 4294967296)
    (hbounded : ∀ language ∈ Language.detect languageId uri, ∀ t,
      grammars language text = .ok t → t.Bounded text.toList)
    (h : at? grammars languageId uri text p cancelled = .ok (some hover)) :
    ∃ line column, (Text.lines text.toList)[p.line]? = some line ∧
      Text.Settles (Text.dropReturn line) p.character column ∧
        ¬ Position.Before ⟨p.line, column⟩ hover.range.start ∧
          Position.Before ⟨p.line, column⟩ hover.range.stop := by
  obtain ⟨language, t, point, is, u, hlanguage, ht, hpoint, hu, hrange⟩ := exists_of_at? h
  obtain ⟨line, before, hrow, hbetween, hsettles⟩ := Text.between_of_pointAt hpoint
  have hbytes : utf8Len text.toList < 4294967296 := by rwa [String.utf8Len_toList]
  have hcovers := Tree.range_of_holds hbytes (hbounded language hlanguage t ht) hbetween hu
  have hline := hbetween.row
  rw [hrow] at hline hcovers
  rw [hrange]
  exact ⟨line, _, hline, hsettles, hcovers⟩

/-- The tree of a quoted clef, a character of four bytes and two units. -/
def quotedClef : Tree :=
  .node ⟨"document", true, 0, 6, ⟨0, 0⟩, ⟨0, 6⟩⟩
    [.node ⟨"string", true, 0, 6, ⟨0, 0⟩, ⟨0, 6⟩⟩
      [.node ⟨"string_content", true, 1, 5, ⟨0, 1⟩, ⟨0, 5⟩⟩ []]]

def clefGrammars : Grammars := fun _ _ => .ok quotedClef

theorem bounded_quotedClef : quotedClef.Bounded "\"𝄞\"".toList := by
  have hline : (Text.lines "\"𝄞\"".toList)[0]? = some ['"', '𝄞', '"'] := by decide
  have h₀ : ∃ line before, Text.IsBetween "\"𝄞\"".toList ⟨0, 0⟩ line before :=
    ⟨_, [], hline, ⟨_, rfl⟩, rfl⟩
  have h₁ : ∃ line before, Text.IsBetween "\"𝄞\"".toList ⟨0, 1⟩ line before :=
    ⟨_, ['"'], hline, ⟨_, rfl⟩, rfl⟩
  have h₅ : ∃ line before, Text.IsBetween "\"𝄞\"".toList ⟨0, 5⟩ line before :=
    ⟨_, ['"', '𝄞'], hline, ⟨_, rfl⟩, rfl⟩
  have h₆ : ∃ line before, Text.IsBetween "\"𝄞\"".toList ⟨0, 6⟩ line before :=
    ⟨_, ['"', '𝄞', '"'], hline, ⟨_, rfl⟩, rfl⟩
  refine Tree.bounded_node h₀ h₆ (List.forall_mem_singleton.2 ?_)
  refine Tree.bounded_node h₀ h₆ (List.forall_mem_singleton.2 ?_)
  exact Tree.bounded_node h₁ h₅ (List.forall_mem_nil _)

/-- A column within the clef counts as the one behind it, which the string has and its content has
not. -/
theorem covers_of_quotedClef : ∃ hover, at? clefGrammars "json" "" "\"𝄞\"" ⟨0, 2⟩ false =
    .ok (some hover) ∧ hover.range = ⟨⟨0, 0⟩, ⟨0, 4⟩⟩ ∧
      ∃ line column, (Text.lines "\"𝄞\"".toList)[0]? = some line ∧
        Text.Settles (Text.dropReturn line) 2 column ∧
          ¬ Position.Before ⟨0, column⟩ hover.range.start ∧
            Position.Before ⟨0, column⟩ hover.range.stop := by
  have hpoint : Text.pointAt "\"𝄞\"".toList ⟨0, 2⟩ = some ⟨0, 5⟩ := by decide
  have hlanguage : Language.detect "json" "" = some .json := by decide
  have ht : clefGrammars .json "\"𝄞\"" = .ok quotedClef := rfl
  have hpath : ∃ u, quotedClef.pathTo ⟨0, 5⟩ = [u] ∧
      u.range "\"𝄞\"".toList = ⟨⟨0, 0⟩, ⟨0, 4⟩⟩ := ⟨_, rfl, by decide⟩
  obtain ⟨u, hpath, hrange⟩ := hpath
  have hat := at?_eq hlanguage hpoint ht
  rw [hpath] at hat
  refine ⟨_, hat, hrange, covers_of_at? (by decide) ?_ hat⟩
  intro language hlanguage t ht
  cases ht
  exact bounded_quotedClef

end Hover

end SyntaxServer
