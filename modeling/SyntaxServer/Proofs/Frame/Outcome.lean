import Mathlib.Data.List.Induction
import SyntaxServer.Proofs.Frame.Blocks

/-!
What becomes of a header, said of its lines. The block that a reader collects is determined by the
values of the lines of the length, in their order, and by how many lines there are
(`summary_addLines`): the last good value, the last bad one and the last that is too large each have
their place in it. So the outcome of a header is a function of these (`outcome_of_lines`), and
other lines have no part in it but by their number.
-/

namespace SyntaxServer

open Source (newline)

variable {limits : Limits} {e : StreamEnd} {b b' : HeaderBlock} {l rest bs bs' : List UInt8}
  {ls ls' : List (List UInt8)} {v : List Char} {gap gap' : Nat}

/-! ### Values of the length -/

namespace HeaderLine

/-- The value of a line of the length, without the blanks around it. -/
def value? (l : List UInt8) : Option (List Char) :=
  (lengthHeader.isPrefixOf? (textOf l)).map Text.trim

theorem ofBytes_of_value? (h : value? l = some v) : ofBytes limits l = ofValue limits v := by
  obtain ⟨w, hw, rfl⟩ := Option.map_eq_some_iff.1 h
  have htext : textOf l = lengthHeader ++ w := (List.append_eq_of_isPrefixOf?_eq_some hw).symm
  show ofText limits (textOf l) = _
  rw [htext, ofText_name]

theorem value?_eq_none_iff : value? l = none ↔ ¬ lengthName <+: l := by
  unfold value?
  rw [← prefix_textOf_iff, Option.map_eq_none_iff, Option.eq_none_iff_forall_ne_some]
  constructor
  · rintro h ⟨w, hw⟩
    exact h w (List.isPrefixOf?_eq_some_iff_append_eq.2 hw)
  · intro h w hw
    exact h ⟨w, List.append_eq_of_isPrefixOf?_eq_some hw⟩

theorem value?_written (n : Nat) : value? (written n) = some (Natural.digits n) := by
  unfold value?
  rw [textOf_written, List.isPrefixOf?_eq_some_iff_append_eq.2 rfl, Option.map_some, trim_digits]

end HeaderLine

/-- The values of the lines of the length, in their order. -/
def lengthValues (ls : List (List UInt8)) : List (List Char) := ls.filterMap HeaderLine.value?

/-- The value is no word, or it exceeds the limit of bodies. -/
def isBad (limits : Limits) (v : List Char) : Bool :=
  match Natural.word? v with
  | some n => limits.contentLength < n
  | none => true

/-- The length that the value gives within the limit of bodies. -/
def good? (limits : Limits) (v : List Char) : Option Nat :=
  (Natural.word? v).filter (· ≤ limits.contentLength)

/-- The length that the value gives beyond the limit of bodies. -/
def large? (limits : Limits) (v : List Char) : Option Nat :=
  (Natural.word? v).filter (limits.contentLength < ·)

/-- The block of some lines: what it has of the values of their lengths, and the count of them. -/
structure Summary (limits : Limits) (ls : List (List UInt8)) (b : HeaderBlock) : Prop where
  length : b.length = ((lengthValues ls).filterMap (good? limits)).getLast?
  invalid : b.invalid = ((lengthValues ls).filter (isBad limits)).getLast?.map String.ofList
  oversized : b.oversized = ((lengthValues ls).filterMap (large? limits)).getLast?
  lines : b.lines = ls.length

theorem lengthValues_concat (ls : List (List UInt8)) (l : List UInt8) :
    lengthValues (ls ++ [l]) = lengthValues ls ++ (HeaderLine.value? l).toList := by
  unfold lengthValues
  rw [List.filterMap_append]
  cases h : HeaderLine.value? l with
  | none => simp [h]
  | some v => simp [h]

/-- The last of some values that pass is the new one, or what it was. -/
theorem getLast?_filterMap_concat {α β : Type} (f : α → Option β) (as : List α) (a : α) :
    ((as ++ [a]).filterMap f).getLast? = (f a).or (as.filterMap f).getLast? := by
  rw [List.filterMap_append]
  cases h : f a with
  | none => simp [h]
  | some b => simp [h]

theorem getLast?_filter_concat {α : Type} (p : α → Bool) (as : List α) (a : α) :
    ((as ++ [a]).filter p).getLast? = if p a then some a else (as.filter p).getLast? := by
  rw [List.filter_append]
  cases h : p a with
  | false => simp [h]
  | true => simp [h]

theorem add_ofValue (b : HeaderBlock) (v : List Char) :
    b.add (HeaderLine.ofValue limits v) =
      ⟨(good? limits v).or b.length, if isBad limits v then some (String.ofList v) else b.invalid,
        (large? limits v).or b.oversized, b.lines + 1⟩ := by
  unfold HeaderLine.ofValue good? large? isBad
  cases Natural.word? v with
  | none => rfl
  | some n =>
    by_cases hn : n ≤ limits.contentLength
    · have hnot : ¬ limits.contentLength < n := Nat.not_lt.2 hn
      simp [hn, hnot, HeaderBlock.add, Option.filter]
    · have hlarge : limits.contentLength < n := Nat.lt_of_not_le hn
      simp [hn, hlarge, HeaderBlock.add, Option.filter]

/-- What one more line does to the block of some lines. -/
theorem Summary.concat (h : Summary limits ls b) (hl : IsHeader limits l) :
    Summary limits (ls ++ [l]) (b.add (HeaderLine.ofBytes limits l)) := by
  obtain ⟨hlength, hinvalid, hoversized, hlines⟩ := h
  have hcount : (b.add (HeaderLine.ofBytes limits l)).lines = (ls ++ [l]).length := by
    rw [lines_add (ofBytes_ne_blank hl), hlines, List.length_append, List.length_singleton]
  have hvalues := lengthValues_concat ls l
  cases hv : HeaderLine.value? l with
  | none =>
    obtain ⟨text, htext⟩ := HeaderLine.exists_other hl.one_line hl.not_blank
      (HeaderLine.value?_eq_none_iff.1 hv)
    rw [hv, Option.toList_none, List.append_nil] at hvalues
    refine ⟨?_, ?_, ?_, hcount⟩
    · rw [hvalues, htext]
      exact hlength
    · rw [hvalues, htext]
      exact hinvalid
    · rw [hvalues, htext]
      exact hoversized
  | some v =>
    rw [hv, Option.toList_some] at hvalues
    rw [HeaderLine.ofBytes_of_value? hv] at hcount ⊢
    refine ⟨?_, ?_, ?_, hcount⟩
    · rw [add_ofValue, hvalues, getLast?_filterMap_concat, ← hlength]
    · rw [add_ofValue, hvalues, getLast?_filter_concat]
      cases isBad limits v with
      | true => rfl
      | false => exact hinvalid
    · rw [add_ofValue, hvalues, getLast?_filterMap_concat, ← hoversized]

/-- **The block of some lines** is given by the values of their lengths and by their count. -/
theorem summary_addLines (h : ∀ l ∈ ls, IsHeader limits l) :
    Summary limits ls (HeaderBlock.empty.addLines limits ls) := by
  induction ls using List.reverseRecOn with
  | nil => exact ⟨rfl, rfl, rfl, rfl⟩
  | append_singleton ls l ih =>
    have hls := ih fun l' hl' => h l' (List.mem_append_left _ hl')
    have hl : IsHeader limits l := h l (List.mem_append_right _ (List.mem_singleton_self l))
    rw [addLines_append]
    exact hls.concat hl

/-! ### The outcome -/

/-- What is read of a header of these lines, a blank line behind them, and more bytes. -/
structure Outcome (limits : Limits) (e : StreamEnd) (ls : List (List UInt8)) (gap : Nat)
    (rest : List UInt8) (r : Result) : Prop where
  /-- Too many lines are refused at the first of them that is too many. -/
  full : limits.headerLines < ls.length →
    r = (.error (.missingLength (limits.headerLines + 1)),
      lineBytes (ls.drop (limits.headerLines + 1)) ++ (blankLine gap ++ rest))
  /-- The last bad value is reported. -/
  bad : ls.length ≤ limits.headerLines →
    ∀ v ∈ ((lengthValues ls).filter (isBad limits)).getLast?,
      ((lengthValues ls).filterMap (large? limits)).getLast? = none →
        r = (.error (.invalidLength (String.ofList v)), rest)
  /-- The body of the last value that is too large is skipped. -/
  skipped : ls.length ≤ limits.headerLines →
    ∀ v ∈ ((lengthValues ls).filter (isBad limits)).getLast?,
      ∀ n ∈ ((lengthValues ls).filterMap (large? limits)).getLast?,
        (n ≤ rest.length → r = (.error (.invalidLength (String.ofList v)), rest.drop n)) ∧
          (rest.length < n → r = (.error (e.error (.truncated n rest.length)), []))
  /-- The body of the last value is read. -/
  body : ls.length ≤ limits.headerLines → (∀ v ∈ lengthValues ls, isBad limits v = false) →
    ∀ v ∈ (lengthValues ls).getLast?, ∃ n, Natural.word? v = some n ∧
      (n ≤ rest.length → r = (.ok ⟨n, rest.take n⟩, rest.drop n)) ∧
        (rest.length < n → r = (.error (e.error (.truncated n rest.length)), []))
  /-- Lines without a length are reported with their count. -/
  missing : ls.length ≤ limits.headerLines → lengthValues ls = [] →
    r = (.error (.missingLength ls.length), rest)

theorem lineBytes_append (ls ms : List (List UInt8)) :
    lineBytes (ls ++ ms) = lineBytes ls ++ lineBytes ms := List.flatMap_append

theorem taking_of_le {n : Nat} {y : Except FrameError Frame} (h : n ≤ rest.length) :
    taking e n rest y = (y, rest.drop n) := if_neg (Nat.not_lt.2 h)

theorem taking_of_lt {n : Nat} {y : Except FrameError Frame} (h : rest.length < n) :
    taking e n rest y = (.error (e.error (.truncated n rest.length)), []) := if_pos h

theorem next_full (h : ∀ l ∈ ls, IsHeader limits l) (hn : limits.headerLines < ls.length)
    (rest : List UInt8) :
    next limits e (lineBytes ls ++ rest) =
      (.error (.missingLength (limits.headerLines + 1)),
        lineBytes (ls.drop (limits.headerLines + 1)) ++ rest) := by
  have hmem : ∀ l ∈ ls.take limits.headerLines, IsHeader limits l :=
    fun l hl => h l (List.mem_of_mem_take hl)
  have hlen : (ls.take limits.headerLines).length = limits.headerLines := by
    rw [List.length_take]
    omega
  have hsplit : ls = ls.take limits.headerLines ++
      ls[limits.headerLines] :: ls.drop (limits.headerLines + 1) := by
    rw [← List.drop_eq_getElem_cons, List.take_append_drop]
  have hbytes : lineBytes ls ++ rest = lineBytes (ls.take limits.headerLines) ++
      (ls[limits.headerLines] ++
        newline :: (lineBytes (ls.drop (limits.headerLines + 1)) ++ rest)) := by
    rw [← lineBytes_cons, ← List.append_assoc, ← lineBytes_append, ← hsplit]
  have hcount : (HeaderBlock.empty.addLines limits (ls.take limits.headerLines)).lines =
      limits.headerLines := by
    rw [(summary_addLines hmem).lines, hlen]
  have hroom : HeaderBlock.empty.lines + (ls.take limits.headerLines).length ≤
      limits.headerLines := by
    show 0 + _ ≤ _
    omega
  have hlast : IsHeader limits ls[limits.headerLines] := h _ (List.getElem_mem hn)
  have hover := lines_add
    (b := HeaderBlock.empty.addLines limits (ls.take limits.headerLines)) (ofBytes_ne_blank hlast)
  rw [hcount] at hover
  refine next_of_scan (x := .failed (.missingLength (limits.headerLines + 1))) ?_
  rw [hbytes, scan_lines hmem hroom, scan_header hlast]
  dsimp only
  rw [hover, if_pos (Nat.lt_succ_self _)]

theorem next_lines {x : HeaderEnd} (h : ∀ l ∈ ls, IsHeader limits l)
    (hn : ls.length ≤ limits.headerLines) (hgap : gap < limits.lineLength)
    (hx : (HeaderBlock.empty.addLines limits ls).close = some x) (rest : List UInt8) :
    next limits e (lineBytes ls ++ (blankLine gap ++ rest)) = x.follow e rest := by
  have hcount : HeaderBlock.empty.lines + ls.length ≤ limits.headerLines := by
    show 0 + _ ≤ _
    omega
  refine next_of_scan ?_
  rw [scan_lines h hcount]
  exact scan_blankLine e hgap hx rest

theorem Summary.close_bad (h : Summary limits ls b)
    (hv : ((lengthValues ls).filter (isBad limits)).getLast? = some v) :
    b.close = some (.rejected (String.ofList v)
      ((lengthValues ls).filterMap (large? limits)).getLast?) := by
  have hinvalid : b.invalid = some (String.ofList v) := by
    rw [h.invalid, hv]
    rfl
  unfold HeaderBlock.close
  rw [hinvalid, h.oversized]

theorem Summary.close_good (h : Summary limits ls b)
    (hgood : ∀ v ∈ lengthValues ls, isBad limits v = false)
    (hv : (lengthValues ls).getLast? = some v) :
    ∃ n, Natural.word? v = some n ∧ b.close = some (.body n) := by
  have hinvalid : b.invalid = none := by
    have hnone : (lengthValues ls).filter (isBad limits) = [] := by
      rw [List.filter_eq_nil_iff]
      intro w hw
      rw [hgood w hw]
      exact Bool.false_ne_true
    rw [h.invalid, hnone]
    rfl
  obtain ⟨vs, hvs⟩ := List.getLast?_eq_some_iff.1 hv
  have hlast : isBad limits v = false := hgood v (List.mem_of_getLast? hv)
  unfold isBad at hlast
  cases hw : Natural.word? v with
  | none =>
    rw [hw] at hlast
    cases hlast
  | some n =>
    rw [hw] at hlast
    have hn : n ≤ limits.contentLength := by simpa using hlast
    have hlength : b.length = some n := by
      have hvalue : good? limits v = some n := by simp [good?, hw, hn]
      rw [h.length, hvs, List.filterMap_append]
      simp [hvalue]
    refine ⟨n, rfl, ?_⟩
    unfold HeaderBlock.close
    rw [hinvalid, hlength]

theorem Summary.close_missing (h : Summary limits ls b) (hne : ls ≠ [])
    (hnone : lengthValues ls = []) : b.close = some (.failed (.missingLength ls.length)) := by
  have hlength : b.length = none := by
    rw [h.length, hnone]
    rfl
  have hinvalid : b.invalid = none := by
    rw [h.invalid, hnone]
    rfl
  have hlines : b.lines ≠ 0 := by
    rw [h.lines]
    exact mt List.length_eq_zero_iff.1 hne
  unfold HeaderBlock.close
  rw [hinvalid, hlength]
  dsimp only
  rw [if_neg hlines, h.lines]

/-- The bytes of a header and of what follows it: lines that fit, a blank line that fits, and more
bytes. -/
structure IsBlock (limits : Limits) (ls : List (List UInt8)) (gap : Nat) (rest bs : List UInt8) :
    Prop where
  nonempty : ls ≠ []
  headers : ∀ l ∈ ls, IsHeader limits l
  blank : gap < limits.lineLength
  bytes : bs = lineBytes ls ++ (blankLine gap ++ rest)

/-- Lines that say the same: the values of their lengths are the same, and so is their count, unless
there is a value and neither are too many. -/
structure SayAlike (limits : Limits) (ls ls' : List (List UInt8)) : Prop where
  values : lengthValues ls' = lengthValues ls
  count : ls'.length = ls.length ∨
    lengthValues ls ≠ [] ∧ ls.length ≤ limits.headerLines ∧ ls'.length ≤ limits.headerLines

theorem outcome_next (h : IsBlock limits ls gap rest bs) (e : StreamEnd) :
    Outcome limits e ls gap rest (next limits e bs) := by
  obtain ⟨hne, hheaders, hgap, rfl⟩ := h
  have hsummary := summary_addLines hheaders
  constructor
  case full =>
    intro hn
    exact next_full hheaders hn _
  case bad =>
    intro hn v hv hlarge
    have hclose := hsummary.close_bad hv
    rw [next_lines hheaders hn hgap hclose, hlarge]
    rfl
  case skipped =>
    intro hn v hv n hlarge
    have hclose := hsummary.close_bad hv
    rw [Option.mem_def] at hlarge
    rw [next_lines hheaders hn hgap hclose, hlarge]
    exact ⟨taking_of_le, taking_of_lt⟩
  case body =>
    intro hn hgood v hv
    obtain ⟨n, hw, hclose⟩ := hsummary.close_good hgood hv
    rw [next_lines hheaders hn hgap hclose]
    exact ⟨n, hw, taking_of_le, taking_of_lt⟩
  case missing =>
    intro hn hnone
    rw [next_lines hheaders hn hgap (hsummary.close_missing hne hnone)]
    rfl

theorem Summary.exists_close (h : Summary limits ls b) (hne : ls ≠ []) :
    ∃ x, b.close = some x := by
  cases hclose : b.close with
  | some x => exact ⟨x, rfl⟩
  | none =>
    have hzero := lines_of_close hclose
    rw [h.lines] at hzero
    exact absurd (List.length_eq_zero_iff.1 hzero) hne

theorem Summary.close_alike (h : Summary limits ls b) (h' : Summary limits ls' b')
    (halike : SayAlike limits ls ls') : b'.close = b.close := by
  have hlength : b'.length = b.length := by rw [h.length, h'.length, halike.values]
  have hinvalid : b'.invalid = b.invalid := by rw [h.invalid, h'.invalid, halike.values]
  have hoversized : b'.oversized = b.oversized := by
    rw [h.oversized, h'.oversized, halike.values]
  rcases halike.count with hcount | ⟨hsome, -, -⟩
  · have hlines : b'.lines = b.lines := by rw [h.lines, h'.lines, hcount]
    unfold HeaderBlock.close
    rw [hlength, hinvalid, hoversized, hlines]
  · cases hbad : ((lengthValues ls).filter (isBad limits)).getLast? with
    | some v =>
      have hbad' := hbad
      rw [← halike.values] at hbad'
      rw [h.close_bad hbad, h'.close_bad hbad', halike.values]
    | none =>
      have hgood : ∀ v ∈ lengthValues ls, isBad limits v = false := by
        rw [List.getLast?_eq_none_iff, List.filter_eq_nil_iff] at hbad
        intro v hv
        exact Bool.eq_false_iff.2 (hbad v hv)
      obtain ⟨v, hv⟩ := Option.ne_none_iff_exists'.1 (mt List.getLast?_eq_none_iff.1 hsome)
      obtain ⟨n, hn, hclose⟩ := h.close_good hgood hv
      rw [← halike.values] at hgood hv
      obtain ⟨n', hn', hclose'⟩ := h'.close_good hgood hv
      cases hn.symm.trans hn'
      rw [hclose, hclose']

/-- What other lines say does not matter, and where they stand does not either. -/
theorem next_alike (h : IsBlock limits ls gap rest bs) (h' : IsBlock limits ls' gap' rest bs')
    (halike : SayAlike limits ls ls') (e : StreamEnd) :
    (next limits e bs').1 = (next limits e bs).1 := by
  by_cases hn : limits.headerLines < ls.length
  · have hn' : limits.headerLines < ls'.length := by
      have := halike.count
      omega
    rw [(outcome_next h e).full hn, (outcome_next h' e).full hn']
  · have hn' : ls'.length ≤ limits.headerLines := by
      have := halike.count
      omega
    have hsummary := summary_addLines h.headers
    have hsummary' := summary_addLines h'.headers
    obtain ⟨x, hx⟩ := hsummary.exists_close h.nonempty
    have hx' := (hsummary.close_alike hsummary' halike).trans hx
    rw [h.bytes, h'.bytes, next_lines h.headers (Nat.not_lt.1 hn) h.blank hx,
      next_lines h'.headers hn' h'.blank hx']

/-- **The outcome of a header is a function of its lines.** Too many of them are refused; else the
last bad value of the length decides, else the last value, else the count of the lines. Other lines
have no part in it. -/
theorem outcome_of_lines {s : Source} (h : IsBlock limits ls gap rest s.bytes) :
    Outcome limits s.ending ls gap rest (nextFrame limits s).view ∧
      ∀ (ls' : List (List UInt8)) (gap' : Nat) (s' : Source),
        IsBlock limits ls' gap' rest s'.bytes → s'.ending = s.ending → SayAlike limits ls ls' →
          (nextFrame limits s').result = (nextFrame limits s).result := by
  constructor
  · rw [view_nextFrame]
    exact outcome_next h s.ending
  · intro ls' gap' s' h' hending halike
    have hview : (nextFrame limits s').view.1 = (nextFrame limits s).view.1 := by
      rw [view_nextFrame, view_nextFrame, hending]
      exact next_alike h h' halike s.ending
    exact hview

/-- A length that is too large for four bytes, another header, and a good length. -/
def mixedLengths : List (List UInt8) :=
  [HeaderLine.written 9, [88, 58, 255], HeaderLine.written 2]

/-- The same lengths with another header before them. -/
def mixedLengthsAgain : List (List UInt8) :=
  [[89], HeaderLine.written 9, HeaderLine.written 2]

/-- A stream of some header lines, a blank line, and ten bytes. -/
def streamOf (ls : List (List UInt8)) : Source :=
  ⟨Source.cut 4 (lineBytes ls ++ (blankLine 1 ++ List.replicate 10 65)), .closed⟩

theorem outcome_of_mixedLengths :
    IsBlock ⟨3, 32, 4⟩ mixedLengths 1 (List.replicate 10 65) (streamOf mixedLengths).bytes ∧
      (nextFrame ⟨3, 32, 4⟩ (streamOf mixedLengths)).view = (.error (.invalidLength "9"), [65]) ∧
        (nextFrame ⟨3, 32, 4⟩ (streamOf mixedLengthsAgain)).result =
          (nextFrame ⟨3, 32, 4⟩ (streamOf mixedLengths)).result := by
  have hblock : IsBlock ⟨3, 32, 4⟩ mixedLengths 1 (List.replicate 10 65)
      (streamOf mixedLengths).bytes :=
    ⟨by decide, by decide, by decide, Source.flatten_cut 4 _⟩
  have hblock' : IsBlock ⟨3, 32, 4⟩ mixedLengthsAgain 1 (List.replicate 10 65)
      (streamOf mixedLengthsAgain).bytes :=
    ⟨by decide, by decide, by decide, Source.flatten_cut 4 _⟩
  have hother : HeaderLine.value? [88, 58, 255] = none :=
    HeaderLine.value?_eq_none_iff.2 (by decide)
  have hother' : HeaderLine.value? [89] = none := HeaderLine.value?_eq_none_iff.2 (by decide)
  have hvalues : lengthValues mixedLengths = [['9'], ['2']] := by
    simp only [lengthValues, mixedLengths, List.filterMap_cons, List.filterMap_nil,
      HeaderLine.value?_written, hother]
    decide
  have hvalues' : lengthValues mixedLengthsAgain = [['9'], ['2']] := by
    simp only [lengthValues, mixedLengthsAgain, List.filterMap_cons, List.filterMap_nil,
      HeaderLine.value?_written, hother']
    decide
  obtain ⟨houtcome, halike⟩ := outcome_of_lines hblock
  have hskipped := houtcome.skipped (by decide) ['9'] (by rw [hvalues]; decide) 9
    (by rw [hvalues]; decide)
  exact ⟨hblock, hskipped.1 (by decide),
    halike _ _ _ hblock' rfl ⟨hvalues'.trans hvalues.symm, Or.inl rfl⟩⟩

end SyntaxServer
