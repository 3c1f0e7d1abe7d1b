import SyntaxServer.Proofs.Frame.HeaderLine
import SyntaxServer.Proofs.Frame.Source

/-!
Reading a header, line by line and said of the bytes alone. `HeaderBlock.step` says once what a
line can do to a block: the header ends, or it goes on. What a reader makes of a header, and where
it stops, depends on the bytes of the stream and on its end, not on the chunks
(`view_readHeader`); so headers are read here from bytes that arrive at once (`scan`), with one
rule for each beginning that the bytes may have.
-/

namespace SyntaxServer

open Source (newline splitLine)

variable {limits : Limits} {e : StreamEnd} {b b' : HeaderBlock} {x : HeaderEnd} {s : Source}
  {l bs : List UInt8}

/-! ### One line -/

/-- What a line does to a block: the header ends, or it goes on with another block. -/
def HeaderBlock.step (limits : Limits) (e : StreamEnd) (b : HeaderBlock) (line : List UInt8) :
    HeaderEnd ⊕ HeaderBlock :=
  if line.length = limits.lineLength ∧ isCut line then
    .inl (.failed (.lineTooLong limits.lineLength))
  else if isCut line ∧ e ≠ .closed then .inl (.failed (e.error b.cut))
  else if line = [] then .inl (.failed b.cut)
  else if HeaderLine.ofBytes limits line = .blank then
    match b.close with
    | some x => .inl x
    | none => .inr b
  else
    let b' := b.add (HeaderLine.ofBytes limits line)
    if limits.headerLines < b'.lines then .inl (.failed (.missingLength b'.lines)) else .inr b'

/-- **A header is read line by line.** -/
theorem readHeader_step (limits : Limits) (b : HeaderBlock) (s : Source) :
    ((readHeader limits b s).ending, (readHeader limits b s).rest) =
      let line := s.line limits.lineLength
      match b.step limits s.ending line.1 with
      | .inl x => (x, line.2)
      | .inr b' => ((readHeader limits b' line.2).ending, (readHeader limits b' line.2).rest) := by
  rw [readHeader]
  unfold HeaderBlock.step
  dsimp only
  generalize s.line limits.lineLength = line
  by_cases h₁ : line.1.length = limits.lineLength ∧ isCut line.1
  · rw [if_pos h₁, if_pos h₁]
  rw [if_neg h₁, if_neg h₁]
  by_cases h₂ : isCut line.1 ∧ s.ending ≠ .closed
  · rw [if_pos h₂, if_pos h₂]
  rw [if_neg h₂, if_neg h₂]
  by_cases h₃ : line.1 = []
  · rw [dif_pos h₃, if_pos h₃]
  rw [dif_neg h₃, if_neg h₃]
  by_cases h₄ : HeaderLine.ofBytes limits line.1 = .blank
  · rw [if_pos h₄, if_pos h₄]
    cases b.close <;> rfl
  rw [if_neg h₄, if_neg h₄]
  by_cases h₅ : limits.headerLines < (b.add (HeaderLine.ofBytes limits line.1)).lines
  · rw [if_pos h₅, if_pos h₅]
  rw [if_neg h₅, if_neg h₅]

/-- The ways of lines, each with the reason for it. -/
inductive HeaderBlock.Stepped (limits : Limits) (e : StreamEnd) (b : HeaderBlock)
    (line : List UInt8) : HeaderEnd ⊕ HeaderBlock → Prop
  | long : line.length = limits.lineLength → isCut line = true →
      Stepped limits e b line (.inl (.failed (.lineTooLong limits.lineLength)))
  | broken : line.length ≠ limits.lineLength → isCut line = true → e ≠ .closed →
      Stepped limits e b line (.inl (.failed (e.error b.cut)))
  | ended : line.length ≠ limits.lineLength → line = [] → e = .closed →
      Stepped limits e b line (.inl (.failed b.cut))
  | closes {x : HeaderEnd} : line ≠ [] → HeaderLine.ofBytes limits line = .blank →
      b.close = some x → Stepped limits e b line (.inl x)
  | stray : line ≠ [] → HeaderLine.ofBytes limits line = .blank → b.close = none →
      Stepped limits e b line (.inr b)
  | full : line ≠ [] → HeaderLine.ofBytes limits line ≠ .blank →
      limits.headerLines < (b.add (HeaderLine.ofBytes limits line)).lines →
      Stepped limits e b line
        (.inl (.failed (.missingLength (b.add (HeaderLine.ofBytes limits line)).lines)))
  | more : line ≠ [] → HeaderLine.ofBytes limits line ≠ .blank →
      ¬ limits.headerLines < (b.add (HeaderLine.ofBytes limits line)).lines →
      Stepped limits e b line (.inr (b.add (HeaderLine.ofBytes limits line)))

/-- **What a line can do to a block**, and why. -/
theorem HeaderBlock.stepped (limits : Limits) (e : StreamEnd) (b : HeaderBlock)
    (line : List UInt8) : b.Stepped limits e line (b.step limits e line) := by
  unfold step
  by_cases h₁ : line.length = limits.lineLength ∧ isCut line = true
  · rw [if_pos h₁]
    exact .long h₁.1 h₁.2
  rw [if_neg h₁]
  by_cases h₂ : isCut line = true ∧ e ≠ .closed
  · rw [if_pos h₂]
    exact .broken (fun hn => h₁ ⟨hn, h₂.1⟩) h₂.1 h₂.2
  rw [if_neg h₂]
  by_cases h₃ : line = []
  · have hcut : isCut line = true := by
      rw [h₃]
      rfl
    rw [if_pos h₃]
    exact .ended (fun hn => h₁ ⟨hn, hcut⟩) h₃ (Classical.byContradiction fun he => h₂ ⟨hcut, he⟩)
  rw [if_neg h₃]
  by_cases h₄ : HeaderLine.ofBytes limits line = .blank
  · rw [if_pos h₄]
    cases hc : b.close with
    | some x => exact .closes h₃ h₄ hc
    | none => exact .stray h₃ h₄ hc
  rw [if_neg h₄]
  dsimp only
  by_cases h₅ : limits.headerLines < (b.add (HeaderLine.ofBytes limits line)).lines
  · rw [if_pos h₅]
    exact .full h₃ h₄ h₅
  · rw [if_neg h₅]
    exact .more h₃ h₄ h₅

theorem ne_nil_of_more {line : List UInt8} (h : b.step limits e line = .inr b') : line ≠ [] := by
  have hstep := b.stepped limits e line
  rw [h] at hstep
  cases hstep with
  | stray hne _ _ => exact hne
  | more hne _ _ => exact hne

/-! ### The end of a block -/

theorem isFinal_of_close {y : FrameError} (h : b.close = some (.failed y)) : y.isFinal = false := by
  unfold HeaderBlock.close at h
  split at h
  · cases h
  · cases h
  · split at h
    · cases h
    · cases h
      rfl

theorem length_of_close {n : Nat} (h : b.close = some (.body n)) : b.length = some n := by
  unfold HeaderBlock.close at h
  split at h
  · cases h
  · rename_i hlength
    cases h
    exact hlength
  · split at h <;> cases h

theorem lines_of_close (h : b.close = none) : b.lines = 0 := by
  unfold HeaderBlock.close at h
  split at h
  · cases h
  · cases h
  · by_contra hlines
    rw [if_neg hlines] at h
    cases h

/-! ### The chunks do not matter -/

/-- How a header ends, and the bytes after it. -/
def HeaderScan.view (h : HeaderScan) : HeaderEnd × List UInt8 := (h.ending, h.rest.bytes)

theorem view_readHeader (limits : Limits) (b : HeaderBlock) {s t : Source}
    (hb : s.bytes = t.bytes) (he : s.ending = t.ending) :
    (readHeader limits b s).view = (readHeader limits b t).view ∧
      (readHeader limits b s).rest.ending = t.ending := by
  induction hn : s.bytes.length using Nat.strongRecOn generalizing b s t with
  | _ n ih =>
    obtain ⟨hs, hs'⟩ := Prod.mk.inj (s.line_bytes limits.lineLength)
    obtain ⟨ht, ht'⟩ := Prod.mk.inj (t.line_bytes limits.lineLength)
    have hline : (s.line limits.lineLength).1 = (t.line limits.lineLength).1 := by
      rw [hs, ht, hb]
    have hrest : (s.line limits.lineLength).2.bytes = (t.line limits.lineLength).2.bytes := by
      rw [hs', ht', hb]
    have h₁ := readHeader_step limits b s
    have h₂ := readHeader_step limits b t
    unfold HeaderScan.view at ih ⊢
    dsimp only at h₁ h₂
    rw [← hline, ← he] at h₂
    cases h : b.step limits s.ending (s.line limits.lineLength).1 with
    | inl x =>
      rw [h] at h₁ h₂
      obtain ⟨h₃, h₄⟩ := Prod.mk.inj h₁
      obtain ⟨h₅, h₆⟩ := Prod.mk.inj h₂
      rw [h₃, h₄, h₅, h₆, hrest]
      exact ⟨rfl, he⟩
    | inr b' =>
      rw [h] at h₁ h₂
      obtain ⟨h₃, h₄⟩ := Prod.mk.inj h₁
      obtain ⟨h₅, h₆⟩ := Prod.mk.inj h₂
      have hlt : (s.line limits.lineLength).2.bytes.length < n := by
        have := congrArg List.length (s.line_append limits.lineLength)
        have := List.length_pos_iff.2 (ne_nil_of_more h)
        rw [List.length_append] at *
        omega
      rw [h₃, h₄, h₅, h₆]
      exact ih _ hlt b' hrest he rfl

/-! ### Bytes that arrive at once -/

/-- Reads a header of bytes that arrive at once, from a block of lines on. -/
def scan (limits : Limits) (e : StreamEnd) (b : HeaderBlock) (bs : List UInt8) :
    HeaderEnd × List UInt8 :=
  (readHeader limits b (.ofBytes bs e)).view

theorem view_readHeader_eq_scan (limits : Limits) (b : HeaderBlock) (s : Source) :
    (readHeader limits b s).view = scan limits s.ending b s.bytes :=
  (view_readHeader limits b (Source.bytes_ofBytes ..).symm rfl).1

theorem ending_readHeader (limits : Limits) (b : HeaderBlock) (s : Source) :
    (readHeader limits b s).rest.ending = s.ending :=
  (view_readHeader limits b rfl rfl).2

/-- **A header of bytes is read line by line.** -/
theorem scan_eq (limits : Limits) (e : StreamEnd) (b : HeaderBlock) (bs : List UInt8) :
    scan limits e b bs =
      let line := splitLine limits.lineLength bs
      match b.step limits e line.1 with
      | .inl x => (x, line.2)
      | .inr b' => scan limits e b' line.2 := by
  obtain ⟨h₁, h₂⟩ := Prod.mk.inj ((Source.ofBytes bs e).line_bytes limits.lineLength)
  have h := readHeader_step limits b (.ofBytes bs e)
  rw [Source.bytes_ofBytes] at h₁ h₂
  dsimp only at h ⊢
  rw [h₁, Source.ending_ofBytes] at h
  cases hs : b.step limits e (splitLine limits.lineLength bs).1 with
  | inl x =>
    rw [hs] at h
    obtain ⟨h₃, h₄⟩ := Prod.mk.inj h
    unfold scan HeaderScan.view
    rw [h₃, h₄, h₂]
  | inr b' =>
    rw [hs] at h
    obtain ⟨h₃, h₄⟩ := Prod.mk.inj h
    rw [← h₂]
    refine Eq.trans ?_ (view_readHeader_eq_scan limits b' _)
    unfold scan HeaderScan.view
    rw [h₃, h₄]

/-! ### One rule for each beginning -/

theorem isCut_concat_newline (l : List UInt8) : isCut (l ++ [newline]) = false := by
  simp [isCut]

theorem isCut_of_notMem (hl : newline ∉ l) : isCut l = true := by
  unfold isCut
  rw [decide_eq_true_eq]
  exact fun h => hl (List.mem_of_getLast? h)

theorem scan_cut (hl : newline ∉ l) (hn : l.length = limits.lineLength) :
    scan limits e b (l ++ bs) = (.failed (.lineTooLong limits.lineLength), bs) := by
  have hs : b.step limits e l = .inl (.failed (.lineTooLong limits.lineLength)) := by
    unfold HeaderBlock.step
    rw [if_pos ⟨hn, isCut_of_notMem hl⟩]
  rw [scan_eq, ← hn, Source.splitLine_cut hl]
  dsimp only
  rw [hs, hn]

theorem step_line (e : StreamEnd) (b : HeaderBlock) (l : List UInt8) :
    b.step limits e (l ++ [newline]) =
      if HeaderLine.ofBytes limits l = .blank then
        match b.close with
        | some x => .inl x
        | none => .inr b
      else
        let b' := b.add (HeaderLine.ofBytes limits l)
        if limits.headerLines < b'.lines then .inl (.failed (.missingLength b'.lines))
        else .inr b' := by
  unfold HeaderBlock.step
  rw [isCut_concat_newline, if_neg (by simp), if_neg (by simp), if_neg (by simp),
    HeaderLine.ofBytes_concat_newline]

theorem scan_blank (hb : ∀ c ∈ l, c = HeaderLine.carriageReturn)
    (hn : l.length < limits.lineLength) :
    scan limits e b (l ++ newline :: bs) =
      match b.close with
      | some x => (x, bs)
      | none => scan limits e b bs := by
  have hl : newline ∉ l := fun h => absurd (hb _ h) (by decide)
  rw [scan_eq, Source.splitLine_line hl hn]
  dsimp only
  rw [step_line, if_pos ((HeaderLine.ofBytes_eq_blank_iff hl).2 hb)]
  cases b.close <;> rfl

/-- A header line with its end that fits the limit. -/
structure IsHeader (limits : Limits) (l : List UInt8) : Prop where
  one_line : newline ∉ l
  not_blank : ¬ ∀ c ∈ l, c = HeaderLine.carriageReturn
  fits : l.length < limits.lineLength

instance : Decidable (IsHeader limits l) :=
  decidable_of_iff
    (newline ∉ l ∧ l.all (· = HeaderLine.carriageReturn) = false ∧ l.length < limits.lineLength)
    ⟨fun h => ⟨h.1, by simpa using h.2.1, h.2.2⟩,
      fun h => ⟨h.one_line, by simpa using h.not_blank, h.fits⟩⟩

theorem scan_header (h : IsHeader limits l) :
    scan limits e b (l ++ newline :: bs) =
      let b' := b.add (HeaderLine.ofBytes limits l)
      if limits.headerLines < b'.lines then (.failed (.missingLength b'.lines), bs)
      else scan limits e b' bs := by
  rw [scan_eq, Source.splitLine_line h.one_line h.fits]
  dsimp only
  rw [step_line, if_neg (mt (HeaderLine.ofBytes_eq_blank_iff h.one_line).1 h.not_blank)]
  dsimp only
  by_cases h' : limits.headerLines < (b.add (HeaderLine.ofBytes limits l)).lines
  · rw [if_pos h', if_pos h']
  · rw [if_neg h', if_neg h']

theorem scan_nil (e : StreamEnd) (b : HeaderBlock) (hn : 0 < limits.lineLength) :
    scan limits e b [] = (.failed (e.error b.cut), []) := by
  rw [scan_eq, Source.splitLine_short (by simp) (Nat.zero_le _)]
  dsimp only
  unfold HeaderBlock.step
  rw [if_neg (by simp; omega)]
  cases e with
  | closed => rw [if_neg (by simp), if_pos rfl]; rfl
  | failed cause => rw [if_pos (by simp [isCut])]

theorem splitLine_suffix (n : Nat) (bs : List UInt8) : (splitLine n bs).2 <:+ bs :=
  ⟨(splitLine n bs).1, Source.splitLine_append n bs⟩

theorem length_splitLine_of_more
    (h : b.step limits e (splitLine limits.lineLength bs).1 = .inr b') :
    (splitLine limits.lineLength bs).2.length < bs.length := by
  have happ := congrArg List.length (Source.splitLine_append limits.lineLength bs)
  have hpos := List.length_pos_iff.2 (ne_nil_of_more h)
  rw [List.length_append] at happ
  omega

theorem scan_suffix (limits : Limits) (e : StreamEnd) (b : HeaderBlock) (bs : List UInt8) :
    (scan limits e b bs).2 <:+ (splitLine limits.lineLength bs).2 := by
  induction hn : bs.length using Nat.strongRecOn generalizing b bs with
  | _ n ih =>
    rw [scan_eq]
    dsimp only
    cases h : b.step limits e (splitLine limits.lineLength bs).1 with
    | inl x => exact List.suffix_refl _
    | inr b' =>
      have hlt := length_splitLine_of_more h
      exact (ih _ (hn ▸ hlt) b' _ rfl).trans (splitLine_suffix ..)

/-! ### Many lines -/

theorem lines_add {h : HeaderLine} (hh : h ≠ .blank) : (b.add h).lines = b.lines + 1 := by
  cases h with
  | blank => exact absurd rfl hh
  | _ => rfl

def lineBytes (ls : List (List UInt8)) : List UInt8 := ls.flatMap (· ++ [newline])

theorem lineBytes_cons (l : List UInt8) (ls : List (List UInt8)) (bs : List UInt8) :
    lineBytes (l :: ls) ++ bs = l ++ newline :: (lineBytes ls ++ bs) := by
  simp [lineBytes]

def HeaderBlock.addLines (limits : Limits) (b : HeaderBlock) (ls : List (List UInt8)) :
    HeaderBlock :=
  ls.foldl (fun b l => b.add (HeaderLine.ofBytes limits l)) b

theorem ofBytes_ne_blank (h : IsHeader limits l) : HeaderLine.ofBytes limits l ≠ .blank :=
  mt (HeaderLine.ofBytes_eq_blank_iff h.one_line).1 h.not_blank

theorem scan_lines {ls : List (List UInt8)} (h : ∀ l ∈ ls, IsHeader limits l)
    (hn : b.lines + ls.length ≤ limits.headerLines) (bs : List UInt8) :
    scan limits e b (lineBytes ls ++ bs) = scan limits e (b.addLines limits ls) bs := by
  induction ls generalizing b with
  | nil => rfl
  | cons l ls ih =>
    obtain ⟨hl, h⟩ := List.forall_mem_cons.1 h
    rw [List.length_cons] at hn
    rw [lineBytes_cons, scan_header hl]
    dsimp only
    rw [lines_add (ofBytes_ne_blank hl), if_neg (by omega),
      ih h (by rw [lines_add (ofBytes_ne_blank hl)]; omega)]
    rfl

end SyntaxServer
