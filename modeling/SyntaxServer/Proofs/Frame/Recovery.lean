import SyntaxServer.Proofs.Frame.Blocks

/-!
What bytes do to the frames behind them. From a block on, bytes are wasted (`Wasted`) if they are
spent on cut lines, lines too many and blocks that are refused (`Spent`), and on lines of a last
block that a good frame can go on with. Behind wasted bytes all frames are read, and nothing else
(`recovered_of_wasted`); behind others some frame is lost, or something else is read
(`wasted_of_recovered`).
-/

namespace SyntaxServer

open Source (newline splitLine)
open HeaderLine (carriageReturn lengthName written)

variable {limits : Limits} {e : StreamEnd} {b b' : HeaderBlock} {x : HeaderEnd}
  {bs rest : List UInt8}

/-! ### Without the name of the length -/

theorem step_body {line : List UInt8} {n : Nat} (h : b.step limits e line = .inl (.body n)) :
    b.length = some n := by
  have hstep := b.stepped limits e line
  rw [h] at hstep
  cases hstep with
  | closes _ _ hc => exact length_of_close hc

theorem length_of_more {line : List UInt8} (h : b.step limits e line = .inr b')
    (hline : ¬ lengthName <+: line) : b'.length = b.length := by
  have hstep := b.stepped limits e line
  rw [h] at hstep
  cases hstep with
  | stray _ _ _ => rfl
  | more _ _ _ =>
    cases hb : HeaderLine.ofBytes limits line with
    | length n => exact absurd (HeaderLine.lengthName_prefix_of_length hb) hline
    | _ => rfl

theorem nameless_nil : ¬ lengthName <:+: [] := by
  rw [List.infix_nil]
  decide

theorem scan_lengthless (hb : b.length = none) (h : ¬ lengthName <:+: bs) (n : Nat) :
    (scan limits e b bs).1 ≠ .body n := by
  induction hn : bs.length using Nat.strongRecOn generalizing b bs with
  | _ m ih =>
    have hsplit := Source.splitLine_append limits.lineLength bs
    have hline : ¬ lengthName <+: (splitLine limits.lineLength bs).1 := by
      intro hp
      exact h ((hp.trans ⟨_, hsplit⟩).isInfix)
    rw [scan_eq]
    dsimp only
    cases hs : b.step limits e (splitLine limits.lineLength bs).1 with
    | inl y =>
      rintro rfl
      rw [step_body hs] at hb
      cases hb
    | inr b' =>
      refine ih _ (hn ▸ length_splitLine_of_more hs) ((length_of_more hs hline).trans hb) ?_ rfl
      exact fun hi => h (hi.trans (splitLine_suffix ..).isInfix)

/-! ### Readings from a block on -/

/-- What readings give of which the first one goes on with a block. -/
def resumed (limits : Limits) (b : HeaderBlock) (bs : List UInt8) :
    List (Except FrameError Frame) :=
  let r := (scan limits .closed b bs).1.follow .closed (scan limits .closed b bs).2
  (r :: if r.isFinal then [] else results limits .closed r.2).map Prod.fst

theorem resumed_empty (hl : 0 < limits.lineLength) (bs : List UInt8) :
    resumed limits .empty bs = (results limits .closed bs).map Prod.fst := by
  rw [results_eq hl, next_eq]
  rfl

theorem resumed_of_scan (h : scan limits .closed b bs = scan limits .closed b' rest) :
    resumed limits b bs = resumed limits b' rest := by
  unfold resumed
  rw [h]

theorem resumed_of_end {y : Except FrameError Frame} {rest' : List UInt8}
    (hl : 0 < limits.lineLength) (h : scan limits .closed b bs = (x, rest))
    (hx : x.follow .closed rest = (y, rest')) (hy : Result.isFinal (y, rest') = false) :
    resumed limits b bs = y :: resumed limits .empty rest' := by
  rw [resumed_empty hl]
  unfold resumed
  rw [h]
  dsimp only
  rw [hx, if_neg (by simp [hy])]
  rfl

theorem follow_ne_ok (h : ∀ n, x ≠ .body n) (f : Frame) : (x.follow e bs).1 ≠ .ok f := by
  intro hf
  cases x with
  | body n => exact h n rfl
  | rejected value skip =>
    cases skip with
    | none => cases hf
    | some n =>
      have hf : (taking e n bs (.error (.invalidLength value))).1 = .ok f := hf
      unfold taking at hf
      split at hf <;> cases hf
  | failed y => cases hf

def OnlyErrors (rs : List (Except FrameError Frame)) : Prop := ∀ y ∈ rs, ∃ x, y = .error x

/-- **Nothing is read of bytes without the name of the length.** -/
theorem onlyErrors_results (hl : 0 < limits.lineLength) (h : ¬ lengthName <:+: bs) :
    OnlyErrors ((results limits e bs).map Prod.fst) := by
  induction hn : bs.length using Nat.strongRecOn generalizing bs with
  | _ m ih =>
    have hfirst : ∃ x, (next limits e bs).1 = .error x := by
      cases hy : (next limits e bs).1 with
      | error x => exact ⟨x, rfl⟩
      | ok f =>
        rw [next_eq] at hy
        exact absurd hy (follow_ne_ok (scan_lengthless rfl h) f)
    rw [results_eq hl]
    intro y hy
    rcases List.mem_cons.1 hy with rfl | hy
    · exact hfirst
    · by_cases hf : (next limits e bs).isFinal = true
      · rw [if_pos hf] at hy
        cases hy
      · rw [if_neg hf] at hy
        have hsuffix := (next_suffix limits e bs).trans (splitLine_suffix ..)
        refine ih _ (hn ▸ length_next e hl (ne_nil_of_not_final hl hf)) ?_ rfl y hy
        exact fun hi => h (hi.trans hsuffix.isInfix)

theorem onlyErrors_of_scan (hl : 0 < limits.lineLength)
    (h : scan limits .closed b bs = (x, rest)) (hx : ∀ n, x ≠ .body n)
    (hrest : ¬ lengthName <:+: rest) : OnlyErrors (resumed limits b bs) := by
  unfold resumed
  rw [h]
  dsimp only
  intro y hy
  rcases List.mem_cons.1 hy with rfl | hy
  · cases hy : (x.follow .closed rest).1 with
    | error z => exact ⟨z, rfl⟩
    | ok f => exact absurd hy (follow_ne_ok hx f)
  · by_cases hf : (x.follow .closed rest).isFinal = true
    · rw [if_pos hf] at hy
      cases hy
    · rw [if_neg hf] at hy
      refine onlyErrors_results hl ?_ y hy
      exact fun hi => hrest (hi.trans (follow_suffix ..).isInfix)

/-! ### What recovery is -/

/-- Some errors, then exactly the given bodies, then the end of the stream. -/
def Recovered (rs : List (Except FrameError Frame)) (bodies : List (List UInt8)) : Prop :=
  ∃ errors : List FrameError, rs =
    errors.map .error ++ bodies.map (fun body => .ok ⟨body.length, body⟩) ++ [.error .endOfStream]

theorem recovered_cons_error {z : FrameError} {rs : List (Except FrameError Frame)}
    {bodies : List (List UInt8)} (hz : z.isFinal = false) :
    Recovered (.error z :: rs) bodies ↔ Recovered rs bodies := by
  constructor
  · rintro ⟨errors, h⟩
    cases errors with
    | nil =>
      cases bodies with
      | nil =>
        cases h
        cases hz
      | cons body bodies => cases h
    | cons z' errors => exact ⟨errors, (List.cons.inj h).2⟩
  · rintro ⟨errors, h⟩
    exact ⟨z :: errors, by rw [h]; rfl⟩

theorem not_recovered_of_ok {f : Frame} {rs : List (Except FrameError Frame)}
    {bodies : List (List UInt8)} (h : ∀ body, bodies.head? = some body → f ≠ ⟨body.length, body⟩) :
    ¬ Recovered (.ok f :: rs) bodies := by
  rintro ⟨errors, hr⟩
  cases errors with
  | nil =>
    cases bodies with
    | nil => cases hr
    | cons body bodies =>
      cases hr
      exact h body rfl rfl
  | cons z errors => cases hr

theorem not_recovered_of_onlyErrors {rs : List (Except FrameError Frame)} {body : List UInt8}
    {bodies : List (List UInt8)} (h : OnlyErrors rs) : ¬ Recovered rs (body :: bodies) := by
  rintro ⟨errors, hr⟩
  obtain ⟨z, hz⟩ := h (.ok ⟨body.length, body⟩) (by rw [hr]; simp)
  cases hz

/-- A frame as it is written that keeps the limits. -/
structure Plain (limits : Limits) (body : List UInt8) : Prop where
  fits : (Block.frame [] [] 1 body).Fits limits
  accepted : body.length ≤ limits.contentLength

theorem results_plain {bodies : List (List UInt8)} (hl : 0 < limits.lineLength)
    (h : ∀ body ∈ bodies, Plain limits body) :
    (results limits .closed (bodies.flatMap frame)).map Prod.fst =
      bodies.map (fun body => .ok ⟨body.length, body⟩) ++ [.error .endOfStream] := by
  have hstream : Block.stream (bodies.map (.frame [] [] 1)) = bodies.flatMap frame := by
    unfold Block.stream
    rw [List.flatMap_map]
    exact congrArg (bodies.flatMap ·) (funext bytes_frame)
  have hfits : ∀ b ∈ bodies.map (Block.frame [] [] 1), b.Fits limits := by
    intro b hb
    obtain ⟨body, hbody, rfl⟩ := List.mem_map.1 hb
    exact (h body hbody).fits
  rw [← hstream, results_stream hl hfits]
  clear hstream hfits
  induction bodies with
  | nil => rfl
  | cons body bodies ih =>
    obtain ⟨hb, h⟩ := List.forall_mem_cons.1 h
    have hreceived : Block.received limits body = .ok ⟨body.length, body⟩ := if_pos hb.accepted
    rw [List.map_cons, Block.results, List.map_append, ih h]
    show [Block.received limits body] ++ _ = _
    rw [hreceived]
    rfl

/-! ### What is wasted -/

/-- From a block on, bytes are spent if no frame is read of them. They are added to the block, or
a next one begins behind them. -/
inductive Spent (limits : Limits) (b : HeaderBlock) : List UInt8 → HeaderBlock → Prop where
  /-- A line is cut at the limit. -/
  | cut {l : List UInt8} :
    newline ∉ l → l.length = limits.lineLength → Spent limits b l .empty
  /-- A line is one too many. -/
  | full {l : List UInt8} :
    IsHeader limits l → limits.headerLines ≤ b.lines → Spent limits b (l ++ [newline]) .empty
  /-- A line is added to the block. -/
  | line {l : List UInt8} :
    IsHeader limits l → b.lines < limits.headerLines →
      Spent limits b (l ++ [newline]) (b.add (.ofBytes limits l))
  /-- A blank line stands before the block. -/
  | stray {gap : Nat} :
    gap < limits.lineLength → b.close = none → Spent limits b (blankLine gap) b
  /-- The block has no length. -/
  | bare {gap : Nat} {x : FrameError} :
    gap < limits.lineLength → b.close = some (.failed x) → Spent limits b (blankLine gap) .empty
  /-- The block has a bad length. -/
  | refused {gap : Nat} {value : String} :
    gap < limits.lineLength → b.close = some (.rejected value none) →
      Spent limits b (blankLine gap) .empty
  /-- The block has a length that is too large, and the bytes to skip are there. -/
  | skipped {gap : Nat} {body : List UInt8} {value : String} :
    gap < limits.lineLength → b.close = some (.rejected value (some body.length)) →
      Spent limits b (blankLine gap ++ body) .empty

/-- Bytes are wasted if they are spent, piece by piece, and a good frame that follows them is
read. -/
inductive Wasted (limits : Limits) : HeaderBlock → List UInt8 → Prop where
  /-- The bytes are over, and the block takes the line of a good length. -/
  | done {b : HeaderBlock} :
    b.invalid = none → b.lines < limits.headerLines → Wasted limits b []
  | more {b b' : HeaderBlock} {piece bs : List UInt8} :
    Spent limits b piece b' → Wasted limits b' bs → Wasted limits b (piece ++ bs)

/-! ### One rule for each piece -/

theorem resumed_cut {l : List UInt8} (hl : 0 < limits.lineLength) (hn : newline ∉ l)
    (hlen : l.length = limits.lineLength) (bs : List UInt8) :
    resumed limits b (l ++ bs) =
      .error (.lineTooLong limits.lineLength) :: resumed limits .empty bs :=
  resumed_of_end hl (scan_cut hn hlen) rfl rfl

theorem resumed_full {l : List UInt8} (hl : 0 < limits.lineLength) (h : IsHeader limits l)
    (hlines : limits.headerLines ≤ b.lines) (bs : List UInt8) :
    resumed limits b (l ++ newline :: bs) =
      .error (.missingLength (b.lines + 1)) :: resumed limits .empty bs := by
  have hscan : scan limits .closed b (l ++ newline :: bs) =
      (.failed (.missingLength (b.lines + 1)), bs) := by
    rw [scan_header h]
    dsimp only
    rw [lines_add (ofBytes_ne_blank h), if_pos (by omega)]
  exact resumed_of_end hl hscan rfl rfl

theorem resumed_line {l : List UInt8} (h : IsHeader limits l)
    (hlines : b.lines < limits.headerLines) (bs : List UInt8) :
    resumed limits b (l ++ newline :: bs) =
      resumed limits (b.add (.ofBytes limits l)) bs := by
  refine resumed_of_scan ?_
  rw [scan_header h]
  dsimp only
  rw [lines_add (ofBytes_ne_blank h), if_neg (by omega)]

theorem resumed_blank {gap : Nat} (h : gap < limits.lineLength) (hb : b.close = none)
    (bs : List UInt8) : resumed limits b (blankLine gap ++ bs) = resumed limits b bs :=
  resumed_of_scan (scan_blankLine_none .closed h hb bs)

theorem resumed_close {gap : Nat} {y : Except FrameError Frame} {rest : List UInt8}
    (hl : 0 < limits.lineLength) (h : gap < limits.lineLength) (hb : b.close = some x)
    (hx : x.follow .closed bs = (y, rest)) (hy : Result.isFinal (y, rest) = false) :
    resumed limits b (blankLine gap ++ bs) = y :: resumed limits .empty rest :=
  resumed_of_end hl (scan_blankLine .closed h hb bs) hx hy

/-! ### Wasted bytes lose nothing -/

theorem resumed_frame {body : List UInt8} (hl : 0 < limits.lineLength) (hp : Plain limits body)
    (hb : b.invalid = none) (hlines : b.lines < limits.headerLines) (bs : List UInt8) :
    resumed limits b (frame body ++ bs) = .ok ⟨body.length, body⟩ :: resumed limits .empty bs := by
  obtain ⟨-, hwritten, hgap, -, hword⟩ := hp.fits
  have hbytes : frame body ++ bs =
      written body.length ++ newline :: (blankLine 1 ++ (body ++ bs)) := by
    rw [← bytes_frame, Block.bytes, List.nil_append, List.append_assoc, lineBytes_cons,
      List.append_assoc]
    rfl
  have hclose : (b.add (.length body.length)).close = some (.body body.length) := by
    unfold HeaderBlock.close HeaderBlock.add
    rw [hb]
  rw [hbytes, resumed_line (isHeader_written hwritten) hlines, HeaderLine.ofBytes_written hword,
    if_pos hp.accepted]
  refine resumed_close hl hgap hclose ?_ rfl
  show taking .closed body.length (body ++ bs) _ = _
  rw [taking_append, List.take_left]

theorem recovered_of_done {bodies : List (List UInt8)} (hl : 0 < limits.lineLength)
    (hb : b.invalid = none) (hlines : b.lines < limits.headerLines)
    (h : ∀ body ∈ bodies, Plain limits body) :
    Recovered (resumed limits b (bodies.flatMap frame)) bodies := by
  cases bodies with
  | cons body bodies =>
    obtain ⟨hp, h⟩ := List.forall_mem_cons.1 h
    rw [List.flatMap_cons, resumed_frame hl hp hb hlines, resumed_empty hl, results_plain hl h]
    exact ⟨[], rfl⟩
  | nil =>
    by_cases hz : b.lines = 0
    · have hcut : scan limits .closed b [] = (.failed .endOfStream, []) := by
        rw [scan_nil .closed b hl]
        unfold HeaderBlock.cut
        rw [if_pos hz]
        rfl
      unfold resumed
      rw [List.flatMap_nil, hcut]
      exact ⟨[], rfl⟩
    · have hcut : scan limits .closed b [] = (.failed (.truncated (b.length.getD 0) 0), []) := by
        rw [scan_nil .closed b hl]
        unfold HeaderBlock.cut
        rw [if_neg hz]
        rfl
      rw [List.flatMap_nil, resumed_of_end hl hcut rfl rfl, recovered_cons_error rfl,
        resumed_empty hl]
      exact ⟨[], results_plain hl h⟩

/-- **Spent bytes lose nothing**: behind them it is as from the next block on. -/
theorem recovered_spent {piece : List UInt8} {bodies : List (List UInt8)}
    (hl : 0 < limits.lineLength) (h : Spent limits b piece b') (bs : List UInt8) :
    Recovered (resumed limits b (piece ++ bs)) bodies ↔
      Recovered (resumed limits b' bs) bodies := by
  cases h with
  | cut hn hlen => rw [resumed_cut hl hn hlen, recovered_cons_error rfl]
  | full hh hlines =>
    rw [List.append_assoc, List.singleton_append, resumed_full hl hh hlines,
      recovered_cons_error rfl]
  | line hh hlines => rw [List.append_assoc, List.singleton_append, resumed_line hh hlines]
  | stray hgap hb => rw [resumed_blank hgap hb]
  | bare hgap hb =>
    have hx := isFinal_of_close hb
    rw [resumed_close hl hgap hb rfl hx, recovered_cons_error hx]
  | refused hgap hb => rw [resumed_close hl hgap hb rfl rfl, recovered_cons_error rfl]
  | skipped hgap hb =>
    rw [List.append_assoc, resumed_close hl hgap hb (taking_append .closed _ _ _) rfl,
      recovered_cons_error rfl]

/-- **Wasted bytes lose nothing**: the frames behind them are read, and nothing else. -/
theorem recovered_of_wasted {bodies : List (List UInt8)} (hl : 0 < limits.lineLength)
    (hw : Wasted limits b bs) (h : ∀ body ∈ bodies, Plain limits body) :
    Recovered (resumed limits b (bs ++ bodies.flatMap frame)) bodies := by
  induction hw with
  | done hb hlines => exact recovered_of_done hl hb hlines h
  | more hs _ ih =>
    rw [List.append_assoc]
    exact (recovered_spent hl hs _).2 ih

/-! ### Bytes that are not wasted lose a frame -/

theorem frame_eq_lines (body : List UInt8) :
    frame body = written body.length ++ newline :: (blankLine 1 ++ body) := by
  rw [← bytes_frame, Block.bytes, List.nil_append, lineBytes_cons]
  rfl

theorem written_eq_cons (n : Nat) : ∃ t, written n = 67 :: t := by
  obtain ⟨t, ht⟩ := lengthName_prefix_written n
  have hname : lengthName = 67 :: lengthName.tail := by decide
  refine ⟨lengthName.tail ++ t, ?_⟩
  rw [← ht, hname]
  rfl

/-- No frame starts behind the first byte of this one. -/
def Alone (body : List UInt8) : Prop := ¬ lengthName <:+: (frame body).tail

theorem nameless_of_notMem {l : List UInt8} (h : 67 ∉ l) : ¬ lengthName <:+: l :=
  fun hi => h (hi.subset (by decide))

theorem alone_of_notMem {body : List UInt8} (h : 67 ∉ body) : Alone body := by
  refine nameless_of_notMem ?_
  have hdigits : 67 ∉ (' ' :: Natural.digits body.length).map Utf8.byte := by
    intro hm
    obtain ⟨c, hc, h67⟩ := List.mem_map.1 hm
    rcases List.mem_cons.1 hc with rfl | hc
    · exact absurd h67 (by decide)
    · have hdigit := Natural.isDigit_of_mem_digits hc
      have hascii := HeaderLine.ascii_of_isDigit hdigit
      have hnat := congrArg UInt8.toNat h67
      rw [Utf8.toNat_byte hascii] at hnat
      rw [Char.isDigit_iff_toNat] at hdigit
      have : c.toNat ≤ 57 := hdigit.2
      have : c.toNat = 67 := hnat
      omega
  have hname : lengthName = 67 :: lengthName.tail := by decide
  have htail : (frame body).tail = lengthName.tail ++
      ((' ' :: Natural.digits body.length).map Utf8.byte ++
        ([carriageReturn, newline, carriageReturn, newline] ++ body)) := by
    have hwritten : written body.length = lengthName ++
        ((' ' :: Natural.digits body.length).map Utf8.byte ++ [carriageReturn]) := by
      unfold written
      rw [Utf8.encode_ascii (HeaderLine.ascii_written _), HeaderLine.lengthName_eq,
        List.map_append, List.append_assoc]
    rw [frame_eq_lines, hwritten, hname]
    simp [blankLine]
  rw [htail]
  simp only [List.mem_append, not_or]
  exact ⟨by decide, hdigits, by decide, h⟩

theorem Alone.nameless {body t : List UInt8} (h : Alone body) (ht : t <:+ (frame body).tail) :
    ¬ lengthName <:+: t := fun hi => h (hi.trans ht.isInfix)

theorem suffix_tail_of_length {l t : List UInt8} (h : t <:+ l) (hlen : t.length < l.length) :
    t <:+ l.tail := by
  obtain ⟨p, rfl⟩ := h
  cases p with
  | nil => exact absurd hlen (Nat.lt_irrefl _)
  | cons c p => exact ⟨p, rfl⟩

/-- A line that a frame goes on with is another header or a bad length. -/
theorem add_joined (limits : Limits) (b : HeaderBlock) {p : List UInt8} (n : Nat)
    (hp : newline ∉ p) (hne : p ≠ []) :
    (b.add (.ofBytes limits (p ++ written n))).lines = b.lines + 1 ∧
      (b.add (.ofBytes limits (p ++ written n))).length = b.length := by
  obtain ⟨t, ht⟩ := written_eq_cons n
  have hline : newline ∉ p ++ 67 :: t := by
    rw [← ht]
    intro h
    rcases List.mem_append.1 h with h | h
    · exact hp h
    · exact HeaderLine.newline_not_mem_written n h
  rw [ht]
  obtain ⟨text, h⟩ | ⟨value, h⟩ := @HeaderLine.ofBytes_capital limits p t hne hline
  · rw [h]
    exact ⟨rfl, rfl⟩
  · rw [h]
    exact ⟨rfl, rfl⟩

theorem isHeader_joined {p : List UInt8} {n : Nat} (hp : newline ∉ p)
    (h : (p ++ written n).length < limits.lineLength) : IsHeader limits (p ++ written n) := by
  obtain ⟨t, ht⟩ := written_eq_cons n
  refine ⟨?_, ?_, h⟩
  · intro h
    rcases List.mem_append.1 h with h | h
    · exact hp h
    · exact HeaderLine.newline_not_mem_written n h
  · intro hall
    exact absurd (hall 67 (by rw [ht]; simp)) (by decide)

theorem blank_suffix (body : List UInt8) : blankLine 1 ++ body <:+ (frame body).tail := by
  refine suffix_tail_of_length ⟨written body.length ++ [newline], ?_⟩ ?_
  · rw [frame_eq_lines, List.append_assoc]
    rfl
  · rw [frame_eq_lines]
    simp only [List.length_append, List.length_cons]
    omega

/-- A block that a frame's line was no length of closes without the frame. -/
theorem not_recovered_of_close {body : List UInt8} (hl : 1 < limits.lineLength)
    (halone : Alone body) (hlines : b.lines ≠ 0) (hb : b.length ≠ some body.length) :
    ¬ Recovered (resumed limits b (blankLine 1 ++ body)) [body] := by
  have hl' : 0 < limits.lineLength := Nat.zero_lt_of_lt hl
  cases hc : b.close with
  | none => exact absurd (lines_of_close hc) hlines
  | some x =>
    have hscan := scan_blankLine .closed hl hc body
    by_cases hx : ∃ n, x = .body n
    · obtain ⟨n, rfl⟩ := hx
      have hn := length_of_close hc
      by_cases hshort : body.length < n
      · have hfollow : (HeaderEnd.body n).follow .closed body =
            (.error (.truncated n body.length), []) := if_pos hshort
        rw [resumed_of_end hl' hscan hfollow rfl, recovered_cons_error rfl, resumed_empty hl']
        exact not_recovered_of_onlyErrors (onlyErrors_results hl' nameless_nil)
      · have hfollow : (HeaderEnd.body n).follow .closed body =
            (.ok ⟨n, body.take n⟩, body.drop n) := if_neg hshort
        rw [resumed_of_end hl' hscan hfollow rfl]
        refine not_recovered_of_ok ?_
        rintro _ ⟨⟩ h
        exact hb (hn.trans (congrArg some (congrArg Frame.contentLength h)))
    · refine not_recovered_of_onlyErrors (onlyErrors_of_scan hl' hscan ?_ ?_)
      · exact fun n h => hx ⟨n, h⟩
      · exact halone.nameless ((List.suffix_append _ _).trans (blank_suffix body))

/-- A line that is cut within the line of a frame loses the frame. -/
theorem not_recovered_of_cut {p body : List UInt8} (hl : 0 < limits.lineLength)
    (halone : Alone body) (hp : newline ∉ p) (hlen : p.length < limits.lineLength)
    (hcut : limits.lineLength ≤ (p ++ written body.length).length) :
    ¬ Recovered (resumed limits b (p ++ frame body)) [body] := by
  obtain ⟨l, t, hlt, hl'⟩ : ∃ l t, p ++ written body.length = l ++ t ∧
      l.length = limits.lineLength :=
    ⟨_, _, (List.take_append_drop limits.lineLength _).symm, by rw [List.length_take]; omega⟩
  have hnewline : newline ∉ l := by
    intro h
    have h : newline ∈ p ++ written body.length := hlt ▸ List.mem_append_left t h
    rcases List.mem_append.1 h with h | h
    · exact hp h
    · exact HeaderLine.newline_not_mem_written _ h
  have hbytes : p ++ frame body = l ++ (t ++ newline :: (blankLine 1 ++ body)) := by
    rw [frame_eq_lines, ← List.append_assoc, hlt, List.append_assoc]
  have hsuffix : t ++ newline :: (blankLine 1 ++ body) <:+ p ++ frame body := ⟨l, hbytes.symm⟩
  have hlength := congrArg List.length hbytes
  rw [List.length_append, List.length_append] at hlength
  have htail : t ++ newline :: (blankLine 1 ++ body) <:+ (frame body).tail := by
    refine suffix_tail_of_length (List.suffix_of_suffix_length_le hsuffix ⟨p, rfl⟩ ?_) ?_ <;> omega
  rw [hbytes, resumed_cut hl hnewline hl', recovered_cons_error rfl, resumed_empty hl]
  exact not_recovered_of_onlyErrors (onlyErrors_results hl (halone.nameless htail))

/-- **A line without its end swallows the frame behind it.** -/
theorem not_recovered_of_open {p body : List UInt8} (hplain : Plain limits body)
    (halone : Alone body) (hp : newline ∉ p) (hne : p ≠ [])
    (hlen : p.length < limits.lineLength) (hb : b.length ≠ some body.length) :
    ¬ Recovered (resumed limits b (p ++ frame body)) [body] := by
  obtain ⟨-, -, hgap, -, -⟩ := hplain.fits
  have hl : 0 < limits.lineLength := Nat.zero_lt_of_lt hgap
  by_cases hfit : (p ++ written body.length).length < limits.lineLength
  · obtain ⟨hlines, hlength⟩ := add_joined limits b body.length hp hne
    have hheader := isHeader_joined hp hfit
    rw [frame_eq_lines, ← List.append_assoc]
    by_cases hfull : limits.headerLines ≤ b.lines
    · rw [resumed_full hl hheader hfull, recovered_cons_error rfl, resumed_empty hl]
      exact not_recovered_of_onlyErrors
        (onlyErrors_results hl (halone.nameless (blank_suffix body)))
    · rw [resumed_line hheader (by omega)]
      exact not_recovered_of_close hgap halone (by omega) (hlength ▸ hb)
  · exact not_recovered_of_cut hl halone hp hlen (by omega)

theorem plain_zero (h : Plain limits []) (hc : 1 ≤ limits.contentLength) : Plain limits [0] := by
  obtain ⟨hother, hwritten, hgap, hlines, -⟩ := h.fits
  have hsame : (written 1).length = (written 0).length := by decide
  exact ⟨⟨hother, hsame ▸ hwritten, hgap, hlines, by decide⟩, hc⟩

/-- A block with a bad length, or with no room for a line, loses the frame behind it. -/
theorem not_recovered_of_bad (hp : Plain limits [])
    (hb : ¬ (b.invalid = none ∧ b.lines < limits.headerLines)) :
    ¬ Recovered (resumed limits b (frame [])) [[]] := by
  obtain ⟨-, hwritten, hgap, -, hword⟩ := hp.fits
  have hl : 0 < limits.lineLength := Nat.zero_lt_of_lt hgap
  have hheader := isHeader_written hwritten
  rw [frame_eq_lines]
  by_cases hfull : limits.headerLines ≤ b.lines
  · rw [resumed_full hl hheader hfull, recovered_cons_error rfl, resumed_empty hl]
    exact not_recovered_of_onlyErrors
      (onlyErrors_results hl ((alone_of_notMem List.not_mem_nil).nameless (blank_suffix [])))
  · have hinvalid : b.invalid ≠ none := fun h => hb ⟨h, by omega⟩
    obtain ⟨value, hvalue⟩ := Option.ne_none_iff_exists'.1 hinvalid
    have hclose : (b.add (.length 0)).close = some (.rejected value b.oversized) := by
      unfold HeaderBlock.close HeaderBlock.add
      rw [hvalue]
    rw [resumed_line hheader (by omega), HeaderLine.ofBytes_written hword, if_pos hp.accepted]
    refine not_recovered_of_onlyErrors
      (onlyErrors_of_scan hl (scan_blankLine .closed hgap hclose []) ?_ nameless_nil)
    intro n h
    cases h

/-- A body that reaches into the frames behind it loses one of them. -/
theorem not_recovered_of_body (bs : List UInt8) {gap n : Nat} (hp : Plain limits [])
    (hgap : gap < limits.lineLength) (hc : b.close = some (.body n)) :
    ∃ bodies, (∀ body ∈ bodies, Plain limits body) ∧
      ¬ Recovered (resumed limits b (blankLine gap ++ bs ++ bodies.flatMap frame)) bodies := by
  have hl : 0 < limits.lineLength := Nat.zero_lt_of_lt hgap
  have hread : ∀ bodies : List (List UInt8), n ≤ (bs ++ bodies.flatMap frame).length →
      (∀ body, bodies.head? = some body → n ≠ body.length) →
      ¬ Recovered (resumed limits b (blankLine gap ++ bs ++ bodies.flatMap frame)) bodies := by
    intro bodies hn hbodies
    have hfollow : (HeaderEnd.body n).follow .closed (bs ++ bodies.flatMap frame) = _ :=
      if_neg (Nat.not_lt.2 hn)
    rw [List.append_assoc, resumed_close hl hgap hc hfollow rfl]
    refine not_recovered_of_ok ?_
    intro body hbody h
    exact hbodies body hbody (congrArg Frame.contentLength h)
  by_cases hn : n ≤ bs.length
  · refine ⟨[], by simp, hread [] (by simpa using hn) ?_⟩
    rintro _ ⟨⟩
  · refine ⟨[[]], by simpa using hp, ?_⟩
    by_cases hlong : n ≤ (bs ++ [[]].flatMap frame).length
    · refine hread [[]] hlong ?_
      rintro _ ⟨⟩ rfl
      exact hn (Nat.zero_le _)
    · have hfollow : (HeaderEnd.body n).follow .closed (bs ++ [[]].flatMap frame) = _ :=
        if_pos (Nat.not_le.1 hlong)
      rw [List.append_assoc, resumed_close hl hgap hc hfollow rfl, recovered_cons_error rfl,
        resumed_empty hl]
      exact not_recovered_of_onlyErrors (onlyErrors_results hl nameless_nil)

/-- Bytes to skip that are not there are taken from the frame behind them. -/
theorem not_recovered_of_skip {gap n : Nat} {value : String} (hgap : gap < limits.lineLength)
    (hc : b.close = some (.rejected value (some n))) (hn : bs.length < n) :
    ¬ Recovered (resumed limits b (blankLine gap ++ bs ++ frame [])) [[]] := by
  have hl : 0 < limits.lineLength := Nat.zero_lt_of_lt hgap
  rw [List.append_assoc]
  by_cases hlong : (bs ++ frame []).length < n
  · have hfollow : (HeaderEnd.rejected value (some n)).follow .closed (bs ++ frame []) = _ :=
      if_pos hlong
    rw [resumed_close hl hgap hc hfollow rfl, recovered_cons_error rfl, resumed_empty hl]
    exact not_recovered_of_onlyErrors (onlyErrors_results hl nameless_nil)
  · have hfollow : (HeaderEnd.rejected value (some n)).follow .closed (bs ++ frame []) = _ :=
      if_neg hlong
    rw [resumed_close hl hgap hc hfollow rfl, recovered_cons_error rfl, resumed_empty hl]
    refine not_recovered_of_onlyErrors
      (onlyErrors_results hl ((alone_of_notMem List.not_mem_nil).nameless ?_))
    have hdrop : (bs ++ frame []).drop n = (frame []).drop (n - bs.length) := by
      rw [List.drop_append, List.drop_of_length_le (Nat.le_of_lt hn), List.nil_append]
    have hframe : (frame []).length = 21 := by decide
    rw [hdrop]
    refine suffix_tail_of_length (List.drop_suffix ..) ?_
    rw [List.length_drop]
    omega

/-! ### What bytes begin with -/

/-- The beginnings of bytes: a piece that is spent, a body, bytes to skip of which not all are
there, or a line without its end. -/
inductive Beginning (limits : Limits) (b : HeaderBlock) : List UInt8 → Prop where
  | spent {piece bs : List UInt8} {b' : HeaderBlock} :
    piece ≠ [] → Spent limits b piece b' → Beginning limits b (piece ++ bs)
  | body {gap n : Nat} {bs : List UInt8} :
    gap < limits.lineLength → b.close = some (.body n) → Beginning limits b (blankLine gap ++ bs)
  | short {gap n : Nat} {bs : List UInt8} {value : String} :
    gap < limits.lineLength → b.close = some (.rejected value (some n)) → bs.length < n →
      Beginning limits b (blankLine gap ++ bs)
  | unended {bs : List UInt8} :
    newline ∉ bs → bs.length < limits.lineLength → Beginning limits b bs

theorem blankLine_ne_nil (gap : Nat) : blankLine gap ≠ [] :=
  List.append_ne_nil_of_right_ne_nil _ (List.cons_ne_nil _ _)

theorem beginning_blank {gap : Nat} (h : gap < limits.lineLength) (bs : List UInt8) :
    Beginning limits b (blankLine gap ++ bs) := by
  have hne := blankLine_ne_nil gap
  cases hc : b.close with
  | none => exact .spent hne (.stray h hc)
  | some x =>
    cases x with
    | body n => exact .body h hc
    | failed y => exact .spent hne (.bare h hc)
    | rejected value skip =>
      cases skip with
      | none => exact .spent hne (.refused h hc)
      | some n =>
        by_cases hn : bs.length < n
        · exact .short h hc hn
        · have hlen : (bs.take n).length = n := by
            rw [List.length_take]
            omega
          rw [← hlen] at hc
          rw [← List.take_append_drop n bs, ← List.append_assoc]
          exact .spent (List.append_ne_nil_of_left_ne_nil hne _) (.skipped h hc)

theorem beginning (hl : 0 < limits.lineLength) (b : HeaderBlock) (bs : List UInt8) :
    Beginning limits b bs := by
  rcases Source.exists_line limits.lineLength bs with
    ⟨l, rest, hnl, hlen, rfl⟩ | ⟨l, rest, hnl, hlen, rfl⟩ | ⟨hnl, hlen⟩
  · by_cases hblank : ∀ c ∈ l, c = carriageReturn
    · rw [List.eq_replicate_of_mem hblank, ← blankLine_append]
      exact beginning_blank hlen rest
    · have hheader : IsHeader limits l := ⟨hnl, hblank, hlen⟩
      have hne : l ++ [newline] ≠ [] := List.append_ne_nil_of_right_ne_nil _ (List.cons_ne_nil _ _)
      rw [← List.singleton_append, ← List.append_assoc]
      by_cases hfull : limits.headerLines ≤ b.lines
      · exact .spent hne (.full hheader hfull)
      · exact .spent hne (.line hheader (Nat.not_le.1 hfull))
  · exact .spent (List.ne_nil_of_length_pos (hlen ▸ hl)) (.cut hnl hlen)
  · exact .unended hnl hlen

/-- A line without its end is wasted only if it is empty, and the block takes one more line. -/
theorem wasted_of_unended (hp : Plain limits []) (hx : 1 ≤ limits.contentLength ∨ bs = [])
    (hnl : newline ∉ bs) (hlen : bs.length < limits.lineLength)
    (h : ∀ body, Plain limits body → Recovered (resumed limits b (bs ++ frame body)) [body]) :
    Wasted limits b bs := by
  by_cases hnil : bs = []
  · subst hnil
    by_contra hnot
    exact not_recovered_of_bad hp (fun hgood => hnot (.done hgood.1 hgood.2)) (h [] hp)
  · have hp₁ : Plain limits [0] := plain_zero hp (hx.resolve_right hnil)
    by_cases hzero : b.length = some 0
    · have hone : b.length ≠ some [(0 : UInt8)].length := by
        rw [hzero]
        decide
      exact absurd (h [0] hp₁)
        (not_recovered_of_open hp₁ (alone_of_notMem (by decide)) hnl hnil hlen hone)
    · exact absurd (h [] hp)
        (not_recovered_of_open hp (alone_of_notMem List.not_mem_nil) hnl hnil hlen hzero)

/-- **Bytes lose nothing only if they are wasted.** Bytes that do not end with a line can lose
a frame only to a frame with a body, so there must be one. -/
theorem wasted_of_recovered (hp : Plain limits [])
    (hx : 1 ≤ limits.contentLength ∨ ∀ t, t <:+ bs → newline ∉ t → t = [])
    (h : ∀ bodies, (∀ body ∈ bodies, Plain limits body) →
      Recovered (resumed limits b (bs ++ bodies.flatMap frame)) bodies) :
    Wasted limits b bs := by
  have hl : 0 < limits.lineLength := Nat.zero_lt_of_lt hp.fits.2.2.1
  induction hn : bs.length using Nat.strongRecOn generalizing b bs with
  | _ m ih =>
    cases beginning hl b bs with
    | @spent piece rest b' hne hs =>
      refine .more hs (ih rest.length ?_ ?_ (fun bodies hb => ?_) rfl)
      · have := List.length_pos_of_ne_nil hne
        rw [List.length_append] at hn
        omega
      · exact hx.imp_right fun h t ht => h t (ht.trans (List.suffix_append ..))
      · have := h bodies hb
        rwa [List.append_assoc, recovered_spent hl hs] at this
    | @body gap n rest hgap hc =>
      obtain ⟨bodies, hb, hnot⟩ := not_recovered_of_body rest hp hgap hc
      exact absurd (h bodies hb) hnot
    | short hgap hc hshort =>
      have := h [[]] (by simpa using hp)
      rw [List.flatMap_cons, List.flatMap_nil, List.append_nil] at this
      exact absurd this (not_recovered_of_skip hgap hc hshort)
    | unended hnl hlen =>
      refine wasted_of_unended hp (hx.imp_right fun h => h bs (List.suffix_refl _) hnl) hnl hlen ?_
      intro body hbody
      have := h [body] (by simpa using hbody)
      rwa [List.flatMap_cons, List.flatMap_nil, List.append_nil] at this

end SyntaxServer
