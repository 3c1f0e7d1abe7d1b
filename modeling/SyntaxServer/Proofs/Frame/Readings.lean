import SyntaxServer.Proofs.Frame.Header

/-!
All readings of a stream, said of its bytes. A reading is a header and what becomes of the bytes
behind it (`next_eq`). It takes a byte if there is one (`length_next`), and the last one says how
the stream ends and leaves nothing (`next_of_isFinal`). So the readings of a stream are the first
and those of the bytes it leaves (`results_eq`), in whatever chunks they arrive.
-/

namespace SyntaxServer

open Source (splitLine splitLine_append splitLine_line splitLine_cut splitLine_short exists_line)

variable {limits : Limits} {e : StreamEnd} {x : HeaderEnd} {bs rest : List UInt8}

/-! ### One reading -/

/-- The result of a reading, and the bytes after it. -/
abbrev Result := Except FrameError Frame × List UInt8

/-- What a reading gives, and the bytes after it. -/
def Reading.view (r : Reading) : Result := (r.result, r.rest.bytes)

/-- What becomes of bytes of which `n` are taken. -/
def taking (e : StreamEnd) (n : Nat) (bs : List UInt8) (y : Except FrameError Frame) : Result :=
  if bs.length < n then (.error (e.error (.truncated n bs.length)), []) else (y, bs.drop n)

/-- What becomes of the bytes behind a header. -/
def HeaderEnd.follow (e : StreamEnd) : HeaderEnd → List UInt8 → Result
  | .body n, bs => taking e n bs (.ok ⟨n, bs.take n⟩)
  | .rejected value (some n), bs => taking e n bs (.error (.invalidLength value))
  | .rejected value none, bs => (.error (.invalidLength value), bs)
  | .failed x, bs => (.error x, bs)

theorem view_take (n : Nat) (s : Source) (y : Reading) (z : Except FrameError Frame)
    (hy : y.view = (z, (s.take n).2.bytes)) :
    (if (s.take n).1.length < n then
        ⟨.error (s.ending.error (.truncated n (s.take n).1.length)), [], (s.take n).2⟩
      else y : Reading).view = taking s.ending n s.bytes z := by
  obtain ⟨h₁, h₂⟩ := Prod.mk.inj (s.take_bytes n)
  have hlen : (s.take n).1.length = min n s.bytes.length := by rw [h₁, List.length_take]
  unfold taking
  by_cases h : s.bytes.length < n
  · rw [if_pos (by omega), if_pos h]
    unfold Reading.view
    rw [hlen, Nat.min_eq_right (Nat.le_of_lt h), h₂, List.drop_of_length_le (Nat.le_of_lt h)]
  · rw [if_neg (by omega), if_neg h, hy, h₂]

theorem view_readRest (x : HeaderEnd) (s : Source) :
    (readRest x s).view = x.follow s.ending s.bytes := by
  cases x with
  | body n =>
    refine view_take n s _ _ ?_
    unfold Reading.view
    rw [(Prod.mk.inj (s.take_bytes n)).1]
  | rejected value skip =>
    cases skip with
    | none => rfl
    | some n => exact view_take n s _ _ rfl
  | failed x => rfl

theorem ending_readRest (x : HeaderEnd) (s : Source) : (readRest x s).rest.ending = s.ending := by
  cases x with
  | body n => unfold readRest readBody; dsimp only; split <;> rfl
  | rejected value skip =>
    cases skip with
    | none => rfl
    | some n => unfold readRest skipBody; dsimp only; split <;> rfl
  | failed x => rfl

/-- The next reading of bytes that arrive at once. -/
def next (limits : Limits) (e : StreamEnd) (bs : List UInt8) : Result :=
  (nextFrame limits (.ofBytes bs e)).view

theorem view_nextFrame_eq_follow (limits : Limits) (s : Source) :
    (nextFrame limits s).view =
      (scan limits s.ending .empty s.bytes).1.follow s.ending
        (scan limits s.ending .empty s.bytes).2 := by
  rw [← view_readHeader_eq_scan]
  unfold HeaderScan.view
  dsimp only
  rw [← ending_readHeader limits .empty s, ← view_readRest]
  rfl

theorem ending_nextFrame (limits : Limits) (s : Source) :
    (nextFrame limits s).rest.ending = s.ending :=
  (ending_readRest _ _).trans (ending_readHeader limits .empty s)

/-- **A reading is a header and what becomes of the bytes behind it.** -/
theorem next_eq (limits : Limits) (e : StreamEnd) (bs : List UInt8) :
    next limits e bs =
      (scan limits e .empty bs).1.follow e (scan limits e .empty bs).2 := by
  have h := view_nextFrame_eq_follow limits (.ofBytes bs e)
  rwa [Source.bytes_ofBytes] at h

theorem next_of_scan (h : scan limits e .empty bs = (x, rest)) :
    next limits e bs = x.follow e rest := by
  rw [next_eq, h]

theorem view_nextFrame (limits : Limits) (s : Source) :
    (nextFrame limits s).view = next limits s.ending s.bytes := by
  rw [view_nextFrame_eq_follow, next_eq]

/-! ### Progress -/

theorem taking_suffix (e : StreamEnd) (n : Nat) (bs : List UInt8) (y : Except FrameError Frame) :
    (taking e n bs y).2 <:+ bs := by
  unfold taking
  split
  · exact List.nil_suffix
  · exact List.drop_suffix n bs

theorem follow_suffix (e : StreamEnd) (x : HeaderEnd) (bs : List UInt8) :
    (x.follow e bs).2 <:+ bs := by
  cases x with
  | body n => exact taking_suffix e n bs _
  | rejected value skip =>
    cases skip with
    | none => exact List.suffix_refl _
    | some n => exact taking_suffix e n bs _
  | failed x => exact List.suffix_refl _

theorem next_suffix (limits : Limits) (e : StreamEnd) (bs : List UInt8) :
    (next limits e bs).2 <:+ (splitLine limits.lineLength bs).2 := by
  rw [next_eq]
  exact (follow_suffix ..).trans (scan_suffix ..)

theorem next_nil (e : StreamEnd) (hn : 0 < limits.lineLength) :
    next limits e [] = (.error (e.error .endOfStream), []) := by
  rw [next_eq, scan_nil e _ hn]
  rfl

/-- **A reading takes a byte if there is one.** -/
theorem length_next (e : StreamEnd) (hn : 0 < limits.lineLength) (hb : bs ≠ []) :
    (next limits e bs).2.length < bs.length := by
  have hpos : 0 < (splitLine limits.lineLength bs).1.length :=
    List.length_pos_iff.2 (Source.splitLine_ne_nil hn hb)
  have happ := congrArg List.length (splitLine_append limits.lineLength bs)
  have hnext := (next_suffix limits e bs).length_le
  rw [List.length_append] at happ
  omega

/-! ### The last reading -/

/-- No reading follows the result. -/
def Result.isFinal (r : Result) : Bool :=
  match r.1 with
  | .ok _ => false
  | .error x => x.isFinal

theorem isFinal_error (e : StreamEnd) (bs : List UInt8) :
    Result.isFinal (.error (e.error .endOfStream), bs) = true := by
  cases e <;> rfl

theorem ne_nil_of_not_final (hl : 0 < limits.lineLength)
    (h : ¬ (next limits e bs).isFinal = true) : bs ≠ [] := by
  rintro rfl
  rw [next_nil _ hl] at h
  exact h (isFinal_error e [])

theorem isFinal_view (r : Reading) : r.view.isFinal = r.isFinal := rfl

theorem cut_of_isFinal {b : HeaderBlock} (h : b.cut.isFinal = true) : b.cut = .endOfStream := by
  unfold HeaderBlock.cut at h ⊢
  split
  · rfl
  · rename_i hb
    rw [if_neg hb] at h
    cases h

theorem final_of_step {b : HeaderBlock} {line : List UInt8} {x : FrameError}
    (h : b.step limits e line = .inl (.failed x)) (hx : x.isFinal = true) :
    x = e.error .endOfStream ∧ isCut line = true ∧ line.length ≠ limits.lineLength := by
  have hstep := b.stepped limits e line
  rw [h] at hstep
  cases hstep with
  | long _ _ => cases hx
  | broken hlen hcut he =>
    refine ⟨?_, hcut, hlen⟩
    cases e with
    | closed => exact absurd rfl he
    | failed cause => rfl
  | ended hlen hnil he =>
    subst hnil he
    exact ⟨cut_of_isFinal hx, rfl, hlen⟩
  | closes _ _ hc =>
    rw [isFinal_of_close hc] at hx
    cases hx
  | full _ _ _ => cases hx

theorem final_of_scan {b : HeaderBlock} {x : FrameError}
    (h : (scan limits e b bs).1 = .failed x) (hx : x.isFinal = true) :
    x = e.error .endOfStream ∧ (scan limits e b bs).2 = [] := by
  induction hn : bs.length using Nat.strongRecOn generalizing b bs with
  | _ n ih =>
    rw [scan_eq] at h ⊢
    dsimp only at h ⊢
    cases hs : b.step limits e (splitLine limits.lineLength bs).1 with
    | inl y =>
      rw [hs] at h
      dsimp only at h ⊢
      subst h
      obtain ⟨he, hcut, hlen⟩ := final_of_step hs hx
      refine ⟨he, ?_⟩
      rcases exists_line limits.lineLength bs with
        ⟨l, rest, hl, hln, rfl⟩ | ⟨l, rest, hl, hln, rfl⟩ | ⟨hl, hln⟩
      · rw [splitLine_line hl hln, isCut_concat_newline] at hcut
        cases hcut
      · rw [← hln, splitLine_cut hl] at hlen
        exact absurd rfl hlen
      · rw [splitLine_short hl (Nat.le_of_lt hln)]
    | inr b' =>
      rw [hs] at h
      dsimp only at h ⊢
      exact ih _ (hn ▸ length_splitLine_of_more hs) h rfl

theorem taking_of_isFinal {n : Nat} {y : Except FrameError Frame}
    (hy : Result.isFinal (y, bs.drop n) = false) (h : (taking e n bs y).isFinal = true) :
    taking e n bs y = (.error (e.error .endOfStream), []) := by
  unfold taking at h ⊢
  by_cases hn : bs.length < n
  · rw [if_pos hn] at h ⊢
    cases e with
    | closed => cases h
    | failed cause => rfl
  · rw [if_neg hn, hy] at h
    cases h

/-- **The last reading** says how the stream ends, and leaves nothing. -/
theorem next_of_isFinal (h : (next limits e bs).isFinal = true) :
    next limits e bs = (.error (e.error .endOfStream), []) := by
  rw [next_eq] at h ⊢
  cases hx : (scan limits e .empty bs).1 with
  | body n =>
    rw [hx] at h
    exact taking_of_isFinal rfl h
  | rejected value skip =>
    rw [hx] at h
    cases skip with
    | none => cases h
    | some n => exact taking_of_isFinal rfl h
  | failed x =>
    rw [hx] at h
    obtain ⟨h₁, h₂⟩ := final_of_scan hx h
    rw [h₂, h₁]
    rfl

/-! ### All readings -/

theorem view_readings {n m : Nat} {s t : Source} (hl : 0 < limits.lineLength)
    (hb : s.bytes = t.bytes) (he : s.ending = t.ending)
    (hn : s.bytes.length < n) (hm : s.bytes.length < m) :
    (readings limits n s).map Reading.view = (readings limits m t).map Reading.view := by
  induction n generalizing s t m with
  | zero => exact absurd hn (Nat.not_lt_zero _)
  | succ n ih =>
    obtain ⟨m, rfl⟩ : ∃ k, m = k + 1 := ⟨m - 1, by omega⟩
    have hs := view_nextFrame limits s
    have ht := view_nextFrame limits t
    rw [← hb, ← he, ← hs] at ht
    unfold readings
    dsimp only
    rw [← isFinal_view, ← isFinal_view, ht]
    by_cases hf : (nextFrame limits s).view.isFinal = true
    · rw [if_pos hf, if_pos hf, List.map_cons, List.map_cons, ht]
    · rw [if_neg hf, if_neg hf, List.map_cons, List.map_cons, ht]
      have hne : s.bytes ≠ [] := ne_nil_of_not_final hl (hs ▸ hf)
      have hlt : (nextFrame limits s).rest.bytes.length < s.bytes.length := by
        have := length_next s.ending hl hne
        rw [← hs] at this
        exact this
      have hr : (nextFrame limits s).rest.bytes = (nextFrame limits t).rest.bytes :=
        (Prod.mk.inj ht.symm).2
      rw [ih (m := m) hr (by rw [ending_nextFrame, ending_nextFrame, he]) (by omega) (by omega)]

/-- The results of all readings of bytes that arrive at once, with the bytes after each. -/
def results (limits : Limits) (e : StreamEnd) (bs : List UInt8) : List Result :=
  (allReadings limits (.ofBytes bs e)).map Reading.view

theorem map_view_allReadings (hl : 0 < limits.lineLength) (s : Source) :
    (allReadings limits s).map Reading.view = results limits s.ending s.bytes :=
  view_readings hl (Source.bytes_ofBytes ..).symm rfl (Nat.lt_succ_self _)
    (by rw [Source.bytes_ofBytes]; exact Nat.lt_succ_self _)

/-- **The results of bytes** are that of the first reading and those of the bytes it leaves. -/
theorem results_eq (hl : 0 < limits.lineLength) (e : StreamEnd) (bs : List UInt8) :
    results limits e bs =
      next limits e bs ::
        if (next limits e bs).isFinal then [] else results limits e (next limits e bs).2 := by
  have hs := view_nextFrame limits (.ofBytes bs e)
  rw [Source.bytes_ofBytes, Source.ending_ofBytes] at hs
  unfold results allReadings
  rw [readings, ← isFinal_view, hs]
  by_cases hf : (next limits e bs).isFinal = true
  · rw [if_pos hf, if_pos hf, List.map_cons, hs]
    rfl
  · rw [if_neg hf, if_neg hf, List.map_cons, hs]
    have hne := ne_nil_of_not_final hl hf
    have hr : (nextFrame limits (.ofBytes bs e)).rest.bytes = (next limits e bs).2 :=
      (Prod.mk.inj hs).2
    have hlt := length_next e hl hne
    refine congrArg _ (view_readings hl ?_ (ending_nextFrame ..) ?_ ?_)
    · rw [hr, Source.bytes_ofBytes]
    · rw [hr, Source.bytes_ofBytes]
      exact hlt
    · rw [hr, Source.bytes_ofBytes]
      exact Nat.lt_succ_self _

/-- **Every list of readings ends** with the one that says how the stream ends. -/
theorem exists_results (hl : 0 < limits.lineLength) (e : StreamEnd) (bs : List UInt8) :
    ∃ rs, results limits e bs = rs ++ [(.error (e.error .endOfStream), [])] ∧
      ∀ r ∈ rs, Result.isFinal r = false := by
  induction hn : bs.length using Nat.strongRecOn generalizing bs with
  | _ n ih =>
    rw [results_eq hl]
    cases hf : (next limits e bs).isFinal with
    | true =>
      refine ⟨[], ?_, by simp⟩
      rw [next_of_isFinal hf]
      rfl
    | false =>
      have hne := ne_nil_of_not_final hl (Bool.eq_false_iff.1 hf)
      obtain ⟨rs, hrs, hall⟩ := ih _ (hn ▸ length_next e hl hne) _ rfl
      refine ⟨next limits e bs :: rs, ?_, ?_⟩
      · rw [if_neg (by simp), hrs]
        rfl
      · intro r hr
        rcases List.mem_cons.1 hr with rfl | hr
        · exact hf
        · exact hall r hr

end SyntaxServer
