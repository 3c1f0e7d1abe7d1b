import SyntaxServer.Proofs.Frame.Recovery

/-!
Frames whose header is refused. A frame with a line that is too long, or with too many lines, is
refused within the header (`next_envelope`), and what is left of it is read next. The frames
behind it are read, and nothing else, if and only if that leftover is wasted
(`recovers_iff_wasted`). A line that is too long behind the length costs the next frame, unless
there is no body (`not_recovered_padded`, `recovered_padded_nil`).
-/

namespace SyntaxServer

open Source (newline)
open HeaderLine (carriageReturn lengthName written)

variable {limits : Limits} {e : StreamEnd} {b : HeaderBlock} {bs rest : List UInt8}

/-! ### The frame and its leftover -/

/-- A frame with whatever other headers: the line of its length stands among them. -/
structure Envelope where
  before : List (List UInt8)
  length : List UInt8
  after : List (List UInt8)
  gap : Nat
  body : List UInt8

/-- Why a header is refused, and the lines that are left of it; none if all its lines are read.
Some lines of it have been counted already. -/
def Limits.refusal (limits : Limits) : Nat → List (List UInt8) → Option (FrameError × List UInt8)
  | _, [] => none
  | n, l :: ls =>
    if limits.lineLength ≤ l.length then
      some (.lineTooLong limits.lineLength, l.drop limits.lineLength ++ newline :: lineBytes ls)
    else if limits.headerLines ≤ n then some (.missingLength (n + 1), lineBytes ls)
    else limits.refusal (n + 1) ls

namespace Envelope

def lines (f : Envelope) : List (List UInt8) := f.before ++ f.length :: f.after

def bytes (f : Envelope) : List UInt8 := lineBytes f.lines ++ (blankLine f.gap ++ f.body)

/-- Each line is one, and one of them gives the true length. -/
structure WellFormed (limits : Limits) (f : Envelope) : Prop where
  one_line : ∀ l ∈ f.lines, newline ∉ l
  not_blank : ∀ l ∈ f.lines, ¬ ∀ c ∈ l, c = carriageReturn
  other_name : ∀ l ∈ f.before ++ f.after, ¬ lengthName <+: l
  true_length : HeaderLine.ofBytes limits f.length = .length f.body.length

/-- A line of the header is too long, or there are too many. -/
def Exceeds (limits : Limits) (f : Envelope) : Prop :=
  (∃ l ∈ f.lines, limits.lineLength ≤ l.length) ∨ limits.headerLines < f.lines.length

/-- What is left of the frame when its header has been refused. -/
def leftover (limits : Limits) (f : Envelope) : List UInt8 :=
  (limits.refusal 0 f.lines).elim [] Prod.snd ++ (blankLine f.gap ++ f.body)

end Envelope

theorem refusal_eq_none {n : Nat} {ls : List (List UInt8)} (h : limits.refusal n ls = none) :
    (∀ l ∈ ls, l.length < limits.lineLength) ∧ (ls = [] ∨ n + ls.length ≤ limits.headerLines) := by
  induction ls generalizing n with
  | nil => exact ⟨by simp, Or.inl rfl⟩
  | cons l ls ih =>
    unfold Limits.refusal at h
    split at h
    · cases h
    split at h
    · cases h
    obtain ⟨hlen, hlines⟩ := ih h
    refine ⟨List.forall_mem_cons.2 ⟨by omega, hlen⟩, Or.inr ?_⟩
    rcases hlines with rfl | hlines
    · rw [List.length_singleton]
      omega
    · rw [List.length_cons]
      omega

theorem exists_refusal {f : Envelope} (h : f.Exceeds limits) :
    ∃ z ls, limits.refusal 0 f.lines = some (z, ls) := by
  cases hr : limits.refusal 0 f.lines with
  | some p => exact ⟨p.1, p.2, rfl⟩
  | none =>
    obtain ⟨hlen, hlines⟩ := refusal_eq_none hr
    rcases h with ⟨l, hl, hlong⟩ | h
    · exact absurd (hlen l hl) (Nat.not_lt.2 hlong)
    · rcases hlines with hnil | hlines
      · rw [hnil] at h
        cases h
      · omega

/-- A refused header is read up to the line that is refused. -/
theorem scan_refusal {z : FrameError} {ls : List (List UInt8)}
    (hone : ∀ l ∈ ls, newline ∉ l) (hblank : ∀ l ∈ ls, ¬ ∀ c ∈ l, c = carriageReturn)
    (h : limits.refusal b.lines ls = some (z, rest)) (bs : List UInt8) :
    scan limits e b (lineBytes ls ++ bs) = (.failed z, rest ++ bs) ∧ z.isFinal = false := by
  induction ls generalizing b with
  | nil => cases h
  | cons l ls ih =>
    obtain ⟨hl, hone⟩ := List.forall_mem_cons.1 hone
    obtain ⟨hb, hblank⟩ := List.forall_mem_cons.1 hblank
    unfold Limits.refusal at h
    rw [lineBytes_cons]
    by_cases hlong : limits.lineLength ≤ l.length
    · rw [if_pos hlong] at h
      cases h
      have hbytes : l ++ newline :: (lineBytes ls ++ bs) = l.take limits.lineLength ++
          (l.drop limits.lineLength ++ newline :: lineBytes ls ++ bs) := by
        rw [List.append_assoc, ← List.append_assoc, List.take_append_drop]
        rfl
      rw [hbytes, scan_cut (fun hm => hl (List.mem_of_mem_take hm))
        (by rw [List.length_take]; omega)]
      exact ⟨rfl, rfl⟩
    rw [if_neg hlong] at h
    have hheader : IsHeader limits l := ⟨hl, hb, by omega⟩
    have hlines := lines_add (b := b) (ofBytes_ne_blank hheader)
    rw [scan_header hheader]
    dsimp only
    rw [hlines]
    by_cases hfull : limits.headerLines ≤ b.lines
    · rw [if_pos hfull] at h
      cases h
      rw [if_pos (by omega)]
      exact ⟨rfl, rfl⟩
    · rw [if_neg hfull] at h
      rw [if_neg (by omega)]
      exact ih hone hblank (hlines ▸ h)

/-- **A header that exceeds the limits is refused**, and its leftover is read next. -/
theorem next_envelope {f : Envelope} (hf : f.WellFormed limits) (hx : f.Exceeds limits) :
    ∃ z, z.isFinal = false ∧
      ∀ e bs, next limits e (f.bytes ++ bs) = (.error z, f.leftover limits ++ bs) := by
  obtain ⟨z, ls, hr⟩ := exists_refusal hx
  have hscan : ∀ e bs, scan limits e .empty (f.bytes ++ bs) = (.failed z, f.leftover limits ++ bs) ∧
      z.isFinal = false := by
    intro e bs
    have hbytes : f.bytes ++ bs = lineBytes f.lines ++ (blankLine f.gap ++ f.body ++ bs) := by
      rw [Envelope.bytes, List.append_assoc]
    have hleft : f.leftover limits ++ bs = ls ++ (blankLine f.gap ++ f.body ++ bs) := by
      rw [Envelope.leftover, hr, List.append_assoc]
      rfl
    rw [hbytes, hleft]
    exact scan_refusal (b := .empty) hf.one_line hf.not_blank hr _
  exact ⟨z, (hscan .closed []).2, fun e bs => next_of_scan (hscan e bs).1⟩

theorem le_of_length {l : List UInt8} {n : Nat} (h : HeaderLine.ofBytes limits l = .length n) :
    n ≤ limits.contentLength := by
  obtain ⟨v, hv⟩ := HeaderLine.prefix_textOf_iff.2 (HeaderLine.lengthName_prefix_of_length h)
  have h : HeaderLine.ofText limits (HeaderLine.textOf l) = .length n := h
  rw [← hv, HeaderLine.ofText_name] at h
  unfold HeaderLine.ofValue at h
  split at h
  · split at h
    · cases h
      assumption
    · cases h
  · cases h

theorem leftover_ends {f : Envelope} (hf : f.WellFormed limits) :
    1 ≤ limits.contentLength ∨ ∀ t, t <:+ f.leftover limits → newline ∉ t → t = [] := by
  by_cases hc : 1 ≤ limits.contentLength
  · exact Or.inl hc
  · right
    have hbody : f.body = [] := by
      have := le_of_length hf.true_length
      exact List.length_eq_zero_iff.1 (by omega)
    intro t ht hn
    rcases List.eq_nil_or_concat t with rfl | ⟨t, c, rfl⟩
    · rfl
    · unfold Envelope.leftover blankLine at ht
      rw [hbody, List.append_nil, ← List.append_assoc, List.concat_eq_append] at ht
      obtain ⟨p, hp⟩ := ht
      rw [← List.append_assoc] at hp
      have := (List.append_inj_right' hp rfl)
      cases this
      exact absurd (by simp) hn

/-- What is read of a refused frame and the bytes behind it is what is read of its leftover and
those bytes, but for one error. -/
theorem recovered_iff_leftover {f : Envelope} {bodies : List (List UInt8)} {s : Source}
    (hl : 0 < limits.lineLength) (hf : f.WellFormed limits) (hx : f.Exceeds limits)
    (hs : s.bytes = f.bytes ++ bs) (he : s.ending = .closed) :
    Recovered ((allReadings limits s).map Reading.result) bodies ↔
      Recovered (resumed limits .empty (f.leftover limits ++ bs)) bodies := by
  obtain ⟨z, hz, hnext⟩ := next_envelope hf hx
  have hmap : (allReadings limits s).map Reading.result =
      (results limits .closed (f.bytes ++ bs)).map Prod.fst := by
    rw [← hs, ← he, ← map_view_allReadings hl, List.map_map]
    rfl
  rw [hmap, results_of_next hl (hnext .closed _) hz, List.map_cons, ← resumed_empty hl,
    recovered_cons_error hz]

/-- **The frames behind a refused one are read, and nothing else, if and only if its leftover is
wasted.** -/
theorem recovers_iff_wasted {f : Envelope} (hf : f.WellFormed limits) (hx : f.Exceeds limits)
    (hp : Plain limits []) :
    (∀ bodies, (∀ body ∈ bodies, Plain limits body) → ∀ s : Source,
      s.bytes = f.bytes ++ bodies.flatMap frame → s.ending = .closed →
        Recovered ((allReadings limits s).map Reading.result) bodies) ↔
      Wasted limits .empty (f.leftover limits) := by
  have hl : 0 < limits.lineLength := Nat.zero_lt_of_lt hp.fits.2.2.1
  constructor
  · intro h
    refine wasted_of_recovered hp (leftover_ends hf) fun bodies hb => ?_
    exact (recovered_iff_leftover (s := .ofBytes (f.bytes ++ bodies.flatMap frame) .closed) hl hf hx
      (Source.bytes_ofBytes ..) rfl).1 (h bodies hb _ (Source.bytes_ofBytes ..) rfl)
  · intro hw bodies hb s hs he
    exact (recovered_iff_leftover hl hf hx hs he).2 (recovered_of_wasted hl hw hb)

/-! ### A line that is too long behind the length -/

/-- Four lines of 32 bytes, and bodies of 64. -/
def smallLimits : Limits := ⟨4, 32, 64⟩

/-- A header line of 34 bytes. -/
def padding : List UInt8 := [88, 58, 32] ++ List.replicate 30 97 ++ [carriageReturn]

/-- The frame of a body, with a line that is too long behind the length. -/
def padded (body : List UInt8) : Envelope := ⟨[], written body.length, [padding], 1, body⟩

def exitRequest : List UInt8 :=
  Utf8.encode "\x7b\"jsonrpc\":\"2.0\",\"id\":1,\"method\":\"exit\"\x7d".toList

theorem wellFormed_padded {body : List UInt8} (h : body.length ≤ 64) :
    (padded body).WellFormed smallLimits where
  one_line := by
    have hpadding : ∀ l ∈ [padding], newline ∉ l := by decide
    exact List.forall_mem_cons.2 ⟨HeaderLine.newline_not_mem_written _, hpadding⟩
  not_blank := by
    have hpadding : ∀ l ∈ [padding], ¬ ∀ c ∈ l, c = carriageReturn := by decide
    exact List.forall_mem_cons.2
      ⟨carriageReturn_ne_of_lengthName (lengthName_prefix_written _), hpadding⟩
  other_name := by
    show ∀ l ∈ [padding], ¬ lengthName <+: l
    decide
  true_length := by
    have hword : body.length < Natural.wordLimit := Nat.lt_of_le_of_lt h (by decide)
    exact (HeaderLine.ofBytes_written hword).trans (if_pos h)

theorem exceeds_padded (body : List UInt8) : (padded body).Exceeds smallLimits :=
  Or.inl ⟨padding, by simp [padded, Envelope.lines], by decide⟩

theorem leftover_padded {body : List UInt8} (h : (written body.length).length < 32) :
    (padded body).leftover smallLimits = [97, 13] ++ [newline] ++ (blankLine 1 ++ body) := by
  have hrefusal : smallLimits.refusal 0 (padded body).lines =
      some (.lineTooLong 32, [97, 13] ++ [newline]) := by
    show smallLimits.refusal 0 [written body.length, padding] = _
    unfold Limits.refusal
    have hfits : ¬ smallLimits.lineLength ≤ (written body.length).length := Nat.not_le.2 h
    rw [if_neg hfits, if_neg (by decide)]
    decide
  unfold Envelope.leftover
  rw [hrefusal]
  rfl

theorem close_leftover_padded :
    ∃ x, (HeaderBlock.empty.add (.ofBytes smallLimits [97, 13])).close = some (.failed x) := by
  obtain ⟨text, h⟩ : ∃ text, HeaderLine.ofBytes smallLimits [97, 13] = .other text :=
    HeaderLine.exists_other (by decide) (by decide) (by decide)
  exact ⟨.missingLength 1, by rw [h]; rfl⟩

/-- With an empty body nothing is lost. -/
theorem recovered_padded_nil :
    (padded []).WellFormed smallLimits ∧ (padded []).Exceeds smallLimits ∧ Plain smallLimits [] ∧
      Plain smallLimits exitRequest ∧
      Recovered ((allReadings smallLimits
        (.ofBytes ((padded []).bytes ++ [exitRequest].flatMap frame) .closed)).map Reading.result)
        [exitRequest] := by
  have hf : (padded []).WellFormed smallLimits := wellFormed_padded (by decide)
  have hp : Plain smallLimits [] := ⟨by decide, by decide⟩
  have hp' : Plain smallLimits exitRequest := ⟨by decide, by decide⟩
  have hw : Wasted smallLimits .empty ((padded []).leftover smallLimits) := by
    rw [leftover_padded (by decide)]
    obtain ⟨x, hx⟩ := close_leftover_padded
    have hline : Spent smallLimits .empty ([97, 13] ++ [newline]) _ :=
      .line (by decide) (by decide)
    exact .more hline (.more (.bare (by decide) hx) (.done rfl (by decide)))
  refine ⟨hf, exceeds_padded [], hp, hp', ?_⟩
  exact (recovers_iff_wasted hf (exceeds_padded []) hp).2 hw [exitRequest] (by simpa using hp') _
    (Source.bytes_ofBytes ..) rfl

/-- With another body the request behind the frame is lost. -/
theorem not_recovered_padded :
    (padded [123, 125]).WellFormed smallLimits ∧ (padded [123, 125]).Exceeds smallLimits ∧
      Plain smallLimits exitRequest ∧
      ¬ Recovered ((allReadings smallLimits
        (.ofBytes ((padded [123, 125]).bytes ++ [exitRequest].flatMap frame) .closed)).map
          Reading.result) [exitRequest] := by
  have hf : (padded [123, 125]).WellFormed smallLimits := wellFormed_padded (by decide)
  have hp : Plain smallLimits exitRequest := ⟨by decide, by decide⟩
  refine ⟨hf, exceeds_padded _, hp, ?_⟩
  rw [recovered_iff_leftover (by decide) hf (exceeds_padded _) (Source.bytes_ofBytes ..) rfl,
    leftover_padded (by decide)]
  obtain ⟨x, hx⟩ := close_leftover_padded
  have hx' := isFinal_of_close hx
  have hbytes :
      [97, 13] ++ [newline] ++ (blankLine 1 ++ [123, 125]) ++ [exitRequest].flatMap frame =
        [97, 13] ++ newline :: (blankLine 1 ++ ([123, 125] ++ frame exitRequest)) := by
    rw [List.flatMap_cons, List.flatMap_nil, List.append_nil]
    rfl
  rw [hbytes, resumed_line (by decide) (by decide),
    resumed_close (by decide) (by decide) hx rfl hx', recovered_cons_error hx']
  exact not_recovered_of_open hp (alone_of_notMem (by decide)) (by decide) (by decide) (by decide)
    (by decide)

end SyntaxServer
