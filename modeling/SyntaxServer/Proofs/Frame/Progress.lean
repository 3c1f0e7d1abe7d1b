import SyntaxServer.Proofs.Frame.Pieces

/-!
A call of the reader, read by read. Where a call stands is a `Stage`, and a step is one read, one
line that is over, or the end of the call. Every step takes something from what is left
(`left_of_next`), so a call ends after few of them, whatever arrives (`steps_of_comes`), and it ends
with the result of the reader (`next_or_ended`). A call that does not report the end of the stream
takes a byte (`used_of_nextFrame`), so no more calls come before the end than there are bytes
(`exists_calls`).
-/

namespace SyntaxServer

open Filling (Runs Lines Look Read start)

variable {limits : Limits} {e : StreamEnd} {bs : List UInt8} {k : Nat}

namespace HeaderEnd

/-- How many bytes a call takes behind a header. -/
def wants : HeaderEnd → Nat
  | .body n => n
  | .rejected _ (some n) => n
  | .rejected _ none => 0
  | .failed _ => 0

/-- What a call that has got all of them comes to. -/
def outcome : HeaderEnd → List UInt8 → Except FrameError Frame
  | .body n, received => .ok ⟨n, received⟩
  | .rejected value _, _ => .error (.invalidLength value)
  | .failed x, _ => .error x

theorem follow_eq_taking (e : StreamEnd) (x : HeaderEnd) (bs : List UInt8) :
    x.follow e bs = taking e x.wants bs (x.outcome (bs.take x.wants)) := by
  have hnone : ∀ y, taking e 0 bs y = (y, bs) := fun _ => if_neg (Nat.not_lt_zero _)
  cases x with
  | body n => rfl
  | rejected value skip =>
    cases skip with
    | none => exact (hnone _).symm
    | some n => rfl
  | failed x => exact (hnone _).symm

end HeaderEnd

/-! ### Stages -/

/-- Where a call stands: at a line of the header, with the lines before it, at the bytes behind the
header, or at its end. -/
inductive Stage where
  | line (b : HeaderBlock) (f : Filling)
  | behind (x : HeaderEnd) (f : Filling)
  | ended (r : Result)

namespace Stage

variable {s t : Stage}

/-- A step of a call. A look or a read gets what the stream hands out, which is at least a byte. -/
inductive Next (limits : Limits) (e : StreamEnd) : Stage → Stage → Prop
  | look {b : HeaderBlock} {f g : Filling} : Look limits.lineLength f g →
      Next limits e (.line b f) (.line b g)
  | more {b b' : HeaderBlock} {f : Filling} : f.Lined limits.lineLength →
      b.step limits e f.received = .inr b' →
      Next limits e (.line b f) (.line b' (start f.rest))
  | ends {b : HeaderBlock} {x : HeaderEnd} {f : Filling} : f.Lined limits.lineLength →
      b.step limits e f.received = .inl x →
      Next limits e (.line b f) (.behind x (start f.rest))
  | read {x : HeaderEnd} {f g : Filling} : Read x.wants f g →
      Next limits e (.behind x f) (.behind x g)
  | finish {x : HeaderEnd} {f : Filling} : f.Filled x.wants →
      Next limits e (.behind x f) (.ended (f.taken e x.wants (x.outcome f.received)))

/-- What is left to do, at most: each byte is received, and dropped with its line. -/
def left : Stage → Nat
  | .line _ f => f.received.length + 2 * f.rest.length + 2
  | .behind _ f => f.received.length + 2 * f.rest.length + 1
  | .ended _ => 0

/-- **Every step of a call leaves less to do.** -/
theorem left_of_next (h : Next limits e s t) : t.left < s.left := by
  cases h with
  | look hlook =>
    have := Filling.length_of_look hlook
    simp only [left]
    omega
  | @more b b' f _ hstep =>
    -- a header goes on only behind a line that has a byte
    have := List.length_pos_iff.2 (ne_nil_of_more hstep)
    simp only [left, start, List.length_nil]
    omega
  | ends _ _ =>
    simp only [left, start, List.length_nil]
    omega
  | read hread =>
    have := Filling.length_of_read hread
    simp only [left]
    omega
  | finish _ => exact Nat.succ_pos _

/-- A call on some bytes can come to a stage in `k` steps. -/
inductive Comes (limits : Limits) (e : StreamEnd) (bs : List UInt8) : Nat → Stage → Prop
  | first : Comes limits e bs 0 (.line .empty (start bs))
  | next {k : Nat} {s t : Stage} : Comes limits e bs k s → Next limits e s t →
      Comes limits e bs (k + 1) t

/-- **A call has few steps**, in whatever pieces its bytes arrive. -/
theorem steps_of_comes (h : Comes limits e bs k t) : k + t.left ≤ 2 * bs.length + 2 := by
  induction h with
  | first =>
    simp only [left, start, List.length_nil]
    omega
  | next _ hnext ih =>
    have := left_of_next hnext
    omega

/-- What a stage of a call knows of its bytes: the header from here on is the whole one, what is
behind the header is received in turn, and at the end there is the result. -/
inductive Leads (limits : Limits) (e : StreamEnd) (bs : List UInt8) : Stage → Prop
  | line {b : HeaderBlock} {f : Filling} {rest : List UInt8} : Lines limits.lineLength rest f →
      scan limits e b rest = scan limits e .empty bs → Leads limits e bs (.line b f)
  | behind {x : HeaderEnd} {f : Filling} {rest : List UInt8} : Runs x.wants rest f →
      scan limits e .empty bs = (x, rest) → Leads limits e bs (.behind x f)
  | ended : Leads limits e bs (.ended (next limits e bs))

theorem scan_of_lined {b : HeaderBlock} {f : Filling} (h : Lines limits.lineLength bs f)
    (hover : f.Lined limits.lineLength) :
    scan limits e b bs =
      match b.step limits e f.received with
      | .inl x => (x, f.rest)
      | .inr b' => scan limits e b' f.rest := by
  rewrite [scan_eq, Filling.splitLine_of_lined h hover]
  rfl

theorem leads_of_next (h : Leads limits e bs s) (hnext : Next limits e s t) :
    Leads limits e bs t := by
  cases hnext with
  | look hlook =>
    cases h with
    | line hlines hscan => exact .line (hlines.tail hlook) hscan
  | more hover hstep =>
    cases h with
    | line hlines hscan =>
      rw [scan_of_lined hlines hover, hstep] at hscan
      exact .line .refl hscan
  | ends hover hstep =>
    cases h with
    | line hlines hscan =>
      rw [scan_of_lined hlines hover, hstep] at hscan
      exact .behind .refl hscan.symm
  | read hread =>
    cases h with
    | behind hruns hscan => exact .behind (hruns.tail hread) hscan
  | finish hover =>
    cases h with
    | behind hruns hscan =>
      rw [Filling.taken_eq hruns hover, (Filling.filling_of_filled hruns hover).1,
        ← HeaderEnd.follow_eq_taking, ← next_of_scan hscan]
      exact .ended

theorem leads_of_comes (h : Comes limits e bs k t) : Leads limits e bs t := by
  induction h with
  | first => exact .line .refl rfl
  | next _ hnext ih => exact leads_of_next ih hnext

theorem next_or_ended (h : Leads limits e bs t) :
    (∃ u, Next limits e t u) ∨ t = .ended (next limits e bs) := by
  cases h with
  | @line b f rest hlines _ =>
    left
    by_cases hover : f.Lined limits.lineLength
    · cases hstep : b.step limits e f.received with
      | inl x => exact ⟨_, .ends hover hstep⟩
      | inr b' => exact ⟨_, .more hover hstep⟩
    · obtain ⟨g, hlook⟩ := Filling.exists_look hlines hover
      exact ⟨_, .look hlook⟩
  | @behind x f rest hruns _ =>
    left
    by_cases hover : f.Filled x.wants
    · exact ⟨_, .finish hover⟩
    · obtain ⟨g, hread⟩ := Filling.exists_read hruns hover
      exact ⟨_, .read hread⟩
  | ended => exact Or.inr rfl

end Stage

/-! ### Calls in turn -/

theorem readings_succ (limits : Limits) (m : Nat) (s : Source) :
    readings limits (m + 1) s =
      nextFrame limits s ::
        if (nextFrame limits s).isFinal then [] else readings limits m (nextFrame limits s).rest := by
  rw [readings]
  cases (nextFrame limits s).isFinal <;> rfl

/-- **A call that does not report the end of the stream takes a byte.** -/
theorem used_of_nextFrame {s : Source} (hl : 0 < limits.lineLength)
    (h : (nextFrame limits s).isFinal = false) :
    ∃ used, used ≠ [] ∧ s.bytes = used ++ (nextFrame limits s).rest.bytes := by
  have hview := view_nextFrame limits s
  have hrest : (nextFrame limits s).rest.bytes = (next limits s.ending s.bytes).2 :=
    (Prod.mk.inj hview).2
  have hne : s.bytes ≠ [] := by
    refine ne_nil_of_not_final hl (e := s.ending) ?_
    rw [← hview, isFinal_view, h]
    exact Bool.false_ne_true
  obtain ⟨used, hused⟩ := (next_suffix limits s.ending s.bytes).trans (splitLine_suffix ..)
  refine ⟨used, ?_, ?_⟩
  · rintro rfl
    have hless := length_next s.ending hl hne
    rw [List.nil_append] at hused
    rw [hused] at hless
    exact Nat.lt_irrefl _ hless
  · rw [hrest, hused]

theorem length_of_nextFrame {s : Source} (hl : 0 < limits.lineLength)
    (h : (nextFrame limits s).isFinal = false) :
    (nextFrame limits s).rest.bytes.length < s.bytes.length := by
  obtain ⟨used, hne, hbytes⟩ := used_of_nextFrame hl h
  have := List.length_pos_iff.2 hne
  rw [hbytes, List.length_append]
  omega

/-- **The end of a stream comes after few calls**: no more of them find anything else than the
stream has bytes. -/
theorem exists_calls (hl : 0 < limits.lineLength) (s : Source) :
    ∃ init last, calls limits (init.length + 1) s = init ++ [last] ∧
      init.length ≤ s.bytes.length ∧ (∀ r ∈ init, r.isFinal = false) ∧
      last.result = .error (s.ending.error .endOfStream) := by
  induction hn : s.bytes.length using Nat.strongRecOn generalizing s with
  | _ n ih =>
    cases hfinal : (nextFrame limits s).isFinal with
    | true =>
      refine ⟨[], nextFrame limits s, rfl, Nat.zero_le _, nofun, ?_⟩
      have hview := view_nextFrame limits s
      rw [← isFinal_view, hview] at hfinal
      rw [next_of_isFinal hfinal] at hview
      exact (Prod.mk.inj hview).1
    | false =>
      have hless := length_of_nextFrame hl hfinal
      obtain ⟨init, last, hcalls, hlength, hinit, hlast⟩ := ih _ (hn ▸ hless) _ rfl
      refine ⟨nextFrame limits s :: init, last, ?_, ?_, ?_, ?_⟩
      · rw [List.length_cons, calls, hcalls, List.cons_append]
      · rw [List.length_cons]
        omega
      · exact List.forall_mem_cons.2 ⟨hfinal, hinit⟩
      · rw [hlast, ending_nextFrame]

end SyntaxServer
