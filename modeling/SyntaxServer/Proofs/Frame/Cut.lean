import SyntaxServer.Proofs.Frame.Readings

/-!
Streams that are cut. A reading of the beginning of some bytes is the reading of all of them, and
what it leaves is less by what is missing, unless it meets the cut: then it leaves nothing, and
gives an error or an empty frame (`next_append`). So the bodies of the beginning come first among
the bodies of all, but for an empty one at the cut (`cutOff_bodies`).
-/

namespace SyntaxServer

open Source (newline splitLine splitLine_line splitLine_short exists_line)

variable {limits : Limits} {e e' : StreamEnd} {b : HeaderBlock} {bs more : List UInt8}

/-! ### One header -/

/-- A header that is over before the cut does not see it; any other takes all bytes. -/
theorem scan_append (limits : Limits) (e e' : StreamEnd) (b : HeaderBlock) (bs more : List UInt8) :
    (∃ x rest, scan limits e b bs = (x, rest) ∧
        scan limits e' b (bs ++ more) = (x, rest ++ more)) ∨
      (scan limits e b bs).2 = [] := by
  induction hn : bs.length using Nat.strongRecOn generalizing b bs with
  | _ n ih =>
    rcases exists_line limits.lineLength bs with
      ⟨l, rest, hl, hlen, rfl⟩ | ⟨l, rest, hl, hlen, rfl⟩ | ⟨hl, hlen⟩
    · -- a line that ends does the same to the block in both streams
      have hstep : b.step limits e' (l ++ [newline]) = b.step limits e (l ++ [newline]) := by
        rw [step_line, step_line]
      have happend : (l ++ newline :: rest) ++ more = l ++ newline :: (rest ++ more) := by
        rw [List.append_assoc, List.cons_append]
      rw [happend, scan_eq limits e, scan_eq limits e', splitLine_line hl hlen,
        splitLine_line hl hlen]
      dsimp only
      rw [hstep]
      cases b.step limits e (l ++ [newline]) with
      | inl x => exact Or.inl ⟨x, rest, rfl, rfl⟩
      | inr b' =>
        have hlt : rest.length < n := by
          rw [← hn, List.length_append, List.length_cons]
          omega
        exact ih rest.length hlt b' rest rfl
    · -- a line that is too long ends the header at once
      refine Or.inl ⟨_, rest, scan_cut hl hlen, ?_⟩
      rw [List.append_assoc]
      exact scan_cut hl hlen
    · -- the last line is open: all bytes are taken, whatever becomes of the header
      right
      have hsuffix := scan_suffix limits e b bs
      rw [splitLine_short hl (Nat.le_of_lt hlen)] at hsuffix
      exact List.suffix_nil.1 hsuffix

/-! ### One reading -/

/-- A reading that met the end of the bytes: nothing is left, and a frame is empty. -/
structure Result.Exhausted (r : Result) : Prop where
  rest : r.2 = []
  body : ∀ f, r.1 = .ok f → f.body = []

theorem exhausted_error (x : FrameError) : Result.Exhausted (.error x, []) := by
  refine ⟨rfl, ?_⟩
  intro f hf
  cases hf

theorem follow_append (e e' : StreamEnd) (x : HeaderEnd) (bs more : List UInt8) :
    (∃ y rest, x.follow e bs = (y, rest) ∧ x.follow e' (bs ++ more) = (y, rest ++ more)) ∨
      (x.follow e bs).Exhausted := by
  -- a body is there as a whole, or it is cut off
  have hbody : ∀ (n : Nat) (y : List UInt8 → Except FrameError Frame),
      (n ≤ bs.length → y (bs ++ more) = y bs) →
      (∃ z rest, taking e n bs (y bs) = (z, rest) ∧
          taking e' n (bs ++ more) (y (bs ++ more)) = (z, rest ++ more)) ∨
        Result.Exhausted (taking e n bs (y bs)) := by
    intro n y hy
    unfold taking
    by_cases hlt : bs.length < n
    · rw [if_pos hlt]
      exact Or.inr (exhausted_error _)
    · have hle : n ≤ bs.length := Nat.le_of_not_lt hlt
      rw [if_neg hlt, if_neg (by rw [List.length_append]; omega), hy hle]
      exact Or.inl ⟨y bs, bs.drop n, rfl, by rw [List.drop_append_of_le_length hle]⟩
  cases x with
  | body n =>
    refine hbody n (fun bs => .ok ⟨n, bs.take n⟩) ?_
    intro hle
    rw [List.take_append_of_le_length hle]
  | rejected value skip =>
    cases skip with
    | none => exact Or.inl ⟨_, bs, rfl, rfl⟩
    | some n => exact hbody n (fun _ => .error (.invalidLength value)) fun _ => rfl
  | failed x => exact Or.inl ⟨_, bs, rfl, rfl⟩

/-- Behind a header that took all bytes only an empty body is found. -/
theorem exhausted_follow (e : StreamEnd) (x : HeaderEnd) : (x.follow e []).Exhausted := by
  have hbody : ∀ (n : Nat) (y : Except FrameError Frame), (∀ f, y = .ok f → f.body = []) →
      Result.Exhausted (taking e n [] y) := by
    intro n y hy
    unfold taking
    split
    · exact exhausted_error _
    · exact ⟨List.drop_nil, hy⟩
  cases x with
  | body n =>
    refine hbody n _ ?_
    intro f hf
    cases hf
    exact List.take_nil
  | rejected value skip =>
    cases skip with
    | none => exact exhausted_error _
    | some n => exact hbody n _ nofun
  | failed x => exact exhausted_error x

/-- **A reading that is over before the cut does not see it.** -/
theorem next_append (limits : Limits) (e e' : StreamEnd) (bs more : List UInt8) :
    (∃ y rest, next limits e bs = (y, rest) ∧ next limits e' (bs ++ more) = (y, rest ++ more)) ∨
      (next limits e bs).Exhausted := by
  rw [next_eq limits e, next_eq limits e']
  rcases scan_append limits e e' .empty bs more with ⟨x, rest, h, h'⟩ | hnil
  · rw [h, h']
    exact follow_append e e' x rest more
  · rw [hnil]
    exact Or.inr (exhausted_follow e _)

/-! ### All readings -/

/-- The bodies of the frames among some results. -/
def bodiesOf (rs : List Result) : List (List UInt8) :=
  rs.filterMap fun r => r.1.toOption.map Frame.body

/-- Some bodies come first among others, but for an empty one at their end. -/
def CutOff (xs ys : List (List UInt8)) : Prop :=
  ∃ whole, (xs = whole ∨ xs = whole ++ [[]]) ∧ whole <+: ys

theorem cutOff_cons {xs ys : List (List UInt8)} (h : CutOff xs ys) (body : List UInt8) :
    CutOff (body :: xs) (body :: ys) := by
  obtain ⟨whole, hxs, hbegin⟩ := h
  refine ⟨body :: whole, ?_, List.cons_prefix_cons.2 ⟨rfl, hbegin⟩⟩
  rcases hxs with rfl | rfl
  · exact Or.inl rfl
  · exact Or.inr rfl

theorem bodiesOf_cons (r : Result) (rs : List Result) :
    bodiesOf (r :: rs) = (r.1.toOption.map Frame.body).toList ++ bodiesOf rs := by
  unfold bodiesOf
  rw [List.filterMap_cons]
  cases r.1.toOption.map Frame.body <;> rfl

theorem bodiesOf_last (e : StreamEnd) :
    bodiesOf [(.error (e.error .endOfStream), [])] = [] := rfl

theorem bodiesOf_exhausted (hl : 0 < limits.lineLength) (h : (next limits e bs).Exhausted) :
    bodiesOf (results limits e bs) = [] ∨ bodiesOf (results limits e bs) = [[]] := by
  have hnil : bodiesOf (if (next limits e bs).isFinal = true then []
      else results limits e (next limits e bs).2) = [] := by
    split
    · rfl
    · rw [h.rest, results_eq hl, next_nil e hl, isFinal_error, if_pos rfl]
      exact bodiesOf_last e
  rw [results_eq hl, bodiesOf_cons, hnil, List.append_nil]
  cases hy : (next limits e bs).1 with
  | error x => exact Or.inl rfl
  | ok f =>
    right
    show [f.body] = [[]]
    rw [h.body f hy]

/-- **The bodies of a stream that is cut** come first among those of the whole stream. -/
theorem cutOff_bodies (hl : 0 < limits.lineLength) (e e' : StreamEnd) (bs more : List UInt8) :
    CutOff (bodiesOf (results limits e bs)) (bodiesOf (results limits e' (bs ++ more))) := by
  induction hn : bs.length using Nat.strongRecOn generalizing bs with
  | _ n ih =>
    rcases next_append limits e e' bs more with ⟨y, rest, h, h'⟩ | hend
    · cases hfinal : (next limits e bs).isFinal with
      | true =>
        have hlast := next_of_isFinal hfinal
        refine ⟨[], Or.inl ?_, List.nil_prefix⟩
        rw [results_eq hl, hfinal, if_pos rfl, hlast]
        exact bodiesOf_last e
      | false =>
        have hne : bs ≠ [] := ne_nil_of_not_final hl (Bool.eq_false_iff.1 hfinal)
        have hlt := length_next e hl hne
        have hfinal' : (next limits e' (bs ++ more)).isFinal = false := by
          rw [h] at hfinal
          rw [h']
          exact hfinal
        rw [results_eq hl e, results_eq hl e', hfinal, hfinal', if_neg (by simp),
          if_neg (by simp), bodiesOf_cons, bodiesOf_cons, h, h']
        rw [h, hn] at hlt
        have hrest := ih rest.length hlt rest rfl
        cases y with
        | error x => exact hrest
        | ok f => exact cutOff_cons hrest f.body
    · rcases bodiesOf_exhausted hl hend with hnone | hempty
      · exact ⟨[], Or.inl hnone, List.nil_prefix⟩
      · exact ⟨[], Or.inr hempty, List.nil_prefix⟩

end SyntaxServer
