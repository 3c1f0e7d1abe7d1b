import Mathlib.Data.List.DropRight
import Mathlib.Logic.Function.Iterate
import SyntaxServer.Server.Cancellation

/-!
What a registry remembers. A history holds the last 64 of the identifiers that were put into it
(`remember_rtake`), and one of them stays while fewer than 64 others come after it, whatever is
taken out from between (`recent_remember`, `recent_erase`). While nothing runs, a cancellation of
a finished request does nothing, and any other is remembered (`cancel_idle`).
-/

namespace SyntaxServer

/-! ### Histories -/

section Histories

variable {h : List RequestId} {id k : RequestId} {n : Nat}

/-- **A history holds the last identifiers** that were put into it. -/
theorem remember_rtake (ids : List RequestId) (id : RequestId) :
    remember (ids.rtake historySize) id = (ids ++ [id]).rtake historySize := by
  have hlength : (ids.rtake historySize).length = min historySize ids.length := by
    unfold List.rtake
    rw [List.length_drop]
    omega
  unfold remember
  rw [hlength]
  unfold List.rtake historySize
  rw [List.length_append, List.length_singleton]
  by_cases hfull : 64 ≤ ids.length
  · rw [if_pos (by omega), List.drop_drop, List.drop_append_of_le_length (by omega)]
    congr 2
    omega
  · rw [if_neg (by omega), Nat.sub_eq_zero_of_le (by omega), Nat.sub_eq_zero_of_le (by omega)]
    rfl

theorem mem_rtake_of_lt {before behind : List RequestId} (hn : behind.length < n) :
    k ∈ (before ++ k :: behind).rtake n := by
  unfold List.rtake
  rw [List.length_append, List.length_cons, List.drop_append_of_le_length (by omega)]
  exact List.mem_append_right _ (List.mem_cons_self ..)

theorem mem_of_mem_remember (hk : k ∈ remember h id) : k ∈ h ∨ k = id := by
  unfold remember at hk
  rcases List.mem_append.1 hk with hk | hk
  · left
    split at hk
    · exact List.mem_of_mem_drop hk
    · exact hk
  · exact Or.inr (List.mem_singleton.1 hk)

theorem mem_erase_self_iff : k ∈ h.erase k ↔ 1 < h.count k := by
  rw [← List.count_pos_iff, List.count_erase_self]
  omega

/-! ### Identifiers that stay -/

/-- An identifier stands in a history with at most `n` behind it. -/
def Recent (k : RequestId) (n : Nat) (h : List RequestId) : Prop :=
  ∃ before behind, h = before ++ k :: behind ∧ behind.length ≤ n

theorem mem_of_recent (hk : Recent k n h) : k ∈ h := by
  obtain ⟨before, behind, rfl, -⟩ := hk
  exact List.mem_append_right _ (List.mem_cons_self ..)

theorem recent_remember_self (h : List RequestId) (k : RequestId) : Recent k 0 (remember h k) :=
  ⟨_, [], rfl, Nat.le_refl 0⟩

/-- A history that is full has something to give up before the identifier. -/
theorem recent_remember (hk : Recent k n h) (hn : n + 1 < historySize) (id : RequestId) :
    Recent k (n + 1) (remember h id) := by
  obtain ⟨before, behind, rfl, hlen⟩ := hk
  have hbehind : (behind ++ [id]).length ≤ n + 1 := by
    rw [List.length_append, List.length_singleton]
    omega
  unfold remember
  split
  case isFalse => exact ⟨before, behind ++ [id], by simp, hbehind⟩
  case isTrue hfull =>
    cases before with
    | nil =>
      rw [List.nil_append, List.length_cons] at hfull
      omega
    | cons x before => exact ⟨before, behind ++ [id], by simp, hbehind⟩

theorem recent_erase (hk : Recent k n h) (hid : id ≠ k) : Recent k n (h.erase id) := by
  obtain ⟨before, behind, rfl, hlen⟩ := hk
  rw [List.erase_append]
  split
  · exact ⟨before.erase id, behind, rfl, hlen⟩
  · refine ⟨before, behind.erase id, ?_, (List.erase_sublist ..).length_le.trans hlen⟩
    rw [List.erase_cons_tail (by simpa using Ne.symm hid)]

/-! ### Histories that are full of one identifier -/

theorem remember_of_lt (hlen : h.length < historySize) (id : RequestId) :
    remember h id = h ++ [id] := by
  unfold remember
  rw [if_neg (by omega)]

theorem remember_of_full (hlen : h.length = historySize) (id : RequestId) :
    remember h id = h.drop 1 ++ [id] := by
  unfold remember
  rw [if_pos hlen]

theorem remember_replicate (k : RequestId) :
    remember (List.replicate historySize k) k = List.replicate historySize k := by
  rw [remember_of_full List.length_replicate, List.drop_replicate]
  exact List.replicate_succ'.symm

theorem iterate_remember (hlen : h.length ≤ historySize) (id : RequestId) (n : Nat) :
    (remember · id)^[n] h = (h ++ List.replicate n id).rtake historySize := by
  induction n with
  | zero =>
    unfold List.rtake
    rw [List.replicate_zero, List.append_nil, Nat.sub_eq_zero_of_le hlen]
    rfl
  | succ n ih =>
    rw [Function.iterate_succ_apply', ih, remember_rtake, List.append_assoc,
      List.replicate_succ']

/-- How often an identifier is left in a full history after another one was put into it. -/
theorem count_iterate_remember (hlen : h.length = historySize) (hid : id ≠ k)
    (hn : n ≤ historySize) : ((remember · id)^[n] h).count k = (h.drop n).count k := by
  rw [iterate_remember (Nat.le_of_eq hlen)]
  unfold List.rtake
  rw [List.length_append, List.length_replicate, hlen, Nat.add_sub_cancel_left,
    List.drop_append_of_le_length (hlen ▸ hn), List.count_append, List.count_replicate,
    if_neg (by simpa using hid), Nat.add_zero]

/-- **What putting an identifier into a history changes.** If it is found as often with it as
without it, however often another one is put in afterwards, it filled the history before. -/
theorem eq_replicate_of_counts (hlen : h.length ≤ historySize) (hid : id ≠ k)
    (hcount : ∀ n, ((remember · id)^[n] h).count k = ((remember · id)^[n] (remember h k)).count k) :
    h = List.replicate historySize k := by
  have hfull : h.length = historySize := by
    refine (Nat.lt_or_eq_of_le hlen).resolve_left fun hlt => ?_
    have hnow : h.count k = (remember h k).count k := hcount 0
    rw [remember_of_lt hlt, List.count_append, List.count_singleton_self] at hnow
    omega
  -- each place is the first one when the others before it have given way
  have hplace : ∀ n (hn : n < h.length), h[n] = k := by
    intro n hn
    have hn' : n < historySize := hfull ▸ hn
    have hlength : (remember h k).length = historySize := by
      rw [remember_of_full hfull, List.length_append, List.length_drop, List.length_singleton,
        hfull]
      rfl
    have hnow := hcount n
    rw [count_iterate_remember hfull hid (Nat.le_of_lt hn'),
      count_iterate_remember hlength hid (Nat.le_of_lt hn'), remember_of_full hfull,
      List.drop_append_of_le_length (by rw [List.length_drop]; omega), List.drop_drop,
      List.count_append, List.count_singleton_self, List.drop_eq_getElem_cons hn,
      List.count_cons, Nat.add_comm 1 n] at hnow
    refine Classical.byContradiction fun hne => ?_
    rw [if_neg (by simpa using hne)] at hnow
    omega
  refine List.eq_replicate_iff.2 ⟨hfull, fun x hx => ?_⟩
  obtain ⟨n, hn, rfl⟩ := List.mem_iff_getElem.1 hx
  exact hplace n hn

end Histories

/-! ### Registries -/

namespace Registry

variable {τ : Type} {r : Registry τ} {id : RequestId}

theorem enter_eq_true_iff (r : Registry τ) (id : RequestId) (token : τ) :
    (r.enter id token).1 = true ↔ id ∈ r.early :=
  List.contains_iff_mem

theorem cancel_idle (ha : r.active = .empty) (id : RequestId) :
    r.cancel id =
      if id ∈ r.finished then (.alreadyFinished, r)
      else (.deferred, { r with early := remember r.early id }) := by
  unfold cancel
  rw [ha]
  simp

/-- A cancellation of a finished request changes nothing, nor does one where no others wait and no
more of them can. -/
theorem cancel_unchanged (ha : r.active = .empty)
    (h : id ∈ r.finished ∨ r.early = List.replicate historySize id) : (r.cancel id).2 = r := by
  obtain ⟨active, early, finished⟩ := r
  rw [cancel_idle ha]
  split
  case isTrue => rfl
  case isFalse hnew =>
    obtain rfl : early = List.replicate historySize id := h.resolve_left hnew
    dsimp only
    rw [remember_replicate]

/-- A cancellation is remembered, or changes nothing. -/
theorem cancel_or (r : Registry τ) (id : RequestId) :
    r.cancel id = (.deferred, { r with early := remember r.early id }) ∨
      (r.cancel id).1 ≠ .deferred ∧ (r.cancel id).2 = r := by
  unfold cancel
  cases r.active.get? id with
  | some token => exact Or.inr ⟨by simp, rfl⟩
  | none =>
    dsimp only
    split
    · exact Or.inr ⟨by simp, rfl⟩
    · exact Or.inl rfl

theorem mem_early_of_cancel {k : RequestId} (hk : k ∈ (r.cancel id).2.early) :
    k ∈ r.early ∨ k = id := by
  rcases r.cancel_or id with hcancel | ⟨-, hcancel⟩
  · rw [hcancel] at hk
    exact mem_of_mem_remember hk
  · rw [hcancel] at hk
    exact Or.inl hk

/-- A request that is entered and finished. -/
def turn (r : Registry τ) (id : RequestId) (token : τ) : Registry τ :=
  (r.enter id token).2.finish id

theorem turn_idle (ha : r.active = .empty) (id : RequestId) (token : τ) :
    r.turn id token = ⟨.empty, r.early.erase id, remember r.finished id⟩ := by
  have hrows : ((r.active.insert id token).erase id) = .empty := by
    rw [ha]
    simp [Table.insert, Table.erase, Table.empty]
  unfold turn enter finish
  dsimp only
  rw [hrows]

end Registry

end SyntaxServer
