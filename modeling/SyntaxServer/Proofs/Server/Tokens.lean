import SyntaxServer.Proofs.Server.Registry

/-!
Registries under any uses. Requests are entered, finished and cancelled in any order, also twice or
without each other, and what a registry then answers is read off the history of its uses
(`TokenBoard.accounts_of_uses`): whether a request runs (`get?_after`), which ones are finished
(`finished_after`), and how a token came to be cancelled (`cancelled_after`). A cancellation that
waits is found once at most (`found_after`).
-/

namespace SyntaxServer

/-! ### Keys of a table -/

namespace Table

variable {κ ν : Type} [DecidableEq κ] {t : Table κ ν} {k : κ} {v : ν}

theorem keys_erase (t : Table κ ν) (k : κ) : (t.erase k).keys = t.keys.filter (· ≠ k) := by
  unfold keys erase
  rw [List.filter_map]
  rfl

theorem keys_insert (t : Table κ ν) (k : κ) (v : ν) :
    (t.insert k v).keys = k :: t.keys.filter (· ≠ k) := by
  rw [← keys_erase]
  rfl

theorem mem_keys_iff : k ∈ t.keys ↔ ∃ v, t.get? k = some v := by
  obtain ⟨rows⟩ := t
  unfold keys get?
  induction rows with
  | nil => simp
  | cons r rows ih =>
    obtain ⟨a, v⟩ := r
    by_cases hk : k = a
    · simp [hk]
    · dsimp only at ih ⊢
      rw [List.lookup_cons, beq_false_of_ne hk, List.map_cons, List.mem_cons, or_iff_right hk]
      exact ih

theorem nodup_keys_erase (h : t.keys.Nodup) (k : κ) : (t.erase k).keys.Nodup := by
  rw [keys_erase]
  exact h.filter _

theorem nodup_keys_insert (h : t.keys.Nodup) (k : κ) (v : ν) : (t.insert k v).keys.Nodup := by
  rw [keys_insert, List.nodup_cons]
  exact ⟨by simp, h.filter _⟩

end Table

theorem count_remember_le (h : List RequestId) (id k : RequestId) :
    (remember h id).count k ≤ h.count k + if id = k then 1 else 0 := by
  have hdrop : (h.drop 1).count k ≤ h.count k := (List.drop_sublist 1 h).count_le k
  unfold remember
  rw [List.count_append, List.count_singleton]
  simp only [beq_iff_eq]
  apply Nat.add_le_add_right
  split
  · exact hdrop
  · exact Nat.le_refl _

namespace TokenBoard

/-! ### Uses -/

/-- One use of a board. -/
inductive Use where
  | enter (id : RequestId)
  | finish (id : RequestId)
  | cancel (id : RequestId)
  deriving DecidableEq, Repr

def use (b : TokenBoard) : Use → TokenBoard
  | .enter id => b.enter id
  | .finish id => b.finish id
  | .cancel id => (b.cancel id).2

/-- The board after some uses of an empty one. -/
def after (uses : List Use) : TokenBoard := uses.foldl use empty

/-- The uses of a board, each with the board that it found. -/
def events (b : TokenBoard) : List Use → List (TokenBoard × Use)
  | [] => []
  | u :: us => (b, u) :: events (b.use u) us

variable {b : TokenBoard} {uses before behind : List Use} {u v : Use} {id : RequestId} {k : Nat}

theorem after_concat (uses : List Use) (u : Use) : after (uses ++ [u]) = (after uses).use u := by
  simp [after]

theorem events_concat (b : TokenBoard) (uses : List Use) (u : Use) :
    events b (uses ++ [u]) = events b uses ++ [(uses.foldl use b, u)] := by
  induction uses generalizing b with
  | nil => rfl
  | cons v uses ih => simp [events, ih]

/-- The identifiers that were entered, in their order. -/
def enteredIds (uses : List Use) : List RequestId :=
  uses.filterMap fun
    | .enter id => some id
    | _ => none

def finishedIds (uses : List Use) : List RequestId :=
  uses.filterMap fun
    | .finish id => some id
    | _ => none

theorem enteredIds_concat (uses : List Use) (u : Use) :
    enteredIds (uses ++ [u]) = enteredIds uses ++
      match u with
      | .enter id => [id]
      | _ => [] := by
  unfold enteredIds
  rw [List.filterMap_append]
  cases u <;> rfl

theorem finishedIds_concat (uses : List Use) (u : Use) :
    finishedIds (uses ++ [u]) = finishedIds uses ++
      match u with
      | .finish id => [id]
      | _ => [] := by
  unfold finishedIds
  rw [List.filterMap_append]
  cases u <;> rfl

/-- What one use keeps holds of a board after any uses. -/
theorem invariant_after {P : TokenBoard → Prop} (hempty : P empty)
    (huse : ∀ b u, P b → P (b.use u)) (uses : List Use) : P (after uses) := by
  induction uses using List.reverseRecOn with
  | nil => exact hempty
  | append_singleton uses u ih =>
    rw [after_concat]
    exact huse _ u ih

/-! ### Requests that run -/

/-- A request runs if it was entered at some time and not finished since. -/
def Runs (uses : List Use) (id : RequestId) : Prop :=
  ∃ before behind, uses = before ++ .enter id :: behind ∧ .finish id ∉ behind

/-- A request runs under the token that it was given when it was entered last. Tokens are numbered
in the order in which requests were entered. -/
def RunsAs (uses : List Use) (id : RequestId) (k : Nat) : Prop :=
  ∃ before behind, uses = before ++ .enter id :: behind ∧ .enter id ∉ behind ∧
    .finish id ∉ behind ∧ (enteredIds before).length = k

theorem concat_eq_iff :
    uses ++ [u] = before ++ v :: behind ↔
      (uses = before ∧ u = v ∧ behind = []) ∨
        ∃ rest, uses = before ++ v :: rest ∧ behind = rest ++ [u] := by
  constructor
  · intro h
    rcases List.eq_nil_or_concat' behind with rfl | ⟨rest, w, rfl⟩
    · obtain ⟨rfl, hu⟩ := List.append_inj' h rfl
      exact Or.inl ⟨rfl, List.singleton_inj.1 hu, rfl⟩
    · rw [← List.cons_append, ← List.append_assoc] at h
      obtain ⟨rfl, hu⟩ := List.append_inj' h rfl
      obtain rfl := List.singleton_inj.1 hu
      exact Or.inr ⟨rest, rfl, rfl⟩
  · rintro (⟨rfl, rfl, rfl⟩ | ⟨rest, rfl, rfl⟩) <;> simp

theorem runs_concat_iff :
    Runs (uses ++ [u]) id ↔ u = .enter id ∨ Runs uses id ∧ u ≠ .finish id := by
  constructor
  · rintro ⟨before, behind, h, hfinish⟩
    rcases concat_eq_iff.1 h with ⟨rfl, rfl, rfl⟩ | ⟨rest, rfl, rfl⟩
    · exact Or.inl rfl
    · simp only [List.mem_append, List.mem_singleton, not_or] at hfinish
      exact Or.inr ⟨⟨before, rest, rfl, hfinish.1⟩, Ne.symm hfinish.2⟩
  · rintro (rfl | ⟨⟨before, rest, rfl, hfinish⟩, hu⟩)
    · exact ⟨uses, [], rfl, List.not_mem_nil⟩
    · exact ⟨before, rest ++ [u], by simp, by simp [hfinish, Ne.symm hu]⟩

theorem runsAs_concat_iff :
    RunsAs (uses ++ [u]) id k ↔ u = .enter id ∧ (enteredIds uses).length = k ∨
      RunsAs uses id k ∧ u ≠ .enter id ∧ u ≠ .finish id := by
  constructor
  · rintro ⟨before, behind, h, henter, hfinish, hk⟩
    rcases concat_eq_iff.1 h with ⟨rfl, rfl, rfl⟩ | ⟨rest, rfl, rfl⟩
    · exact Or.inl ⟨rfl, hk⟩
    · simp only [List.mem_append, List.mem_singleton, not_or] at henter hfinish
      exact Or.inr ⟨⟨before, rest, rfl, henter.1, hfinish.1, hk⟩, Ne.symm henter.2,
        Ne.symm hfinish.2⟩
  · rintro (⟨rfl, hk⟩ | ⟨⟨before, rest, rfl, henter, hfinish, hk⟩, hu, hu'⟩)
    · exact ⟨uses, [], rfl, List.not_mem_nil, List.not_mem_nil, hk⟩
    · exact ⟨before, rest ++ [u], by simp, by simp [henter, Ne.symm hu],
        by simp [hfinish, Ne.symm hu'], hk⟩

theorem runs_iff : Runs uses id ↔ ∃ k, RunsAs uses id k := by
  induction uses using List.reverseRecOn with
  | nil =>
    constructor
    · rintro ⟨before, behind, h, -⟩
      simp at h
    · rintro ⟨k, before, behind, h, -⟩
      simp at h
  | append_singleton uses u ih =>
    simp only [runs_concat_iff, runsAs_concat_iff, ih]
    by_cases hu : u = .enter id <;> simp [hu]

/-! ### What a board holds -/

theorem registry_cancel (b : TokenBoard) (id : RequestId) :
    (b.cancel id).1 = (b.registry.cancel id).1 ∧
      (b.cancel id).2.registry = (b.registry.cancel id).2 := by
  unfold cancel
  dsimp only
  split <;> exact ⟨rfl, rfl⟩

theorem active_use_cancel (b : TokenBoard) (id : RequestId) :
    (b.use (.cancel id)).registry.active = b.registry.active := by
  rw [use, (registry_cancel b id).2]
  rcases b.registry.cancel_or id with h | ⟨-, h⟩ <;> rw [h]

theorem finished_use_cancel (b : TokenBoard) (id : RequestId) :
    (b.use (.cancel id)).registry.finished = b.registry.finished := by
  rw [use, (registry_cancel b id).2]
  rcases b.registry.cancel_or id with h | ⟨-, h⟩ <;> rw [h]

theorem cancelled_of_signalled (h : (b.cancel id).1 = .signalled k) :
    (b.cancel id).2.cancelled = b.cancelled.set k true := by
  rw [(registry_cancel b id).1] at h
  unfold cancel
  dsimp only
  rw [h]

theorem cancelled_of_not_signalled (h : ∀ k, (b.cancel id).1 ≠ .signalled k) :
    (b.cancel id).2.cancelled = b.cancelled := by
  simp only [(registry_cancel b id).1] at h
  unfold cancel
  dsimp only
  split
  case h_1 k hk => exact absurd hk (h k)
  case h_2 => rfl

theorem length_cancel (b : TokenBoard) (id : RequestId) :
    (b.cancel id).2.cancelled.length = b.cancelled.length := by
  by_cases h : ∃ k, (b.cancel id).1 = .signalled k
  · obtain ⟨k, hk⟩ := h
    rw [cancelled_of_signalled hk, List.length_set]
  · rw [cancelled_of_not_signalled (not_exists.1 h)]

theorem length_after (uses : List Use) :
    (after uses).cancelled.length = (enteredIds uses).length := by
  induction uses using List.reverseRecOn with
  | nil => rfl
  | append_singleton uses u ih =>
    rw [after_concat, enteredIds_concat, List.length_append, ← ih]
    cases u with
    | enter id => exact List.length_append
    | finish id => rfl
    | cancel id => exact length_cancel _ id

theorem token_lt (h : RunsAs uses id k) : k < (after uses).cancelled.length := by
  obtain ⟨before, behind, rfl, -, -, rfl⟩ := h
  rw [length_after]
  simp [enteredIds]

/-- **A board holds the requests that run**, with their tokens. -/
theorem get?_after : (after uses).registry.active.get? id = some k ↔ RunsAs uses id k := by
  induction uses using List.reverseRecOn with
  | nil =>
    constructor
    · intro h
      cases h
    · rintro ⟨before, behind, h, -⟩
      simp at h
  | append_singleton uses u ih =>
    rw [after_concat, runsAs_concat_iff, ← ih]
    cases u with
    | enter id' =>
      have hactive : ((after uses).use (.enter id')).registry.active =
          (after uses).registry.active.insert id' (after uses).cancelled.length := rfl
      rw [hactive, Table.get?_insert, length_after]
      by_cases hid : id = id'
      · simp [hid]
      · simp [hid, Ne.symm hid]
    | finish id' =>
      have hactive : ((after uses).use (.finish id')).registry.active =
          (after uses).registry.active.erase id' := rfl
      rw [hactive, Table.get?_erase]
      by_cases hid : id = id'
      · simp [hid]
      · simp [hid, Ne.symm hid]
    | cancel id' =>
      rw [active_use_cancel]
      simp

/-- **A board remembers the last 64 identifiers that were finished.** -/
theorem finished_after (uses : List Use) :
    (after uses).registry.finished = (finishedIds uses).rtake historySize := by
  induction uses using List.reverseRecOn with
  | nil => rfl
  | append_singleton uses u ih =>
    rw [after_concat, finishedIds_concat]
    cases u with
    | enter id =>
      rw [List.append_nil, ← ih]
      rfl
    | finish id =>
      rw [← remember_rtake, ← ih]
      rfl
    | cancel id => rw [List.append_nil, ← ih, finished_use_cancel]

theorem finished_le_after (uses : List Use) :
    (after uses).registry.finished.length ≤ historySize := by
  rw [finished_after]
  unfold List.rtake
  rw [List.length_drop]
  omega

theorem early_le_use (h : b.registry.early.length ≤ historySize) (u : Use) :
    (b.use u).registry.early.length ≤ historySize := by
  cases u with
  | enter id => exact (List.length_erase_le ..).trans h
  | finish id => exact h
  | cancel id =>
    rw [use, (registry_cancel b id).2]
    rcases b.registry.cancel_or id with hcancel | ⟨-, hcancel⟩
    · rw [hcancel]
      exact Registry.length_remember h id
    · rw [hcancel]
      exact h

theorem early_le_after (uses : List Use) :
    (after uses).registry.early.length ≤ historySize :=
  invariant_after (P := fun b => b.registry.early.length ≤ historySize) (Nat.zero_le _)
    (fun _ u h => early_le_use h u) uses

theorem nodup_use (h : b.registry.active.keys.Nodup) (u : Use) :
    (b.use u).registry.active.keys.Nodup := by
  cases u with
  | enter id => exact Table.nodup_keys_insert h id _
  | finish id => exact Table.nodup_keys_erase h id
  | cancel id =>
    rw [active_use_cancel]
    exact h

theorem nodup_after (uses : List Use) : (after uses).registry.active.keys.Nodup :=
  invariant_after (P := fun b => b.registry.active.keys.Nodup) List.nodup_nil
    (fun _ u h => nodup_use h u) uses

/-! ### Tokens -/

/-- How a use cancels a token: the request of the token finds a cancellation when it is entered, or
it runs while it is cancelled. -/
inductive Cancels (k : Nat) : TokenBoard × Use → Prop
  | found {b : TokenBoard} {id : RequestId} (token : b.cancelled.length = k)
      (waiting : id ∈ b.registry.early) : Cancels k (b, .enter id)
  | signalled {b : TokenBoard} {id : RequestId} (signal : (b.cancel id).1 = .signalled k) :
      Cancels k (b, .cancel id)

/-- A cancellation that waits from then on. -/
def Defers (id : RequestId) (e : TokenBoard × Use) : Prop :=
  e.2 = .cancel id ∧ (e.1.cancel id).1 = .deferred

/-- A request that finds a cancellation when it is entered. -/
def Finds (id : RequestId) (e : TokenBoard × Use) : Prop :=
  e.2 = .enter id ∧ id ∈ e.1.registry.early

instance (id : RequestId) : DecidablePred (Defers id) := fun _ => instDecidableAnd

instance (id : RequestId) : DecidablePred (Finds id) := fun _ => instDecidableAnd

theorem cancels_enter_iff :
    Cancels k (b, .enter id) ↔ b.cancelled.length = k ∧ id ∈ b.registry.early := by
  constructor
  · rintro ⟨token, waiting⟩
    exact ⟨token, waiting⟩
  · rintro ⟨token, waiting⟩
    exact .found token waiting

theorem cancels_cancel_iff : Cancels k (b, .cancel id) ↔ (b.cancel id).1 = .signalled k := by
  constructor
  · intro h
    cases h with
    | signalled signal => exact signal
  · exact .signalled

/-- What a cancellation answers: the token of a request that runs, else whether it was finished. -/
theorem cancel_signalled_iff : ((after uses).cancel id).1 = .signalled k ↔ RunsAs uses id k := by
  rw [← get?_after, (registry_cancel _ _).1]
  unfold Registry.cancel
  cases (after uses).registry.active.get? id with
  | some j => simp
  | none =>
    dsimp only
    split <;> simp

theorem cancel_of_not_runs (h : ¬ Runs uses id) :
    ((after uses).cancel id).1 =
      if id ∈ (finishedIds uses).rtake historySize then .alreadyFinished else .deferred := by
  have hactive : (after uses).registry.active.get? id = none := by
    rw [Option.eq_none_iff_forall_ne_some]
    intro k hk
    exact h (runs_iff.2 ⟨k, get?_after.1 hk⟩)
  rw [(registry_cancel _ _).1, ← finished_after]
  unfold Registry.cancel
  rw [hactive]
  simp only [List.contains_iff_mem]
  split <;> rfl

/-- **A token is cancelled in two ways only**: by a cancellation of its request while it runs, and
by one that its request finds when it is entered. -/
theorem cancelled_after :
    (after uses).cancelled[k]? = some true ↔ ∃ e ∈ events empty uses, Cancels k e := by
  induction uses using List.reverseRecOn with
  | nil => simp [after, empty, events]
  | append_singleton uses u ih =>
    have hevents : (∃ e ∈ events empty (uses ++ [u]), Cancels k e) ↔
        (after uses).cancelled[k]? = some true ∨ Cancels k (after uses, u) := by
      rw [events_concat, ih]
      simp only [List.mem_append, List.mem_singleton, or_and_right, exists_or, exists_eq_left]
      rfl
    rw [hevents, after_concat]
    cases u with
    | enter id =>
      have hflags : ((after uses).use (.enter id)).cancelled =
          (after uses).cancelled ++ [(after uses).registry.early.contains id] := rfl
      rw [hflags, cancels_enter_iff, List.getElem?_append]
      -- the token that is given out here is the only one whose flag this use decides
      split
      case isTrue hlt =>
        have hne : (after uses).cancelled.length ≠ k := by omega
        simp [hne]
      case isFalse hge =>
        have hnone : (after uses).cancelled[k]? = none := List.getElem?_eq_none (by omega)
        rw [hnone, List.getElem?_singleton]
        have hzero : k - (after uses).cancelled.length = 0 ↔
            (after uses).cancelled.length = k := by omega
        simp [hzero]
    | finish id =>
      have hnot : ¬ Cancels k (after uses, .finish id) := nofun
      rw [or_iff_left hnot]
      rfl
    | cancel id =>
      rw [cancels_cancel_iff]
      by_cases h : ∃ j, ((after uses).cancel id).1 = .signalled j
      · obtain ⟨j, hj⟩ := h
        have hlt := token_lt (cancel_signalled_iff.1 hj)
        rw [use, cancelled_of_signalled hj, List.getElem?_set, if_pos hlt, hj,
          CancelOutcome.signalled.injEq]
        by_cases hjk : j = k <;> simp [hjk]
      · rw [use, cancelled_of_not_signalled (not_exists.1 h), or_iff_left (not_exists.1 h k)]

/-! ### Cancellations that wait -/

/-- A use takes away what it finds, and what waits after it has waited before or is put off by
it. -/
theorem waiting_use (b : TokenBoard) (u : Use) (id : RequestId) :
    (b.use u).registry.early.count id + (if Finds id (b, u) then 1 else 0) ≤
      b.registry.early.count id + (if Defers id (b, u) then 1 else 0) := by
  cases u with
  | enter id' =>
    have hearly : (b.use (.enter id')).registry.early = b.registry.early.erase id' := rfl
    have hnot : ¬ Defers id (b, .enter id') := fun h => Use.noConfusion h.1
    rw [hearly, if_neg hnot]
    by_cases hid : id' = id
    · subst hid
      rw [List.count_erase_self]
      by_cases hmem : id' ∈ b.registry.early
      · have hpos := List.count_pos_iff.2 hmem
        split <;> omega
      · rw [if_neg fun h => hmem h.2]
        omega
    · rw [List.count_erase_of_ne (Ne.symm hid), if_neg fun h => hid (Use.enter.inj h.1)]
  | finish id' =>
    have hnot : ¬ Finds id (b, .finish id') := fun h => Use.noConfusion h.1
    rw [if_neg hnot]
    exact Nat.le_add_right _ _
  | cancel id' =>
    have hnot : ¬ Finds id (b, .cancel id') := fun h => Use.noConfusion h.1
    rw [if_neg hnot, use, (registry_cancel _ _).2]
    rcases b.registry.cancel_or id' with h | ⟨-, h⟩
    · have hcount := count_remember_le b.registry.early id' id
      have hdefers : Defers id (b, .cancel id') ↔ id' = id := by
        constructor
        · rintro ⟨hu, -⟩
          exact Use.cancel.inj hu
        · rintro rfl
          exact ⟨rfl, by rw [(registry_cancel b _).1, h]⟩
      rw [h, Nat.add_zero]
      simpa only [hdefers] using hcount
    · rw [h]
      exact Nat.le_add_right _ _

/-- **Each cancellation that waits is found at most once**, by a request that is entered later. -/
theorem found_after (uses : List Use) (id : RequestId) :
    (after uses).registry.early.count id + (events empty uses).countP (Finds id ·) ≤
      (events empty uses).countP (Defers id ·) := by
  induction uses using List.reverseRecOn with
  | nil => exact Nat.le_refl 0
  | append_singleton uses u ih =>
    have hstep := waiting_use (after uses) u id
    rw [after_concat, events_concat, List.countP_append, List.countP_append, List.countP_singleton,
      List.countP_singleton]
    simp only [decide_eq_true_eq]
    change _ + (_ + (if Finds id (after uses, u) then 1 else 0)) ≤
      _ + (if Defers id (after uses, u) then 1 else 0)
    omega

/-! ### Answers -/

theorem cancel_alreadyFinished_iff : ((after uses).cancel id).1 = .alreadyFinished ↔
    ¬ Runs uses id ∧ id ∈ (finishedIds uses).rtake historySize := by
  by_cases hruns : Runs uses id
  · obtain ⟨k, hk⟩ := runs_iff.1 hruns
    simp [cancel_signalled_iff.2 hk, hruns]
  · rw [cancel_of_not_runs hruns]
    split <;> simp [*]

theorem cancel_deferred_iff : ((after uses).cancel id).1 = .deferred ↔
    ¬ Runs uses id ∧ id ∉ (finishedIds uses).rtake historySize := by
  by_cases hruns : Runs uses id
  · obtain ⟨k, hk⟩ := runs_iff.1 hruns
    simp [cancel_signalled_iff.2 hk, hruns]
  · rw [cancel_of_not_runs hruns]
    split <;> simp [*]

theorem inFlight_after (uses : List Use) : ∃ ids : List RequestId, ids.Nodup ∧
    (∀ id, id ∈ ids ↔ Runs uses id) ∧ (after uses).registry.inFlight = ids.length := by
  refine ⟨(after uses).registry.active.keys, nodup_after uses, ?_, ?_⟩
  · intro id
    rw [Table.mem_keys_iff, runs_iff]
    simp only [get?_after]
  · exact (List.length_map _).symm

/-! ### Accounts -/

/-- What a board answers and holds after some uses, read off the uses alone. -/
structure Accounts (uses : List Use) : Prop where
  /-- A cancellation is signalled if its request runs. -/
  signalled (id : RequestId) : (∃ k, ((after uses).cancel id).1 = .signalled k) ↔ Runs uses id
  /-- It goes to the last of the requests that were entered under the identifier. -/
  latest (id : RequestId) (k : Nat) : ((after uses).cancel id).1 = .signalled k ↔ RunsAs uses id k
  /-- The token of that request is cancelled, and no other one. -/
  flags (id : RequestId) (k : Nat) (running : RunsAs uses id k) :
    k < (after uses).cancelled.length ∧
      (after (uses ++ [.cancel id])).cancelled = (after uses).cancelled.set k true
  /-- A request that does not run is known to be finished if it is one of the last 64 that were. -/
  alreadyFinished (id : RequestId) :
    ((after uses).cancel id).1 = .alreadyFinished ↔
      ¬ Runs uses id ∧ id ∈ (finishedIds uses).rtake 64
  /-- Any other cancellation waits. -/
  deferred (id : RequestId) :
    ((after uses).cancel id).1 = .deferred ↔
      ¬ Runs uses id ∧ id ∉ (finishedIds uses).rtake 64
  /-- A token is cancelled by a signal, or by a cancellation that its request finds. -/
  tokens (k : Nat) :
    (after uses).cancelled[k]? = some true ↔ ∃ e ∈ events empty uses, Cancels k e
  /-- What a request finds has waited before, and nothing is found twice. -/
  found (id : RequestId) :
    (after uses).registry.early.count id + (events empty uses).countP (Finds id ·) ≤
      (events empty uses).countP (Defers id ·)
  early_le : (after uses).registry.early.length ≤ 64
  finished_le : (after uses).registry.finished.length ≤ 64
  /-- The requests in flight are those that run, each counted once. -/
  inFlight : ∃ ids : List RequestId, ids.Nodup ∧ (∀ id, id ∈ ids ↔ Runs uses id) ∧
    (after uses).registry.inFlight = ids.length

/-- **A registry answers by the history of its uses**, whatever they are. -/
theorem accounts_of_uses (uses : List Use) : Accounts uses where
  signalled id := by rw [runs_iff]; simp only [cancel_signalled_iff]
  latest _ _ := cancel_signalled_iff
  flags id k running := by
    refine ⟨token_lt running, ?_⟩
    rw [after_concat]
    exact cancelled_of_signalled (cancel_signalled_iff.2 running)
  alreadyFinished _ := cancel_alreadyFinished_iff
  deferred _ := cancel_deferred_iff
  tokens _ := cancelled_after
  found := found_after uses
  early_le := early_le_after uses
  finished_le := finished_le_after uses
  inFlight := inFlight_after uses

end TokenBoard

end SyntaxServer
