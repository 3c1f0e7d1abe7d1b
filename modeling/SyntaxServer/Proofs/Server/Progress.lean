import Mathlib.Data.Multiset.AddSub
import SyntaxServer.Server.Handler

/-!
Progresses. What a handler queues follows its effects step by step (`queued_queueFrom`), and however
it lets go of its progresses, one by one or at its end, the first opened or the last one first, each
of them ends once, behind its begin (`bracketed_of_queued`).
-/

namespace SyntaxServer.Progress

variable {held : List RequestId} {pending : Multiset RequestId} {token : RequestId}
  {es : List Effect} {ns own : List Notification}

/-! ### Frames -/

/-- The notification with which a progress begins. -/
def first (token : RequestId) (o : Opening) : Notification :=
  ⟨"$/progress", some (.object [("token", token.toJson), ("value", .object
    (Members.optional "cancellable" (o.cancellable.map .bool) ++ [("kind", .string "begin")] ++
      Members.optional "message" (o.message.map .string) ++
      Members.optional "percentage" (o.percentage.map .ofNat) ++ [("title", .string o.title)]))])⟩

/-- The notification with which it ends. -/
def last (token : RequestId) : Notification :=
  ⟨"$/progress", some (.object [("token", token.toJson),
    ("value", .object [("kind", .string "end")])])⟩

/-! ### What is queued -/

/-- The notifications that some effects queue, in their order, while some progresses are held. A
progress ends where it is let go of, and one that is held to the end behind everything else. -/
inductive Queued : List RequestId → List Effect → List Notification → Prop
  | nil : Queued [] [] []
  | drop {held : List RequestId} {ns : List Notification} (token : RequestId) :
    Queued held [] ns → Queued (token :: held) [] (last token :: ns)
  | notify {held : List RequestId} {es : List Effect} {ns : List Notification} (n : Notification) :
    Queued held es ns → Queued held (.notify n :: es) (n :: ns)
  | progress {held : List RequestId} {es : List Effect} {ns : List Notification}
    (token : RequestId) (o : Opening) : Queued (token :: held) es ns →
      Queued held (.progress token o :: es) (first token o :: ns)
  | release {held : List RequestId} {es : List Effect} {ns : List Notification}
    {token : RequestId} : token ∈ held → Queued (held.erase token) es ns →
      Queued held (.release token :: es) (last token :: ns)
  | absent {held : List RequestId} {es : List Effect} {ns : List Notification}
    {token : RequestId} : token ∉ held → Queued held es ns → Queued held (.release token :: es) ns

theorem queued_held (held : List RequestId) : Queued held [] (held.map Effect.ended) := by
  induction held with
  | nil => exact .nil
  | cons token held ih => exact .drop token ih

theorem queued_queueFrom (held : List RequestId) (es : List Effect) :
    Queued held es (Effect.queueFrom held es) := by
  induction es generalizing held with
  | nil => exact queued_held held
  | cons e es ih =>
    cases e with
    | notify n => exact .notify n (ih held)
    | progress token o => exact .progress token o (ih (token :: held))
    | release token =>
      unfold Effect.queueFrom
      by_cases ht : token ∈ held
      · rw [if_pos ht]
        exact .release ht (ih (held.erase token))
      · rw [if_neg ht]
        exact .absent ht (ih held)

/-! ### Every progress ends -/

/-- The notifications that some effects account for: each of their own in its place, and for each
progress that is begun one more, its end, in any place behind its begin. -/
inductive Bracketed : List Effect → List Notification → Prop
  | nil : Bracketed [] []
  | notify {es : List Effect} {ns : List Notification} (n : Notification) :
    Bracketed es ns → Bracketed (.notify n :: es) (n :: ns)
  | progress {es : List Effect} {before behind : List Notification} (token : RequestId)
    (o : Opening) : Bracketed es (before ++ behind) →
      Bracketed (.progress token o :: es) (first token o :: (before ++ last token :: behind))
  | release {es : List Effect} {ns : List Notification} (token : RequestId) :
    Bracketed es ns → Bracketed (.release token :: es) ns

/-- Notifications in their order, with the ends of some progresses somewhere among them. -/
inductive Mixed : Multiset RequestId → List Notification → List Notification → Prop
  | nil : Mixed 0 [] []
  | own {pending : Multiset RequestId} {own ns : List Notification} (n : Notification) :
    Mixed pending own ns → Mixed pending (n :: own) (n :: ns)
  | last {pending : Multiset RequestId} {own ns : List Notification} (token : RequestId) :
    Mixed pending own ns → Mixed (token ::ₘ pending) own (last token :: ns)

theorem eq_of_mixed (h : Mixed 0 own ns) : ns = own := by
  generalize hp : (0 : Multiset RequestId) = pending at h
  induction h with
  | nil => rfl
  | own n h ih => rw [ih hp]
  | last token h ih => exact absurd hp (Multiset.zero_ne_cons)

/-- One of the ends has its place among the notifications themselves. -/
theorem split_of_mixed (h : Mixed (token ::ₘ pending) own ns) :
    ∃ before behind, own = before ++ behind ∧
      Mixed pending (before ++ last token :: behind) ns := by
  generalize hp : token ::ₘ pending = all at h
  induction h generalizing pending with
  | nil => exact absurd hp Multiset.cons_ne_zero
  | own n h ih =>
    obtain ⟨before, behind, rfl, hplaced⟩ := ih hp
    exact ⟨n :: before, behind, rfl, .own n hplaced⟩
  | @last rest own ns t h ih =>
    rcases Multiset.cons_eq_cons.1 hp with ⟨rfl, rfl⟩ | ⟨-, others, rfl, rfl⟩
    · exact ⟨[], own, rfl, .own _ h⟩
    · obtain ⟨before, behind, rfl, hplaced⟩ := ih rfl
      exact ⟨before, behind, rfl, .last t hplaced⟩

/-- What is queued are the notifications of the effects, with the ends of the progresses that were
held before among them. -/
theorem mixed_of_queued (h : Queued held es ns) : ∃ own, Bracketed es own ∧ Mixed held own ns := by
  induction h with
  | nil => exact ⟨[], .nil, .nil⟩
  | drop token h ih =>
    obtain ⟨own, hown, hmixed⟩ := ih
    exact ⟨own, hown, .last token hmixed⟩
  | notify n h ih =>
    obtain ⟨own, hown, hmixed⟩ := ih
    exact ⟨n :: own, .notify n hown, .own n hmixed⟩
  | progress token o h ih =>
    -- the end of the new progress gets its place, those that were held before keep theirs
    obtain ⟨own, hown, hmixed⟩ := ih
    rw [← Multiset.cons_coe] at hmixed
    obtain ⟨before, behind, rfl, hplaced⟩ := split_of_mixed hmixed
    exact ⟨_, .progress token o hown, .own _ hplaced⟩
  | @release held es ns token ht h ih =>
    obtain ⟨own, hown, hmixed⟩ := ih
    have hheld : token ::ₘ (held.erase token : Multiset RequestId) = held := by
      rw [← Multiset.coe_erase, Multiset.cons_erase (Multiset.mem_coe.2 ht)]
    refine ⟨own, .release token hown, ?_⟩
    rw [← hheld]
    exact .last token hmixed
  | @absent held es ns token ht h ih =>
    obtain ⟨own, hown, hmixed⟩ := ih
    exact ⟨own, .release token hown, hmixed⟩

/-- **Every progress that a handler begins ends once**, in whatever order it lets go of them. -/
theorem bracketed_of_queued (h : Queued [] es ns) : Bracketed es ns := by
  obtain ⟨own, hown, hmixed⟩ := mixed_of_queued h
  rw [eq_of_mixed hmixed]
  exact hown

end SyntaxServer.Progress
