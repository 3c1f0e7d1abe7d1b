import SyntaxServer.Json.Value
import SyntaxServer.Number.Width
import Mathlib.Data.List.Induction

/-!
Normal values. A value is normal if the members of every object in it are in the order of their
names, each name once; that is the form in which values are read. Sorting members keeps the last
one of each name (`get?_sorted`), and members in order are known by what is found in them
(`ascending_ext`).
-/

namespace SyntaxServer

/-! ### Members in order -/

namespace Members

variable {ms ns : Members} {name k : String} {v : Json}

/-- The members are in the order of their names, each name once. -/
def Ascending (ms : Members) : Prop := ms.Pairwise fun m n => m.1 < n.1

@[simp] theorem get?_nil (k : String) : get? [] k = none := rfl

theorem get?_cons (m : String × Json) (ms : Members) (k : String) :
    get? (m :: ms) k = if k = m.1 then some m.2 else get? ms k := by
  unfold get?
  rw [List.lookup_cons]
  by_cases h : k = m.1
  · simp [h]
  · rw [beq_false_of_ne h, if_neg h]

theorem get?_insert (ms : Members) (name : String) (v : Json) (k : String) :
    (insert name v ms).get? k = if k = name then some v else ms.get? k := by
  induction ms with
  | nil => exact get?_cons ..
  | cons m ms ih =>
    unfold insert
    split
    · exact get?_cons ..
    · split
      case isTrue h =>
        rw [get?_cons, get?_cons, ← h]
        by_cases hk : k = name
        · rw [if_pos hk, if_pos hk]
        · rw [if_neg hk, if_neg hk, if_neg hk]
      case isFalse h =>
        rw [get?_cons, ih, get?_cons]
        by_cases hk : k = name
        · rw [if_pos hk, if_pos hk, if_neg (hk ▸ h)]
        · rw [if_neg hk, if_neg hk]

/-- Of members in reverse the first one of a name is the last one of it. -/
theorem get?_reverse_cons (m : String × Json) (ms : Members) (k : String) :
    get? (m :: ms).reverse k =
      (get? ms.reverse k).or (if k = m.1 then some m.2 else none) := by
  unfold get?
  rw [List.reverse_cons, List.lookup_append]
  exact congrArg _ (get?_cons m [] k)

theorem sorted_concat (ms : Members) (m : String × Json) :
    sorted (ms ++ [m]) = insert m.1 m.2 (sorted ms) := by
  unfold sorted
  rw [List.foldl_append, List.foldl_cons, List.foldl_nil]

/-- **Sorting keeps the last member of each name.** -/
theorem get?_sorted (ms : Members) (k : String) : get? (sorted ms) k = get? ms.reverse k := by
  induction ms using List.reverseRecOn with
  | nil => rfl
  | append_singleton ms m ih =>
    rw [sorted_concat, get?_insert, List.reverse_concat, get?_cons, ih]

theorem mem_insert {m : String × Json} (h : m ∈ insert name v ms) : m = (name, v) ∨ m ∈ ms := by
  induction ms with
  | nil => exact Or.inl (List.mem_singleton.1 h)
  | cons n ms ih =>
    unfold insert at h
    split at h
    · exact List.mem_cons.1 h
    · split at h
      · rcases List.mem_cons.1 h with h | h
        · exact Or.inl h
        · exact Or.inr (List.mem_cons_of_mem _ h)
      · rcases List.mem_cons.1 h with h | h
        · exact Or.inr (h ▸ List.mem_cons_self ..)
        · exact (ih h).imp_right (List.mem_cons_of_mem _)

theorem mem_of_mem_sorted {m : String × Json} (h : m ∈ sorted ms) : m ∈ ms := by
  induction ms using List.reverseRecOn with
  | nil => exact h
  | append_singleton ms n ih =>
    rw [sorted_concat] at h
    rcases mem_insert h with rfl | h
    · exact List.mem_append_right ms (List.mem_singleton_self _)
    · exact List.mem_append_left [n] (ih h)

theorem lt_of_not_lt {a b : String} (h : ¬ a < b) (hne : a ≠ b) : b < a := by
  refine String.not_le.1 fun hle => hne ?_
  exact String.le_antisymm hle (String.not_lt.1 h)

theorem ne_of_lt {a b : String} (h : a < b) : a ≠ b := by
  rintro rfl
  exact String.lt_irrefl a h

theorem ascending_insert (h : Ascending ms) (name : String) (v : Json) :
    Ascending (insert name v ms) := by
  induction ms with
  | nil => exact List.pairwise_singleton ..
  | cons m ms ih =>
    obtain ⟨hm, hms⟩ := List.pairwise_cons.1 h
    unfold insert
    split
    case isTrue hlt =>
      refine List.pairwise_cons.2 ⟨fun n hn => ?_, h⟩
      rcases List.mem_cons.1 hn with rfl | hn
      · exact hlt
      · exact String.lt_trans hlt (hm n hn)
    case isFalse hlt =>
      split
      case isTrue heq => exact List.pairwise_cons.2 ⟨fun n hn => heq ▸ hm n hn, hms⟩
      case isFalse hne =>
        refine List.pairwise_cons.2 ⟨fun n hn => ?_, ih hms⟩
        rcases mem_insert hn with rfl | hn
        · exact lt_of_not_lt hlt hne
        · exact hm n hn

theorem ascending_sorted (ms : Members) : Ascending (sorted ms) := by
  induction ms using List.reverseRecOn with
  | nil => exact List.Pairwise.nil
  | append_singleton ms m ih =>
    rw [sorted_concat]
    exact ascending_insert ih m.1 m.2

theorem get?_eq_none_of_lt (h : ∀ m ∈ ms, k < m.1) : ms.get? k = none := by
  induction ms with
  | nil => rfl
  | cons m ms ih =>
    obtain ⟨hm, hms⟩ := List.forall_mem_cons.1 h
    rw [get?_cons, if_neg (ne_of_lt hm), ih hms]

/-- **Members in order are known by what is found in them.** -/
theorem ascending_ext (hm : Ascending ms) (hn : Ascending ns)
    (h : ∀ k, ms.get? k = ns.get? k) : ms = ns := by
  induction ms generalizing ns with
  | nil =>
    cases ns with
    | nil => rfl
    | cons n ns =>
      have hfirst := h n.1
      rw [get?_nil, get?_cons, if_pos rfl] at hfirst
      cases hfirst
  | cons m ms ih =>
    obtain ⟨hm₁, hm₂⟩ := List.pairwise_cons.1 hm
    cases ns with
    | nil =>
      have hfirst := h m.1
      rw [get?_nil, get?_cons, if_pos rfl] at hfirst
      cases hfirst
    | cons n ns =>
      obtain ⟨hn₁, hn₂⟩ := List.pairwise_cons.1 hn
      -- the least name is the same on both sides, since it is found in both
      have hname : m.1 = n.1 := by
        refine Classical.byContradiction fun hne => ?_
        by_cases hlt : m.1 < n.1
        · have hfirst := h m.1
          rw [get?_cons, if_pos rfl, get?_cons, if_neg (ne_of_lt hlt),
            get?_eq_none_of_lt fun x hx => String.lt_trans hlt (hn₁ x hx)] at hfirst
          cases hfirst
        · have hlt := lt_of_not_lt hlt hne
          have hfirst := h n.1
          rw [get?_cons, if_neg (ne_of_lt hlt), get?_cons, if_pos rfl,
            get?_eq_none_of_lt fun x hx => String.lt_trans hlt (hm₁ x hx)] at hfirst
          cases hfirst
      have hvalue : m.2 = n.2 := by
        have hfirst := h m.1
        rw [get?_cons, if_pos rfl, get?_cons, if_pos hname] at hfirst
        exact Option.some.inj hfirst
      rw [Prod.ext hname hvalue]
      refine congrArg (n :: ·) (ih hm₂ hn₂ fun k => ?_)
      by_cases hk : k = n.1
      · rw [hk, get?_eq_none_of_lt hn₁, get?_eq_none_of_lt fun x hx => hname ▸ hm₁ x hx]
      · have hrest := h k
        rwa [get?_cons, get?_cons, if_neg (hname ▸ hk), if_neg hk] at hrest

theorem get?_eq_none (h : k ∉ ms.map Prod.fst) : ms.get? k = none := by
  induction ms with
  | nil => rfl
  | cons m ms ih =>
    rw [List.map_cons, List.mem_cons, not_or] at h
    rw [get?_cons, if_neg h.1, ih h.2]

theorem get?_reverse (h : (ms.map Prod.fst).Nodup) (k : String) :
    get? ms.reverse k = get? ms k := by
  induction ms with
  | nil => rfl
  | cons m ms ih =>
    obtain ⟨hm, hms⟩ := List.nodup_cons.1 h
    rw [get?_reverse_cons, ih hms, get?_cons]
    by_cases hk : k = m.1
    · rw [hk, get?_eq_none hm, if_pos rfl, Option.none_or]
    · rw [if_neg hk, if_neg hk, Option.or_none]

theorem nodup_of_ascending (h : Ascending ms) : (ms.map Prod.fst).Nodup :=
  List.pairwise_map.2 (h.imp fun hlt => ne_of_lt hlt)

theorem sorted_of_ascending (h : Ascending ms) : sorted ms = ms :=
  ascending_ext (ascending_sorted ms) h fun k =>
    (get?_sorted ms k).trans (get?_reverse (nodup_of_ascending h) k)

end Members

/-! ### Values -/

namespace Json

variable {v : Json} {vs : List Json} {ms : Members}

mutual

/-- The value with the members of all its objects in order, the last one of each name. -/
def normal : Json → Json
  | .array vs => .array (normalElements vs)
  | .object ms => .object (Members.sorted (normalMembers ms))
  | v => v

def normalElements : List Json → List Json
  | [] => []
  | v :: vs => v.normal :: normalElements vs

def normalMembers : List (String × Json) → List (String × Json)
  | [] => []
  | (n, v) :: ms => (n, v.normal) :: normalMembers ms

end

mutual

/-- How deep arrays and objects nest. -/
def nesting : Json → Nat
  | .array vs => nestingElements vs + 1
  | .object ms => nestingMembers ms + 1
  | _ => 0

def nestingElements : List Json → Nat
  | [] => 0
  | v :: vs => max v.nesting (nestingElements vs)

def nestingMembers : List (String × Json) → Nat
  | [] => 0
  | (_, v) :: ms => max v.nesting (nestingMembers ms)

end

mutual

/-- All numbers of the value are integers of 64 bits, with a sign or without. -/
def integral : Json → Bool
  | .number (.integer n) => Width.int64.holds n || Width.nat64.holds n
  | .number (.float ..) => false
  | .array vs => integralElements vs
  | .object ms => integralMembers ms
  | _ => true

def integralElements : List Json → Bool
  | [] => true
  | v :: vs => v.integral && integralElements vs

def integralMembers : List (String × Json) → Bool
  | [] => true
  | (_, v) :: ms => v.integral && integralMembers ms

end

/-- **Induction on values**, through all elements and members. -/
theorem induction {P : Json → Prop} (null : P .null) (bool : ∀ b, P (.bool b))
    (number : ∀ n, P (.number n)) (string : ∀ s, P (.string s))
    (array : ∀ vs, (∀ v ∈ vs, P v) → P (.array vs))
    (object : ∀ ms, (∀ m ∈ ms, P m.2) → P (.object ms)) (v : Json) : P v :=
  Json.rec (motive_1 := P) (motive_2 := fun vs => ∀ v ∈ vs, P v)
    (motive_3 := fun ms => ∀ m ∈ ms, P m.2) (motive_4 := fun m => P m.2) null bool number string
    array object (by simp) (fun v vs hv hvs => List.forall_mem_cons.2 ⟨hv, hvs⟩) (by simp)
    (fun m ms hm hms => List.forall_mem_cons.2 ⟨hm, hms⟩) (fun _ _ h => h) v

theorem normalElements_eq (vs : List Json) : normalElements vs = vs.map normal := by
  induction vs with
  | nil => rfl
  | cons v vs ih => rw [normalElements, ih, List.map_cons]

theorem normalMembers_eq (ms : Members) :
    normalMembers ms = ms.map fun m => (m.1, m.2.normal) := by
  induction ms with
  | nil => rfl
  | cons m ms ih => rw [normalMembers, ih, List.map_cons]

/-- In the normal form of members, no two of them with one name, each is found in normal form. -/
theorem get?_normalMembers (h : (ms.map Prod.fst).Nodup) (k : String) :
    (Members.sorted (normalMembers ms)).get? k = (Members.get? ms k).map normal := by
  have hmap : ∀ ms : Members, Members.get? (ms.map fun m => (m.1, m.2.normal)) k =
      (ms.get? k).map normal := by
    intro ms
    induction ms with
    | nil => rfl
    | cons m ms ih =>
      rw [List.map_cons, Members.get?_cons, ih, Members.get?_cons]
      split <;> rfl
  rw [Members.get?_sorted, normalMembers_eq, ← List.map_reverse, hmap, Members.get?_reverse h]

theorem integralElements_iff : integralElements vs = true ↔ ∀ v ∈ vs, v.integral = true := by
  induction vs with
  | nil => simp [integralElements]
  | cons v vs ih => rw [integralElements, Bool.and_eq_true, ih, List.forall_mem_cons]

theorem integralMembers_iff : integralMembers ms = true ↔ ∀ m ∈ ms, m.2.integral = true := by
  induction ms with
  | nil => simp [integralMembers]
  | cons m ms ih => rw [integralMembers, Bool.and_eq_true, ih, List.forall_mem_cons]

theorem normal_of_get? (h : ∀ m ∈ ms, m.2.normal = m.2) (k : String) :
    (Members.get? ms k).map normal = ms.get? k := by
  induction ms with
  | nil => rfl
  | cons m ms ih =>
    obtain ⟨hm, hms⟩ := List.forall_mem_cons.1 h
    rw [Members.get?_cons]
    split
    · exact congrArg some hm
    · exact ih hms

theorem normal_object (hms : ∀ m ∈ ms, m.2.normal = m.2) (h : ms.Ascending) :
    (Json.object ms).normal = .object ms := by
  have hmap : ms.map (fun m => (m.1, m.2.normal)) = ms :=
    (List.map_congr_left fun m hm => congrArg (Prod.mk m.1) (hms m hm)).trans (List.map_id ms)
  rw [normal, normalMembers_eq, hmap, Members.sorted_of_ascending h]

theorem normal_object_iff :
    (Json.object ms).normal = .object ms ↔ ms.Ascending ∧ ∀ m ∈ ms, m.2.normal = m.2 := by
  refine ⟨fun h => ?_, fun h => normal_object h.2 h.1⟩
  have hms : Members.sorted (normalMembers ms) = ms := Json.object.inj h
  have hasc : ms.Ascending := hms ▸ Members.ascending_sorted _
  have hparts : Members.Ascending (normalMembers ms) := by
    rw [normalMembers_eq]
    exact List.pairwise_map.2 hasc
  rw [Members.sorted_of_ascending hparts, normalMembers_eq] at hms
  refine ⟨hasc, fun m hm => ?_⟩
  exact congrArg Prod.snd (List.map_inj_left.1 (hms.trans (List.map_id ms).symm) m hm)

theorem normal_array (hvs : ∀ v ∈ vs, v.normal = v) : (Json.array vs).normal = .array vs := by
  have hmap : vs.map normal = vs := (List.map_congr_left (g := id) hvs).trans (List.map_id vs)
  rw [normal, normalElements_eq, hmap]

end Json

end SyntaxServer
