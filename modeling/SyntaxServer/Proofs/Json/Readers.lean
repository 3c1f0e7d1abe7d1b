import SyntaxServer.Json.Parser
import SyntaxServer.Proofs.Json.Normal

/-!
What the readers of JSON read. The rest of a text is taken as a plain text here (`plain`), without
the proof that it is shorter, and each reader of a value has an equation in these terms. Whatever is
read is normal (`normal_of_ofBytes?`).
-/

namespace SyntaxServer

namespace JsonText

variable {α β : Type} {a : α} {value : Reader Json} {cs ds rest : List Char} {v w : Json}
  {vs : List Json} {ms : Members} {depth : Nat} {P : Json → Prop}

/-! ### What a reader gives -/

/-- What a reader gives and what it leaves, as a plain text. -/
def plain (x : Option (α × Rest cs)) : Option (α × List Char) := x.map fun p => (p.1, p.2.1)

@[simp] theorem plain_none : plain (none : Option (α × Rest cs)) = none := rfl

@[simp] theorem plain_some (a : α) (r : Rest cs) : plain (some (a, r)) = some (a, r.1) := rfl

theorem plain_eq_some {x : Option (α × Rest cs)} :
    plain x = some (a, rest) ↔ ∃ h, x = some (a, ⟨rest, h⟩) := by
  constructor
  · intro h
    obtain ⟨⟨b, r⟩, hx, h⟩ := Option.map_eq_some_iff.1 h
    obtain ⟨rfl, rfl⟩ := Prod.mk.inj h
    exact ⟨r.2, hx⟩
  · rintro ⟨h, rfl⟩
    rfl

theorem plain_eq_none {x : Option (α × Rest cs)} : plain x = none ↔ x = none :=
  Option.map_eq_none_iff

theorem plain_map (f : α → β) (x : Option (α × Rest cs)) :
    plain (x.map fun p => (f p.1, p.2)) = (plain x).map fun p => (f p.1, p.2) := by
  cases x <;> rfl

theorem plain_map_widen (f : α → β) (hle : ds.length ≤ cs.length) (x : Option (α × Rest ds)) :
    plain (x.map fun p => (f p.1, p.2.widen hle)) = (plain x).map fun p => (f p.1, p.2) := by
  cases x <;> rfl

theorem plain_widen (hle : ds.length ≤ cs.length) (x : Option (α × Rest ds)) :
    plain (x.map fun p => (p.1, p.2.widen hle)) = plain x := by
  cases x <;> rfl

/-! ### The readers without their proofs -/

theorem plain_elements (value : Reader Json) (cs : List Char) :
    plain (elements value cs) = (plain (value cs)).bind fun p =>
      match skip p.2 with
      | ']' :: ds => some ([p.1], ds)
      | ',' :: ds => (plain (elements value ds)).map fun q => (p.1 :: q.1, q.2)
      | _ => none := by
  rw [elements.eq_1]
  cases value cs with
  | none => rfl
  | some p =>
    obtain ⟨v, r⟩ := p
    dsimp only
    rw [plain_some, Option.bind_some]
    split
    case h_1 ds h => simp only [plain_some, h]
    case h_2 ds h => simp only [plain_map_widen (v :: ·), h]
    case h_3 => simp only [plain_none]

theorem plain_memberName (cs : List Char) :
    plain (memberName cs) = (plain (string (skip cs))).bind fun p =>
      match skip p.2 with
      | ':' :: ds => some (p.1, ds)
      | _ => none := by
  unfold memberName
  cases string (skip cs) with
  | none => rfl
  | some p =>
    obtain ⟨n, r⟩ := p
    dsimp only
    rw [plain_some, Option.bind_some]
    split
    case h_1 ds h => simp only [plain_some, h]
    case h_2 => simp only [plain_none]

theorem plain_members (value : Reader Json) (cs : List Char) :
    plain (members value cs) = (plain (memberName cs)).bind fun p =>
      (plain (value p.2)).bind fun q =>
        match skip q.2 with
        | '\x7d' :: ds => some ([(p.1, q.1)], ds)
        | ',' :: ds => (plain (members value ds)).map fun t => ((p.1, q.1) :: t.1, t.2)
        | _ => none := by
  rw [members.eq_1]
  cases memberName cs with
  | none => rfl
  | some p =>
    obtain ⟨n, r₀⟩ := p
    dsimp only
    rw [plain_some, Option.bind_some]
    cases value r₀.1 with
    | none => rfl
    | some q =>
      obtain ⟨v, r⟩ := q
      dsimp only
      rw [plain_some, Option.bind_some]
      split
      case h_1 ds h => simp only [plain_some, h]
      case h_2 ds h => simp only [plain_map_widen ((n, v) :: ·), h]
      case h_3 => simp only [plain_none]

theorem plain_arrayBody (value : Reader Json) (cs : List Char) :
    plain (arrayBody value cs) =
      match skip cs with
      | ']' :: ds => some (.array [], ds)
      | _ => (plain (elements value cs)).map fun p => (.array p.1, p.2) := by
  unfold arrayBody
  split
  case h_1 ds h => simp only [plain_some, h]
  case h_2 => simp only [plain_map Json.array]

theorem plain_objectBody (value : Reader Json) (cs : List Char) :
    plain (objectBody value cs) =
      match skip cs with
      | '\x7d' :: ds => some (.object [], ds)
      | _ => (plain (members value cs)).map fun p => (.object (Members.sorted p.1), p.2) := by
  unfold objectBody
  split
  case h_1 ds h => simp only [plain_some, h]
  case h_2 => simp only [plain_map fun ms => Json.object (Members.sorted ms)]

theorem plain_value_zero (cs : List Char) :
    plain (JsonText.value 0 cs) =
      match skip cs with
      | '[' :: _ => none
      | '\x7b' :: _ => none
      | _ => plain (scalar (skip cs)) := by
  rw [JsonText.value.eq_1]
  split
  case h_1 h => simp only [plain_none, h]
  case h_2 h => simp only [plain_none, h]
  case h_3 => simp only [plain_widen]

theorem plain_value_succ (depth : Nat) (cs : List Char) :
    plain (JsonText.value (depth + 1) cs) =
      match skip cs with
      | '[' :: ds => plain (arrayBody (JsonText.value depth) ds)
      | '\x7b' :: ds => plain (objectBody (JsonText.value depth) ds)
      | _ => plain (scalar (skip cs)) := by
  rw [JsonText.value.eq_2]
  split
  case h_1 ds h => simp only [plain_widen, h]
  case h_2 ds h => simp only [plain_widen, h]
  case h_3 => simp only [plain_widen]

/-! ### What is read is normal -/

theorem forall_elements (hv : ∀ {cs v rest}, plain (value cs) = some (v, rest) → P v)
    (h : plain (elements value cs) = some (vs, rest)) : ∀ v ∈ vs, P v := by
  induction hn : cs.length using Nat.strongRecOn generalizing cs vs with
  | ind n ih =>
    subst hn
    rw [plain_elements] at h
    obtain ⟨⟨v, r⟩, hvr, h⟩ := Option.bind_eq_some_iff.1 h
    obtain ⟨hlt, -⟩ := plain_eq_some.1 hvr
    dsimp only at h
    split at h
    case h_1 =>
      cases h
      exact List.forall_mem_singleton.2 (hv hvr)
    case h_2 ds hds =>
      obtain ⟨⟨ws, r'⟩, hws, h⟩ := Option.map_eq_some_iff.1 h
      cases h
      have hle := length_skip r
      rw [hds, List.length_cons] at hle
      exact List.forall_mem_cons.2 ⟨hv hvr, ih ds.length (by omega) hws rfl⟩
    case h_3 => cases h

theorem forall_members (hv : ∀ {cs v rest}, plain (value cs) = some (v, rest) → P v)
    (h : plain (members value cs) = some (ms, rest)) : ∀ m ∈ ms, P m.2 := by
  induction hn : cs.length using Nat.strongRecOn generalizing cs ms with
  | ind n ih =>
    subst hn
    rw [plain_members] at h
    obtain ⟨⟨n, r₀⟩, hn, h⟩ := Option.bind_eq_some_iff.1 h
    obtain ⟨⟨v, r⟩, hvr, h⟩ := Option.bind_eq_some_iff.1 h
    obtain ⟨hlt₀, -⟩ := plain_eq_some.1 hn
    obtain ⟨hlt, -⟩ := plain_eq_some.1 hvr
    dsimp only at h hlt
    split at h
    case h_1 =>
      cases h
      exact List.forall_mem_singleton.2 (hv hvr)
    case h_2 ds hds =>
      obtain ⟨⟨ns, r'⟩, hns, h⟩ := Option.map_eq_some_iff.1 h
      cases h
      have hle := length_skip r
      rw [hds, List.length_cons] at hle
      exact List.forall_mem_cons.2 ⟨hv hvr, ih ds.length (by omega) hns rfl⟩
    case h_3 => cases h

theorem normal_of_word {u : List Char} {hu : u ≠ []} (hv : v.normal = v)
    (h : plain (word u hu v cs) = some (w, rest)) : w.normal = w := by
  unfold word at h
  split at h
  case isTrue =>
    cases h
    exact hv
  case isFalse => cases h

theorem normal_of_scalar (h : plain (scalar cs) = some (v, rest)) : v.normal = v := by
  unfold scalar at h
  split at h
  case h_1 =>
    rw [plain_map Json.string] at h
    obtain ⟨p, -, h⟩ := Option.map_eq_some_iff.1 h
    cases h
    rfl
  case h_2 => exact normal_of_word rfl h
  case h_3 => exact normal_of_word rfl h
  case h_4 => exact normal_of_word rfl h
  case h_5 =>
    rw [plain_map Json.number] at h
    obtain ⟨p, -, h⟩ := Option.map_eq_some_iff.1 h
    cases h
    rfl

theorem normal_of_arrayBody (hv : ∀ {cs v rest}, plain (value cs) = some (v, rest) → v.normal = v)
    (h : plain (arrayBody value cs) = some (v, rest)) : v.normal = v := by
  rw [plain_arrayBody] at h
  split at h
  case h_1 =>
    cases h
    rfl
  case h_2 =>
    obtain ⟨⟨vs, r⟩, hvs, h⟩ := Option.map_eq_some_iff.1 h
    cases h
    exact Json.normal_array (forall_elements hv hvs)

theorem normal_of_objectBody (hv : ∀ {cs v rest}, plain (value cs) = some (v, rest) → v.normal = v)
    (h : plain (objectBody value cs) = some (v, rest)) : v.normal = v := by
  rw [plain_objectBody] at h
  split at h
  case h_1 =>
    cases h
    rfl
  case h_2 =>
    obtain ⟨⟨ms, r⟩, hms, h⟩ := Option.map_eq_some_iff.1 h
    cases h
    have hnormal := forall_members hv hms
    exact Json.normal_object (fun m hm => hnormal m (Members.mem_of_mem_sorted hm))
      (Members.ascending_sorted ms)

theorem normal_of_value (h : plain (JsonText.value depth cs) = some (v, rest)) :
    v.normal = v := by
  induction depth generalizing cs v rest with
  | zero =>
    rw [plain_value_zero] at h
    split at h
    case h_1 => cases h
    case h_2 => cases h
    case h_3 => exact normal_of_scalar h
  | succ depth ih =>
    rw [plain_value_succ] at h
    split at h
    case h_1 => exact normal_of_arrayBody ih h
    case h_2 => exact normal_of_objectBody ih h
    case h_3 => exact normal_of_scalar h

end JsonText

/-- **What is read of a byte string is normal.** -/
theorem Json.normal_of_ofBytes? {v : Json} {bs : List UInt8} (h : ofBytes? bs = some v) :
    v.normal = v := by
  obtain ⟨cs, -, h⟩ := Option.bind_eq_some_iff.1 h
  unfold parse? at h
  split at h
  case h_1 w r hw =>
    split at h
    case isTrue =>
      cases h
      exact JsonText.normal_of_value (JsonText.plain_eq_some.2 ⟨r.2, hw⟩)
    case isFalse => cases h
  case h_2 => cases h

end SyntaxServer
