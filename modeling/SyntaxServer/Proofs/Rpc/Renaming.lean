import SyntaxServer.Proofs.Rpc.Cancel

/-!
Cancellations under new names. A payload that names a request is renamed in place: every value that
is read as the identifier gives way to the new identifier, and the others stay as they are. If the
new identifiers are ones of the wire, the payload is read again, with the new identifier
(`CancelParams.read_renameTarget`).
-/

namespace SyntaxServer

variable {f : RequestId → RequestId}

/-- An identifier in a payload, under its new name. -/
def Json.renameId (f : RequestId → RequestId) (v : Json) : Json :=
  match RequestId.ofJson? v with
  | some id => (f id).toJson
  | none => v

/-- The payload of a cancellation with the identifier of its request under its new name. All that
is not read of it stays. -/
def Json.renameTarget (f : RequestId → RequestId) : Json → Json
  | .object ms => .object (ms.map fun m => (m.1, if m.1 = "id" then m.2.renameId f else m.2))
  | .array vs => .array (vs.map (Json.renameId f))
  | v => v

namespace CancelParams

theorem finish_eq_ok {x : Except PayloadError (Option RequestId)} {p : CancelParams}
    (h : (x.bind fun id => do return CancelParams.mk (← Payload.required "id" id)) = .ok p) :
    x = .ok (some p.id) := by
  cases x with
  | error e => cases h
  | ok acc =>
    cases acc with
    | none => cases h
    | some id =>
      cases h
      rfl

variable (hp : ∀ id, RequestId.Proper id → (f id).Proper)

include hp

theorem read_renameId {v : Json} {id : RequestId} (h : RequestId.read v = .ok id) :
    RequestId.read (v.renameId f) = .ok (f id) := by
  have hid : RequestId.ofJson? v = some id := by
    unfold RequestId.read at h
    split at h
    case h_1 hid =>
      cases h
      exact hid
    case h_2 => cases h
  have hnew : RequestId.ofJson? (f id).toJson = some (f id) :=
    RequestId.ofJson?_eq_some_iff.2 ⟨hp id (RequestId.proper_of_read h), rfl⟩
  unfold Json.renameId RequestId.read
  rw [hid]
  dsimp only
  rw [hnew]

theorem visit_rename {name : String} {v : Json} {acc acc' : Option RequestId}
    (h : visit name v acc = .ok acc') :
    visit name (if name = "id" then v.renameId f else v) (acc.map f) = .ok (acc'.map f) := by
  unfold visit at h ⊢
  split at h
  · cases hid : RequestId.read v with
    | error e =>
      rw [hid] at h
      cases h
    | ok id =>
      rw [hid] at h
      cases h
      rw [if_pos rfl, read_renameId hp hid]
      rfl
  · cases h
    rfl

theorem visitMembers_rename {ms : Members} {acc acc' : Option RequestId}
    (h : Payload.visitMembers visit acc ms = .ok acc') :
    Payload.visitMembers visit (acc.map f)
      (ms.map fun m => (m.1, if m.1 = "id" then m.2.renameId f else m.2)) = .ok (acc'.map f) := by
  induction ms generalizing acc with
  | nil =>
    cases h
    rfl
  | cons m ms ih =>
    rw [Payload.visitMembers] at h
    cases hm : visit m.1 m.2 acc with
    | error e =>
      rw [hm] at h
      cases h
    | ok acc₁ =>
      rw [hm] at h
      rw [List.map_cons, Payload.visitMembers, visit_rename hp hm]
      exact ih h

theorem visitElements_rename {n : Nat} {vs : List Json} {acc : Option RequestId}
    (h : Payload.visitElements visit shape .counted n 0 none shape.fields vs = .ok acc) :
    Payload.visitElements visit shape .counted n 0 none shape.fields (vs.map (Json.renameId f)) =
      .ok (acc.map f) := by
  cases vs with
  | nil => cases h
  | cons v vs =>
    have hfirst : (visit "id" v none).bind (fun acc =>
        Payload.visitElements visit shape .counted n 1 acc [] vs) = .ok acc := h
    show (visit "id" (v.renameId f) none).bind (fun acc =>
      Payload.visitElements visit shape .counted n 1 acc [] (vs.map (Json.renameId f))) = _
    cases hv : visit "id" v none with
    | error e =>
      rw [hv] at hfirst
      cases hfirst
    | ok acc₁ =>
      have hnew : visit "id" (v.renameId f) none = .ok (acc₁.map f) := visit_rename hp hv
      rw [hv] at hfirst
      rw [hnew]
      -- there is no field for a second element
      cases vs with
      | nil =>
        cases hfirst
        rfl
      | cons w vs => cases hfirst

/-- **A cancellation that is renamed in place** names the new identifier of its request. -/
theorem read_renameTarget {v : Json} {p : CancelParams} (h : read v = .ok p) :
    read (v.renameTarget f) = .ok ⟨f p.id⟩ := by
  unfold read Payload.record at h
  split at h
  case h_1 ms =>
    have hmembers := visitMembers_rename hp (finish_eq_ok h)
    unfold read Payload.record Json.renameTarget
    exact congrArg (Except.bind · _) hmembers
  case h_2 vs =>
    have helements := visitElements_rename hp (finish_eq_ok h)
    unfold read Payload.record Json.renameTarget
    dsimp only
    rw [List.length_map]
    exact congrArg (Except.bind · _) helements
  case h_3 => cases h

end CancelParams

end SyntaxServer
