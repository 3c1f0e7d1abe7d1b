import SyntaxServer.Rpc.Decode

/-!
Identifiers of bodies. What is read of a body, be it a message or a fault, knows the identifier that
the body has, if it is an object with a valid one (`known?_decode`).
-/

namespace SyntaxServer.Message

variable {id : Option RequestId} {ms : Members} {m : Message}

def id? : Message → Option RequestId
  | .request r => some r.id
  | .notification _ => none
  | .response r => some r.id

/-- The identifier of a body that is an object with a valid one. -/
def bodyId? (body : List UInt8) : Option RequestId :=
  match Json.ofBytes? body with
  | some (.object ms) => (Members.get? ms "id").bind RequestId.ofJson?
  | _ => none

/-- The identifier that is known after reading a body. -/
def known? : Except DecodeError Message → Option RequestId
  | .ok m => m.id?
  | .error e => e.id?

theorem id?_responseOf (h : responseOf id ms = .ok m) : m.id? = id := by
  have hok : ∀ {x : Except MessageFault (Except ResponseError Json)} {i : RequestId},
      x.map (fun o => Message.response ⟨i, o⟩) = .ok m → m.id? = some i := by
    intro x i h
    cases x with
    | error f => cases h
    | ok o =>
      cases h
      rfl
  unfold responseOf at h
  cases hr : ms.get? "result" with
  | none =>
    cases he : ms.get? "error" with
    | none =>
      rw [hr, he] at h
      cases h
    | some e =>
      rw [hr, he] at h
      cases id with
      | none => cases h
      | some i => exact hok h
  | some v =>
    rw [hr] at h
    cases id with
    | none => cases h
    | some i => exact hok h

theorem id?_bodyOf (h : bodyOf id ms = .ok m) : m.id? = id := by
  unfold bodyOf at h
  split at h
  · cases h
    rfl
  · cases h
    rfl
  · cases h
  · exact id?_responseOf h

theorem known?_ofMembers (ms : Members) :
    known? (ofMembers ms) = (ms.get? "id").bind RequestId.ofJson? := by
  have read : ∀ id, known? (((checkVersion ms).bind fun _ => bodyOf id ms).mapError
      (DecodeError.invalid id)) = id := by
    intro id
    cases hb : (checkVersion ms).bind fun _ => bodyOf id ms with
    | error f => rfl
    | ok m =>
      cases hv : checkVersion ms with
      | error f =>
        rw [hv] at hb
        cases hb
      | ok u =>
        rw [hv] at hb
        exact id?_bodyOf hb
  unfold ofMembers readId
  cases hid : ms.get? "id" with
  | none => exact read none
  | some v =>
    cases hv : RequestId.ofJson? v with
    | none => simp [hv, known?, DecodeError.id?, bind, Except.bind]
    | some id => simpa [hv, bind, Except.bind] using read (some id)

/-- **The identifier of a body is known after reading it.** -/
theorem known?_decode (body : List UInt8) : known? (decode body) = bodyId? body := by
  unfold decode bodyId?
  cases Json.ofBytes? body with
  | none => rfl
  | some v =>
    cases v with
    | object ms => exact known?_ofMembers ms
    | _ => rfl

end SyntaxServer.Message
