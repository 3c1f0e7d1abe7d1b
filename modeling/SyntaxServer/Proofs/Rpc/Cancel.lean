import SyntaxServer.Proofs.Rpc.RoundTrip

/-!
The payload of a cancellation. A property that every field keeps holds of a record that was read
(`record_induction`); so the identifier that a cancellation names is one of the wire
(`CancelParams.proper_of_read`), and the cancellation of such a one is read back (`read_cancel`).
-/

namespace SyntaxServer

namespace Payload

variable {σ α : Type} {visit : String → Json → σ → Except PayloadError σ} {P : σ → Prop}
  {acc acc' : σ}

theorem visitMembers_induction
    (step : ∀ {name v acc acc'}, visit name v acc = .ok acc' → P acc → P acc') {ms : Members}
    (h : visitMembers visit acc ms = .ok acc') (hacc : P acc) : P acc' := by
  induction ms generalizing acc with
  | nil =>
    cases h
    exact hacc
  | cons m ms ih =>
    unfold visitMembers at h
    cases hv : visit m.1 m.2 acc with
    | error e =>
      rw [hv] at h
      cases h
    | ok acc₁ =>
      rw [hv] at h
      exact ih h (step hv hacc)

theorem visitElements_induction
    (step : ∀ {name v acc acc'}, visit name v acc = .ok acc' → P acc → P acc') {s : Shape}
    {u : Surplus} {size i : Nat} {fs : List Field} {vs : List Json}
    (h : visitElements visit s u size i acc fs vs = .ok acc') (hacc : P acc) : P acc' := by
  induction fs generalizing i acc vs with
  | nil =>
    cases vs with
    | nil =>
      cases h
      exact hacc
    | cons v vs => cases h
  | cons f fs ih =>
    cases vs with
    | nil =>
      unfold visitElements at h
      split at h
      · exact ih h hacc
      · cases h
    | cons v vs =>
      unfold visitElements at h
      cases hv : visit f.name v acc with
      | error e =>
        rw [hv] at h
        cases h
      | ok acc₁ =>
        rw [hv] at h
        exact ih h (step hv hacc)

/-- What holds at first and is kept by every field holds of a record before it is finished. -/
theorem record_induction
    (step : ∀ {name v acc acc'}, visit name v acc = .ok acc' → P acc → P acc') {s : Shape}
    {u : Surplus} {empty : σ} {finish : σ → Except PayloadError α} {v : Json} {a : α}
    (h : record visit s u empty finish v = .ok a) (hempty : P empty) :
    ∃ acc, P acc ∧ finish acc = .ok a := by
  have hbind : ∀ {x : Except PayloadError σ}, x.bind finish = .ok a →
      (∀ {acc}, x = .ok acc → P acc) → ∃ acc, P acc ∧ finish acc = .ok a := by
    intro x hx hP
    cases x with
    | error e => cases hx
    | ok acc => exact ⟨acc, hP rfl, hx⟩
  unfold record at h
  split at h
  case h_1 => exact hbind h fun hms => visitMembers_induction step hms hempty
  case h_2 => exact hbind h fun hvs => visitElements_induction step hvs hempty
  case h_3 => cases h

end Payload

theorem RequestId.proper_of_read {v : Json} {id : RequestId} (h : RequestId.read v = .ok id) :
    id.Proper := by
  unfold RequestId.read at h
  split at h
  case h_1 i hi =>
    cases h
    exact (RequestId.ofJson?_eq_some_iff.1 hi).1
  case h_2 => cases h

theorem CancelParams.proper_of_read {v : Json} {p : CancelParams}
    (h : CancelParams.read v = .ok p) : p.id.Proper := by
  obtain ⟨acc, hacc, hfinish⟩ := Payload.record_induction
    (P := fun acc : Option RequestId => ∀ id ∈ acc, id.Proper)
    (fun {name v acc acc'} hvisit hacc => by
      unfold CancelParams.visit at hvisit
      split at hvisit
      · cases hid : RequestId.read v with
        | error e =>
          rw [hid] at hvisit
          cases hvisit
        | ok id =>
          rw [hid] at hvisit
          cases hvisit
          exact fun i hi => Option.some.inj hi ▸ RequestId.proper_of_read hid
      · cases hvisit
        exact hacc)
    h (fun id hid => absurd hid (Option.not_mem_none id))
  cases acc with
  | none => cases hfinish
  | some id =>
    cases hfinish
    exact hacc id rfl

theorem CancelParams.read_cancel {k : RequestId} (hk : k.Proper) :
    readParams CancelParams.read (Notification.cancel k).params = .ok ⟨k⟩ := by
  have hread : RequestId.read k.toJson = .ok k := by
    unfold RequestId.read
    rw [RequestId.ofJson?_eq_some_iff.2 ⟨hk, rfl⟩]
  simp [readParams, Json.ofOption, Notification.cancel, CancelParams.read, Payload.record,
    Payload.visitMembers, CancelParams.visit, hread, Except.map, Except.bind, Payload.required,
    mapError_ok, bind, pure, Except.pure]

theorem readParams_eq_ok_iff {α : Type} {read : Payload.Reader α} {params : Option Json} {a : α} :
    readParams read params = .ok a ↔ read (Json.ofOption params) = .ok a := by
  unfold readParams
  cases read (Json.ofOption params) <;> simp

end SyntaxServer
