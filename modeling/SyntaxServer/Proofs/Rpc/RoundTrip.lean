import SyntaxServer.Proofs.Json.RoundTrip
import SyntaxServer.Rpc.Decode

/-!
Messages against their bodies. A message is read back from its body, and a call is written as those
members of the body it was read from that belong to calls (`Message.roundTrip`).
-/

namespace SyntaxServer

variable {id : RequestId} {v : Json} {ms : Members}

/-! ### Messages of the wire -/

namespace RequestId

/-- A number that identifies has 64 bits with a sign. -/
def Proper : RequestId → Prop
  | .number n => Width.int64.holds n = true
  | .text _ => True

theorem ofJson?_eq_some_iff : ofJson? v = some id ↔ id.Proper ∧ v = id.toJson := by
  constructor
  · intro h
    unfold ofJson? at h
    split at h
    case h_1 n =>
      split at h
      case isTrue hn =>
        cases h
        exact ⟨hn, rfl⟩
      case isFalse => cases h
    case h_2 s =>
      cases h
      exact ⟨trivial, rfl⟩
    case h_3 => cases h
  · rintro ⟨hid, rfl⟩
    cases id with
    | number n => exact if_pos hid
    | text s => rfl

theorem toJson_inj {i j : RequestId} (h : i.toJson = j.toJson) : i = j := by
  cases i <;> cases j <;> cases h <;> rfl

theorem normal_toJson (id : RequestId) : id.toJson.normal = id.toJson := by
  cases id <;> rfl

theorem nesting_toJson (id : RequestId) : id.toJson.nesting = 0 := by
  cases id <;> rfl

theorem integral_toJson (h : id.Proper) : id.toJson.integral = true := by
  cases id with
  | number n => exact Bool.or_eq_true_iff.2 (Or.inl h)
  | text s => rfl

end RequestId

/-- The code has 64 bits with a sign; the data are normal and not an explicit null. -/
def ResponseError.Proper (e : ResponseError) : Prop :=
  Width.int64.holds e.code = true ∧ ∀ v ∈ e.data, v.normal = v ∧ v ≠ .null

@[simp]
theorem mapError_ok {ε ε' α : Type} (f : ε → ε') (a : α) : (Except.ok a).mapError f = .ok a :=
  rfl

@[simp]
theorem mapError_error {ε ε' α : Type} (f : ε → ε') (e : ε) :
    (Except.error e : Except ε α).mapError f = .error (f e) :=
  rfl

namespace Message

/-- A message as the types of the protocol have it: numbers of 64 bits with a sign, and values whose
objects are maps. -/
def Proper : Message → Prop
  | .request r => r.id.Proper ∧ ∀ v ∈ r.params, v.normal = v
  | .notification n => ∀ v ∈ n.params, v.normal = v
  | .response ⟨id, .ok v⟩ => id.Proper ∧ v.normal = v
  | .response ⟨id, .error e⟩ => id.Proper ∧ e.Proper

end Message

/-! ### Members of messages -/

namespace Members

theorem get?_append (ms ns : Members) (k : String) :
    get? (ms ++ ns) k = (get? ms k).or (get? ns k) := List.lookup_append

theorem get?_optional (name : String) (v : Option Json) (k : String) :
    get? (optional name v) k = if k = name then v else none := by
  cases v with
  | none => exact (ite_self none).symm
  | some v => exact get?_cons (name, v) [] k

/-- Some of the members, by their names. -/
def only (names : List String) (ms : Members) : Members := ms.filter (names.contains ·.1)

theorem get?_only (names : List String) (ms : Members) (k : String) :
    get? (only names ms) k = if names.contains k then get? ms k else none := by
  induction ms with
  | nil => exact (ite_self none).symm
  | cons m ms ih =>
    unfold only at ih ⊢
    rw [List.filter_cons]
    split
    case isTrue h =>
      rw [get?_cons, ih, get?_cons]
      by_cases hk : k = m.1
      · rw [if_pos hk, if_pos hk, hk, if_pos h]
      · rw [if_neg hk, if_neg hk]
    case isFalse h =>
      rw [ih, get?_cons]
      by_cases hk : k = m.1
      · rw [hk, if_neg h, if_neg h]
      · rw [if_neg hk]

theorem ascending_only (h : Ascending ms) (names : List String) : Ascending (only names ms) :=
  h.filter _

end Members

namespace Message

variable {id : Option RequestId} {method : String} {params : Option Json} {m : Message}

/-- A request, or a notification where there is no identifier. -/
def call (id : Option RequestId) (method : String) (params : Option Json) : Message :=
  match id with
  | some id => .request ⟨id, method, params⟩
  | none => .notification ⟨method, params⟩

/-- The members in which a call is written. -/
def callMembers (id : Option RequestId) (method : String) (params : Option Json) : Members :=
  [("jsonrpc", .string protocolVersion)] ++ Members.optional "id" (id.map RequestId.toJson) ++
    [("method", .string method)] ++ Members.optional "params" params

theorem toJson_call (id : Option RequestId) (method : String) (params : Option Json) :
    (call id method params).toJson = .object (callMembers id method params) := by
  cases id <;> rfl

theorem exists_call (h : ∀ r, m ≠ .response r) : ∃ id method params, m = call id method params := by
  cases m with
  | request r => exact ⟨some r.id, r.method, r.params, rfl⟩
  | notification n => exact ⟨none, n.method, n.params, rfl⟩
  | response r => exact absurd rfl (h r)

theorem call_inj {id' : Option RequestId} {method' : String} {params' : Option Json} :
    call id method params = call id' method' params' ↔
      id = id' ∧ method = method' ∧ params = params' := by
  cases id <;> cases id' <;> simp [call]

/-! ### Reading, stage by stage -/

theorem readId_eq_ok_iff :
    readId ms = .ok id ↔ ms.get? "id" = id.map RequestId.toJson ∧ ∀ i ∈ id, i.Proper := by
  unfold readId
  split
  case h_1 h =>
    rw [h]
    cases id <;> simp
  case h_2 v h =>
    rw [h]
    split
    case h_1 j hj =>
      obtain ⟨hproper, rfl⟩ := RequestId.ofJson?_eq_some_iff.1 hj
      constructor
      · intro h
        cases h
        exact ⟨rfl, fun _ hi => Option.some.inj hi ▸ hproper⟩
      · rintro ⟨h, -⟩
        cases id with
        | none => cases h
        | some i => rw [RequestId.toJson_inj (Option.some.inj h)]
    case h_2 hnone =>
      refine ⟨nofun, fun ⟨h, hproper⟩ => ?_⟩
      cases id with
      | none => cases h
      | some i =>
        have hsome := RequestId.ofJson?_eq_some_iff.2 ⟨hproper i rfl, Option.some.inj h⟩
        cases hnone.symm.trans hsome

theorem checkVersion_eq_ok_iff :
    checkVersion ms = .ok () ↔ ms.get? "jsonrpc" = some (.string protocolVersion) := by
  unfold checkVersion
  split
  case h_1 s h =>
    rw [h]
    split
    case isTrue hs => simp [hs]
    case isFalse hs => simp [hs]
  case h_2 v hv h =>
    rw [h]
    exact ⟨nofun, fun hs => absurd (Option.some.inj hs) (hv protocolVersion)⟩
  case h_3 h => simp [h]

theorem ofMembers_eq_ok_iff :
    ofMembers ms = .ok m ↔
      ∃ id, readId ms = .ok id ∧ checkVersion ms = .ok () ∧ bodyOf id ms = .ok m := by
  unfold ofMembers
  cases readId ms with
  | error e => simp [bind, Except.bind]
  | ok id =>
    cases checkVersion ms with
    | error e => simp [bind, Except.bind]
    | ok u =>
      cases hb : bodyOf id ms with
      | error e => simp [bind, Except.bind, hb]
      | ok m' => simp [bind, Except.bind, hb]

theorem responseOf_ne_call {id' : Option RequestId} :
    responseOf id' ms ≠ .ok (call id method params) := by
  have hmap : ∀ {x : Except MessageFault (Except ResponseError Json)} {i : RequestId},
      x.map (fun o => Message.response ⟨i, o⟩) ≠ .ok (call id method params) := by
    intro x i h
    cases x with
    | error f => cases h
    | ok o => cases id <;> cases h
  unfold responseOf
  split
  case h_1 => nofun
  case h_2 => nofun
  case h_3 => exact hmap

theorem bodyOf_eq_call_iff {id' : Option RequestId} :
    bodyOf id' ms = .ok (call id method params) ↔
      id' = id ∧ ms.get? "method" = some (.string method) ∧ ms.get? "params" = params := by
  have hcall : ∀ {i : Option RequestId} {n : String},
      (Except.ok (call i n (ms.get? "params")) : Except MessageFault Message) =
          .ok (call id method params) ↔
        i = id ∧ some (Json.string n) = some (.string method) ∧ ms.get? "params" = params := by
    intro i n
    rw [Except.ok.injEq, call_inj, Option.some.injEq, Json.string.injEq]
  unfold bodyOf
  split
  case h_1 n i h =>
    rw [h]
    exact hcall (i := some i)
  case h_2 n h =>
    rw [h]
    exact hcall (i := none)
  case h_3 v h hv₁ hv₂ =>
    refine ⟨nofun, fun ⟨hid, hm, _⟩ => ?_⟩
    rw [h] at hm
    cases id with
    | none => exact absurd (Option.some.inj hm) (hv₂ method hid)
    | some i => exact absurd (Option.some.inj hm) (hv₁ method i hid)
  case h_4 h =>
    rw [h]
    exact ⟨fun heq => absurd heq responseOf_ne_call, nofun⟩

/-- **What a call is read of**: a version, an identifier that fits or none, a method, and any
parameters or none. -/
theorem ofMembers_eq_call_iff :
    ofMembers ms = .ok (call id method params) ↔ (∀ i ∈ id, i.Proper) ∧
      ms.get? "jsonrpc" = some (.string protocolVersion) ∧
      ms.get? "id" = id.map RequestId.toJson ∧
      ms.get? "method" = some (.string method) ∧ ms.get? "params" = params := by
  simp only [ofMembers_eq_ok_iff, readId_eq_ok_iff, checkVersion_eq_ok_iff, bodyOf_eq_call_iff]
  constructor
  · rintro ⟨i, ⟨hid, hproper⟩, hversion, rfl, hmethod, hparams⟩
    exact ⟨hproper, hversion, hid, hmethod, hparams⟩
  · rintro ⟨hproper, hversion, hid, hmethod, hparams⟩
    exact ⟨id, ⟨hid, hproper⟩, hversion, rfl, hmethod, hparams⟩

/-! ### Written messages are read back -/

theorem get?_callMembers (id : Option RequestId) (method : String) (params : Option Json)
    (k : String) :
    (callMembers id method params).get? k =
      if k = "jsonrpc" then some (.string protocolVersion)
      else if k = "id" then id.map RequestId.toJson
      else if k = "method" then some (.string method)
      else if k = "params" then params
      else none := by
  simp only [callMembers, Members.get?_append, Members.get?_optional, Members.get?_cons,
    Members.get?_nil]
  by_cases h₁ : k = "jsonrpc"
  · simp only [h₁, if_true, Option.some_or]
  by_cases h₂ : k = "id"
  · simp [h₂]
  by_cases h₃ : k = "method"
  · simp [h₃]
  · simp only [if_neg h₁, if_neg h₂, if_neg h₃, Option.none_or]

theorem nodup_callMembers (id : Option RequestId) (method : String) (params : Option Json) :
    ((callMembers id method params).map Prod.fst).Nodup := by
  cases id <;> cases params <;> simp [callMembers, Members.optional]

theorem ofMembers_normal_call (hid : ∀ i ∈ id, i.Proper) (hparams : ∀ v ∈ params, v.normal = v) :
    ofMembers (Members.sorted (Json.normalMembers (callMembers id method params))) =
      .ok (call id method params) := by
  have hget := Json.get?_normalMembers (nodup_callMembers id method params)
  refine ofMembers_eq_call_iff.2 ⟨hid, ?_, ?_, ?_, ?_⟩
  · rw [hget, get?_callMembers]
    rfl
  · rw [hget, get?_callMembers]
    cases id with
    | none => rfl
    | some i => exact congrArg some i.normal_toJson
  · rw [hget, get?_callMembers]
    rfl
  · rw [hget, get?_callMembers]
    cases params with
    | none => rfl
    | some v => exact congrArg some (hparams v rfl)

theorem read_normal_error {e : ResponseError} (he : e.Proper) :
    ResponseError.read e.toJson.normal = .ok e := by
  obtain ⟨code, message, data⟩ := e
  obtain ⟨hcode, hdata⟩ := he
  have hint : Payload.int64 (.ofInt code) = .ok code := if_pos hcode
  cases data with
  | none =>
    have hnormal : (ResponseError.toJson ⟨code, message, none⟩).normal =
        .object [("code", .ofInt code), ("message", .string message)] := by
      simp only [ResponseError.toJson, Members.optional, Json.normal, Json.normalMembers,
        Members.sorted, Members.insert, Json.ofInt, List.cons_append, List.nil_append,
        Option.toList, List.map, List.foldl, String.reduceLT, String.reduceEq, if_false]
    rw [hnormal]
    simp [ResponseError.read, Payload.record, Payload.visitMembers, ResponseError.visit, hint,
      Payload.string, Payload.required, Except.map, Except.bind, bind, pure, Except.pure]
  | some v =>
    obtain ⟨hv, hnull⟩ := hdata v rfl
    have hsome : v.nonNull? = some v := by
      cases v with
      | null => exact absurd rfl hnull
      | _ => rfl
    have hnormal : (ResponseError.toJson ⟨code, message, some v⟩).normal =
        .object [("code", .ofInt code), ("data", v), ("message", .string message)] := by
      simp only [ResponseError.toJson, Members.optional, Json.normal, Json.normalMembers,
        Members.sorted, Members.insert, Json.ofInt, List.cons_append, List.nil_append,
        Option.toList, List.map, List.foldl, String.reduceLT, String.reduceEq, if_true, if_false,
        hv]
    rw [hnormal]
    simp [ResponseError.read, Payload.record, Payload.visitMembers, ResponseError.visit, hint,
      Payload.string, Payload.required, Except.map, Except.bind, bind, pure, Except.pure, hsome]

theorem outcomeOf_error {e : ResponseError} (h : ResponseError.read (.object ms) = .ok e) :
    outcomeOf .null (.object ms) = .ok (.error e) := by
  simp only [outcomeOf, h]

/-- The members in which a response is written. -/
def responseMembers (id : RequestId) (result error : Json) : Members :=
  [("jsonrpc", .string protocolVersion), ("id", id.toJson), ("result", result), ("error", error)]

theorem nodup_responseMembers (id : RequestId) (result error : Json) :
    ((responseMembers id result error).map Prod.fst).Nodup := by
  simp [responseMembers]

theorem ofMembers_normal_response {id : RequestId} {result error : Json}
    {outcome : Except ResponseError Json} (hid : id.Proper)
    (houtcome : outcomeOf result.normal error.normal = .ok outcome) :
    ofMembers (Members.sorted (Json.normalMembers (responseMembers id result error))) =
      .ok (.response ⟨id, outcome⟩) := by
  have hget := Json.get?_normalMembers (nodup_responseMembers id result error)
  refine ofMembers_eq_ok_iff.2 ⟨some id, readId_eq_ok_iff.2 ⟨?_, ?_⟩,
    checkVersion_eq_ok_iff.2 (hget _), ?_⟩
  · exact (hget "id").trans (congrArg some id.normal_toJson)
  · exact fun i heq => Option.some.inj heq ▸ hid
  · have hmethod := hget "method"
    have hresult := hget "result"
    have herror := hget "error"
    unfold bodyOf responseOf
    rw [hmethod, hresult, herror]
    show (outcomeOf result.normal error.normal).map _ = _
    rw [houtcome]
    rfl

/-- **A message is read back from its normal form.** -/
theorem ofJson_normal (hm : m.Proper) : ofJson m.toJson.normal = .ok m := by
  cases m with
  | request r => exact ofMembers_normal_call (fun i hi => Option.some.inj hi ▸ hm.1) hm.2
  | notification n =>
    have hnone : ∀ i ∈ (none : Option RequestId), i.Proper :=
      fun i hi => absurd hi (Option.not_mem_none i)
    exact ofMembers_normal_call hnone hm
  | response r =>
    obtain ⟨id, outcome⟩ := r
    cases outcome with
    | ok v =>
      obtain ⟨hid, hv⟩ := hm
      have houtcome : outcomeOf v.normal Json.null.normal = .ok (.ok v) := by
        rw [hv]
        rfl
      exact ofMembers_normal_response hid houtcome
    | error e =>
      obtain ⟨hid, he⟩ := hm
      exact ofMembers_normal_response hid (outcomeOf_error (read_normal_error he))

/-- **A message is read back from its body**, if its numbers are integers and it is not too deep. -/
theorem decode_body (hm : m.Proper) (hintegral : m.toJson.integral = true)
    (hdepth : m.toJson.nesting ≤ 127) : decode m.toJson.body = .ok m := by
  have hread : Json.ofBytes? m.toJson.body = some m.toJson.normal :=
    (Json.ofBytes?_text hintegral).trans (if_pos hdepth)
  unfold decode
  rw [hread]
  exact ofJson_normal hm

theorem decode_bare {id : RequestId} (hid : id.Proper) (method : String) :
    decode (Message.request ⟨id, method, none⟩).toJson.body =
      .ok (.request ⟨id, method, none⟩) := by
  refine decode_body ⟨hid, fun v hv => absurd hv (Option.not_mem_none v)⟩ ?_ ?_
  · simp [toJson, Request.toJson, Members.optional, Json.integral, Json.integralMembers,
      RequestId.integral_toJson hid]
  · simp [toJson, Request.toJson, Members.optional, Json.nesting, Json.nestingMembers,
      id.nesting_toJson]

/-! ### Bodies of calls -/

/-- The names of the members of calls. -/
def callNames : List String := ["jsonrpc", "id", "method", "params"]

/-- **A call is written as the members it was read from.** -/
theorem normal_toJson_call (hms : (Json.object ms).normal = .object ms)
    (h : ofMembers ms = .ok (call id method params)) :
    (call id method params).toJson.normal = .object (Members.only callNames ms) := by
  obtain ⟨-, hversion, hid, hmethod, hparams⟩ := ofMembers_eq_call_iff.1 h
  obtain ⟨hasc, hparts⟩ := Json.normal_object_iff.1 hms
  rw [toJson_call]
  refine congrArg Json.object (Members.ascending_ext (Members.ascending_sorted _)
    (Members.ascending_only hasc callNames) fun k => ?_)
  have hfound : ms.get? k = (ms.get? k).map Json.normal := (Json.normal_of_get? hparts k).symm
  rw [Json.get?_normalMembers (nodup_callMembers ..), get?_callMembers, Members.get?_only]
  by_cases hk : callNames.contains k
  · rw [if_pos hk, hfound]
    have hcases : k = "jsonrpc" ∨ k = "id" ∨ k = "method" ∨ k = "params" := by
      simpa [callNames] using hk
    rcases hcases with rfl | rfl | rfl | rfl
    · rw [hversion]
      rfl
    · rw [hid]
      rfl
    · rw [hmethod]
      rfl
    · rw [hparams]
      rfl
  · rw [if_neg hk]
    simp only [callNames, List.contains_cons, List.contains_nil, Bool.or_false, Bool.or_eq_true,
      beq_iff_eq, not_or] at hk
    rw [if_neg hk.1, if_neg hk.2.1, if_neg hk.2.2.1, if_neg hk.2.2.2]
    rfl

end Message

/-- **Decoding undoes serializing.** A message whose numbers are integers is decoded from its body,
if it nests at most as deep as values are read; a call is serialized to the members of the body it
was decoded from that belong to calls. -/
theorem Message.roundTrip (m : Message) (body : List UInt8) :
    (m.Proper → m.toJson.integral = true →
      Message.decode m.toJson.body =
        if m.toJson.nesting ≤ 127 then .ok m else .error .notJson) ∧
    (Message.decode body = .ok m → (∀ r, m ≠ .response r) →
      ∃ ms, Json.ofBytes? body = some (.object ms) ∧
        m.toJson.normal = .object (Members.only Message.callNames ms)) := by
  constructor
  · intro hm hintegral
    by_cases hdepth : m.toJson.nesting ≤ 127
    · rw [if_pos hdepth, decode_body hm hintegral hdepth]
    · have hread : Json.ofBytes? m.toJson.body = none :=
        (Json.ofBytes?_text hintegral).trans (if_neg hdepth)
      unfold Message.decode
      rw [if_neg hdepth, hread]
  · intro h hcall
    obtain ⟨id, method, params, rfl⟩ := exists_call hcall
    unfold Message.decode at h
    cases hv : Json.ofBytes? body with
    | none =>
      rw [hv] at h
      cases h
    | some v =>
      rw [hv] at h
      cases v with
      | object ms => exact ⟨ms, rfl, normal_toJson_call (Json.normal_of_ofBytes? hv) h⟩
      | _ => cases h

def hoverCall : Message :=
  .request ⟨.number 7, "textDocument/hover", some (.object [
    ("position", .object [("character", .ofNat 4), ("line", .ofNat 2)]),
    ("textDocument", .object [("uri", .string "file:///a.rs")])])⟩

theorem roundTrip_hoverCall :
    Message.decode hoverCall.toJson.body = .ok hoverCall ∧
      ∃ ms, Json.ofBytes? hoverCall.toJson.body = some (.object ms) ∧
        hoverCall.toJson.normal = .object (Members.only Message.callNames ms) := by
  have hproper : hoverCall.Proper := by
    refine ⟨rfl, fun v hv => ?_⟩
    cases hv
    simp only [Json.normal, Json.normalMembers, Members.sorted, Members.insert, Json.ofNat,
      Json.ofInt, List.foldl, String.reduceLT, String.reduceEq, if_false]
  have hdecode : Message.decode hoverCall.toJson.body = .ok hoverCall :=
    ((Message.roundTrip hoverCall []).1 hproper rfl).trans (if_pos (by decide))
  have hcall : ∀ r, hoverCall ≠ .response r := fun r hr => Message.noConfusion hr
  exact ⟨hdecode, (Message.roundTrip hoverCall hoverCall.toJson.body).2 hdecode hcall⟩

end SyntaxServer
