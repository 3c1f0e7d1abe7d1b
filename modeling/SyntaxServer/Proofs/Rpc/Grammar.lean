import Mathlib.Tactic.MkIffOfInductiveProp
import SyntaxServer.Proofs.Json.Readers
import SyntaxServer.Proofs.Rpc.Identifier
import SyntaxServer.Proofs.Rpc.RoundTrip

/-!
The grammar of messages. What kind of message a value is, if it is one, is said here of its members
alone (`IsRequest`, `IsNotification`, `IsResponse`), and reading accepts exactly these values
(`Message.grammar_of_body`). The one part with a form of its own is the error of a response: it is
read of an object with a code and a text, and also of the list of these fields without their
names (`ResponseError.read_object_iff`, `ResponseError.read_array_iff`).
-/

namespace SyntaxServer

theorem map_eq_ok_iff {ε α β : Type} {x : Except ε α} {f : α → β} {b : β} :
    x.map f = .ok b ↔ ∃ a, x = .ok a ∧ f a = b := by
  cases x <;> simp [Except.map]

theorem bind_eq_ok_iff {ε α β : Type} {x : Except ε α} {f : α → Except ε β} {b : β} :
    x.bind f = .ok b ↔ ∃ a, x = .ok a ∧ f a = .ok b := by
  cases x <;> simp [Except.bind]

variable {ms : Members} {v : Json} {vs : List Json}

namespace Payload

theorem int64_eq_ok_iff {n : Int} :
    int64 v = .ok n ↔ v = .ofInt n ∧ Width.int64.holds n = true := by
  unfold int64 integer
  split
  case h_1 m =>
    split
    case isTrue hm =>
      constructor
      · intro h
        cases h
        exact ⟨rfl, hm⟩
      · rintro ⟨h, -⟩
        cases h
        rfl
    case isFalse hm =>
      refine ⟨nofun, ?_⟩
      rintro ⟨h, hn⟩
      cases h
      exact absurd hn hm
  case h_2 hv =>
    refine ⟨nofun, ?_⟩
    rintro ⟨rfl, -⟩
    exact absurd rfl (hv n)

theorem string_eq_ok_iff {s : String} : string v = .ok s ↔ v = .string s := by
  cases v <;> simp [string]

end Payload

/-! ### Error objects -/

namespace ResponseError

variable {e : ResponseError} {p q : Partial}

/-- What a field is after a member of its name was read, or after none was there. -/
def Filled {α : Type} (read : Payload.Reader α) (found : Option Json) (before after : Option α) :
    Prop :=
  match found with
  | none => after = before
  | some v => ∃ a, read v = .ok a ∧ after = some a

/-- What the fields of an error object are after some members were read. -/
@[mk_iff]
structure Collected (ms : Members) (p q : Partial) : Prop where
  code : Filled Payload.int64 (ms.get? "code") p.code q.code
  message : Filled Payload.string (ms.get? "message") p.message q.message
  data : q.data = ((ms.get? "data").map Json.nonNull?).getD p.data

theorem visit_code (v : Json) (p : Partial) :
    visit "code" v p = (Payload.int64 v).map fun n => { p with code := some n } := rfl

theorem visit_message (v : Json) (p : Partial) :
    visit "message" v p = (Payload.string v).map fun s => { p with message := some s } := rfl

theorem visit_data (v : Json) (p : Partial) :
    visit "data" v p = .ok { p with data := v.nonNull? } := rfl

theorem visit_other {name : String} (hcode : name ≠ "code") (hmessage : name ≠ "message")
    (hdata : name ≠ "data") (v : Json) (p : Partial) : visit name v p = .ok p := by
  unfold visit
  split
  · exact absurd rfl hcode
  · exact absurd rfl hmessage
  · exact absurd rfl hdata
  · rfl

theorem filled_none_iff {α : Type} {read : Payload.Reader α} {found : Option Json} {a : α} :
    Filled read found none (some a) ↔ ∃ v, found = some v ∧ read v = .ok a := by
  cases found <;> simp [Filled, eq_comm]

/-- Members with different names fill the fields, each at most one of them. -/
theorem visitMembers_eq_ok_iff (h : (ms.map Prod.fst).Nodup) :
    Payload.visitMembers visit p ms = .ok q ↔ Collected ms p q := by
  induction ms generalizing p with
  | nil =>
    constructor
    · intro hq
      cases hq
      exact ⟨rfl, rfl, rfl⟩
    · rintro ⟨hcode, hmessage, hdata⟩
      obtain ⟨code, message, data⟩ := q
      cases hcode
      cases hmessage
      cases hdata
      rfl
  | cons m ms ih =>
    obtain ⟨name, v⟩ := m
    obtain ⟨hname, hms⟩ := List.nodup_cons.1 h
    have habsent : Members.get? ms name = none := Members.get?_eq_none hname
    rw [Payload.visitMembers, bind_eq_ok_iff]
    simp only [ih hms, collected_iff, Members.get?_cons]
    by_cases hcode : name = "code"
    · subst hcode
      simp only [visit_code, map_eq_ok_iff, habsent, if_true, String.reduceEq, if_false]
      constructor
      · rintro ⟨_, ⟨n, hn, rfl⟩, hc, hrest⟩
        exact ⟨⟨n, hn, hc⟩, hrest⟩
      · rintro ⟨⟨n, hn, hc⟩, hrest⟩
        exact ⟨_, ⟨n, hn, rfl⟩, hc, hrest⟩
    by_cases hmessage : name = "message"
    · subst hmessage
      simp only [visit_message, map_eq_ok_iff, habsent, if_true, String.reduceEq, if_false]
      constructor
      · rintro ⟨_, ⟨s, hs, rfl⟩, hc, hm, hd⟩
        exact ⟨hc, ⟨s, hs, hm⟩, hd⟩
      · rintro ⟨hc, ⟨s, hs, hm⟩, hd⟩
        exact ⟨_, ⟨s, hs, rfl⟩, hc, hm, hd⟩
    by_cases hdata : name = "data"
    · subst hdata
      simp [visit_data, habsent]
    · rw [visit_other hcode hmessage hdata]
      simp [Ne.symm hcode, Ne.symm hmessage, Ne.symm hdata]

theorem finish_eq_ok_iff :
    (do
      let code ← Payload.required "code" p.code
      let message ← Payload.required "message" p.message
      return ⟨code, message, p.data⟩ : Except PayloadError ResponseError) = .ok e ↔
      p = ⟨some e.code, some e.message, e.data⟩ := by
  obtain ⟨code, message, data⟩ := p
  cases code with
  | none => simp [Payload.required, bind, Except.bind]
  | some code =>
    cases message with
    | none => simp [Payload.required, bind, Except.bind]
    | some message =>
      obtain ⟨code', message', data'⟩ := e
      simp [Payload.required, bind, Except.bind, pure, Except.pure]

/-- **An error is read of an object** with a code of 64 bits and a text; null data are none. -/
theorem read_object_iff (h : ms.Ascending) :
    read (.object ms) = .ok e ↔
      ms.get? "code" = some (.ofInt e.code) ∧ Width.int64.holds e.code = true ∧
        ms.get? "message" = some (.string e.message) ∧
        e.data = (ms.get? "data").bind Json.nonNull? := by
  have hread : read (.object ms) = .ok e ↔
      Collected ms ⟨none, none, none⟩ ⟨some e.code, some e.message, e.data⟩ := by
    unfold read Payload.record
    dsimp only
    rw [bind_eq_ok_iff]
    simp only [visitMembers_eq_ok_iff (Members.nodup_of_ascending h), finish_eq_ok_iff]
    exact exists_eq_right
  rw [hread, collected_iff, filled_none_iff, filled_none_iff]
  simp only [Payload.int64_eq_ok_iff, Payload.string_eq_ok_iff]
  have hdata : ((Members.get? ms "data").map Json.nonNull?).getD none =
      (Members.get? ms "data").bind Json.nonNull? := by
    cases Members.get? ms "data" <;> rfl
  constructor
  · rintro ⟨⟨c, hc, rfl, hn⟩, ⟨m, hm, rfl⟩, hd⟩
    exact ⟨hc, hn, hm, hd.trans hdata⟩
  · rintro ⟨hc, hn, hm, hd⟩
    exact ⟨⟨_, hc, rfl, hn⟩, ⟨_, hm, rfl⟩, hd.trans hdata.symm⟩

/-- **An error is read of a list** of the fields, the data left out or not. -/
theorem read_array_iff :
    read (.array vs) = .ok e ↔
      Width.int64.holds e.code = true ∧
        (vs = [.ofInt e.code, .string e.message] ∧ e.data = none ∨
          ∃ v, vs = [.ofInt e.code, .string e.message, v] ∧ e.data = v.nonNull?) := by
  have hread : read (.array vs) = .ok e ↔
      Payload.visitElements visit shape .counted vs.length 0 ⟨none, none, none⟩ shape.fields vs =
        .ok ⟨some e.code, some e.message, e.data⟩ := by
    unfold read Payload.record
    dsimp only
    rw [bind_eq_ok_iff]
    simp only [finish_eq_ok_iff, exists_eq_right]
  rw [hread]
  obtain ⟨code, message, data⟩ := e
  simp only [shape, Payload.Field.plain, Payload.Field.trailing]
  rcases vs with _ | ⟨c, _ | ⟨m, _ | ⟨d, _ | ⟨w, vs⟩⟩⟩⟩
  case nil => simp [Payload.visitElements]
  case cons.nil => simp [Payload.visitElements, bind_eq_ok_iff]
  case cons.cons.nil =>
    simp only [Payload.visitElements, visit_code, visit_message, bind_eq_ok_iff, map_eq_ok_iff,
      Payload.int64_eq_ok_iff, Payload.string_eq_ok_iff, if_true]
    constructor
    · rintro ⟨_, ⟨n, ⟨rfl, hn⟩, rfl⟩, _, ⟨s, rfl, rfl⟩, h⟩
      cases h
      exact ⟨hn, Or.inl ⟨rfl, rfl⟩⟩
    · rintro ⟨hn, ⟨h, hdata⟩ | ⟨v, h, -⟩⟩
      · cases h
        exact ⟨_, ⟨_, ⟨rfl, hn⟩, rfl⟩, _, ⟨_, rfl, rfl⟩, by rw [hdata]⟩
      · cases h
  case cons.cons.cons.nil =>
    simp only [Payload.visitElements, visit_code, visit_message, visit_data, bind_eq_ok_iff,
      map_eq_ok_iff, Payload.int64_eq_ok_iff, Payload.string_eq_ok_iff]
    constructor
    · rintro ⟨_, ⟨n, ⟨rfl, hn⟩, rfl⟩, _, ⟨s, rfl, rfl⟩, _, h, h'⟩
      cases h
      cases h'
      exact ⟨hn, Or.inr ⟨d, rfl, rfl⟩⟩
    · rintro ⟨hn, ⟨h, -⟩ | ⟨v, h, hdata⟩⟩
      · cases h
      · cases h
        exact ⟨_, ⟨_, ⟨rfl, hn⟩, rfl⟩, _, ⟨_, rfl, rfl⟩, _, rfl, by rw [hdata]⟩
  case cons.cons.cons.cons => simp [Payload.visitElements, bind_eq_ok_iff]

end ResponseError

/-! ### The grammar -/

/-- The value is an object whose members have a property. -/
def Json.ObjectWith (P : Members → Prop) (v : Json) : Prop := ∃ ms, v = .object ms ∧ P ms

namespace Message

/-- The members have this identifier, and it is a valid one: an integer of 64 bits with a sign, or
a string. -/
def HasId (id : RequestId) (ms : Members) : Prop := id.Proper ∧ ms.get? "id" = some id.toJson

/-- The version tag is that of the protocol. -/
def HasVersion (ms : Members) : Prop := ms.get? "jsonrpc" = some (.string "2.0")

/-- There is a method, and it is a string. -/
def HasMethod (ms : Members) : Prop := ∃ method, ms.get? "method" = some (.string method)

/-- An error object: a code, an integer of 64 bits with a sign, and a text. -/
def IsErrorObject : Json → Prop :=
  Json.ObjectWith fun ms => ∃ code message, Width.int64.holds code = true ∧
    ms.get? "code" = some (.ofInt code) ∧ ms.get? "message" = some (.string message)

/-- The fields of an error object as a list: a code, a text, and data or none. -/
def IsErrorList (v : Json) : Prop :=
  ∃ code message data, Width.int64.holds code = true ∧
    v = .array (.ofInt code :: .string message :: data) ∧ data.length ≤ 1

structure IsRequest (ms : Members) : Prop where
  id : ∃ id, HasId id ms
  version : HasVersion ms
  method : HasMethod ms

structure IsNotification (ms : Members) : Prop where
  no_id : ms.get? "id" = none
  version : HasVersion ms
  method : HasMethod ms

/-- The members of a response, for some form of errors. -/
structure IsResponse (IsError : Json → Prop) (ms : Members) : Prop where
  id : ∃ id, HasId id ms
  version : HasVersion ms
  no_method : ms.get? "method" = none
  outcome : ms.get? "result" ≠ none ∨ ms.get? "error" ≠ none
  not_both : ∀ r ∈ ms.get? "result", ∀ e ∈ ms.get? "error", r = .null ∨ e = .null
  error : ∀ e ∈ ms.get? "error", e = .null ∨ IsError e

/-- What is read of a value is what the value is: a message of one of the kinds, or else a fault
that knows the identifier of the value, if the value has a valid one. -/
structure Classified (IsError : Json → Prop) (v : Json) (x : Except DecodeError Message) :
    Prop where
  request : (∃ r, x = .ok (.request r)) ↔ v.ObjectWith IsRequest
  notification : (∃ n, x = .ok (.notification n)) ↔ v.ObjectWith IsNotification
  response : (∃ r, x = .ok (.response r)) ↔ v.ObjectWith (IsResponse IsError)
  invalid : (∃ id fault, x = .error (.invalid id fault)) ↔
    ¬ v.ObjectWith IsRequest ∧ ¬ v.ObjectWith IsNotification ∧
      ¬ v.ObjectWith (IsResponse IsError)
  salvaged : ∀ id fault, x = .error (.invalid id fault) →
    ∀ i, id = some i ↔ v.ObjectWith (HasId i)
  answered : ∀ id fault, x = .error (.invalid id fault) →
    ∀ i, (∃ r ∈ (DecodeError.invalid id fault).response?, r.id = i) ↔ v.ObjectWith (HasId i)

/-! ### Calls -/

theorem exists_request_iff : (∃ r, ofMembers ms = .ok (.request r)) ↔ IsRequest ms := by
  constructor
  · rintro ⟨r, h⟩
    have hcall : ofMembers ms = .ok (call (some r.id) r.method r.params) := h
    obtain ⟨hproper, hversion, hid, hmethod, -⟩ := ofMembers_eq_call_iff.1 hcall
    exact ⟨⟨r.id, hproper r.id rfl, hid⟩, hversion, r.method, hmethod⟩
  · rintro ⟨⟨id, hproper, hid⟩, hversion, method, hmethod⟩
    have hcall : ofMembers ms = .ok (call (some id) method (ms.get? "params")) := by
      refine ofMembers_eq_call_iff.2 ⟨?_, hversion, hid, hmethod, rfl⟩
      intro i hi
      cases hi
      exact hproper
    exact ⟨_, hcall⟩

theorem exists_notification_iff :
    (∃ n, ofMembers ms = .ok (.notification n)) ↔ IsNotification ms := by
  constructor
  · rintro ⟨n, h⟩
    have hcall : ofMembers ms = .ok (call none n.method n.params) := h
    obtain ⟨-, hversion, hid, hmethod, -⟩ := ofMembers_eq_call_iff.1 hcall
    exact ⟨hid, hversion, n.method, hmethod⟩
  · rintro ⟨hid, hversion, method, hmethod⟩
    have hcall : ofMembers ms = .ok (call none method (ms.get? "params")) :=
      ofMembers_eq_call_iff.2 ⟨nofun, hversion, hid, hmethod, rfl⟩
    exact ⟨_, hcall⟩

/-! ### Responses -/

/-- **A normal value is read as an error** if it has one of the two forms. -/
theorem exists_error_iff (hv : v.normal = v) :
    (∃ e, ResponseError.read v = .ok e) ↔ IsErrorObject v ∨ IsErrorList v := by
  have hobject : ∀ {w : Json}, (∀ ms, w ≠ .object ms) → ¬ IsErrorObject w := by
    rintro w hw ⟨ms, h, -⟩
    exact hw ms h
  have hlist : ∀ {w : Json}, (∀ vs, w ≠ .array vs) → ¬ IsErrorList w := by
    rintro w hw ⟨code, message, data, -, h, -⟩
    exact hw _ h
  cases v with
  | object ms =>
    have hms := (Json.normal_object_iff.1 hv).1
    rw [or_iff_left (hlist fun _ h => Json.noConfusion h)]
    simp only [ResponseError.read_object_iff hms]
    constructor
    · rintro ⟨e, hc, hn, hm, -⟩
      exact ⟨ms, rfl, e.code, e.message, hn, hc, hm⟩
    · rintro ⟨_, h, code, message, hn, hc, hm⟩
      cases h
      exact ⟨⟨code, message, _⟩, hc, hn, hm, rfl⟩
  | array vs =>
    rw [or_iff_right (hobject fun _ h => Json.noConfusion h)]
    simp only [ResponseError.read_array_iff]
    constructor
    · rintro ⟨e, hn, ⟨rfl, -⟩ | ⟨d, rfl, -⟩⟩
      · exact ⟨e.code, e.message, [], hn, rfl, by simp⟩
      · exact ⟨e.code, e.message, [d], hn, rfl, by simp⟩
    · rintro ⟨code, message, data, hn, h, hlen⟩
      cases h
      rcases data with _ | ⟨d, _ | ⟨d', data⟩⟩
      · exact ⟨⟨code, message, none⟩, hn, Or.inl ⟨rfl, rfl⟩⟩
      · exact ⟨⟨code, message, d.nonNull?⟩, hn, Or.inr ⟨d, rfl, rfl⟩⟩
      · simp at hlen
  | _ =>
    refine iff_of_false ?_ (not_or.2 ⟨hobject fun _ h => Json.noConfusion h,
      hlist fun _ h => Json.noConfusion h⟩)
    rintro ⟨e, h⟩
    cases h

theorem outcomeOf_null (result : Json) : outcomeOf result .null = .ok (.ok result) := by
  cases result <;> rfl

theorem outcomeOf_of_ne_null {error : Json} (h : error ≠ .null) :
    outcomeOf .null error =
      match ResponseError.read error with
      | .ok e => .ok (.error e)
      | .error cause => .error (.badError cause) := by
  unfold outcomeOf
  split
  · exact absurd rfl h
  · rfl
  · contradiction

theorem outcomeOf_both {result error : Json} (hresult : result ≠ .null) (herror : error ≠ .null) :
    outcomeOf result error = .error .resultAndError := by
  unfold outcomeOf
  split
  · exact absurd rfl herror
  · exact absurd rfl hresult
  · rfl

theorem exists_outcome_iff {result error : Json} :
    (∃ o, outcomeOf result error = .ok o) ↔
      (result = .null ∨ error = .null) ∧
        (error = .null ∨ ∃ e, ResponseError.read error = .ok e) := by
  by_cases herror : error = .null
  · subst herror
    exact ⟨fun _ => ⟨Or.inr rfl, Or.inl rfl⟩, fun _ => ⟨_, outcomeOf_null result⟩⟩
  by_cases hresult : result = .null
  · subst hresult
    rw [outcomeOf_of_ne_null herror]
    cases ResponseError.read error with
    | ok e => simp
    | error cause => simp [herror]
  · rw [outcomeOf_both hresult herror]
    simp [herror, hresult]

theorem exists_responseOf_iff {id : Option RequestId} :
    (∃ r, responseOf id ms = .ok (.response r)) ↔
      (∃ i, id = some i) ∧ (ms.get? "result" ≠ none ∨ ms.get? "error" ≠ none) ∧
        ∃ o, outcomeOf (Json.ofOption (ms.get? "result")) (Json.ofOption (ms.get? "error")) =
          .ok o := by
  unfold responseOf
  cases ms.get? "result" <;> cases ms.get? "error" <;> cases id <;> simp [map_eq_ok_iff]

theorem exists_outcome_members_iff (h : ∀ e ∈ ms.get? "error", e.normal = e) :
    (∃ o, outcomeOf (Json.ofOption (ms.get? "result")) (Json.ofOption (ms.get? "error")) =
        .ok o) ↔
      (∀ r ∈ ms.get? "result", ∀ e ∈ ms.get? "error", r = .null ∨ e = .null) ∧
        ∀ e ∈ ms.get? "error", e = .null ∨ IsErrorObject e ∨ IsErrorList e := by
  rw [exists_outcome_iff]
  cases he : ms.get? "error" with
  | none => simp [Json.ofOption]
  | some e =>
    have hform := exists_error_iff (h e he)
    have hresult : Json.ofOption (ms.get? "result") = .null ∨ e = .null ↔
        ∀ r ∈ ms.get? "result", r = .null ∨ e = .null := by
      cases ms.get? "result" <;> simp [Json.ofOption]
    simp only [Option.mem_some_iff, forall_eq', ← hform, ← hresult]
    rfl

theorem bodyOf_eq_response_iff {id : Option RequestId} {r : Response} :
    bodyOf id ms = .ok (.response r) ↔
      ms.get? "method" = none ∧ responseOf id ms = .ok (.response r) := by
  unfold bodyOf
  split
  case h_1 h => simp [h]
  case h_2 h => simp [h]
  case h_3 h _ _ => simp [h]
  case h_4 h => simp [h]

theorem exists_response_iff (h : ∀ e ∈ ms.get? "error", e.normal = e) :
    (∃ r, ofMembers ms = .ok (.response r)) ↔
      IsResponse (fun e => IsErrorObject e ∨ IsErrorList e) ms := by
  simp only [ofMembers_eq_ok_iff, readId_eq_ok_iff, checkVersion_eq_ok_iff,
    bodyOf_eq_response_iff]
  constructor
  · rintro ⟨r, id, ⟨hid, hproper⟩, hversion, hmethod, hr⟩
    obtain ⟨⟨i, rfl⟩, hpresent, houtcome⟩ := exists_responseOf_iff.1 ⟨r, hr⟩
    obtain ⟨hboth, herror⟩ := (exists_outcome_members_iff h).1 houtcome
    exact ⟨⟨i, hproper i rfl, hid⟩, hversion, hmethod, hpresent, hboth, herror⟩
  · rintro ⟨⟨i, hproper, hid⟩, hversion, hmethod, hpresent, hboth, herror⟩
    have houtcome := (exists_outcome_members_iff h).2 ⟨hboth, herror⟩
    obtain ⟨r, hr⟩ := exists_responseOf_iff.2 ⟨⟨i, rfl⟩, hpresent, houtcome⟩
    refine ⟨r, some i, ⟨hid, ?_⟩, hversion, hmethod, hr⟩
    intro j hj
    cases hj
    exact hproper

/-! ### Values -/

theorem exists_invalid_of_ofMembers {e : DecodeError} (h : ofMembers ms = .error e) :
    ∃ id fault, e = .invalid id fault := by
  unfold ofMembers at h
  cases hid : readId ms with
  | error e' =>
    rw [hid] at h
    cases h
    unfold readId at hid
    split at hid
    · cases hid
    · split at hid
      · cases hid
      · cases hid
        exact ⟨none, .badId, rfl⟩
  | ok id =>
    rw [hid] at h
    have hrest : ((checkVersion ms).bind fun _ => bodyOf id ms).mapError (.invalid id) =
        .error e := h
    cases hbody : (checkVersion ms).bind fun _ => bodyOf id ms with
    | ok m =>
      rw [hbody] at hrest
      cases hrest
    | error fault =>
      rw [hbody] at hrest
      cases hrest
      exact ⟨id, fault, rfl⟩

/-- A fault is all that is left for what is of no kind. -/
theorem exists_invalid_iff {x : Except DecodeError Message}
    (h : ∀ e, x = .error e → ∃ id fault, e = .invalid id fault) :
    (∃ id fault, x = .error (.invalid id fault)) ↔
      (¬ ∃ r, x = .ok (.request r)) ∧ (¬ ∃ n, x = .ok (.notification n)) ∧
        ¬ ∃ r, x = .ok (.response r) := by
  cases x with
  | error e =>
    obtain ⟨id, fault, rfl⟩ := h e rfl
    simp
  | ok m => cases m <;> simp

theorem objectWith_object {P : Members → Prop} : (Json.object ms).ObjectWith P ↔ P ms := by
  simp [Json.ObjectWith]

theorem bind_ofJson?_eq_some_iff {i : RequestId} :
    (ms.get? "id").bind RequestId.ofJson? = some i ↔ HasId i ms := by
  simp only [Option.bind_eq_some_iff, RequestId.ofJson?_eq_some_iff]
  constructor
  · rintro ⟨w, hw, hproper, rfl⟩
    exact ⟨hproper, hw⟩
  · rintro ⟨hproper, hid⟩
    exact ⟨_, hid, hproper, rfl⟩

theorem exists_response?_iff {id : Option RequestId} {fault : MessageFault} {i : RequestId} :
    (∃ r ∈ (DecodeError.invalid id fault).response?, r.id = i) ↔ id = some i := by
  cases id with
  | none => simp [DecodeError.response?, DecodeError.id?]
  | some j => simp [DecodeError.response?, DecodeError.id?, Response.failure]

theorem classified_object (hms : (Json.object ms).normal = .object ms) :
    Classified (fun e => IsErrorObject e ∨ IsErrorList e) (.object ms) (ofMembers ms) := by
  have herror : ∀ e ∈ ms.get? "error", e.normal = e := by
    intro e he
    have hparts := Json.normal_of_get? (Json.normal_object_iff.1 hms).2 "error"
    rw [he] at hparts
    exact Option.some.inj hparts
  have hsalvaged : ∀ id fault, ofMembers ms = .error (.invalid id fault) →
      ∀ i, id = some i ↔ (Json.object ms).ObjectWith (HasId i) := by
    intro id fault h i
    have hknown := known?_ofMembers ms
    rw [h] at hknown
    rw [objectWith_object, ← bind_ofJson?_eq_some_iff, ← hknown]
    rfl
  constructor
  case request => rw [objectWith_object, exists_request_iff]
  case notification => rw [objectWith_object, exists_notification_iff]
  case response => rw [objectWith_object, exists_response_iff herror]
  case invalid =>
    rw [objectWith_object, objectWith_object, objectWith_object, ← exists_request_iff,
      ← exists_notification_iff, ← exists_response_iff herror]
    exact exists_invalid_iff fun e => exists_invalid_of_ofMembers
  case salvaged => exact hsalvaged
  case answered =>
    intro id fault h i
    rw [exists_response?_iff, hsalvaged id fault h i]

theorem classified_other {IsError : Json → Prop} (hv : ∀ ms, v ≠ .object ms) :
    Classified IsError v (.error (.invalid none .notObject)) := by
  have hnone : ∀ P, ¬ v.ObjectWith P := by
    rintro P ⟨ms, h, -⟩
    exact hv ms h
  constructor
  case request => simp [hnone]
  case notification => simp [hnone]
  case response => simp [hnone]
  case invalid => simp [hnone]
  case salvaged =>
    intro id fault h i
    cases h
    simp [hnone]
  case answered =>
    intro id fault h i
    cases h
    rw [exists_response?_iff]
    simp [hnone]

theorem classified_ofJson (hv : v.normal = v) :
    Classified (fun e => IsErrorObject e ∨ IsErrorList e) v (ofJson v) := by
  cases v with
  | object ms => exact classified_object hv
  | _ => exact classified_other fun _ h => Json.noConfusion h

/-- **Bodies are read by the grammar of messages.** A body that is not of JSON is refused as such.
Any other is read as the kind of message that its value is, and if it is none, it is refused with
the identifier of the value, if it has a valid one. -/
theorem grammar_of_body (body : List UInt8) :
    match Json.ofBytes? body with
    | none => decode body = .error .notJson
    | some v => Classified (fun e => IsErrorObject e ∨ IsErrorList e) v (decode body) := by
  cases hv : Json.ofBytes? body with
  | none =>
    show decode body = .error .notJson
    unfold decode
    rw [hv]
  | some v =>
    have hdecode : decode body = ofJson v := by
      unfold decode
      rw [hv]
    show Classified _ v (decode body)
    rw [hdecode]
    exact classified_ofJson (Json.normal_of_ofBytes? hv)

/-- A response whose error is the list of its fields. -/
def listedError : Json :=
  .object [("error", .array [.ofInt 1, .string "m"]), ("id", .ofInt 1),
    ("jsonrpc", .string "2.0")]

/-- Error objects alone are not all the errors that are read. -/
theorem not_classified_listedError :
    ∃ v, Json.ofBytes? listedError.body = some v ∧
      ¬ Classified IsErrorObject v (decode listedError.body) := by
  have hnormal : listedError.normal = listedError := by
    simp only [listedError, Json.normal, Json.normalMembers, Json.normalElements, Members.sorted,
      Members.insert, Json.ofInt, List.foldl, String.reduceLT, String.reduceEq, if_false]
  have hread : Json.ofBytes? listedError.body = some listedError := by
    have htext : Json.ofBytes? listedError.body =
        if listedError.nesting ≤ 127 then some listedError.normal else none :=
      Json.ofBytes?_text (by decide)
    rw [htext, hnormal]
    exact if_pos (by decide)
  have hdecode : decode listedError.body =
      .ok (.response ⟨.number 1, .error ⟨1, "m", none⟩⟩) := by
    unfold decode
    rw [hread]
    rfl
  refine ⟨listedError, hread, ?_⟩
  intro h
  obtain ⟨ms, hms, hresponse⟩ := h.response.1 ⟨_, hdecode⟩
  cases hms
  rcases hresponse.error _ rfl with hnull | ⟨ms, hobject, -⟩
  · cases hnull
  · cases hobject

end Message

end SyntaxServer
