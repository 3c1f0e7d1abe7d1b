import SyntaxServer.Proofs.Server.Backend
import SyntaxServer.Proofs.Server.Reuse
import SyntaxServer.Proofs.Server.Verdict

/-!
The open documents. The only messages that touch them are notifications that come after the start
and carry the payload of an edit (`shared_dispatch`), and an edit touches the document of its own
address alone (`Edit.get?_make`). So the document of an address is what the edits of it make, in
their order, and hovers are answered from that document (`documents_of_history`).
-/

namespace SyntaxServer

namespace Documents

theorem get?_replace? {ds ds' : Documents} {u : Url} {version : Int} {text : String}
    (h : ds.replace? u version text = some ds') (k : Url) :
    ds'.get? k = if k = u then
      (ds.get? u).map fun d => { d with version := version, text := text } else ds.get? k := by
  obtain ⟨d, hd, rfl⟩ := Option.map_eq_some_iff.1 h
  rw [hd]
  exact Table.get?_insert ..

theorem get?_close? {ds ds' : Documents} {u : Url} {d : Document}
    (h : ds.close? u = some (d, ds')) (k : Url) :
    ds'.get? k = if k = u then none else ds.get? k := by
  obtain ⟨d', -, hpair⟩ := Option.map_eq_some_iff.1 h
  obtain ⟨-, rfl⟩ := Prod.mk.inj hpair
  exact Table.get?_erase ..

end Documents

namespace Backend

variable {o : Outside} {limit : Option Nat} {s : ServerState Documents} {m : Message}
  {ms : List Message} {u : Url}

/-! ### Edits -/

/-- An edit that a client makes to one of its documents. -/
inductive Edit where
  | opened (d : Document)
  | changed (p : ChangeParams)
  | closed (u : Url)

namespace Edit

def uri : Edit → Url
  | .opened d => d.uri
  | .changed p => p.document.uri
  | .closed u => u

/-- What becomes of the document: one that is opened is there, whatever was there before; a change
with a text gives an open one its version and its last text; one that is closed is gone. -/
def apply : Edit → Option Document → Option Document
  | .opened d, _ => some d
  | .changed p, x =>
    match p.texts.getLast? with
    | some text => x.map fun d => { d with version := p.document.version, text := text }
    | none => x
  | .closed _, _ => none

/-- What the handler of the edit does to the documents. -/
def make : Edit → Documents → Documents
  | .opened d, ds => (Backend.opened d ds).state
  | .changed p, ds => (Backend.changed p ds).state
  | .closed u, ds => (Backend.closed u ds).state

theorem apply_changed_none (p : ChangeParams) : (Edit.changed p).apply none = none := by
  unfold apply
  dsimp only
  cases p.texts.getLast? <;> rfl

theorem get?_opened (d : Document) (ds : Documents) (u : Url) :
    ((Edit.opened d).make ds).get? u =
      if u = d.uri then (Edit.opened d).apply (ds.get? u) else ds.get? u :=
  Documents.get?_put ds d u

theorem get?_changed (p : ChangeParams) (ds : Documents) (u : Url) :
    ((Edit.changed p).make ds).get? u =
      if u = p.document.uri then (Edit.changed p).apply (ds.get? u) else ds.get? u := by
  unfold make Backend.changed apply
  dsimp only
  cases p.texts.getLast? with
  | none => exact (ite_self _).symm
  | some text =>
    dsimp only
    cases hr : ds.replace? p.document.uri p.document.version text with
    | some ds' =>
      dsimp only
      rw [Documents.get?_replace? hr]
      by_cases hu : u = p.document.uri
      · rw [if_pos hu, if_pos hu, hu]
      · rw [if_neg hu, if_neg hu]
    | none =>
      have hnone : ds.get? p.document.uri = none := Option.map_eq_none_iff.1 hr
      by_cases hu : u = p.document.uri
      · rw [if_pos hu, hu, hnone]
        rfl
      · rw [if_neg hu]

theorem get?_closed (v : Url) (ds : Documents) (u : Url) :
    ((Edit.closed v).make ds).get? u =
      if u = v then (Edit.closed v).apply (ds.get? u) else ds.get? u := by
  unfold make Backend.closed apply
  dsimp only
  cases hc : ds.close? v with
  | some p =>
    dsimp only
    rw [Documents.get?_close? hc]
  | none =>
    have hnone : ds.get? v = none := Option.map_eq_none_iff.1 hc
    by_cases hu : u = v
    · rw [if_pos hu, hu]
      exact hnone
    · rw [if_neg hu]

/-- **An edit touches its own document alone.** -/
theorem get?_make (e : Edit) (ds : Documents) (u : Url) :
    (e.make ds).get? u = if u = e.uri then e.apply (ds.get? u) else ds.get? u := by
  cases e with
  | opened d => exact get?_opened d ds u
  | changed p => exact get?_changed p ds u
  | closed v => exact get?_closed v ds u

end Edit

/-- The edit that a message asks for, none if it is not a notification of one with its payload. -/
def edit? : Message → Option Edit
  | .notification n =>
    match Wire.ofName? Method n.method with
    | some .didOpen => (readParams readOpening n.params).toOption.map .opened
    | some .didChange => (readParams ChangeParams.read n.params).toOption.map .changed
    | some .didClose => (readParams readClosing n.params).toOption.map .closed
    | _ => none
  | _ => none

/-- The edit that a message makes: before the start, none. -/
def accepted? (s : ServerState Documents) (m : Message) : Option Edit :=
  match s.lifecycle with
  | .initialized => edit? m
  | .uninitialized => none

/-! ### One message -/

theorem ofName?_of_control {c : ControlMethod} {method : String}
    (hc : Wire.ofName? ControlMethod method = some c) : Wire.ofName? Method method = none := by
  obtain rfl := wireName_of_ofName? hc
  cases c <;> decide

theorem shared_run {r : Request} {h : RequestHandler Documents}
    (hh : (routerOf o).requests.get? r.method = some h) (s : ServerState Documents) :
    ((server o limit).run s r h).state.shared = s.shared := by
  unfold Dispatcher.run
  dsimp only
  split
  · rfl
  · have hmodest := (modest_of_get? hh ⟨r.id, false⟩ r.params s.shared).state
    unfold Dispatcher.invoke
    dsimp only
    split
    · exact hmodest
    · exact hmodest

theorem shared_request (s : ServerState Documents) (r : Request) :
    ((server o limit).dispatch s (.request r)).state.shared = s.shared := by
  show ((server o limit).follow s r
    ((server o limit).route s.lifecycle r.method)).state.shared = _
  have hroute := Dispatcher.routed (server o limit) s.lifecycle r.method
  generalize s.lifecycle = l at hroute
  generalize (server o limit).route l r.method = route at hroute
  cases hroute with
  | @control _ _ c hc =>
    show (Dispatcher.handleControl s c r.params).1.shared = s.shared
    rw [Dispatcher.handleControl_frame]
  | handler ho ha hh => exact shared_run hh s
  | _ => rfl

theorem state_notificationHandler {α : Type} (read : Payload.Reader α)
    (h : α → Documents → Run Documents Unit) (params : Option Json) (ds : Documents) :
    (Router.notificationHandler read h params ds).state =
      match (readParams read params).toOption with
      | some a => (h a ds).state
      | none => ds := by
  unfold Router.notificationHandler
  cases readParams read params <;> rfl

/-- A handler of notifications makes the edit of its notification, if it has one. -/
theorem state_of_get? {n : Notification} {h : NotificationHandler Documents}
    (hh : (routerOf o).notifications.get? n.method = some h) (ds : Documents) :
    (h n.params ds).state =
      match edit? (.notification n) with
      | some e => e.make ds
      | none => ds := by
  rw [get?_notifications] at hh
  unfold edit?
  dsimp only
  cases hm : Wire.ofName? Method n.method with
  | none =>
    rw [hm] at hh
    cases hh
  | some m =>
    rw [hm] at hh
    cases m with
    | started =>
      cases hh
      rw [state_notificationHandler]
      cases readParams readStarted n.params <;> rfl
    | didOpen =>
      cases hh
      rw [state_notificationHandler]
      cases readParams readOpening n.params <;> rfl
    | didChange =>
      cases hh
      rw [state_notificationHandler]
      cases readParams ChangeParams.read n.params <;> rfl
    | didClose =>
      cases hh
      rw [state_notificationHandler]
      cases readParams readClosing n.params <;> rfl
    | _ => cases hh

theorem edit?_of_unhandled {n : Notification}
    (hh : (routerOf o).notifications.get? n.method = none) :
    edit? (.notification n) = none := by
  rw [get?_notifications] at hh
  unfold edit?
  dsimp only
  cases hm : Wire.ofName? Method n.method with
  | none => rfl
  | some m =>
    rw [hm] at hh
    cases m with
    | didOpen => cases hh
    | didChange => cases hh
    | didClose => cases hh
    | _ => rfl

/-- **What a message does to the documents**: the edit that it makes, and nothing else. -/
theorem shared_dispatch (s : ServerState Documents) (m : Message) :
    ((server o limit).dispatch s m).state.shared =
      match accepted? s m with
      | some e => e.make s.shared
      | none => s.shared := by
  unfold accepted?
  cases m with
  | request r =>
    rw [shared_request]
    cases s.lifecycle <;> rfl
  | response r => cases s.lifecycle <;> rfl
  | notification n =>
    show ((server o limit).notification s n).state.shared = _
    -- what does not come to a handler asks for no edit, or comes before the start
    have hnone : edit? (.notification n) = none → s.shared =
        match (match s.lifecycle with
          | .initialized => edit? (.notification n)
          | .uninitialized => none) with
        | some e => e.make s.shared
        | none => s.shared := by
      intro hedit
      rw [hedit]
      cases s.lifecycle <;> rfl
    cases Dispatcher.noticed (server o limit) s n with
    | control hc =>
      rw [Dispatcher.notification_control hc]
      dsimp only
      rw [Dispatcher.handleControl_frame]
      refine hnone ?_
      unfold edit?
      dsimp only
      rw [ofName?_of_control hc]
    | exit hx =>
      rw [Dispatcher.notification_exit hx]
      refine hnone ?_
      unfold edit?
      dsimp only
      rw [Dispatcher.eq_of_isExit hx]
      rfl
    | early ho hl =>
      rw [Dispatcher.notification_early ho hl, hl]
    | unhandled ho hl hh =>
      rw [Dispatcher.notification_open ho hl, hh]
      exact hnone (edit?_of_unhandled hh)
    | handled ho hl hh =>
      rw [Dispatcher.notification_open ho hl, hh, hl]
      dsimp only
      rw [Dispatcher.notify_frame]
      exact state_of_get? hh s.shared

/-! ### Hovers -/

/-- A place in a document as a client is told of it. -/
def placeValue (p : Position) : Json :=
  .object [("character", .ofNat p.character), ("line", .ofNat p.line)]

/-- What a hover on a document is answered: null if it is not open or if there is nothing to say,
and otherwise what is to be said and the range it is about. -/
def hoverAnswer (grammars : Grammars) (p : HoverParams) :
    Option Document → Except ResponseError Json
  | none => .ok .null
  | some d =>
    match Hover.at? grammars d.languageId d.uri.text d.text p.position false with
    | .ok none => .ok .null
    | .ok (some h) => .ok (.object
        [("contents", .object [("kind", .string "markdown"), ("value", .string h.markdown)]),
          ("range", .object [("end", placeValue h.range.stop),
            ("start", placeValue h.range.start)])])
    | .error .cancelled => .error ⟨-32800, "Request cancelled", none⟩
    | .error e => .error ⟨-32803, e.message, none⟩

/-- How a hover on a document is answered if its analysis fares in one way or another; not at all
while the server waits for it without a limit. -/
def hoverVerdict? (o : Outside) (limit : Option Nat) (p : HoverParams) :
    Option Document → Option (Except ResponseError Json)
  | none => some (.ok .null)
  | some d =>
    match o.analysis p d with
    | .done => some (hoverAnswer o.grammars p (some d))
    | .lost cause => some (.error ⟨-32603, cause, none⟩)
    | .pending => limit.map fun ms =>
        .error ⟨-32803, "Request timed out after " ++ toString ms ++ "ms", none⟩

theorem hoverVerdict?_ofGrammars (grammars : Grammars) (limit : Option Nat) (p : HoverParams)
    (x : Option Document) :
    hoverVerdict? (.ofGrammars grammars) limit p x = some (hoverAnswer grammars p x) := by
  cases x <;> rfl

theorem verdict_hover (o : Outside) (limit : Option Nat) (id : RequestId) (p : HoverParams)
    (ds : Documents) :
    Dispatcher.verdict limit (hover o ⟨id, false⟩ p ds).ending =
      hoverVerdict? o limit p (ds.get? p.uri) := by
  unfold hover hoverVerdict?
  cases ds.get? p.uri with
  | none => rfl
  | some d =>
    dsimp only
    cases o.analysis p d with
    | lost cause => rfl
    | pending => cases limit <;> rfl
    | done =>
      unfold hoverAnswer
      dsimp only
      cases Hover.at? o.grammars d.languageId d.uri.text d.text p.position false with
      | ok h => cases h <;> rfl
      | error e => cases e <;> rfl

theorem get?_hover (o : Outside) {r : Request} (hm : r.method = wireName Method.hover) :
    (routerOf o).requests.get? r.method =
      some (Router.requestHandler HoverParams.read (hover o)) := by
  rw [get?_requests, hm]
  rfl

/-- A hover that runs its handler is answered from the document of its address. -/
theorem response_hover {r : Request} {p : HoverParams} (hm : r.method = wireName Method.hover)
    (hp : readParams HoverParams.read r.params = .ok p)
    (hi : (server o limit).invoked s (.request r) ≠ []) :
    ((server o limit).dispatch s (.request r)).response =
      (hoverVerdict? o limit p (s.shared.get? p.uri)).map (Response.mk r.id) := by
  rw [← verdict_hover o limit r.id]
  exact (Dispatcher.dispatch_verdict hi (get?_hover o hm) (Router.requestHandler_ok hp _ _ _)).1

/-! ### Histories -/

/-- The edits of the document of an address in a history, in their order. -/
def editsOf (u : Url) (es : List (Event Documents)) : List Edit :=
  (es.filterMap fun e => accepted? e.before e.message).filter fun e => u = e.uri

/-- The document of an address that the edits of it make, where none was. -/
def reference (u : Url) (es : List (Event Documents)) : Option Document :=
  (editsOf u es).foldl (fun x e => e.apply x) none

theorem editsOf_cons (u : Url) (e : Event Documents) (es : List (Event Documents)) :
    editsOf u (e :: es) = ((accepted? e.before e.message).toList.filter fun e => u = e.uri) ++
      editsOf u es := by
  unfold editsOf
  rw [List.filterMap_cons]
  cases accepted? e.before e.message with
  | none => rfl
  | some x => exact List.filter_append [x] _

/-- One message does to the document of an address what its edits of it do. -/
theorem get?_dispatch (s : ServerState Documents) (m : Message) (u : Url) :
    ((server o limit).dispatch s m).state.shared.get? u =
      ((accepted? s m).toList.filter fun e => u = e.uri).foldl (fun x e => e.apply x)
        (s.shared.get? u) := by
  rw [shared_dispatch]
  cases accepted? s m with
  | none => rfl
  | some e =>
    dsimp only
    rw [Edit.get?_make, Option.toList_some]
    by_cases hu : u = e.uri
    · rw [if_pos hu, List.filter_cons_of_pos (by simp [hu])]
      rfl
    · rw [if_neg hu, List.filter_cons_of_neg (by simp [hu])]
      rfl

theorem get?_after (s : ServerState Documents) (ms : List Message) (u : Url) :
    ((server o limit).after s ms).shared.get? u =
      (editsOf u ((server o limit).history s ms)).foldl (fun x e => e.apply x)
        (s.shared.get? u) := by
  induction ms generalizing s with
  | nil => rfl
  | cons m ms ih =>
    show ((server o limit).after ((server o limit).dispatch s m).state
      ms).shared.get? u = _
    rw [ih, get?_dispatch, Dispatcher.history, editsOf_cons, List.foldl_append]

/-- A message that is no edit of the document of an address: one that names another document, a
request of whatever method, a notification that asks for no edit or whose payload cannot be read,
or a change of a document that is not open. -/
inductive Aside (u : Url) (s : ServerState Documents) : Message → Prop
  | elsewhere {m : Message} {e : Edit} : edit? m = some e → u ≠ e.uri → Aside u s m
  | request (r : Request) : Aside u s (.request r)
  | unread {n : Notification} : edit? (.notification n) = none → Aside u s (.notification n)
  | unopened {m : Message} {p : ChangeParams} : edit? m = some (.changed p) →
    s.shared.get? p.document.uri = none → Aside u s m

theorem accepted?_or (s : ServerState Documents) (m : Message) :
    accepted? s m = edit? m ∨ accepted? s m = none := by
  unfold accepted?
  cases s.lifecycle with
  | initialized => exact Or.inl rfl
  | uninitialized => exact Or.inr rfl

theorem get?_of_aside (h : Aside u s m) :
    ((server o limit).dispatch s m).state.shared.get? u = s.shared.get? u := by
  rw [shared_dispatch]
  rcases accepted?_or s m with hedit | hnone
  · rw [hedit]
    cases h with
    | elsewhere he hu =>
      rw [he]
      dsimp only
      rw [Edit.get?_make, if_neg hu]
    | request r => rfl
    | unread he => rw [he]
    | @unopened m p he hclosed =>
      rw [he]
      show ((Edit.changed p).make s.shared).get? u = s.shared.get? u
      rw [Edit.get?_changed]
      by_cases hu : u = p.document.uri
      · rw [if_pos hu, hu, hclosed, Edit.apply_changed_none]
      · rw [if_neg hu]
  · rw [hnone]

/-- **Hovers are answered from the latest text of their own document.** After whatever messages,
the document of an address is what the accepted edits of it make, in their order: the payload of an
opening, the version and the last text of each change of an open document, nothing after a closing.
A hover on the address that runs its handler is answered from that document. All other messages
leave it as it is. -/
theorem documents_of_history (grammars : Grammars) (limit : Option Nat) (ms : List Message)
    (u : Url) :
    let d := dispatcher grammars limit
    let s := d.after (.start .empty) ms
    s.shared.get? u = reference u (d.history (.start .empty) ms) ∧
      (∀ r p, r.method = wireName Method.hover → readParams HoverParams.read r.params = .ok p →
        p.uri = u → d.invoked s (.request r) ≠ [] →
        (d.dispatch s (.request r)).response =
          some ⟨r.id, hoverAnswer grammars p (reference u (d.history (.start .empty) ms))⟩) ∧
      ∀ m, Aside u s m → (d.dispatch s m).state.shared.get? u = s.shared.get? u := by
  intro d s
  have hget : s.shared.get? u = reference u (d.history (.start .empty) ms) :=
    get?_after (.start .empty) ms u
  refine ⟨hget, ?_, fun m hm => get?_of_aside hm⟩
  intro r p hm hp hu hi
  rw [response_hover hm hp hi, hoverVerdict?_ofGrammars, hu, hget]
  rfl

/-- A start, an opening, two changes in one notification, a closing that is sent as a request, an
opening of another document, and a change without a payload. -/
def editMessages : List Message :=
  [.request ⟨.number 1, "initialize", some (.object [("capabilities", .object [])])⟩,
    .notification ⟨"textDocument/didOpen", some (.object [("textDocument", .object
      [("languageId", .string "json"), ("text", .string "1"), ("uri", .string "file:///a"),
        ("version", .ofNat 1)])])⟩,
    .notification ⟨"textDocument/didChange", some (.object
      [("contentChanges", .array [.object [("text", .string "2")], .object [("text", .string "3")]]),
        ("textDocument", .object [("uri", .string "file:///a"), ("version", .ofNat 5)])])⟩,
    .request ⟨.number 2, "textDocument/didClose",
      some (.object [("textDocument", .object [("uri", .string "file:///a")])])⟩,
    .notification ⟨"textDocument/didOpen", some (.object [("textDocument", .object
      [("languageId", .string "json"), ("text", .string "4"), ("uri", .string "file:///b"),
        ("version", .ofNat 1)])])⟩,
    .notification ⟨"textDocument/didChange", none⟩]

def hoverRequest : Request :=
  ⟨.number 3, "textDocument/hover", some (.object
    [("position", .object [("character", .ofNat 0), ("line", .ofNat 0)]),
      ("textDocument", .object [("uri", .string "file:///a")])])⟩

def editedDocument : Document := ⟨⟨"file:///a"⟩, "json", 5, "3"⟩

theorem documents_of_editMessages :
    (bareServer.after (.start .empty) editMessages).shared.get? ⟨"file:///a"⟩ =
        some editedDocument ∧
      (bareServer.dispatch (bareServer.after (.start .empty) editMessages)
        (.request hoverRequest)).response = some ⟨.number 3,
          hoverAnswer noGrammar ⟨⟨"file:///a"⟩, ⟨0, 0⟩, none⟩ (some editedDocument)⟩ := by
  have href : reference ⟨"file:///a"⟩ (bareServer.history (.start .empty) editMessages) =
      some editedDocument := by decide +kernel
  have hcalls : bareServer.invoked (bareServer.after (.start .empty) editMessages)
      (.request hoverRequest) = [.request "textDocument/hover"] := by decide +kernel
  obtain ⟨hget, hanswer, -⟩ := documents_of_history noGrammar none editMessages ⟨"file:///a"⟩
  refine ⟨hget.trans href, ?_⟩
  rw [← href]
  refine hanswer hoverRequest _ rfl rfl rfl ?_
  show bareServer.invoked (bareServer.after (.start .empty) editMessages) (.request hoverRequest) ≠ []
  rw [hcalls]
  exact List.cons_ne_nil _ _

end Backend

end SyntaxServer
