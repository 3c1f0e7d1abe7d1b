import SyntaxServer.Proofs.Frame.Blocks
import SyntaxServer.Proofs.Rpc.Cancel
import SyntaxServer.Proofs.Server.Alike
import SyntaxServer.Server.Backend

/-!
Cancellations of answered requests. A cancellation changes no frame of the server's sessions,
whatever is read after it, if and only if its request is among the last 64 that reached their
handlers, or cancellations of it are all that wait (`unnoticed_iff`). So it goes unnoticed after
a request that reached its handler, but in general not after one that was refused before.
-/

namespace SyntaxServer

namespace Dispatcher

variable {σ : Type} {d : Dispatcher σ} {s : ServerState σ} {n : Notification} {k : RequestId}

theorem target?_eq_some_iff {method : String} {params : Option Json} :
    target? method params = some k ↔
      Wire.ofName? ControlMethod method = some .cancelRequest ∧
        ∃ p, readParams CancelParams.read params = .ok p ∧ p.id = k := by
  unfold target?
  split
  case h_1 h =>
    rw [h, and_iff_right rfl]
    cases readParams CancelParams.read params with
    | error e => simp [Except.toOption]
    | ok p => simp [Except.toOption]
  case h_2 h =>
    refine ⟨nofun, fun hk => absurd hk.1 h⟩

theorem proper_of_target? {method : String} {params : Option Json}
    (h : target? method params = some k) : k.Proper := by
  obtain ⟨-, p, hp, rfl⟩ := target?_eq_some_iff.1 h
  exact CancelParams.proper_of_read (readParams_eq_ok_iff.1 hp)

theorem dispatch_cancel (hbox : s.outbox = []) (hk : cancels? (.notification n) = some k) :
    (d.dispatch s (.notification n)).state = { s with registry := (s.registry.cancel k).2 } ∧
      (d.dispatch s (.notification n)).response = none ∧
      (d.dispatch s (.notification n)).notifications = [] ∧
      (d.dispatch s (.notification n)).control = .proceed := by
  obtain ⟨hc, p, hp, rfl⟩ := target?_eq_some_iff.1 hk
  unfold dispatch handle
  dsimp only
  rw [notification_control hc]
  unfold handleControl cancel
  rw [hp]
  dsimp only
  rw [hbox]
  exact ⟨rfl, rfl, rfl, rfl⟩

theorem cancels?_cancel (hk : k.Proper) : cancels? (.notification (.cancel k)) = some k := by
  have hname : Wire.ofName? ControlMethod (Notification.cancel k).method = some .cancelRequest :=
    rfl
  exact target?_eq_some_iff.2 ⟨hname, ⟨k⟩, CancelParams.read_cancel hk, rfl⟩

/-! ### A server between two messages -/

theorem history_append (s : ServerState σ) (ms ns : List Message) :
    d.history s (ms ++ ns) = d.history s ms ++ d.history (d.after s ms) ns := by
  induction ms generalizing s with
  | nil => rfl
  | cons m ms ih => exact congrArg (_ :: ·) (ih _)

/-- After messages that are all dealt with nothing runs, the last requests that were entered are
finished, and nothing waits to be written. -/
theorem settles_after {shared : σ} {ms : List Message}
    (h : ∀ e ∈ d.history (.start shared) ms, e.Ended) :
    d.Settles (d.history (.start shared) ms) (d.after (.start shared) ms).registry ∧
      (d.after (.start shared) ms).outbox = [] := by
  -- what the history says of the state that a further message finds
  have hmore := history_append (d := d) (.start shared) ms [.response ⟨.number 0, .ok .null⟩]
  exact ⟨registry_of_history hmore h, (event_of_start hmore).2.1⟩

end Dispatcher

/-- Long texts are not among some identifiers. -/
theorem exists_fresh (ids : List RequestId) :
    ∃ n, ∀ m, n ≤ m → RequestId.text (String.ofList (List.replicate m 'a')) ∉ ids := by
  induction ids with
  | nil => exact ⟨0, fun _ _ => List.not_mem_nil⟩
  | cons id ids ih =>
    obtain ⟨n, hn⟩ := ih
    cases id with
    | number i => exact ⟨n, fun m hm => by simpa using hn m hm⟩
    | text s =>
      refine ⟨max n (s.length + 1), fun m hm => ?_⟩
      have hne : String.ofList (List.replicate m 'a') ≠ s := by
        rintro rfl
        rw [String.length_ofList, List.length_replicate] at hm
        omega
      simpa [hne] using hn m (by omega)

namespace Backend

open Session

variable {grammars : Grammars} {limit : Option Nat} {s t : ServerState Documents} {k id : RequestId}

/-! ### Requests that find what waits -/

/-- A request that reaches a handler, and that changes nothing but the registry. -/
def probe (l : Lifecycle) (k : RequestId) : Request :=
  match l with
  | .uninitialized => ⟨k, "initialize", none⟩
  | .initialized => ⟨k, "shutdown", none⟩

/-- The answer to it, if no cancellation of it waits. -/
def probeAnswer (l : Lifecycle) (k : RequestId) : Response :=
  match l with
  | .uninitialized => .failure k (.withText .invalidParams
      "Invalid params: invalid type: null, expected struct InitializeParams")
  | .initialized => .success k .null

/-- What becomes of it. -/
structure Probed (s : ServerState Documents) (k : RequestId) (x : Dispatched Documents) : Prop where
  response : x.response = some
    (if k ∈ s.registry.early then .ofCode k .requestCancelled else probeAnswer s.lifecycle k)
  notifications : x.notifications = []
  control : x.control = .proceed
  lifecycle : x.state.lifecycle = s.lifecycle
  outbox : x.state.outbox = []
  registry : x.state.registry = s.registry.turn k ()

/-- A request whose handler leaves the state alone comes to this. -/
theorem probed_of_invoke {d : Dispatcher Documents} {r : Request} {h : RequestHandler Documents}
    (hbox : s.outbox = []) (hid : r.id = k) (hr : d.route s.lifecycle r.method = .handler h)
    (hreturn : ∃ log, d.invoke { s with registry := (s.registry.enter r.id ()).2 } r h =
      ⟨{ s with registry := s.registry.turn k () }, some (probeAnswer s.lifecycle k), .proceed,
        log⟩) :
    Probed s k (d.dispatch s (.request r)) := by
  subst hid
  have hrun : ∃ log, d.run s r h =
      ⟨{ s with registry := s.registry.turn r.id () }, some
        (if r.id ∈ s.registry.early then .ofCode r.id .requestCancelled
          else probeAnswer s.lifecycle r.id), .proceed, log⟩ := by
    by_cases hk : r.id ∈ s.registry.early
    · rw [if_pos hk]
      exact ⟨_, Dispatcher.run_cancelled hk h⟩
    · rw [if_neg hk, Dispatcher.run_invoked hk h]
      exact hreturn
  obtain ⟨log, hrun⟩ := hrun
  obtain ⟨hresponse, hnotes, hcontrol, hstate⟩ := Dispatcher.dispatch_run hr hrun
  exact ⟨hresponse, hnotes.trans hbox, hcontrol, by rw [hstate], by rw [hstate], by rw [hstate]⟩

theorem probed (hbox : s.outbox = []) (k : RequestId) :
    Probed s k ((dispatcher grammars limit).dispatch s (.request (probe s.lifecycle k))) := by
  obtain ⟨lifecycle, registry, outbox, shared⟩ := s
  cases hbox
  cases lifecycle with
  | uninitialized => exact probed_of_invoke rfl rfl rfl ⟨_, rfl⟩
  | initialized => exact probed_of_invoke rfl rfl rfl ⟨_, rfl⟩

/-! ### Frames of messages -/

def readingOf (m : Message) : Reading :=
  ⟨.ok ⟨m.toJson.body.length, m.toJson.body⟩, [], .ofBytes [] .closed⟩

theorem eq_of_bytes {m m' : Message} (hm : Message.decode m.toJson.body = .ok m)
    (hm' : Message.decode m'.toJson.body = .ok m')
    (h : frame m.toJson.body = frame m'.toJson.body) : m = m' := by
  rw [frame_inj h] at hm
  exact Except.ok.inj (hm.symm.trans hm')

theorem decode_probe (hk : k.Proper) (l : Lifecycle) :
    Message.decode (Message.request (probe l k)).toJson.body = .ok (.request (probe l k)) := by
  cases l with
  | uninitialized => exact Message.decode_bare hk "initialize"
  | initialized => exact Message.decode_bare hk "shutdown"

theorem decode_cancel (hk : k.Proper) :
    Message.decode (Message.notification (.cancel k)).toJson.body =
      .ok (.notification (.cancel k)) := by
  have hid := RequestId.integral_toJson hk
  have hflat := k.nesting_toJson
  refine Message.decode_body (fun v hv => ?_) ?_ ?_
  · cases hv
    simp [Json.normal, Json.normalMembers, Members.sorted, Members.insert, k.normal_toJson]
  · simp [Message.toJson, Notification.toJson, Notification.cancel, Members.optional,
      Json.integral, Json.integralMembers, hid]
  · simp [Message.toJson, Notification.toJson, Notification.cancel, Members.optional,
      Json.nesting, Json.nestingMembers, hflat]

theorem decode_answer (hk : k.Proper) {outcome : Except ResponseError Json}
    (h : outcome = .ok .null ∨ ∃ c text, outcome = .error (.withText c text) ∧
      Width.int64.holds c.code = true) :
    Message.decode (Message.response ⟨k, outcome⟩).toJson.body = .ok (.response ⟨k, outcome⟩) := by
  have hid := RequestId.integral_toJson hk
  have hflat := k.nesting_toJson
  rcases h with rfl | ⟨c, text, rfl, hc⟩
  · refine Message.decode_body ⟨hk, rfl⟩ ?_ ?_
    · simp [Message.toJson, Response.toJson, Json.integral, Json.integralMembers, hid]
    · simp [Message.toJson, Response.toJson, Json.nesting, Json.nestingMembers, hflat]
  · refine Message.decode_body ⟨hk, hc, fun v hv => absurd hv (Option.not_mem_none v)⟩ ?_ ?_
    · simp [Message.toJson, Response.toJson, ResponseError.toJson, ResponseError.withText,
        Members.optional, Json.ofInt, Json.integral, Json.integralMembers, hid, hc]
    · simp [Message.toJson, Response.toJson, ResponseError.toJson, ResponseError.withText,
        Members.optional, Json.ofInt, Json.nesting, Json.nestingMembers, hflat]

theorem bytes_ne (hk : k.Proper) (l : Lifecycle) :
    Outgoing.bytes (.response (.ofCode k .requestCancelled)) ≠
      Outgoing.bytes (.response (probeAnswer l k)) := by
  have hcancelled := decode_answer hk (Or.inr ⟨.requestCancelled, "Request cancelled", rfl, rfl⟩)
  intro heq
  cases l with
  | uninitialized =>
    have hanswer := decode_answer hk (Or.inr ⟨.invalidParams,
      "Invalid params: invalid type: null, expected struct InitializeParams", rfl, rfl⟩)
    cases eq_of_bytes hcancelled hanswer heq
  | initialized => cases eq_of_bytes hcancelled (decode_answer hk (Or.inl rfl)) heq

/-- The frame of the answer to a probe tells whether a cancellation waits. -/
theorem waits_iff_of_bytes (hk : k.Proper) (l : Lifecycle) {early early' : List RequestId}
    (h : Outgoing.bytes (.response
        (if k ∈ early then .ofCode k .requestCancelled else probeAnswer l k)) =
      Outgoing.bytes (.response
        (if k ∈ early' then .ofCode k .requestCancelled else probeAnswer l k))) :
    k ∈ early ↔ k ∈ early' := by
  have hne := bytes_ne hk l
  by_cases hs : k ∈ early
  · by_cases ht : k ∈ early'
    · exact iff_of_true hs ht
    · rw [if_pos hs, if_neg ht] at h
      exact absurd h hne
  · by_cases ht : k ∈ early'
    · rw [if_neg hs, if_pos ht] at h
      exact absurd h.symm hne
    · exact iff_of_false hs ht

/-! ### What alike states have waiting -/

/-- Two states between messages, which differ at most in the cancellations that wait and in what
handlers share. -/
structure Beside (s t : ServerState Documents) : Prop where
  lifecycle : s.lifecycle = t.lifecycle
  finished : s.registry.finished = t.registry.finished
  idle : s.registry.active = .empty ∧ t.registry.active = .empty
  outbox : s.outbox = [] ∧ t.outbox = []

theorem messageOf?_readingOf {m : Message} (h : Message.decode m.toJson.body = .ok m) :
    messageOf? (readingOf m) = some m := by
  unfold messageOf? readingOf
  dsimp only
  rw [h]
  rfl

/-- **Alike states answer a probe alike**, so the same identifiers wait in both. -/
theorem alike_probe (h : Alike (dispatcher grammars limit) s t) (hb : Beside s t)
    (hk : k.Proper) :
    (k ∈ s.registry.early ↔ k ∈ t.registry.early) ∧
      ∃ s' t', Alike (dispatcher grammars limit) s' t' ∧ Beside s' t' ∧
        s'.registry.early = s.registry.early.erase k ∧
        t'.registry.early = t.registry.early.erase k := by
  have hread := messageOf?_readingOf (decode_probe hk s.lifecycle)
  have hs : Probed s k ((dispatcher grammars limit).dispatch s _) := probed hb.outbox.1 k
  have ht : Probed t k ((dispatcher grammars limit).dispatch t _) := probed hb.outbox.2 k
  rw [← hb.lifecycle] at ht
  obtain ⟨hstate, hout, hending⟩ := react_some (d := dispatcher grammars limit) (s := s) hread
  obtain ⟨hstate', hout', hending'⟩ := react_some (d := dispatcher grammars limit) (s := t) hread
  rw [hs.control] at hending
  rw [ht.control] at hending'
  obtain ⟨hbytes, halike⟩ := alike_react h hending hending'
  have hregistry := hs.registry.trans (Registry.turn_idle hb.idle.1 k ())
  have hregistry' := ht.registry.trans (Registry.turn_idle hb.idle.2 k ())
  rw [hout, hout', hs.notifications, hs.response, ht.notifications, ht.response,
    ← hb.lifecycle] at hbytes
  rw [hstate, hstate'] at halike
  refine ⟨?_, _, _, halike, ⟨?_, ?_, ⟨?_, ?_⟩, hs.outbox, ht.outbox⟩, ?_, ?_⟩
  · exact waits_iff_of_bytes hk s.lifecycle (List.cons.inj hbytes).1
  · rw [hs.lifecycle, ht.lifecycle, hb.lifecycle]
  · rw [hregistry, hregistry', hb.finished]
  · rw [hregistry]
  · rw [hregistry']
  · rw [hregistry]
  · rw [hregistry']

/-- The same identifiers wait equally often in alike states: each probe uses one up. -/
theorem count_of_alike (h : Alike (dispatcher grammars limit) s t) (hb : Beside s t)
    (hk : k.Proper) : s.registry.early.count k = t.registry.early.count k := by
  induction hn : s.registry.early.count k generalizing s t with
  | zero =>
    have hnone := mt (alike_probe h hb hk).1.2 (List.count_eq_zero.1 hn)
    exact (List.count_eq_zero.2 hnone).symm
  | succ n ih =>
    obtain ⟨hmem, s', t', halike, hbeside, hearly, hearly'⟩ := alike_probe h hb hk
    have hs : k ∈ s.registry.early := List.count_pos_iff.1 (by omega)
    have ht := List.count_pos_iff.2 (hmem.1 hs)
    have hcount := ih halike hbeside (by rw [hearly, List.count_erase_self, hn]; rfl)
    rw [hearly', List.count_erase_self] at hcount
    omega

/-- A cancellation of a request that is not finished waits in both of two alike states. -/
theorem alike_cancel (h : Alike (dispatcher grammars limit) s t) (hb : Beside s t)
    (hid : id.Proper) (hnew : id ∉ s.registry.finished) :
    ∃ s' t', Alike (dispatcher grammars limit) s' t' ∧ Beside s' t' ∧
      s'.registry.finished = s.registry.finished ∧
      s'.registry.early = remember s.registry.early id ∧
      t'.registry.early = remember t.registry.early id := by
  have hread := messageOf?_readingOf (decode_cancel hid)
  have hcancels := Dispatcher.cancels?_cancel hid
  have hs := Dispatcher.dispatch_cancel (d := dispatcher grammars limit) hb.outbox.1 hcancels
  have ht := Dispatcher.dispatch_cancel (d := dispatcher grammars limit) hb.outbox.2 hcancels
  obtain ⟨hstate, -, hending⟩ := react_some (d := dispatcher grammars limit) (s := s) hread
  obtain ⟨hstate', -, hending'⟩ := react_some (d := dispatcher grammars limit) (s := t) hread
  rw [hs.2.2.2] at hending
  rw [ht.2.2.2] at hending'
  obtain ⟨-, halike⟩ := alike_react h hending hending'
  rw [hstate, hstate', hs.1, ht.1, Registry.cancel_idle hb.idle.1, Registry.cancel_idle hb.idle.2,
    if_neg hnew, if_neg (hb.finished ▸ hnew)] at halike
  exact ⟨_, _, halike, ⟨hb.lifecycle, hb.finished, hb.idle, hb.outbox⟩, rfl, rfl, rfl⟩

/-- Also after more cancellations the same identifiers wait equally often in alike states. -/
theorem counts_of_alike (h : Alike (dispatcher grammars limit) s t) (hb : Beside s t)
    (hk : k.Proper) (hid : id.Proper) (hnew : id ∉ s.registry.finished) (n : Nat) :
    ((remember · id)^[n] s.registry.early).count k =
      ((remember · id)^[n] t.registry.early).count k := by
  induction n generalizing s t with
  | zero => exact count_of_alike h hb hk
  | succ n ih =>
    obtain ⟨s', t', halike, hbeside, hfinished, hearly, hearly'⟩ := alike_cancel h hb hid hnew
    have hcount := ih halike hbeside (hfinished ▸ hnew)
    rwa [hearly, hearly'] at hcount

/-- **A cancellation that makes no difference** finds nothing but cancellations of its request
waiting, as many as are remembered, if the request is not finished. -/
theorem early_of_alike (hbox : s.outbox = []) (hidle : s.registry.active = .empty)
    (hbound : s.registry.early.length ≤ historySize) (hk : k.Proper)
    (hnew : k ∉ s.registry.finished)
    (h : Alike (dispatcher grammars limit) s { s with registry := (s.registry.cancel k).2 }) :
    s.registry.early = List.replicate historySize k := by
  obtain ⟨n, hn⟩ := exists_fresh (k :: s.registry.finished)
  obtain ⟨hne, hfresh⟩ := not_or.1 (mt List.mem_cons.2 (hn n (Nat.le_refl n)))
  rw [Registry.cancel_idle hidle, if_neg hnew] at h
  exact eq_replicate_of_counts hbound hne
    (counts_of_alike h ⟨rfl, rfl, ⟨hidle, hidle⟩, hbox, hbox⟩ hk trivial hfresh)

/-! ### Cancellations that go unnoticed -/

/-- One of the last requests was of this identifier, and it reached its handler. -/
def Handled (d : Dispatcher Documents) (es : List (Event Documents)) (k : RequestId) : Prop :=
  ∃ before e behind, es = before ++ e :: behind ∧ e.entered? d = some k ∧
    behind.countP (fun e => (Dispatcher.answers e.message).isSome) < historySize

theorem length_finishedIds_le (d : Dispatcher Documents) (es : List (Event Documents)) :
    (d.finishedIds es).length ≤ es.countP fun e => (Dispatcher.answers e.message).isSome := by
  induction es with
  | nil => exact Nat.le_refl 0
  | cons e es ih =>
    unfold Dispatcher.finishedIds at ih ⊢
    rw [List.countP_cons]
    cases he : e.entered? d with
    | none =>
      rw [List.filterMap_cons_none he]
      omega
    | some id =>
      have hrequest : (Dispatcher.answers e.message).isSome = true := by
        unfold Event.entered? at he
        cases hm : e.message with
        | request r => rfl
        | _ =>
          rw [hm] at he
          cases he
      rw [List.filterMap_cons_some he, List.length_cons, if_pos hrequest]
      omega

theorem mem_finishedIds_of_handled {d : Dispatcher Documents} {es : List (Event Documents)}
    (h : Handled d es k) : k ∈ (d.finishedIds es).rtake historySize := by
  obtain ⟨before, e, behind, rfl, he, hfew⟩ := h
  have hids : d.finishedIds (before ++ e :: behind) =
      d.finishedIds before ++ k :: d.finishedIds behind := by
    unfold Dispatcher.finishedIds
    rw [List.filterMap_append, List.filterMap_cons_some he]
  rw [hids]
  exact mem_rtake_of_lt (Nat.lt_of_le_of_lt (length_finishedIds_le d behind) hfew)

/-- **When a cancellation goes unnoticed.** Wherever it comes in a session, the notification that
cancels a request changes no frame, whatever is read after it, if and only if the request is among
the last 64 that reached their handlers, or 64 cancellations of it, and no others, wait already. In
particular it changes none if one of the last 64 requests was of its identifier and reached its
handler. -/
theorem unnoticed_iff {shared : Documents} {pre : List Reading} {r : Reading} {n : Notification}
    (hpre : after? (dispatcher grammars limit) (.start shared) pre = some s)
    (hr : messageOf? r = some (.notification n))
    (hk : Dispatcher.cancels? (.notification n) = some k) :
    (Unnoticed (dispatcher grammars limit) shared pre r ↔
      k ∈ ((dispatcher grammars limit).finishedIds
          (eventsOf (dispatcher grammars limit) shared pre)).rtake historySize ∨
        s.registry.early = List.replicate historySize k) ∧
    (Handled (dispatcher grammars limit) (eventsOf (dispatcher grammars limit) shared pre) k →
      Unnoticed (dispatcher grammars limit) shared pre r) := by
  obtain ⟨rfl, hproceed⟩ := after?_spec hpre
  obtain ⟨hsettled, hbox⟩ := Dispatcher.settles_after fun e he => by
    unfold Event.Ended
    rw [hproceed e he]
    decide
  obtain ⟨hstate, hout, hending⟩ := react_some (d := dispatcher grammars limit) (s := _) hr
  obtain ⟨hcancel, hresponse, hnotes, hcontrol⟩ :=
    Dispatcher.dispatch_cancel (d := dispatcher grammars limit) hbox hk
  rw [hnotes, hresponse] at hout
  rw [hcontrol] at hending
  rw [hcancel] at hstate
  have hunchanged : ∀ {id}, id ∈ ((dispatcher grammars limit).finishedIds
        (eventsOf (dispatcher grammars limit) shared pre)).rtake historySize ↔
      id ∈ ((dispatcher grammars limit).after (.start shared)
        (pre.filterMap messageOf?)).registry.finished := by
    intro id
    rw [hsettled.finished]
    rfl
  have hsame : k ∈ ((dispatcher grammars limit).finishedIds
        (eventsOf (dispatcher grammars limit) shared pre)).rtake historySize ∨
      ((dispatcher grammars limit).after (.start shared)
        (pre.filterMap messageOf?)).registry.early = List.replicate historySize k →
      Unnoticed (dispatcher grammars limit) shared pre r := by
    intro h
    refine unnoticed_of_same hpre hout hending (hstate.trans ?_)
    rw [Registry.cancel_unchanged hsettled.idle (h.imp_left hunchanged.1)]
  refine ⟨⟨fun h => ?_, hsame⟩, fun h => hsame (Or.inl (mem_finishedIds_of_handled h))⟩
  refine Classical.or_iff_not_imp_left.2 fun hnew => ?_
  have halike := alike_of_unnoticed hpre hout hending h
  rw [hstate] at halike
  exact early_of_alike hbox hsettled.idle hsettled.bounded (Dispatcher.proper_of_target? hk)
    (mt hunchanged.2 hnew) halike

/-- A server without grammars and without a limit. -/
def plainServer : Dispatcher Documents := dispatcher (fun _ _ => .error .noTree) none

def startReading : Reading :=
  readingOf (.request ⟨.number 1, "initialize", some (.object [("capabilities", .object [])])⟩)

def shutdownReading : Reading := readingOf (.request ⟨.number 7, "shutdown", none⟩)

/-- A cancellation of the request to shut down. -/
def cancelReading : Reading := readingOf (.notification (.cancel (.number 7)))

/-- After the start the request reaches its handler, and its cancellation goes unnoticed. -/
theorem unnoticed_handled :
    (∃ s, after? plainServer (.start .empty) [startReading, shutdownReading] = some s) ∧
      messageOf? cancelReading = some (.notification (.cancel (.number 7))) ∧
      Dispatcher.cancels? (.notification (.cancel (.number 7))) = some (.number 7) ∧
      Unnoticed plainServer .empty [startReading, shutdownReading] cancelReading := by
  have hgoes :
      (after? plainServer (.start .empty) [startReading, shutdownReading]).isSome = true := by
    decide +kernel
  obtain ⟨s, hs⟩ := Option.isSome_iff_exists.1 hgoes
  have hr := messageOf?_readingOf (decode_cancel (k := .number 7) rfl)
  have hk := Dispatcher.cancels?_cancel (k := .number 7) rfl
  refine ⟨⟨s, hs⟩, hr, hk, (unnoticed_iff hs hr hk).1.2 (Or.inl ?_)⟩
  decide +kernel

/-- **Before the start it does not**: the request is refused, and its cancellation, which comes
after the answer, hits the next request of that identifier. -/
theorem noticed_refused :
    (serve plainServer (.start .empty) .unbounded [shutdownReading]).messages.filterMap
        Outgoing.answered? = [.number 7] ∧
      ¬ Unnoticed plainServer .empty [shutdownReading] cancelReading := by
  refine ⟨by decide +kernel, fun h => ?_⟩
  have hlast := congrArg List.getLast? (h .unbounded [startReading, shutdownReading])
  revert hlast
  decide +kernel

end Backend

end SyntaxServer
