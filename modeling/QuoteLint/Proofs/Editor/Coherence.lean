import QuoteLint.Editor.Server
import QuoteLint.Proofs.Editor.History

/-! The course of a session. The kept texts, the findings kept with them and what the editor was
last told stay in step through every sequence of events, and through every sequence of messages to
the server. -/

namespace QuoteLint.Editor

/-- What a session holds and has published, against the events that it has followed. -/
structure Coherent (registry : Registry) (settings : RuleSettings) (events : List Event)
    (session : Session) (published : List Publication) : Prop where
  registry_eq : session.registry = registry
  settings_eq : session.settings = settings
  open_iff : ∀ uri, (session.documents.find? uri).isSome = true ↔ IsOpen events uri
  content : ∀ uri document, session.documents.find? uri = some document →
    IsLatestText events uri document.content
  result : ∀ uri document, session.documents.find? uri = some document →
    document.result = lint registry settings document.content
  shown : ∀ uri document, session.documents.find? uri = some document →
    lastPublished? published uri = some (document.result.diagnostics.map (markOf document.content))
  cleared : ∀ uri, session.documents.find? uri = none → Event.closed uri ∈ events →
    lastPublished? published uri = some []
  silent : ∀ uri, session.documents.find? uri = none → Event.closed uri ∉ events →
    lastPublished? published uri = none

namespace Session

variable (registry : Registry) (settings : RuleSettings) (events : List Event)

theorem find?_run_start (uri : String) :
    ((start registry settings).run events).1.documents.find? uri =
      (latestTold? events uri).bind fun told => told.map (Document.ofText registry settings) := by
  rw [run_find?]
  cases latestTold? events uri <;> rfl

theorem find?_run_start_eq_some_iff (uri : String) (document : Document) :
    ((start registry settings).run events).1.documents.find? uri = some document ↔
      ∃ text, latestTold? events uri = some (some text) ∧
        Document.ofText registry settings text = document := by
  rw [find?_run_start]
  cases latestTold? events uri with
  | none => simp
  | some told =>
      cases told with
      | none => simp
      | some text => simp

theorem latestTold?_of_absent (uri : String)
    (absent : ((start registry settings).run events).1.documents.find? uri = none) :
    latestTold? events uri = none ∨ latestTold? events uri = some none := by
  rw [find?_run_start] at absent
  cases told : latestTold? events uri with
  | none => exact .inl rfl
  | some latest =>
      cases latest with
      | none => exact .inr rfl
      | some text => simp [told] at absent

theorem coherent_run : Coherent registry settings events ((start registry settings).run events).1
    ((start registry settings).run events).2 where
  registry_eq := (run_rules _ events).1
  settings_eq := (run_rules _ events).2
  open_iff uri := by
    rw [isOpen_iff, Option.isSome_iff_exists]
    constructor
    · rintro ⟨document, held⟩
      obtain ⟨text, told, -⟩ :=
        (find?_run_start_eq_some_iff registry settings events uri document).mp held
      exact ⟨text, told⟩
    · rintro ⟨text, told⟩
      exact ⟨_, (find?_run_start_eq_some_iff registry settings events uri _).mpr ⟨text, told, rfl⟩⟩
  content uri document held := by
    obtain ⟨text, told, rfl⟩ :=
      (find?_run_start_eq_some_iff registry settings events uri document).mp held
    exact (latestTold?_eq_text_iff events uri text).mp told
  result uri document held := by
    obtain ⟨text, -, rfl⟩ :=
      (find?_run_start_eq_some_iff registry settings events uri document).mp held
    rfl
  shown uri document held := by
    obtain ⟨text, told, rfl⟩ :=
      (find?_run_start_eq_some_iff registry settings events uri document).mp held
    rw [run_published, told]
    rfl
  cleared uri absent closed := by
    have told := latestTold?_of_absent registry settings events uri absent
    rw [run_published, told.resolve_left (latestTold?_ne_none_of_closed events uri closed)]
    rfl
  silent uri absent unclosed := by
    have told := latestTold?_of_absent registry settings events uri absent
    rw [run_published, told.resolve_right (mt (closed_of_latestTold? events uri) unclosed)]
    rfl

end Session

def isPublished (json : Json) : Bool :=
  (json.field? "method").bind text? == some "textDocument/publishDiagnostics"

theorem filter_isPublished (published : List Publication) :
    (published.map Publication.json).filter isPublished = published.map Publication.json := by
  apply List.filter_eq_self.mpr
  intro json member
  obtain ⟨publication, -, rfl⟩ := List.mem_map.mp member
  rfl

namespace Server

def eventOf? (params : Option Json) : Method → Option Event
  | .opened => openedEvent? params
  | .changed => changedEvent? params
  | .closed => closedEvent? params
  | .hover => (hoveredPlace? params).map fun place => .hovered place.1 place.2
  | _ => none

/-- The event that a message tells. A server that is not running hears none, nor does one that gets
a notice with an id or a request without one. -/
def event? (server : Server) (message : Message) : Option Event :=
  match Method.ofName? message.method with
  | some method =>
    if server.phase = .running ∧ method.isNotice = message.id.isNone then
      eventOf? message.params method
    else none
  | none => none

def run (server : Server) : List Message → Server × List Json
  | [] => (server, [])
  | message :: rest =>
    let later := (server.handle message).1.run rest
    (later.1, (server.handle message).2.sent ++ later.2)

def heard (server : Server) : List Message → List Event
  | [] => []
  | message :: rest => (server.event? message).toList ++ (server.handle message).1.heard rest

def Follows (server : Server) (handled : Server × Reply) (events : List Event) : Prop :=
  handled.1.session = (server.session.run events).1 ∧
    handled.2.sent.filter isPublished = (server.session.run events).2.map Publication.json

theorem handleBegin_follows (server : Server) (message : Message) :
    server.Follows (server.handleBegin message) [] := by
  unfold handleBegin
  split
  · split <;> exact ⟨rfl, rfl⟩
  · exact ⟨rfl, rfl⟩

theorem handleShutdown_follows (server : Server) (message : Message) :
    server.Follows (server.handleShutdown message) [] := by
  unfold handleShutdown
  split
  · split <;> exact ⟨rfl, rfl⟩
  · exact ⟨rfl, rfl⟩

theorem follow_follows (server : Server) (event : Option Event) :
    server.Follows (server.follow event) event.toList := by
  cases event with
  | none => exact ⟨rfl, rfl⟩
  | some event =>
      refine ⟨rfl, ?_⟩
      simp only [follow, Option.toList_some, Session.run, List.append_nil]
      exact filter_isPublished _

theorem run_eventOf?_of_request (session : Session) (params : Option Json) (method : Method)
    (request : method.isNotice = false) :
    session.run (eventOf? params method).toList = (session, []) := by
  cases method with
  | hover =>
      simp only [eventOf?]
      cases hoveredPlace? params <;> rfl
  | opened => cases request
  | changed => cases request
  | closed => cases request
  | _ => rfl

theorem handleRunning_follows (server : Server) (message : Message) (method : Method) :
    server.Follows (server.handleRunning message method)
      (eventOf? message.params method).toList := by
  cases method with
  | opened => exact server.follow_follows _
  | changed => exact server.follow_follows _
  | closed => exact server.follow_follows _
  | hover =>
      rw [Follows, run_eventOf?_of_request _ _ _ rfl]
      simp only [handleRunning]
      split <;> exact ⟨rfl, rfl⟩
  | ready =>
      simp only [handleRunning]
      split <;> exact ⟨rfl, rfl⟩
  | _ => exact ⟨rfl, rfl⟩

theorem guarded_follows (server : Server) (message : Message) (method : Method) :
    server.Follows
      (if server.phase ≠ .running then (server, server.refuseEarlyOrLate message.id)
        else if method.isNotice && message.id.isSome then
          (server, refuseWith .invalidRequest message.id)
        else server.handleRunning message method)
      (if server.phase = .running ∧ method.isNotice = message.id.isNone then
          eventOf? message.params method
        else none).toList := by
  by_cases running : server.phase = .running
  · rw [if_neg (not_not_intro running)]
    cases notice : method.isNotice with
    | true =>
        cases message.id with
        | none => simpa [running] using server.handleRunning_follows message method
        | some id =>
            simp only [running, Option.isSome_some, Option.isNone_some, Bool.and_self, ↓reduceIte]
            exact ⟨rfl, rfl⟩
    | false =>
        have followed := server.handleRunning_follows message method
        cases message.id with
        -- a request without an id reaches its handler and is not heard, which is the same to the
        -- session
        | none =>
            have quiet := run_eventOf?_of_request server.session message.params method notice
            have unheard : server.Follows (server.handleRunning message method) [] := by
              rw [Follows, quiet] at followed
              exact followed
            simpa [running] using unheard
        | some id => simpa [running] using followed
  · rw [if_pos running, if_neg (fun heard => running heard.1)]
    exact ⟨rfl, rfl⟩

theorem handle_follows (server : Server) (message : Message) :
    server.Follows (server.handle message) (server.event? message).toList := by
  unfold handle event?
  cases Method.ofName? message.method with
  | none =>
      simp only
      split <;> exact ⟨rfl, rfl⟩
  | some method =>
      cases method with
      | exit =>
          simp only [eventOf?, ite_self]
          exact ⟨rfl, rfl⟩
      | cancel =>
          simp only [eventOf?, ite_self]
          exact ⟨rfl, rfl⟩
      | begin =>
          simp only [eventOf?, ite_self]
          exact server.handleBegin_follows message
      | shutdown =>
          simp only [eventOf?, ite_self]
          exact server.handleShutdown_follows message
      | _ => exact server.guarded_follows message _

theorem run_follows (server : Server) (messages : List Message) :
    (server.run messages).1.session = (server.session.run (server.heard messages)).1 ∧
      (server.run messages).2.filter isPublished =
        (server.session.run (server.heard messages)).2.map Publication.json := by
  induction messages generalizing server with
  | nil => exact ⟨rfl, rfl⟩
  | cons message rest ih =>
      obtain ⟨session, published⟩ := server.handle_follows message
      obtain ⟨later, after⟩ := ih (server.handle message).1
      rw [session] at later after
      rw [run, heard, Session.run_append, List.filter_append, published, after, List.map_append]
      exact ⟨later, rfl⟩

end Server

/-- Through every sequence of events, and of messages of which the server hears some, the documents,
their findings and what was last published for them stay in step. An event touches no document but
its own; a hover and a change without texts touch none. -/
theorem session_stays_coherent (registry : Registry) (settings : RuleSettings) :
    (∀ events, Coherent registry settings events ((Session.start registry settings).run events).1
      ((Session.start registry settings).run events).2) ∧
    (∀ (session : Session) (event : Event) (uri : String), event.uri ≠ uri →
      (session.follow event).1.documents.find? uri = session.documents.find? uri ∧
        ∀ publication ∈ (session.follow event).2, publication.uri ≠ uri) ∧
    (∀ (session : Session) (uri : String) (line : Nat),
      session.follow (.hovered uri line) = (session, [])) ∧
    (∀ (session : Session) (uri : String), session.follow (.changed uri []) = (session, [])) ∧
    ∀ messages, ∃ published,
      ((Server.start registry settings).run messages).2.filter isPublished =
        published.map Publication.json ∧
        Coherent registry settings ((Server.start registry settings).heard messages)
          ((Server.start registry settings).run messages).1.session published := by
  refine ⟨Session.coherent_run registry settings, ?_, fun _ _ _ => rfl, fun _ _ => rfl, ?_⟩
  · intro session event uri other
    constructor
    · rw [session.follow_find?, event.told?_of_other uri other]
      rfl
    · intro publication member
      rw [session.uri_of_mem_follow event publication member]
      exact other
  · intro messages
    obtain ⟨session, published⟩ := (Server.start registry settings).run_follows messages
    refine ⟨_, published, ?_⟩
    rw [session]
    exact Session.coherent_run registry settings _

theorem session_stays_coherent_over_two_documents :
    let closed := "file:///a"
    let changed := "file:///b"
    let events : List Event := [.opened closed "\x7b\x7b \"x \x7d\x7d",
      .changed changed ["y", "\x7b\x7b 'z \x7d\x7d"], .closed closed, .changed changed [],
        .hovered changed 0]
    let start := Session.start .builtin .empty
    let session := (start.run events).1
    let published := (start.run events).2
    (∃ document, session.documents.find? changed = some document ∧
      IsLatestText events changed document.content ∧
      lastPublished? published changed =
        some (document.result.diagnostics.map (markOf document.content))) ∧
    session.documents.find? closed = none ∧ lastPublished? published closed = some [] ∧
    (session.follow (.closed closed)).1.documents.find? changed =
      session.documents.find? changed := by
  intro closed changed events start session published
  obtain ⟨coherent, others, -⟩ := session_stays_coherent .builtin .empty
  have current := coherent events
  have isOpen : IsOpen events changed :=
    ⟨[.opened closed "\x7b\x7b \"x \x7d\x7d"], _, _, _, rfl, .changed ["y"], by decide⟩
  obtain ⟨document, held⟩ := Option.isSome_iff_exists.mp ((current.open_iff changed).mpr isOpen)
  have absent : session.documents.find? closed = none :=
    Session.find?_run_start .builtin .empty events closed
  refine ⟨⟨document, held, current.content changed document held,
    current.shown changed document held⟩, absent,
    current.cleared closed absent (by decide), ?_⟩
  exact (others session (.closed closed) changed (by decide)).1

end QuoteLint.Editor
