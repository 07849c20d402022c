import QuoteLint.Editor.Session

/-! What a session holds and what it has published, as functions of the events that it followed. For
each document only the latest event that tells anything of it counts: the text that this event
gives, or that the document was closed. -/

namespace QuoteLint.Editor

namespace Event

def uri : Event → String
  | .opened uri _ => uri
  | .changed uri _ => uri
  | .closed uri => uri
  | .hovered uri _ => uri

/-- A document gets a text when it is opened with it, or when a change lists it last. -/
inductive Gives (uri text : String) : Event → Prop
  | opened : Gives uri text (.opened uri text)
  | changed (earlier : List String) : Gives uri text (.changed uri (earlier ++ [text]))

def told? (uri : String) : Event → Option (Option String)
  | .opened other text => if other = uri then some (some text) else none
  | .changed other texts => if other = uri then texts.getLast?.map some else none
  | .closed other => if other = uri then some none else none
  | .hovered _ _ => none

theorem told?_eq_text_iff (uri text : String) (event : Event) :
    event.told? uri = some (some text) ↔ event.Gives uri text := by
  constructor
  · intro told
    cases event with
    | opened other given =>
        obtain ⟨rfl, rfl⟩ : other = uri ∧ given = text := by simpa [told?] using told
        exact .opened
    | changed other texts =>
        obtain ⟨rfl, last⟩ : other = uri ∧ texts.getLast? = some text := by simpa [told?] using told
        obtain ⟨earlier, rfl⟩ := List.getLast?_eq_some_iff.mp last
        exact .changed earlier
    | closed other => simp [told?] at told
    | hovered other line => cases told
  · intro given
    cases given with
    | opened => simp [told?]
    | changed earlier => simp [told?]

theorem told?_eq_closed_iff (uri : String) (event : Event) :
    event.told? uri = some none ↔ event = .closed uri := by
  cases event with
  | opened other given => simp [told?]
  | changed other texts => simp [told?]
  | closed other => simp [told?]
  | hovered other line => simp [told?]

theorem told?_eq_none_iff (uri : String) (event : Event) :
    event.told? uri = none ↔ event ≠ .closed uri ∧ ∀ text, ¬ event.Gives uri text := by
  constructor
  · intro silent
    refine ⟨?_, ?_⟩
    · intro closed
      have told := (told?_eq_closed_iff uri event).mpr closed
      simp [silent] at told
    · intro text given
      have told := (told?_eq_text_iff uri text event).mpr given
      simp [silent] at told
  · rintro ⟨unclosed, without⟩
    cases told : event.told? uri with
    | none => rfl
    | some latest =>
        cases latest with
        | none => exact absurd ((told?_eq_closed_iff uri event).mp told) unclosed
        | some text => exact absurd ((told?_eq_text_iff uri text event).mp told) (without text)

theorem told?_of_other (uri : String) (event : Event) (other : event.uri ≠ uri) :
    event.told? uri = none := by
  cases event with
  | opened name text => exact if_neg other
  | changed name texts => exact if_neg other
  | closed name => exact if_neg other
  | hovered name line => rfl

end Event

section History

variable (events : List Event) (uri : String)

def latestTold? : Option (Option String) := events.reverse.findSome? (Event.told? uri)

/-- The document was given a text after it was last closed. -/
def IsOpen : Prop :=
  ∃ before event after text, events = before ++ event :: after ∧ event.Gives uri text ∧
    Event.closed uri ∉ after

/-- No event gives the document another text after this one, nor closes it. -/
def IsLatestText (text : String) : Prop :=
  ∃ before event after, events = before ++ event :: after ∧ event.Gives uri text ∧
    ∀ later ∈ after, later ≠ .closed uri ∧ ∀ other, ¬ later.Gives uri other

theorem latestTold?_append (more : List Event) :
    latestTold? (events ++ more) uri = (latestTold? more uri).or (latestTold? events uri) := by
  simp [latestTold?, List.findSome?_append]

theorem latestTold?_cons (event : Event) :
    latestTold? (event :: events) uri = (latestTold? events uri).or (event.told? uri) := by
  have single : latestTold? [event] uri = event.told? uri := by simp [latestTold?]
  rw [← single, ← latestTold?_append, List.singleton_append]

theorem latestTold?_eq_some_iff (told : Option String) :
    latestTold? events uri = some told ↔
      ∃ before event after, events = before ++ event :: after ∧ event.told? uri = some told ∧
        ∀ later ∈ after, later.told? uri = none := by
  rw [latestTold?, List.findSome?_eq_some_iff]
  constructor
  · rintro ⟨after, event, before, cut, tells, silent⟩
    refine ⟨before.reverse, event, after.reverse, ?_, tells, ?_⟩
    · simpa using congrArg List.reverse cut
    · intro later member
      exact silent later (List.mem_reverse.mp member)
  · rintro ⟨before, event, after, rfl, tells, silent⟩
    refine ⟨after.reverse, event, before.reverse, by simp, tells, ?_⟩
    intro later member
    exact silent later (List.mem_reverse.mp member)

theorem latestTold?_eq_text_iff (text : String) :
    latestTold? events uri = some (some text) ↔ IsLatestText events uri text := by
  simp only [latestTold?_eq_some_iff, IsLatestText, Event.told?_eq_text_iff,
    Event.told?_eq_none_iff]

theorem closed_of_latestTold? (told : latestTold? events uri = some none) :
    Event.closed uri ∈ events := by
  obtain ⟨before, event, after, rfl, tells, -⟩ := (latestTold?_eq_some_iff events uri none).mp told
  rw [(Event.told?_eq_closed_iff uri event).mp tells]
  simp

theorem latestTold?_ne_none_of_closed (closed : Event.closed uri ∈ events) :
    latestTold? events uri ≠ none := by
  intro silent
  have told := List.findSome?_eq_none_iff.mp silent (.closed uri) (List.mem_reverse.mpr closed)
  rw [(Event.told?_eq_closed_iff uri _).mpr rfl] at told
  cases told

theorem isOpen_iff : IsOpen events uri ↔ ∃ text, latestTold? events uri = some (some text) := by
  constructor
  · rintro ⟨before, event, after, text, rfl, given, unclosed⟩
    rw [latestTold?_append, latestTold?_cons, (Event.told?_eq_text_iff uri text event).mpr given]
    cases told : latestTold? after uri with
    | none => exact ⟨text, rfl⟩
    | some latest =>
        cases latest with
        | none => exact absurd (closed_of_latestTold? after uri told) unclosed
        | some newer => exact ⟨newer, rfl⟩
  · rintro ⟨text, told⟩
    obtain ⟨before, event, after, cut, given, silent⟩ :=
      (latestTold?_eq_text_iff events uri text).mp told
    exact ⟨before, event, after, text, cut, given, fun closed => (silent _ closed).1 rfl⟩

end History

def lastPublished? (published : List Publication) (uri : String) : Option (List Mark) :=
  (published.reverse.find? (·.uri == uri)).map (·.marks)

theorem lastPublished?_append (published more : List Publication) (uri : String) :
    lastPublished? (published ++ more) uri =
      (lastPublished? more uri).or (lastPublished? published uri) := by
  simp [lastPublished?, List.find?_append, Option.map_or]

theorem lastPublished?_singleton (name : String) (marks : List Mark) (uri : String) :
    lastPublished? [⟨name, marks⟩] uri = if name = uri then some marks else none := by
  by_cases same : name = uri
  · simp [lastPublished?, same]
  · simp [lastPublished?, same]

namespace Session

def kept? (session : Session) (told : Option String) : Option Document :=
  told.map (Document.ofText session.registry session.settings)

def shown (session : Session) (told : Option String) : List Mark :=
  ((session.kept? told).map Document.marks).getD []

def run (session : Session) : List Event → Session × List Publication
  | [] => (session, [])
  | event :: rest =>
    let later := (session.follow event).1.run rest
    (later.1, (session.follow event).2 ++ later.2)

theorem run_append (session : Session) (front back : List Event) :
    session.run (front ++ back) =
      (((session.run front).1.run back).1,
        (session.run front).2 ++ ((session.run front).1.run back).2) := by
  induction front generalizing session with
  | nil => rfl
  | cons event rest ih => simp only [List.cons_append, run, ih, List.append_assoc]

/-- What one event can do: nothing, keep a new text and publish its marks, or drop a document and
publish that nothing is marked in it. -/
theorem follow_cases (session : Session) (event : Event) :
    (session.follow event = (session, []) ∧ ∀ uri, event.told? uri = none) ∨
    (∃ text, session.follow event = session.store event.uri text ∧
      ∀ uri, event.told? uri = if event.uri = uri then some (some text) else none) ∨
    (session.follow event =
        ({ session with documents := session.documents.erase event.uri }, [⟨event.uri, []⟩]) ∧
      ∀ uri, event.told? uri = if event.uri = uri then some none else none) := by
  cases event with
  | opened name text => exact .inr (.inl ⟨text, rfl, fun uri => rfl⟩)
  | changed name texts =>
      simp only [follow, Event.told?, Event.uri]
      cases texts.getLast? with
      | none => exact .inl ⟨rfl, by simp⟩
      | some text => exact .inr (.inl ⟨text, rfl, fun uri => rfl⟩)
  | closed name => exact .inr (.inr ⟨rfl, fun uri => rfl⟩)
  | hovered name line => exact .inl ⟨rfl, fun uri => rfl⟩

theorem follow_rules (session : Session) (event : Event) :
    (session.follow event).1.registry = session.registry ∧
      (session.follow event).1.settings = session.settings := by
  obtain ⟨quiet, -⟩ | ⟨text, stored, -⟩ | ⟨dropped, -⟩ := session.follow_cases event
  · rw [quiet]
    exact ⟨rfl, rfl⟩
  · rw [stored]
    exact ⟨rfl, rfl⟩
  · rw [dropped]
    exact ⟨rfl, rfl⟩

theorem follow_find? (session : Session) (event : Event) (uri : String) :
    (session.follow event).1.documents.find? uri =
      ((event.told? uri).map session.kept?).getD (session.documents.find? uri) := by
  obtain ⟨quiet, tells⟩ | ⟨text, stored, tells⟩ | ⟨dropped, tells⟩ := session.follow_cases event
  · rw [quiet, tells]
    rfl
  · rw [stored, tells]
    by_cases same : event.uri = uri
    · simp [store, same, kept?]
    · simp [store, same, Ne.symm same]
  · rw [dropped, tells]
    by_cases same : event.uri = uri
    · simp [same, kept?]
    · simp [same, Ne.symm same]

theorem follow_published (session : Session) (event : Event) (uri : String) :
    lastPublished? (session.follow event).2 uri = (event.told? uri).map session.shown := by
  obtain ⟨quiet, tells⟩ | ⟨text, stored, tells⟩ | ⟨dropped, tells⟩ := session.follow_cases event
  · rw [quiet, tells]
    rfl
  · rw [stored, tells, store, lastPublished?_singleton]
    split <;> rfl
  · rw [dropped, tells, lastPublished?_singleton]
    split <;> rfl

theorem uri_of_mem_follow (session : Session) (event : Event) (publication : Publication)
    (member : publication ∈ (session.follow event).2) : publication.uri = event.uri := by
  obtain ⟨quiet, -⟩ | ⟨text, stored, -⟩ | ⟨dropped, -⟩ := session.follow_cases event
  · rw [quiet] at member
    cases member
  · rw [stored] at member
    exact congrArg Publication.uri (List.mem_singleton.mp member)
  · rw [dropped] at member
    exact congrArg Publication.uri (List.mem_singleton.mp member)

theorem run_rules (session : Session) (events : List Event) :
    (session.run events).1.registry = session.registry ∧
      (session.run events).1.settings = session.settings := by
  induction events generalizing session with
  | nil => exact ⟨rfl, rfl⟩
  | cons event rest ih =>
      obtain ⟨registry, settings⟩ := session.follow_rules event
      obtain ⟨later, after⟩ := ih (session.follow event).1
      exact ⟨later.trans registry, after.trans settings⟩

theorem kept?_follow (session : Session) (event : Event) :
    (session.follow event).1.kept? = session.kept? := by
  obtain ⟨registry, settings⟩ := session.follow_rules event
  funext told
  rw [kept?, registry, settings, kept?]

theorem shown_follow (session : Session) (event : Event) :
    (session.follow event).1.shown = session.shown := by
  funext told
  rw [shown, kept?_follow, shown]

theorem run_find? (session : Session) (events : List Event) (uri : String) :
    (session.run events).1.documents.find? uri =
      ((latestTold? events uri).map session.kept?).getD (session.documents.find? uri) := by
  induction events generalizing session with
  | nil => rfl
  | cons event rest ih =>
      have tail : (session.run (event :: rest)).1.documents.find? uri = _ :=
        ih (session.follow event).1
      rw [tail, kept?_follow, follow_find?, latestTold?_cons]
      cases latestTold? rest uri <;> rfl

theorem run_published (session : Session) (events : List Event) (uri : String) :
    lastPublished? (session.run events).2 uri = (latestTold? events uri).map session.shown := by
  induction events generalizing session with
  | nil => rfl
  | cons event rest ih =>
      rw [run, lastPublished?_append, ih, shown_follow, follow_published, latestTold?_cons,
        Option.map_or]

end Session

end QuoteLint.Editor
