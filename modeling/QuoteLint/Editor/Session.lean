import QuoteLint.Editor.Document

/-! The open documents of an editor, and what is published as they change. -/

namespace QuoteLint.Editor

/-- What an editor tells of a document. A change lists texts that replace the document one after
another. -/
inductive Event where
  | opened (uri : String) (text : String)
  | changed (uri : String) (texts : List String)
  | closed (uri : String)
  | hovered (uri : String) (line : Nat)
  deriving DecidableEq, Repr

structure Publication where
  uri : String
  marks : List Mark
  deriving DecidableEq, Repr

structure Session where
  registry : Registry
  settings : RuleSettings
  documents : NameMap Document

namespace Session

def start (registry : Registry) (settings : RuleSettings) : Session :=
  ⟨registry, settings, .empty⟩

def store (session : Session) (uri text : String) : Session × List Publication :=
  let document := Document.ofText session.registry session.settings text
  ({ session with documents := session.documents.insert uri document }, [⟨uri, document.marks⟩])

def hover? (session : Session) (uri : String) (line : Nat) : Option Hover := do
  let document ← session.documents.find? uri
  document.hover? session.registry line

/-- Follows one event. Of several texts the last counts, and a change without any does nothing. -/
def follow (session : Session) : Event → Session × List Publication
  | .opened uri text => session.store uri text
  | .changed uri texts =>
    match texts.getLast? with
    | some text => session.store uri text
    | none => (session, [])
  | .closed uri => ({ session with documents := session.documents.erase uri }, [⟨uri, []⟩])
  | .hovered _ _ => (session, [])

end Session

end QuoteLint.Editor
