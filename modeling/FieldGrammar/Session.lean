import FieldGrammar.Edit
import FieldGrammar.Gate

/-!
# Editing sessions

A session is a text being edited: the caret, the configuration in force, the
suggestion gate and the tickets handed out so far.  Every step starts from a
fresh analysis of the text.
-/

namespace FieldGrammar

structure Session where
  text : String
  caret : Nat
  config : Config
  gate : Gate
  tickets : List Ticket

namespace Session

def start (text : String) (caret : Nat) (config : Config) : Session :=
  { text := text, caret := caret, config := config, gate := Gate.start, tickets := [] }

inductive Step where
  | type (text : String)
  | splice (span : Span) (text : String)
  | append (values : List String)
  | replace (values : List String)
  | moveCaret (offset : Nat)
  /-- Chooses a suggestion by its index in a page. -/
  | accept (index page pageSize : Nat)
  | fetch (page pageSize : Nat)
  | issue
  | invalidate
  | checkTickets
  | configure (config : Except ConfigError Config)

inductive Reply where
  | nothing
  | editError (error : EditError)
  | configError (error : ConfigError)
  | lookupError (error : LookupError)
  | noRequest
  | noSuchSuggestion
  | stale
  | delivered (answer : Except LookupError (List String))
  | current (flags : List Bool)

def analysis (session : Session) : Analysis :=
  session.config.analyze session.text session.caret

def request? (session : Session) : Option Request :=
  Request.ofAnalysis? session.config session.analysis

def edited (session : Session) (edit : Edit) : Session :=
  { session with text := edit.text, caret := edit.caret }

/-- Accepting a suggestion asks the rule directly; its ticket does not matter. -/
def accept (session : Session) (index page pageSize : Nat) : Reply × Session :=
  match session.request? with
  | none => (.noRequest, session)
  | some request =>
      let session := { session with gate := session.gate.afterLookup request }
      match request.fetch page pageSize with
      | .error error => (.lookupError error, session)
      | .ok values =>
          match values[index]? with
          | none => (.noSuchSuggestion, session)
          | some value => (.nothing, session.edited (Edit.insert session.text request value))

def fetch (session : Session) (page pageSize : Nat) : Reply × Session :=
  match session.request? with
  | none => (.noRequest, session)
  | some request =>
      let (answer, gate) := session.gate.fetch request page pageSize
      let session := { session with gate := gate }
      match answer with
      | none => (.stale, session)
      | some answer => (.delivered answer, session)

def perform (session : Session) : Step -> Reply × Session
  | .type text =>
      (.nothing, session.edited (Edit.splice session.text (Span.point session.caret) text))
  | .splice span text => (.nothing, session.edited (Edit.splice session.text span text))
  | .append values => (.nothing, session.edited (Edit.append session.text values))
  | .replace values =>
      match Edit.replaceActive session.text session.analysis values with
      | .error error => (.editError error, session)
      | .ok edit => (.nothing, session.edited edit)
  | .moveCaret offset => (.nothing, { session with caret := offset })
  | .accept index page pageSize => session.accept index page pageSize
  | .fetch page pageSize => session.fetch page pageSize
  | .issue =>
      let (ticket, gate) := session.gate.issue
      (.nothing, { session with gate := gate, tickets := session.tickets ++ [ticket] })
  | .invalidate => (.nothing, { session with gate := session.gate.invalidate })
  | .checkTickets => (.current (session.tickets.map session.gate.isCurrent), session)
  | .configure (.error error) => (.configError error, session)
  | .configure (.ok config) => (.nothing, { session with config := config })

end Session
end FieldGrammar
