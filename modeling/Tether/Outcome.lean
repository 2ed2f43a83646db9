import Tether.Json.Typed

/-! What is reported about a finished session. -/

namespace Tether

/-- Which local resource a session bridges. -/
inductive SessionKind where
  | shell
  | port
  deriving DecidableEq, Repr

namespace SessionKind

def name : SessionKind → String
  | shell => "shell"
  | port => "port"

def ofName? (s : String) : Option SessionKind :=
  if s = "shell" then some shell else if s = "port" then some port else none

/-- The kind that a JSON text names. -/
def ofJson (text : String) : Except Json.Fault SessionKind :=
  Json.Reader.whole (Json.Reader.choice ofName?) (Text.Utf8.encode text)

end SessionKind

inductive SessionStatus where
  | success
  | failed
  deriving DecidableEq, Repr

def SessionStatus.name : SessionStatus → String
  | .success => "Success"
  | .failed => "Failed"

/-- How a session ended, under the exit code that its plugin or its start gave. -/
structure Outcome where
  channelId : String
  errorCode : String
  deriving DecidableEq, Repr

/-- Only the code `Ok` counts as success. -/
def Outcome.status (o : Outcome) : SessionStatus :=
  if o.errorCode = "Ok" then .success else .failed

/-- The parameters of a report. -/
def Outcome.query (o : Outcome) : List (String × String) :=
  [("channelId", o.channelId), ("status", o.status.name), ("errorcode", o.errorCode)]

end Tether
