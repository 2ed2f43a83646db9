import Tether.Json.Typed
import Tether.Wire.Header

/-! Session ids: texts that fit the session slot of a header. -/

namespace Tether.Wire

/-- An id of at most 32 bytes. -/
structure SessionId where
  text : String
  width_le : Text.Utf8.width text ≤ Field.sessionId.width

namespace SessionId

instance : DecidableEq SessionId := fun a b =>
  decidable_of_iff (a.text = b.text) (by cases a; cases b; simp)

/-- The id of a text, if it fits. -/
def ofText (s : String) : Except Fault SessionId :=
  if h : Text.Utf8.width s ≤ Field.sessionId.width then .ok ⟨s, h⟩
  else .error (.tooLong .sessionId (Text.Utf8.width s) Field.sessionId.width)

/-- The id that a JSON text holds as a string. -/
def ofJson (text : String) : Except Fault SessionId :=
  let fitting : Json.Reader SessionId := do
    match ofText (← Json.Reader.string) with
    | .ok id => return id
    | .error _ => Json.Reader.fail .shape
  match Json.Reader.whole fitting (Text.Utf8.encode text) with
  | .ok id => .ok id
  | .error e => .error (.json e)

end SessionId

end Tether.Wire
