import Tether.Fault
import Tether.Registry
import Tether.Settings.Basic
import Tether.Text.Header

/-! The agent: settings, the registry of running sessions, and what all sessions share. -/

namespace Tether

structure Agent where
  settings : Settings
  registry : Registry
  /-- Extra headers for the handshakes of session channels. -/
  headers : Provider Headers

namespace Agent

/-- Headers fixed in the settings are the one provider. -/
def ofSettings (s : Settings) : Agent where
  settings := s
  registry := .empty ⟨[]⟩
  headers := .ofList [.fixedHeaders s.extraHeaders]

/-- An agent that reports to the address in the settings, if there is one; each report carries
the user agent as a header. -/
def start (s : Settings) : Except Causes Agent :=
  if s.statusUrl.isSome ∧ ¬ Text.Header.isValue s.userAgent then
    .error ⟨"Failed to build HTTP client", []⟩
  else .ok (ofSettings s)

/-- Extra headers for a handshake; without providers there are none to ask. -/
def handshakeHeaders (a : Agent) : Option (Provider Headers) :=
  if a.headers.size = 0 then none else some a.headers

end Agent

end Tether
