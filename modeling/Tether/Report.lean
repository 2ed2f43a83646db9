import Tether.Fault
import Tether.Outcome
import Tether.Text.Header
import Tether.Url.Web

/-! Reports of finished sessions: a request whose query holds the outcome, or only a line in the
log. -/

namespace Tether

/-- Where outcomes go. -/
inductive Reporter where
  | log
  /-- Posts to an address under a user agent. -/
  | web (url userAgent : String)
  deriving DecidableEq, Repr

namespace Reporter

/-- A reporter that posts; its user agent has to be fit for a header. -/
def forWeb (url userAgent : String) : Except Causes Reporter :=
  if Text.Header.isValue userAgent then .ok (.web url userAgent)
  else .error ⟨"Failed to build HTTP client", []⟩

/-- The address that an outcome is posted to, if the base is one that can be posted to. -/
def address? (url : String) (o : Outcome) : Option Url.Web :=
  ((Url.Web.ofText? url).filter (!·.secured)).map (·.addQuery o.query)

/-- The request line of a report. -/
def requestLine (w : Url.Web) : String := "POST " ++ w.target ++ " HTTP/1.1"

/-- Whether a status rejects a request. -/
def rejects (status : Nat) : Bool := 400 ≤ status && status < 600

/-- Reports an outcome; `status` is what the service at the address answers, if one is there.
Answers with the request line that the service got. -/
def report (r : Reporter) (o : Outcome) (status : Option Nat) :
    Except Causes Unit × Option String :=
  match r with
  | .log => (.ok (), none)
  | .web url _ =>
    match address? url o, status with
    | some w, some status =>
      (if rejects status then .error ⟨"Session result rejected", []⟩ else .ok (),
        some (requestLine w))
    | _, _ => (.error ⟨"Failed to post session result to " ++ url, []⟩, none)

end Reporter

end Tether
