import Tether.Text.Form

/-! The address of a session: the base address of the service with the session's id as a
parameter. -/

namespace Tether.Url

/-- Whether `needle` occurs in a text. -/
def occurs (needle : List Char) : List Char → Bool
  | [] => needle.isEmpty
  | c :: r => needle.isPrefixOf (c :: r) || occurs needle r

/-- What names the session in an address. -/
def parameter : String := "channelId="

/-- The address of session `id`. A base that names a session already is kept as it is. -/
def channel (base id : String) : String :=
  if occurs parameter.toList base.toList then base
  else base ++ (if '?' ∈ base.toList then "&" else "?") ++ parameter ++ id

/-- What stands after the first `?`, up to a `#`. -/
def query (url : String) : List Char :=
  ((url.toList.dropWhile (· ≠ '?')).drop 1).takeWhile (· ≠ '#')

/-- The parameters of an address. -/
def parameters (url : String) : List (String × String) := Text.Form.read (query url)

end Tether.Url
