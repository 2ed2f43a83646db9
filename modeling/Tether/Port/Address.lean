/-! The address that a port session forwards. -/

namespace Tether.Port

/-- Host and port; without a host, this machine. -/
def address (host : String) (port : Nat) : String :=
  (if host = "" then "localhost" else host) ++ ":" ++ toString port

end Tether.Port
