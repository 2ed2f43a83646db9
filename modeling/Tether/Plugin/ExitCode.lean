/-! The exit codes of the plugins. Each set is closed and has a code for a run to the end, for
each way to be cancelled, and for a failure nobody expected. -/

namespace Tether

/-- How a shell session ended. -/
inductive ShellExit where
  | ok
  | openPtyFailed
  | processDataError
  | unknownError
  | timeout
  | notified
  deriving DecidableEq, Repr

namespace ShellExit

/-- The code as it is reported. -/
def text : ShellExit → String
  | ok => "Ok"
  | openPtyFailed => "Open_pty_failed"
  | processDataError => "Process_data_error"
  | unknownError => "Unknown_error"
  | timeout => "Timeout"
  | notified => "Notified"

/-- The code as a diagnostic text. -/
def debug : ShellExit → String
  | ok => "Ok"
  | openPtyFailed => "OpenPtyFailed"
  | processDataError => "ProcessDataError"
  | unknownError => "UnknownError"
  | timeout => "Timeout"
  | notified => "Notified"

def all : List ShellExit :=
  [ok, openPtyFailed, processDataError, unknownError, timeout, notified]

end ShellExit

/-- How a port session ended. -/
inductive PortExit where
  | ok
  | openPortFailed
  | readPortFailed
  | ioSocketError
  | unknownError
  | timeout
  | notified
  deriving DecidableEq, Repr

namespace PortExit

/-- The code as it is reported. -/
def text : PortExit → String
  | ok => "Ok"
  | openPortFailed => "Open_port_failed"
  | readPortFailed => "Read_port_failed"
  | ioSocketError => "IO_socket_error"
  | unknownError => "Unknown_error"
  | timeout => "Timeout"
  | notified => "Notified"

/-- The code as a diagnostic text. -/
def debug : PortExit → String
  | ok => "Ok"
  | openPortFailed => "OpenPortFailed"
  | readPortFailed => "ReadPortFailed"
  | ioSocketError => "IoSocketError"
  | unknownError => "UnknownError"
  | timeout => "Timeout"
  | notified => "Notified"

def all : List PortExit :=
  [ok, openPortFailed, readPortFailed, ioSocketError, unknownError, timeout, notified]

end PortExit

/-- The codes that every plugin has. -/
class ExitCode (γ : Type) where
  ok : γ
  timeout : γ
  notified : γ
  unknownError : γ
  text : γ → String

instance : ExitCode ShellExit := ⟨.ok, .timeout, .notified, .unknownError, ShellExit.text⟩

instance : ExitCode PortExit := ⟨.ok, .timeout, .notified, .unknownError, PortExit.text⟩

end Tether
