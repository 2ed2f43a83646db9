/-! Why a channel, a session or a plugin fails, with the one wording of each cause. -/

namespace Tether

inductive ChannelFault where
  | connect (url reason : String)
  | closed
  | emptyInput
  | send (reason : String)
  | receive (reason : String)
  | close (reason : String)
  | framing (reason : String)
  deriving DecidableEq, Repr

/-- The kind of a cause, in one word. -/
def ChannelFault.kind : ChannelFault → String
  | .connect .. => "Connect"
  | .closed => "Closed"
  | .emptyInput => "EmptyInput"
  | .send _ => "Send"
  | .receive _ => "Receive"
  | .close _ => "Close"
  | .framing _ => "Framing"

def ChannelFault.message : ChannelFault → String
  | .connect url reason => "Failed to connect to " ++ url ++ ": " ++ reason
  | .closed => "Can't send message: Connection is closed."
  | .emptyInput => "Can't send message: Empty input."
  | .send reason => "Send failed: " ++ reason
  | .receive reason => "Receive failed: " ++ reason
  | .close reason => "Close failed: " ++ reason
  | .framing reason => "Framing failed: " ++ reason

inductive SessionFault where
  | alreadyExists (id : String)
  | notFound (id : String)
  | initChannel (reason : String)
  | openChannel (cause : ChannelFault)
  deriving DecidableEq, Repr

/-- The kind of a cause, in one word. -/
def SessionFault.kind : SessionFault → String
  | .alreadyExists _ => "AlreadyExists"
  | .notFound _ => "NotFound"
  | .initChannel _ => "InitChannel"
  | .openChannel _ => "OpenChannel"

def SessionFault.message : SessionFault → String
  | .alreadyExists id => "Session already exists: " ++ id
  | .notFound id => "Session not found: " ++ id
  | .initChannel reason => "Failed to initialize session channel: " ++ reason
  | .openChannel cause => "Failed to open session channel: " ++ cause.message

inductive PluginFault where
  | openPty (reason : String)
  | openPort (addr reason : String)
  | readPort (addr reason : String)
  | processData (reason : String)
  | ioSocket (reason : String)
  | panic (text : String)
  | unexpected (text : String)
  deriving DecidableEq, Repr

/-- The kind of a cause, in one word. -/
def PluginFault.kind : PluginFault → String
  | .openPty _ => "OpenPty"
  | .openPort .. => "OpenPort"
  | .readPort .. => "ReadPort"
  | .processData _ => "ProcessData"
  | .ioSocket _ => "IoSocket"
  | .panic _ => "Panic"
  | .unexpected _ => "Unexpected"

def PluginFault.message : PluginFault → String
  | .openPty reason => "Unable to start shell: " ++ reason
  | .openPort addr reason => "Unable to connect to " ++ addr ++ ": " ++ reason
  | .readPort addr reason => "Unable to read port " ++ addr ++ ": " ++ reason
  | .processData reason => "Error processing output data: " ++ reason
  | .ioSocket reason => "Socket I/O error: " ++ reason
  | .panic text => "Data pump panicked: " ++ text
  | .unexpected text => "Data pump failed: " ++ text

/-- A chain of causes, the outermost context first. -/
structure Causes where
  context : String
  deeper : List String
  deriving DecidableEq, Repr

/-- All of the chain in one line. -/
def Causes.joined (c : Causes) : String := String.intercalate ": " (c.context :: c.deeper)

end Tether
