/-! The kinds of frames and their codes. Code 4 is reserved. -/

namespace Tether.Wire

/-- What a frame carries. -/
inductive Kind where
  /-- Bytes for the local resource. -/
  | input
  /-- Bytes from the local resource. -/
  | output
  /-- A new terminal size. -/
  | setSize
  /-- The remote side asks to close. -/
  | close
  /-- Flow control. -/
  | status
  /-- Any other code. -/
  | unknown (code : UInt32)
  deriving DecidableEq, Repr

namespace Kind

/-- The code that stands in the frame. -/
def code : Kind → UInt32
  | input => 0
  | output => 1
  | setSize => 2
  | close => 3
  | status => 5
  | unknown c => c

/-- The kind that a code stands for; every code stands for one. -/
def ofCode (c : UInt32) : Kind :=
  if c = 0 then input
  else if c = 1 then output
  else if c = 2 then setSize
  else if c = 3 then close
  else if c = 5 then status
  else unknown c

def name : Kind → String
  | input => "InputStreamData"
  | output => "OutputStreamData"
  | setSize => "SetSize"
  | close => "CloseChannel"
  | status => "Status"
  | unknown c => "Unknown(" ++ toString c.toNat ++ ")"

/-- Kinds that the plugin of the session is told about. -/
def isRouted : Kind → Bool
  | input | setSize | status => true
  | _ => false

@[simp] theorem code_ofCode (c : UInt32) : (ofCode c).code = c := by
  unfold ofCode
  repeat' split
  all_goals simp_all [code]

end Kind

end Tether.Wire
