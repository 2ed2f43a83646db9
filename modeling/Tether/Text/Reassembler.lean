import Tether.Text.Utf8

/-! Cutting a byte stream only between characters. Bytes that form no character are held
back while fewer than four are left, since more bytes may complete them; an undecodable byte
further from the end goes through as it is. -/

namespace Tether.Text

/-- Holds the bytes that wait for the next chunk. -/
structure Reassembler where
  pending : List UInt8
  deriving DecidableEq, Repr

namespace Reassembler

def empty : Reassembler := ⟨[]⟩

/-- Splits bytes into those to release and those to hold back. The next `skip` bytes belong
to a character already found. -/
def split : Nat → List UInt8 → List UInt8 × List UInt8
  | _, [] => ([], [])
  | skip + 1, b :: r =>
    let (out, held) := split skip r
    (b :: out, held)
  | 0, b :: r =>
    match Utf8.charLength (b :: r) with
    | 0 =>
      if (b :: r).drop 3 = [] then ([], b :: r)
      else
        let (out, held) := split 0 r
        (b :: out, held)
    | n + 1 =>
      let (out, held) := split n r
      (b :: out, held)

/-- Takes a chunk and answers with the bytes to send. -/
def push (u : Reassembler) (chunk : List UInt8) : List UInt8 × Reassembler :=
  let (out, held) := split 0 (u.pending ++ chunk)
  (out, ⟨held⟩)

/-- Takes chunks one after another and joins the bytes to send. -/
def feed (u : Reassembler) : List (List UInt8) → List UInt8 × Reassembler
  | [] => ([], u)
  | chunk :: chunks =>
    let (out, u') := u.push chunk
    let (more, u'') := feed u' chunks
    (out ++ more, u'')

/-- Gives out what is held back. -/
def flush (u : Reassembler) : List UInt8 × Reassembler := (u.pending, empty)

end Reassembler

end Tether.Text
