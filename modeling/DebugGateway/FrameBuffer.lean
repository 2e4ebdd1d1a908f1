/-!
Cutting a byte stream into frames at newlines. A frame loses one carriage return at its end, blank
frames are dropped, and a frame longer than the limit is refused. Bytes already searched are kept
apart from those not yet searched, so no byte is searched twice.
-/
namespace DebugGateway

/-- Bytes received and not yet given out as a frame. `searched` holds no newline and stands last
byte first; `unsearched` follows it. -/
structure FrameBuffer where
  searched : List UInt8 := []
  unsearched : List UInt8 := []
deriving DecidableEq, Repr

structure FrameTooLarge where
  size : Nat
deriving DecidableEq, Repr

namespace FrameBuffer

def greatestFrame : Nat := 1024 * 1024

def readChunk : Nat := 4096

def pending (b : FrameBuffer) : List UInt8 :=
  b.searched.reverse ++ b.unsearched

def pendingLength (b : FrameBuffer) : Nat :=
  b.searched.length + b.unsearched.length

def extend (b : FrameBuffer) (bytes : List UInt8) : FrameBuffer :=
  { b with unsearched := b.unsearched ++ bytes }

def isBlankByte (b : UInt8) : Bool :=
  b == 9 || b == 10 || b == 12 || b == 13 || b == 32

def dropReturn : List UInt8 → List UInt8
  | b :: rest => if b = 13 then rest else b :: rest
  | [] => []

/-- Searches on: a frame, none if no newline is left, or the refusal of a frame that is too long. A
refused frame without a newline is forgotten with everything held. -/
def takeFrame (searched : List UInt8) :
    List UInt8 → Except FrameTooLarge (Option (List UInt8)) × FrameBuffer
  | [] =>
    if greatestFrame < searched.length then (.error ⟨searched.length⟩, {})
    else (.ok none, { searched })
  | b :: rest =>
    if b = 10 then
      let frame := dropReturn searched
      if greatestFrame < frame.length then (.error ⟨frame.length⟩, { unsearched := rest })
      else if frame.all isBlankByte then takeFrame [] rest
      else (.ok (some frame.reverse), { unsearched := rest })
    else takeFrame (b :: searched) rest

def next (b : FrameBuffer) : Except FrameTooLarge (Option (List UInt8)) × FrameBuffer :=
  takeFrame b.searched b.unsearched

end FrameBuffer

def FrameTooLarge.message (e : FrameTooLarge) : String :=
  s!"frame of {e.size} bytes exceeds {FrameBuffer.greatestFrame} byte limit"

end DebugGateway
