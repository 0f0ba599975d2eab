import SmartCard.Octets
import SmartCard.Pcsc.ReturnCode

/-!
# Scripts of the resource manager

What a resource manager and the cards behind it will answer: fixed return codes for most calls, a
queue of return codes for changes of the share mode, and a queue of responses for commands.
-/
namespace SmartCard.Pcsc

structure Reader where
  name : String
  present : Bool
  /-- The return code of a presence check. -/
  status : Option ReturnCode
  connect : Option ReturnCode

structure Script where
  readers : List Reader
  establish : Option ReturnCode
  list : Option ReturnCode
  release : Option ReturnCode
  disconnect : Option ReturnCode
  reconnects : List (Option ReturnCode)
  responses : List (Except ReturnCode Octets)

/-- Every call succeeds, but there are no readers. -/
def Script.quiet : Script := ⟨[], none, none, none, none, [], []⟩

end SmartCard.Pcsc
