import SmartCard.Pcsc.Connection
import SmartCard.Stack

/-! # The resource manager as a driver stack -/
namespace SmartCard.Pcsc

def Work.reply {α : Type} (w : Work (Except Error α)) : Work (Except Fault α) := do
  return (← w).mapError Error.fault

def driverName : String := "PC/SC"

def stack : Stack Manager Event Context Connection Empty where
  establish application debug := (Context.establish application debug).reply
  readerCount _ c := c.readerCount
  detect c reader := (c.detect reader).reply
  connect c reader := (c.connect reader).reply
  release c := do let _ ← c.release
  driverName _ := driverName
  lock k := k.lock.reply
  unlock k := k.unlock
  disconnect k := do let _ ← k.disconnect
  select k path := (k.select path).reply
  read k offset length := (k.read offset length).reply
  bind _ := Action.pure (.error Connection.noDirectory)
  serialNumber _ a := nomatch a
  privateKeys a := nomatch a
  certificate a := nomatch a
  pinLabel a := nomatch a
  verifyPin a := nomatch a
  sign a := nomatch a
  decipher a := nomatch a
  unbind a := nomatch a

end SmartCard.Pcsc
