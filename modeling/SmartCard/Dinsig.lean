import SmartCard.Keypair
import SmartCard.WholeFile

/-!
# Cards without an application directory

Such a card is taken for a signature card of the DINSIG layout: it has one keypair, whose
certificate fills the file `C000` of the directory `DF01`, and it does not sign or decipher.
-/
namespace SmartCard.Dinsig

variable {ω ε Context Connection Application : Type}
  (S : Stack ω ε Context Connection Application)

/-- The name of the only certificate, and of its key. -/
def certId : String := "DINSIG-DF01.C000"

def certPath : Path := ⟨[.master, ⟨0xDF, 0x01⟩, ⟨0xC0, 0x00⟩]⟩

/-- Reads the certificate file, and logs why that fails. -/
def certificate (k : Connection) : Task ω ε Octets :=
  Task.recover (WholeFile.read S k certPath) fun f =>
    Task.refuse s!"failed to read the certificate file {certPath.text}: {f.message}" f

/-- The keypair at index 0; there is no other. -/
def keypair (parser : CertificateParser) (k : Connection) (index : Nat) :
    Task ω ε (Option Keypair) := do
  if index = 0 then
    let c ← certificate S k
    let g ← Task.keygripOr s!"can't calculate the keygrip of certificate {certId}" parser c
    return some ⟨g, some certId⟩
  else return none

def readCertificate (k : Connection) (id : String) : Task ω ε Octets :=
  if id = certId then certificate S k else throw .invalidValue

end SmartCard.Dinsig
