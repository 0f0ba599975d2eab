import SmartCard.Failure

/-! # Hash algorithms of digests to be signed -/
namespace SmartCard

inductive HashAlgorithm
  | md5
  | sha1
  | rmd160
  | sha256
  deriving DecidableEq, Repr

namespace HashAlgorithm

def digestLength : HashAlgorithm → Nat
  | md5 => 16
  | sha1 => 20
  | rmd160 => 20
  | sha256 => 32

def name : HashAlgorithm → String
  | md5 => "md5"
  | sha1 => "sha1"
  | rmd160 => "rmd160"
  | sha256 => "sha256"

/-- Reads a name in any mixture of cases; RIPEMD-160 has two spellings. -/
def ofName (s : String) : Except Failure HashAlgorithm :=
  let lower := String.ofList (s.toList.map Char.toLower)
  if lower = "md5" then .ok md5
  else if lower = "sha1" then .ok sha1
  else if lower = "rmd160" ∨ lower = "ripemd160" then .ok rmd160
  else if lower = "sha256" then .ok sha256
  else .error .unsupportedAlgorithm

@[simp] theorem ofName_name (h : HashAlgorithm) : ofName h.name = .ok h := by
  cases h <;> rfl

end HashAlgorithm

end SmartCard
