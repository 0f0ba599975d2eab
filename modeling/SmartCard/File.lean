/-! # What a card reports about a selected file -/
namespace SmartCard

inductive FileType
  | workingEf
  | internalEf
  | df
  | unknown
  deriving DecidableEq, Repr

/-- How the content of an elementary file is organised. -/
inductive EfStructure
  | transparent
  | linearFixed
  | linearVariable
  | cyclic
  | unknown
  deriving DecidableEq, Repr

structure FileInfo where
  fileType : FileType
  efStructure : EfStructure
  size : Nat
  deriving DecidableEq, Repr

/-- Only working files without records are read whole. -/
def FileInfo.isTransparentWorking (f : FileInfo) : Bool :=
  f.fileType = .workingEf && f.efStructure = .transparent

end SmartCard
