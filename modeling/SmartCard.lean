import SmartCard.Desk
import SmartCard.Main
import SmartCard.Pcsc.Bench
import SmartCard.Proofs.AcceptedSpellings
import SmartCard.Proofs.Acquisition
import SmartCard.Proofs.BindingFirst
import SmartCard.Proofs.BoundOnce
import SmartCard.Proofs.BufferBounds
import SmartCard.Proofs.CanonicalSpelling
import SmartCard.Proofs.CardDialogue
import SmartCard.Proofs.CardWork
import SmartCard.Proofs.CertificateRetrieval
import SmartCard.Proofs.CertifiedModulus
import SmartCard.Proofs.DerValues
import SmartCard.Proofs.DeskSlots
import SmartCard.Proofs.Exchanges
import SmartCard.Proofs.ExclusiveAccess
import SmartCard.Proofs.FailureLogs
import SmartCard.Proofs.FileParameters
import SmartCard.Proofs.FileTransfer
import SmartCard.Proofs.FirstFailure
import SmartCard.Proofs.FragmentedReading
import SmartCard.Proofs.HexRoundTrip
import SmartCard.Proofs.HistoryIndependence
import SmartCard.Proofs.IccsnExtraction
import SmartCard.Proofs.KeyEnumeration
import SmartCard.Proofs.KeygripExtraction
import SmartCard.Proofs.ObjectNames
import SmartCard.Proofs.Opening
import SmartCard.Proofs.OperationForms
import SmartCard.Proofs.OperationGuards
import SmartCard.Proofs.PathTexts
import SmartCard.Proofs.PinDiscipline
import SmartCard.Proofs.ReadLengths
import SmartCard.Proofs.ReadOnlySessions
import SmartCard.Proofs.ReadPositions
import SmartCard.Proofs.ReaderAgreement
import SmartCard.Proofs.Requests
import SmartCard.Proofs.ResourceBracket
import SmartCard.Proofs.ResponseChaining
import SmartCard.Proofs.RunEndings
import SmartCard.Proofs.SecretPin
import SmartCard.Proofs.SerialKept
import SmartCard.Proofs.SerialOrigin
import SmartCard.Proofs.SessionRecords
import SmartCard.Proofs.SexpRoundTrip
import SmartCard.Proofs.SimulatedWorld
import SmartCard.Proofs.SteadyCard
import SmartCard.Proofs.TaskAnswers
import SmartCard.Proofs.TlvFirstRecord
import SmartCard.Simulator.World
