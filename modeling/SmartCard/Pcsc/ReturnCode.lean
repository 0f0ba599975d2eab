/-! # Return codes of the resource manager -/
namespace SmartCard.Pcsc

inductive ReturnCode
  | internalError
  | cancelled
  | invalidHandle
  | invalidParameter
  | invalidTarget
  | noMemory
  | waitedTooLong
  | insufficientBuffer
  | unknownReader
  | timeout
  | sharingViolation
  | noSmartcard
  | unknownCard
  | cantDispose
  | protocolMismatch
  | notReady
  | invalidValue
  | systemCancelled
  | commError
  | unknownError
  | invalidAtr
  | notTransacted
  | readerUnavailable
  | shutdown
  | pciTooSmall
  | readerUnsupported
  | duplicateReader
  | cardUnsupported
  | noService
  | serviceStopped
  | unsupportedFeature
  | iccInstallation
  | iccCreateOrder
  | directoryNotFound
  | fileNotFound
  | noDirectory
  | noFile
  | noAccess
  | writeTooMany
  | badSeek
  | invalidPin
  | unknownResourceManager
  | noSuchCertificate
  | certificateUnavailable
  | noReadersAvailable
  | commDataLost
  | noKeyContainer
  | serverTooBusy
  | unsupportedCard
  | unresponsiveCard
  | unpoweredCard
  | resetCard
  | removedCard
  | securityViolation
  | wrongPin
  | pinBlocked
  | endOfFile
  | cancelledByUser
  | cardNotAuthenticated
  | cacheItemNotFound
  | cacheItemStale
  | cacheItemTooBig
  deriving DecidableEq, Repr

namespace ReturnCode

def number : ReturnCode → Nat
  | internalError => 0x80100001
  | cancelled => 0x80100002
  | invalidHandle => 0x80100003
  | invalidParameter => 0x80100004
  | invalidTarget => 0x80100005
  | noMemory => 0x80100006
  | waitedTooLong => 0x80100007
  | insufficientBuffer => 0x80100008
  | unknownReader => 0x80100009
  | timeout => 0x8010000A
  | sharingViolation => 0x8010000B
  | noSmartcard => 0x8010000C
  | unknownCard => 0x8010000D
  | cantDispose => 0x8010000E
  | protocolMismatch => 0x8010000F
  | notReady => 0x80100010
  | invalidValue => 0x80100011
  | systemCancelled => 0x80100012
  | commError => 0x80100013
  | unknownError => 0x80100014
  | invalidAtr => 0x80100015
  | notTransacted => 0x80100016
  | readerUnavailable => 0x80100017
  | shutdown => 0x80100018
  | pciTooSmall => 0x80100019
  | readerUnsupported => 0x8010001A
  | duplicateReader => 0x8010001B
  | cardUnsupported => 0x8010001C
  | noService => 0x8010001D
  | serviceStopped => 0x8010001E
  | unsupportedFeature => 0x8010001F
  | iccInstallation => 0x80100020
  | iccCreateOrder => 0x80100021
  | directoryNotFound => 0x80100023
  | fileNotFound => 0x80100024
  | noDirectory => 0x80100025
  | noFile => 0x80100026
  | noAccess => 0x80100027
  | writeTooMany => 0x80100028
  | badSeek => 0x80100029
  | invalidPin => 0x8010002A
  | unknownResourceManager => 0x8010002B
  | noSuchCertificate => 0x8010002C
  | certificateUnavailable => 0x8010002D
  | noReadersAvailable => 0x8010002E
  | commDataLost => 0x8010002F
  | noKeyContainer => 0x80100030
  | serverTooBusy => 0x80100031
  | unsupportedCard => 0x80100065
  | unresponsiveCard => 0x80100066
  | unpoweredCard => 0x80100067
  | resetCard => 0x80100068
  | removedCard => 0x80100069
  | securityViolation => 0x8010006A
  | wrongPin => 0x8010006B
  | pinBlocked => 0x8010006C
  | endOfFile => 0x8010006D
  | cancelledByUser => 0x8010006E
  | cardNotAuthenticated => 0x8010006F
  | cacheItemNotFound => 0x80100070
  | cacheItemStale => 0x80100071
  | cacheItemTooBig => 0x80100072

def all : List ReturnCode :=
  [internalError, cancelled, invalidHandle, invalidParameter, invalidTarget, noMemory,
    waitedTooLong, insufficientBuffer, unknownReader, timeout, sharingViolation, noSmartcard,
    unknownCard, cantDispose, protocolMismatch, notReady, invalidValue, systemCancelled, commError,
    unknownError, invalidAtr, notTransacted, readerUnavailable, shutdown, pciTooSmall,
    readerUnsupported, duplicateReader, cardUnsupported, noService, serviceStopped,
    unsupportedFeature, iccInstallation, iccCreateOrder, directoryNotFound, fileNotFound,
    noDirectory, noFile, noAccess, writeTooMany, badSeek, invalidPin, unknownResourceManager,
    noSuchCertificate, certificateUnavailable, noReadersAvailable, commDataLost, noKeyContainer,
    serverTooBusy, unsupportedCard, unresponsiveCard, unpoweredCard, resetCard, removedCard,
    securityViolation, wrongPin, pinBlocked, endOfFile, cancelledByUser, cardNotAuthenticated,
    cacheItemNotFound, cacheItemStale, cacheItemTooBig]

theorem mem_all (c : ReturnCode) : c ∈ all := by cases c <;> decide

/-- Zero is success; a number without a name is an unknown error. -/
def ofNumber (n : Nat) : Option ReturnCode :=
  if n = 0 then none else some ((all.find? fun c => c.number = n).getD unknownError)

/-- The number as a signed word of 32 bits. -/
def signed (c : ReturnCode) : Int := (c.number : Int) - 0x100000000

def text : ReturnCode → String
  | internalError => "An internal consistency check failed"
  | cancelled => "The action was cancelled by an SCardCancel request"
  | invalidHandle => "The supplied handle was invalid"
  | invalidParameter => "One or more of the supplied parameters could not be properly interpreted"
  | invalidTarget => "Registry startup information is missing or invalid"
  | noMemory => "Not enough memory available to complete this command"
  | waitedTooLong => "An internal consistency timer has expired"
  | insufficientBuffer =>
    "The data buffer to receive returned data is too small for the returned data"
  | unknownReader => "The specified reader name is not recognized"
  | timeout => "The user-specified timeout value has expired"
  | sharingViolation => "The smart card cannot be accessed because of other connections outstanding"
  | noSmartcard =>
    "The operation requires a Smart Card, but no Smart Card is currently in the device"
  | unknownCard => "The specified smart card name is not recognized"
  | cantDispose => "The system could not dispose of the media in the requested manner"
  | protocolMismatch =>
    "The requested protocols are incompatible with the protocol currently " ++
      "in use with the smart card"
  | notReady => "The reader or smart card is not ready to accept commands"
  | invalidValue =>
    "One or more of the supplied parameters values could not be properly interpreted"
  | systemCancelled => "The action was cancelled by the system, presumably to log off or shut down"
  | commError => "An internal communications error has been detected"
  | unknownError => "An internal error has been detected, but the source is unknown"
  | invalidAtr => "An ATR obtained from the registry is not a valid ATR string"
  | notTransacted => "An attempt was made to end a non-existent transaction"
  | readerUnavailable => "The specified reader is not currently available for use"
  | shutdown => "The operation has been aborted to allow the server application to exit"
  | pciTooSmall => "The PCI Receive buffer was too small"
  | readerUnsupported => "The reader driver does not meet minimal requirements for support"
  | duplicateReader => "The reader driver did not produce a unique reader name"
  | cardUnsupported => "The smart card does not meet minimal requirements for support"
  | noService => "The Smart card resource manager is not running"
  | serviceStopped => "The Smart card resource manager has shut down"
  | unsupportedFeature => "This smart card does not support the requested feature"
  | iccInstallation => "No primary provider can be found for the smart card"
  | iccCreateOrder => "The requested order of object creation is not supported"
  | directoryNotFound => "The identified directory does not exist in the smart card"
  | fileNotFound => "The identified file does not exist in the smart card"
  | noDirectory => "The supplied path does not represent a smart card directory"
  | noFile => "The supplied path does not represent a smart card file"
  | noAccess => "Access is denied to this file"
  | writeTooMany => "The smart card does not have enough memory to store the information"
  | badSeek => "There was an error trying to set the smart card file object pointer"
  | invalidPin => "The supplied PIN is incorrect"
  | unknownResourceManager => "An unrecognized error code was returned from a layered component"
  | noSuchCertificate => "The requested certificate does not exist"
  | certificateUnavailable => "The requested certificate could not be obtained"
  | noReadersAvailable => "Cannot find a smart card reader"
  | commDataLost =>
    "A communications error with the smart card has been detected. Retry the operation"
  | noKeyContainer => "The requested key container does not exist on the smart card"
  | serverTooBusy => "The smart card resource manager is too busy to complete this operation"
  | unsupportedCard =>
    "The reader cannot communicate with the card, due to ATR string configuration conflicts"
  | unresponsiveCard => "The smart card is not responding to a reset"
  | unpoweredCard =>
    "Power has been removed from the smart card, so that further communication is not possible"
  | resetCard => "The smart card has been reset, so any shared state information is invalid"
  | removedCard => "The smart card has been removed, so further communication is not possible"
  | securityViolation => "Access was denied because of a security violation"
  | wrongPin => "The card cannot be accessed because the wrong PIN was presented"
  | pinBlocked =>
    "The card cannot be accessed because the maximum number of PIN entry attempts has been reached"
  | endOfFile => "The end of the smart card file has been reached"
  | cancelledByUser => "The user pressed \"Cancel\" on a Smart Card Selection Dialog"
  | cardNotAuthenticated => "No PIN was presented to the smart card"
  | cacheItemNotFound => "The requested item could not be found in the cache"
  | cacheItemStale => "The requested cache item is too old and was deleted from the cache"
  | cacheItemTooBig => "The new cache item exceeds the maximum per-item size defined for the cache"

end ReturnCode

end SmartCard.Pcsc
