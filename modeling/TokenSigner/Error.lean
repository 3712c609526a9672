import TokenSigner.Cryptoki.Task
import TokenSigner.Digest
import TokenSigner.Key.Curve
import TokenSigner.Key.Identifier
import TokenSigner.Key.Public

namespace TokenSigner

inductive FileFault where
  | notFound
  | isADirectory
  | notADirectory
  | invalidFilename
  | invalidInput
  | invalidData
  deriving DecidableEq, Repr

def FileFault.name : FileFault → String
  | notFound => "NotFound"
  | isADirectory => "IsADirectory"
  | notADirectory => "NotADirectory"
  | invalidFilename => "InvalidFilename"
  | invalidInput => "InvalidInput"
  | invalidData => "InvalidData"

inductive ErrorKind where
  | general
  | invalidConfiguration
  | noLibraryForPlatform
  | unknownMechanism
  | mechanismNotPermitted
  | slotExcluded
  | sessionTimeout
  | token
  | unsupportedKeyType
  | security
  | illegalState
  | unsupportedOperation
  | unsupportedTrailer
  | invalidParameter
  | invalidKey
  | libraryLoading
  | file
  | toml
  | cryptography
  -- a panic: what was going on is unwound, and no answer comes of it
  | unwound
  deriving DecidableEq, Repr

inductive ErrorCategory where
  | configuration
  | policyDenied
  | device
  | programming
  | other
  deriving DecidableEq, Repr

namespace ErrorKind

def category : ErrorKind → ErrorCategory
  | invalidConfiguration | noLibraryForPlatform | toml | libraryLoading => .configuration
  | mechanismNotPermitted | slotExcluded => .policyDenied
  | sessionTimeout | token | unsupportedKeyType => .device
  | illegalState | unsupportedOperation | unsupportedTrailer | invalidParameter | invalidKey
  | security => .programming
  | general | unknownMechanism | file | cryptography | unwound => .other

def retryable : ErrorKind → Bool
  | sessionTimeout | token => true
  | _ => false

def heading : ErrorKind → String
  | general | sessionTimeout | mechanismNotPermitted | slotExcluded | noLibraryForPlatform => ""
  | invalidConfiguration => "Invalid configuration: "
  | unknownMechanism => "Unknown mechanism: "
  | token => "Token error: "
  | unsupportedKeyType => "Unsupported key type: "
  | security => "Security error: "
  | illegalState => "Illegal state: "
  | unsupportedOperation => "Unsupported operation: "
  | unsupportedTrailer => "Unsupported PSS trailer field: "
  | invalidParameter => "Invalid parameter: "
  | invalidKey => "Invalid key: "
  | libraryLoading => "Error loading the library"
  | file => "IO error: "
  | toml => "Invalid TOML configuration"
  | cryptography => "OpenSSL error: "
  | unwound => ""

end ErrorKind

inductive Error where
  -- the configuration
  | emptySlotFilter
  | badSlotId (literal : String)
  | unsetVariable (name : String)
  | unknownSource (source : String)
  | emptyModuleName
  | emptyUserType
  | badUserType (token : String)
  | messageSizeTooSmall (size : Nat)
  | noSessions
  | duplicateMechanismSet (name : String)
  | undefinedMechanismSet (name : String)
  | malformedToml
  | unreadableFile (fault : FileFault)
  | noLibrary (system : String)
  | libraryNotLoaded
  -- mechanisms and slots
  | unknownMechanism (token : String)
  | manyMechanisms (token : String)
  | mechanismNotPermitted (slot : SlotIdentifier) (mechanism : Mechanism)
  | mechanismNotSupported (slot : SlotIdentifier) (mechanism : Mechanism)
  | slotExcluded (slot : SlotIdentifier)
  | unknownSlot (slot : SlotIdentifier)
  | noSlotWithIndex (index : Nat)
  | noSlotWithId (id : UInt64)
  | sessionTimeout (slot : SlotIdentifier)
  -- keys
  | noPrivateKey (key : KeyIdentifier) (slot : SlotIdentifier)
  | wrongAlgorithm (required : KeyAlgorithm) (key : KeyIdentifier) (found : KeyAlgorithm)
  | unsupportedKeyType (keyType : UInt64)
  | unnamedCurve
  | unknownCurve (oid : Curve.ObjectIdentifier)
  -- digests and encodings
  | unknownDigest (name : String)
  | wrongHashLength (digest : Digest) (length : Nat)
  | wrongSaltLength (expected length : Nat)
  | modulusTooSmall (bits : Nat) (digest : Digest) (saltLength : Nat)
  | maskDigestDiffers (mask digest : Digest)
  | unsupportedTrailer (trailer : UInt32)
  | notPssEncoded
  | encodedMessageTooLong (length bits : Nat)
  | blockTooShort
  | oddEcdsaSignature (length : Nat)
  | ecdsaComponentTooLarge (fieldLength : Nat)
  | noRandomBytes (report : String)
  | cryptography (report : String)
  | oversized (length : Nat)
  -- signature engines
  | updateBeforeStart
  | updateAfterEnd
  | finishBeforeStart
  | finishTwice
  | parametersFixed
  | noRunningDigest
  | noKeyBound
  | noPssParameters
  | parametersNeedPss
  | digestFixed (fixed given : Digest)
  | encodingNeedsPss
  | verificationUnsupported
  | emptyMacKey
  -- native libraries
  | libraryCall (task : Cryptoki.Task) (code : UInt64)
  | tooManyObjects
  | endlessSearch
  | noKeyType (object : UInt64)
  | attributeUnavailable (code key : UInt64)
  | reported (kind : ErrorKind) (text : String)
  deriving DecidableEq, Repr

namespace Error

def kind : Error → ErrorKind
  | emptySlotFilter | badSlotId _ | unsetVariable _ | unknownSource _ | emptyModuleName
  | emptyUserType | badUserType _ | messageSizeTooSmall _ | noSessions | duplicateMechanismSet _
  | undefinedMechanismSet _ => .invalidConfiguration
  | malformedToml => .toml
  | unreadableFile _ => .file
  | noRandomBytes _ => .general
  | cryptography _ => .cryptography
  | oversized _ => .unwound
  | noLibrary _ => .noLibraryForPlatform
  | libraryNotLoaded => .libraryLoading
  | unknownMechanism _ => .unknownMechanism
  | mechanismNotPermitted _ _ => .mechanismNotPermitted
  | mechanismNotSupported _ _ => .security
  | slotExcluded _ => .slotExcluded
  | sessionTimeout _ => .sessionTimeout
  | manyMechanisms _ | unknownSlot _ | noSlotWithIndex _ | noSlotWithId _ | unknownDigest _
  | wrongHashLength _ _ | wrongSaltLength _ _ | modulusTooSmall _ _ _ | maskDigestDiffers _ _
  | notPssEncoded | encodedMessageTooLong _ _ | parametersNeedPss | digestFixed _ _ =>
    .invalidParameter
  | noPrivateKey _ _ | wrongAlgorithm _ _ _ | blockTooShort | emptyMacKey => .invalidKey
  | unsupportedKeyType _ | unnamedCurve | unknownCurve _ => .unsupportedKeyType
  | unsupportedTrailer _ => .unsupportedTrailer
  | updateBeforeStart | updateAfterEnd | finishBeforeStart | finishTwice | parametersFixed
  | noRunningDigest | noKeyBound | noPssParameters => .illegalState
  | encodingNeedsPss | verificationUnsupported => .unsupportedOperation
  | oddEcdsaSignature _ | ecdsaComponentTooLarge _ | libraryCall _ _ | tooManyObjects
  | endlessSearch | noKeyType _ | attributeUnavailable _ _ => .token
  | reported kind _ => kind

def details : Error → String
  | emptySlotFilter => "a slot filter must specify an index, an id, or both"
  | badSlotId literal => s!"invalid slot id '{literal}'"
  | unsetVariable name =>
    s!"password environment variable {name} is not usable: environment variable not found"
  | unknownSource source => s!"unknown source {source}"
  | emptyModuleName => "the module name must not be empty"
  | emptyUserType => "the user type must not be empty"
  | badUserType token => s!"invalid user '{token}'"
  | messageSizeTooSmall size => s!"invalid max_message_size (< 128): {size}"
  | noSessions => "max_sessions_per_slot must be at least 1"
  | duplicateMechanismSet name => s!"duplicate mechanism set named '{name}'"
  | undefinedMechanismSet name => s!"mechanism set '{name}' is not defined"
  | malformedToml => ""
  | unreadableFile fault => fault.name
  | noLibrary system => s!"No PKCS#11 library configured for operating system '{system}'"
  | libraryNotLoaded => ""
  | unknownMechanism token => token
  | manyMechanisms token => s!"'{token}' does not designate a single mechanism"
  | mechanismNotPermitted slot mechanism =>
    s!"Mechanism {mechanism.describe} is not permitted on slot {slot.display}"
  | mechanismNotSupported slot mechanism =>
    s!"mechanism {mechanism.describe} is not supported by slot {slot.display}"
  | slotExcluded slot => s!"Slot {slot.display} is excluded by the module configuration"
  | unknownSlot slot => s!"unknown slot {slot.display}"
  | noSlotWithIndex index => s!"no slot with index {index}"
  | noSlotWithId id => s!"no slot with id {Text.hex id.toNat}"
  | sessionTimeout slot => s!"No session available on slot {slot.display}"
  | noPrivateKey key slot => s!"no private key with {key.display} in slot {slot.display}"
  | wrongAlgorithm required key found =>
    s!"{required.name} key required, {key.display} is a {found.name} key"
  | unsupportedKeyType keyType => s!"key type {Text.hex keyType.toNat}"
  | unnamedCurve => "EC parameters are not a named curve"
  | unknownCurve oid => s!"unknown curve {oid.dotted}"
  | unknownDigest name => s!"unsupported digest algorithm '{name}'"
  | wrongHashLength digest length =>
    s!"a {digest.name} hash is {digest.length} bytes, got {length}"
  | wrongSaltLength expected length => s!"expected {expected} bytes of salt, got {length}"
  | modulusTooSmall bits digest saltLength =>
    s!"a {bits}-bit modulus is too small for {digest.name} with {saltLength} bytes of salt"
  | maskDigestDiffers mask digest =>
    s!"the MGF1 digest {mask.name} differs from the content digest {digest.name}"
  | unsupportedTrailer trailer => toString trailer.toNat
  | notPssEncoded => "a PSS encoded message ends with 0xbc"
  | encodedMessageTooLong length bits =>
    s!"encoded message of {length} bytes does not fit a {bits}-bit modulus"
  | blockTooShort => "intended encoded message length too short"
  | oddEcdsaSignature length => s!"invalid ECDSA signature length {length}"
  | ecdsaComponentTooLarge fieldLength =>
    s!"ECDSA signature component larger than {fieldLength} bytes"
  | noRandomBytes report => s!"Error generating the PSS salt: {report}"
  | cryptography report => report
  | oversized _ => "capacity overflow"
  | updateBeforeStart => "update called before the engine was initialized"
  | updateAfterEnd => "update called after the signature was produced"
  | finishBeforeStart => "sign called before the engine was initialized"
  | finishTwice => "sign called twice without re-initializing the engine"
  | parametersFixed => "parameters cannot change once data has been fed"
  | noRunningDigest => "no running digest"
  | noKeyBound => "no key bound"
  | noPssParameters => "no PSS parameters"
  | parametersNeedPss => "only RSA-PSS engines take parameters"
  | digestFixed fixed given => s!"this engine signs with {fixed.name}, not {given.name}"
  | encodingNeedsPss => "only RSA-PSS engines produce encoded messages"
  | verificationUnsupported => "signature verification is not supported"
  | emptyMacKey => "an HMAC key must not be empty"
  | libraryCall task code => s!"{task.failure}: {Text.hex code.toNat}"
  | tooManyObjects => "More objects returned than requested"
  | endlessSearch => "The object search does not end"
  | noKeyType object => s!"object {object} has no key type"
  | attributeUnavailable code key =>
    s!"attribute {Text.hex code.toNat} is not available on key {key}"
  | reported _ text => text

def message (e : Error) : String :=
  e.kind.heading ++ e.details

def category (e : Error) : ErrorCategory :=
  e.kind.category

def retryable (e : Error) : Bool :=
  e.kind.retryable

end Error

end TokenSigner
