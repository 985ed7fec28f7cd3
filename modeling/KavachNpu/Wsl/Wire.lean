/-
Module: KavachNpu.Wsl.Wire
Layer: Wsl
Purpose: The AF_VSOCK framing of guest-write records: a four-byte length prefix, a 149-byte fixed header
  and a UTF-8 path. `toFrame` appends the fields one after another; `fromFrame` and `fromPayload` read
  literal positions and interleave the reads with their checks, in the source's order.
Trusted boundary: human-reviewed spec
Main exports: VsockWireError, isNormalizedMntPath, GuestWriteRecord.toFrame, GuestWriteRecord.fromFrame,
  GuestWriteRecord.fromPayload
-/
import KavachNpu.Wsl.Record
import KavachNpu.Foundation.BigEndian
import KavachNpu.Foundation.Utf8

namespace KavachNpu

/-- `SUPPORTED_VSOCK_MAJOR`. -/
def supportedVsockMajor : UInt16 := 1

/-- `FIXED_HEADER_SIZE`. -/
def fixedHeaderSize : Nat := 149

/-- `MIN_PAYLOAD_SIZE`. -/
def minPayloadSize : Nat := 150

/-- `MAX_PAYLOAD_SIZE`. -/
def maxPayloadSize : Nat := 4245

/-- `LENGTH_PREFIX_SIZE`. -/
def lengthPrefixSize : Nat := 4

/-- Errors of AF_VSOCK wire encoding, decoding and validation. -/
inductive VsockWireError where
  | frameTooSmall (expectedAtLeast actual : Nat)
  | payloadLengthOutOfBounds (length : Nat)
  | payloadLengthMismatch (declared actual : Nat)
  | unsupportedMajorVersion (major : UInt16)
  | zeroSequenceNumber
  | invalidOperation (byte : UInt8)
  | nonzeroFlags (flags : UInt16)
  | pathLengthMismatch (declared actual : Nat)
  | invalidUtf8Path
  | nonNormalizedPath (path : String)
deriving DecidableEq

/-- A 16-bit value in at least four hexadecimal digits, `{:04x}`. -/
def hex04 (value : UInt16) : String :=
  let digits := Nat.toDigits 16 value.toNat
  String.ofList (List.replicate (4 - digits.length) '0' ++ digits)

/-- The text of an error, as its `Display` writes it. -/
def VsockWireError.display : VsockWireError → String
  | .frameTooSmall expectedAtLeast actual =>
      s!"frame too small: expected at least {expectedAtLeast} bytes, got {actual}"
  | .payloadLengthOutOfBounds length =>
      s!"payload length {length} out of bounds ({minPayloadSize}..={maxPayloadSize})"
  | .payloadLengthMismatch declared actual =>
      s!"declared payload length {declared} does not match actual length {actual}"
  | .unsupportedMajorVersion major =>
      s!"unsupported major version {major}; expected {supportedVsockMajor}"
  | .zeroSequenceNumber => "sequence number must be strictly positive (got 0)"
  | .invalidOperation byte => s!"invalid file operation byte: {byte}"
  | .nonzeroFlags flags => "nonzero reserved flags: 0x" ++ hex04 flags
  | .pathLengthMismatch declared actual =>
      s!"path length mismatch: declared {declared}, available {actual}"
  | .invalidUtf8Path => "path is not valid UTF-8"
  | .nonNormalizedPath path => s!"path '{path}' is not a normalized absolute /mnt/<drive>/ path"

/-- The body of the loop over the segments, at position `i` of `count`. -/
def segmentAllowed (count i : Nat) (segment : List Char) : Bool :=
  if i = 0 then
    true
  else if i = count - 1 ∧ segment = [] then
    -- a trailing slash, allowed for directory operations
    true
  else
    ! (segment.isEmpty || segment == ['.'] || segment == ['.', '.'])

/-- Checks that a path is absolute under `/mnt/`, with no `.`, `..` or empty component. -/
def isNormalizedMntPath (path : String) : Bool :=
  let chars := path.toList
  if ! "/mnt/".toList.isPrefixOf chars then
    false
  else if (chars.drop "/mnt/".length).isEmpty then
    false
  else
    let segments := chars.splitOn '/'
    segments.zipIdx.all fun (segment, i) => segmentAllowed segments.length i segment

/-- The `match payload[128]` of the decoder. -/
def GuestFileOperation.fromByte (byte : UInt8) : Outcome VsockWireError GuestFileOperation :=
  if byte = 1 then .ok .write
  else if byte = 2 then .ok .rename
  else if byte = 3 then .ok .delete
  else .err (.invalidOperation byte)

namespace GuestWriteRecord

/-- Serializes the record into a frame with a four-byte length prefix. -/
def toFrame (r : GuestWriteRecord) : Outcome VsockWireError (List UInt8) := do
  if ! isNormalizedMntPath r.normalizedPath then
    .err (.nonNormalizedPath r.normalizedPath)
  let pathBytes := asBytes r.normalizedPath
  let pathLen := pathBytes.length
  if ¬ (1 ≤ pathLen ∧ pathLen ≤ 4096) then
    .err (.pathLengthMismatch pathLen pathLen)
  let payloadLen := fixedHeaderSize + pathLen
  if ¬ (minPayloadSize ≤ payloadLen ∧ payloadLen ≤ maxPayloadSize) then
    .err (.payloadLengthOutOfBounds payloadLen)
  .ok <|
    (u32ToBeBytes (UInt32.ofNat payloadLen)).toList ++
    (u16ToBeBytes r.version.major).toList ++
    (u16ToBeBytes r.version.minor).toList ++
    (u64ToBeBytes r.sequenceNumber).toList ++
    (u64ToBeBytes r.guestMonotonicNs).toList ++
    (u64ToBeBytes r.guestRealtimeNs).toList ++
    (u32ToBeBytes r.guestProcessId).toList ++
    (u64ToBeBytes r.guestProcessStartTicks).toList ++
    r.distributionId.toList ++
    (u64ToBeBytes r.mountNamespaceId).toList ++
    r.executableSha256.toList ++
    r.cgroupSha256.toList ++
    [r.operation.toByte] ++
    (u64ToBeBytes r.byteRangeStart).toList ++
    (u64ToBeBytes r.byteRangeLength).toList ++
    (u16ToBeBytes r.flags).toList ++
    (u16ToBeBytes (UInt16.ofNat pathLen)).toList ++
    pathBytes

/-- Deserializes a record from payload bytes, without the length prefix. -/
def fromPayload (payload : List UInt8) : Outcome VsockWireError GuestWriteRecord := do
  if ¬ (minPayloadSize ≤ payload.length ∧ payload.length ≤ maxPayloadSize) then
    .err (.payloadLengthOutOfBounds payload.length)
  let major := u16FromBeBytes (← indices payload [0, 1])
  if major ≠ supportedVsockMajor then
    .err (.unsupportedMajorVersion major)
  let minor := u16FromBeBytes (← indices payload [2, 3])
  let sequenceNumber := u64FromBeBytes (← indices payload [4, 5, 6, 7, 8, 9, 10, 11])
  if sequenceNumber = 0 then
    .err .zeroSequenceNumber
  let guestMonotonicNs := u64FromBeBytes (← indices payload [12, 13, 14, 15, 16, 17, 18, 19])
  let guestRealtimeNs := u64FromBeBytes (← indices payload [20, 21, 22, 23, 24, 25, 26, 27])
  let guestProcessId := u32FromBeBytes (← indices payload [28, 29, 30, 31])
  let guestProcessStartTicks := u64FromBeBytes (← indices payload [32, 33, 34, 35, 36, 37, 38, 39])
  let distributionId ← copyFromSlice 16 (← sliceRange payload 40 56)
  let mountNamespaceId := u64FromBeBytes (← indices payload [56, 57, 58, 59, 60, 61, 62, 63])
  let executableSha256 ← copyFromSlice 32 (← sliceRange payload 64 96)
  let cgroupSha256 ← copyFromSlice 32 (← sliceRange payload 96 128)
  let operation ← GuestFileOperation.fromByte (← index payload 128)
  let byteRangeStart :=
    u64FromBeBytes (← indices payload [129, 130, 131, 132, 133, 134, 135, 136])
  let byteRangeLength :=
    u64FromBeBytes (← indices payload [137, 138, 139, 140, 141, 142, 143, 144])
  let flags := u16FromBeBytes (← indices payload [145, 146])
  if flags ≠ 0 then
    .err (.nonzeroFlags flags)
  let declaredPathLen := (u16FromBeBytes (← indices payload [147, 148])).toNat
  let availablePathLen ← usizeSub payload.length fixedHeaderSize
  if declaredPathLen ≠ availablePathLen then
    .err (.pathLengthMismatch declaredPathLen availablePathLen)
  let pathStr ← Outcome.okOr .invalidUtf8Path
    (fromUtf8 (← sliceRange payload fixedHeaderSize payload.length))
  if ! isNormalizedMntPath pathStr then
    .err (.nonNormalizedPath pathStr)
  .ok
    { version := { major := major, minor := minor }
      sequenceNumber := sequenceNumber
      guestMonotonicNs := guestMonotonicNs
      guestRealtimeNs := guestRealtimeNs
      guestProcessId := guestProcessId
      guestProcessStartTicks := guestProcessStartTicks
      distributionId := distributionId
      mountNamespaceId := mountNamespaceId
      executableSha256 := executableSha256
      cgroupSha256 := cgroupSha256
      operation := operation
      normalizedPath := pathStr
      byteRangeStart := byteRangeStart
      byteRangeLength := byteRangeLength
      flags := flags }

/-- Deserializes a record from a full frame, including the length prefix. -/
def fromFrame (frame : List UInt8) : Outcome VsockWireError GuestWriteRecord := do
  if frame.length < lengthPrefixSize + minPayloadSize then
    .err (.frameTooSmall (lengthPrefixSize + minPayloadSize) frame.length)
  let declaredPayloadLen := (u32FromBeBytes (← indices frame [0, 1, 2, 3])).toNat
  let actualPayloadLen ← usizeSub frame.length lengthPrefixSize
  if declaredPayloadLen ≠ actualPayloadLen then
    .err (.payloadLengthMismatch declaredPayloadLen actualPayloadLen)
  fromPayload (← sliceRange frame lengthPrefixSize frame.length)

end GuestWriteRecord

end KavachNpu
