import Oak.Lib.Protobuf

/-! The attestation report and info of remote_attestation.proto, with prost's
encoding of them, and the placeholder report of report.rs: a report carries
the data it is given and the fixed measurement "Test TEE measurement". -/

namespace Oak.Attestation

open Oak.Lib

/-- The `AttestationReport` message. -/
structure AttestationReport where
  version : Int32
  svn : Int32
  platformVersion : Int32
  data : List UInt8
  measurement : List UInt8
  signature : List UInt8
  deriving DecidableEq

/-- The `AttestationInfo` message. -/
structure AttestationInfo where
  report : Option AttestationReport
  certificate : List UInt8
  deriving DecidableEq

/-- prost's encoding of an `AttestationReport`. -/
def AttestationReport.encode (r : AttestationReport) : List UInt8 :=
  int32Field 1 r.version.toInt ++ int32Field 2 r.svn.toInt ++ int32Field 3 r.platformVersion.toInt ++
    bytesField 4 r.data ++ bytesField 5 r.measurement ++ bytesField 6 r.signature

/-- prost's encoding of an `AttestationInfo`. -/
def AttestationInfo.encode (i : AttestationInfo) : List UInt8 :=
  messageField 1 (i.report.map AttestationReport.encode) ++ bytesField 2 i.certificate

/-- `TEST_TEE_MEASUREMENT`. -/
def testTeeMeasurement : List UInt8 := "Test TEE measurement".toUTF8.toList

/-- `AttestationReport::new`: the other fields keep their defaults. -/
def AttestationReport.new (data : List UInt8) : AttestationReport :=
  { version := 0, svn := 0, platformVersion := 0, data, measurement := testTeeMeasurement,
    signature := [] }

theorem length_testTeeMeasurement : testTeeMeasurement.length = 20 := by
  decide +kernel

theorem AttestationReport.length_encode_new {data : List UInt8} (h : data.length = 32) :
    (AttestationReport.new data).encode.length = 56 := by
  have hdata : data ≠ [] := List.ne_nil_of_length_pos (by omega)
  have hm : testTeeMeasurement ≠ [] := List.ne_nil_of_length_pos (by rw [length_testTeeMeasurement]; omega)
  simp only [AttestationReport.encode, AttestationReport.new, List.length_append,
    length_bytesField (by decide : 4 * 8 + 2 < 128) hdata,
    length_bytesField (by decide : 5 * 8 + 2 < 128) hm, h, length_testTeeMeasurement]
  simp [int32Field, bytesField, varintLen_of_lt]

theorem AttestationInfo.length_encode_new {data : List UInt8} (h : data.length = 32)
    (certificate : List UInt8) :
    (AttestationInfo.encode ⟨some (AttestationReport.new data), certificate⟩).length =
      58 + (bytesField 2 certificate).length := by
  rw [AttestationInfo.encode, List.length_append, Option.map_some,
    length_messageField (by decide), AttestationReport.length_encode_new h, varintLen_of_lt (by decide)]


/-! ### Reading the encodings back

prost's decoder itself is a parameter of the handshake (`Primitives`); these
readers accept exactly the canonical encodings the encoders above write: the
fields in order, each possibly left out, and nothing after them. They show
that the encodings can be inverted, which is what the handshake assumes of
prost's decoder. -/

/-- Reads an `AttestationReport` from its canonical encoding. -/
def AttestationReport.decode (bs : List UInt8) : Option AttestationReport := do
  let version ← readField (1 * 8) readInt32 0 bs
  let svn ← readField (2 * 8) readInt32 0 version.2
  let platformVersion ← readField (3 * 8) readInt32 0 svn.2
  let data ← readField (4 * 8 + 2) readBytes [] platformVersion.2
  let measurement ← readField (5 * 8 + 2) readBytes [] data.2
  let signature ← readField (6 * 8 + 2) readBytes [] measurement.2
  if signature.2 = [] then
    some ⟨version.1, svn.1, platformVersion.1, data.1, measurement.1, signature.1⟩
  else none

/-- Reads an `AttestationInfo` from its canonical encoding. -/
def AttestationInfo.decode (bs : List UInt8) : Option AttestationInfo := do
  let report ← readField (1 * 8 + 2) (readMessage AttestationReport.decode) none bs
  let certificate ← readField (2 * 8 + 2) readBytes [] report.2
  if certificate.2 = [] then some ⟨report.1, certificate.1⟩ else none

theorem AttestationReport.decode_encode (r : AttestationReport) :
    AttestationReport.decode r.encode = some r := by
  -- after each field, the rest of the encoding starts with a later field
  have k6 : KeyAbove 6 (bytesField 6 r.signature ++ []) := keyAbove_bytesField le_rfl _ (keyAbove_nil 6)
  have k5 : KeyAbove 5 (bytesField 5 r.measurement ++ (bytesField 6 r.signature ++ [])) :=
    keyAbove_bytesField le_rfl _ (k6.mono (by omega))
  have k4 : KeyAbove 4 (bytesField 4 r.data ++ (bytesField 5 r.measurement ++
      (bytesField 6 r.signature ++ []))) :=
    keyAbove_bytesField le_rfl _ (k5.mono (by omega))
  have k3 : KeyAbove 3 (int32Field 3 r.platformVersion.toInt ++ (bytesField 4 r.data ++
      (bytesField 5 r.measurement ++ (bytesField 6 r.signature ++ [])))) :=
    keyAbove_int32Field le_rfl _ (k4.mono (by omega))
  have k2 : KeyAbove 2 (int32Field 2 r.svn.toInt ++ (int32Field 3 r.platformVersion.toInt ++
      (bytesField 4 r.data ++ (bytesField 5 r.measurement ++ (bytesField 6 r.signature ++ []))))) :=
    keyAbove_int32Field le_rfl _ (k3.mono (by omega))
  have henc : r.encode = int32Field 1 r.version.toInt ++ (int32Field 2 r.svn.toInt ++
      (int32Field 3 r.platformVersion.toInt ++ (bytesField 4 r.data ++ (bytesField 5 r.measurement ++
        (bytesField 6 r.signature ++ []))))) := by
    simp only [AttestationReport.encode, List.append_assoc, List.append_nil]
  rw [henc, AttestationReport.decode]
  simp only [readField_int32Field _ k2, readField_int32Field _ k3, readField_int32Field _ k4,
    readField_bytesField _ k5, readField_bytesField _ k6, readField_bytesField _ (keyAbove_nil 7),
    Option.bind_eq_bind, Option.bind_some, if_pos]

theorem AttestationInfo.decode_encode (i : AttestationInfo) :
    AttestationInfo.decode i.encode = some i := by
  have k2 : KeyAbove 2 (bytesField 2 i.certificate ++ []) := keyAbove_bytesField le_rfl _ (keyAbove_nil 2)
  rw [AttestationInfo.encode, ← List.append_nil (bytesField 2 i.certificate), AttestationInfo.decode]
  simp only [readField_messageField AttestationReport.decode_encode _ k2,
    readField_bytesField _ (keyAbove_nil 3), Option.bind_eq_bind, Option.bind_some, if_pos]

end Oak.Attestation
