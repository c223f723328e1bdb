import Stateback.Lib.Base64
import Stateback.Messaging.Codec
/-!
# Quarantine diagnostics

The diagnostics of `messaging/codec.py`, and the consumer of `messaging/nats.py` that publishes one
before it terminates a delivery.  The hexadecimal SHA-256 of a payload is a parameter.
-/

namespace Stateback.Messaging

open Stateback.Domain CodePoints JsonText Decimals

def maxQuarantineDiagnosticBytes : Nat := 64 * 1024

structure QuarantineDiagnostic where
  diagnosticType : Text
  deliveryCount : Int
  payloadSha256 : Text
  payloadSizeBytes : Int
  message : Option WorkMessageV1
  replayPayload : Option (List UInt8)
deriving DecidableEq

section
variable (limits : Limits) (repr : Text → Text) (sha256Hex : List UInt8 → Text)

def poisonFields (payload : List UInt8) (deliveryCount : Int) : List (Text × Value) :=
  [(text "contract_version", .str (text "v1")),
    (text "diagnostic_type", .str (text "POISON_MESSAGE")),
    (text "delivery_count", .int deliveryCount),
    (text "payload_sha256", .str (sha256Hex payload)),
    (text "payload_size_bytes", .int payload.length),
    (text "replay_payload_base64", .null)]

def exhaustedFields (message : WorkMessageV1) (canonicalPayload : List UInt8)
    (deliveryCount : Int) : List (Text × Value) :=
  [(text "contract_version", .str (text "v1")),
    (text "diagnostic_type", .str (text "DELIVERY_EXHAUSTED")),
    (text "delivery_count", .int deliveryCount),
    (text "message_id", .str (text message.messageId.value)),
    (text "outbox_event_id", .str (text message.outboxEventId.value)),
    (text "operation_id", .str (text message.operationId.value)),
    (text "command", .str (text message.command.value)),
    (text "payload_sha256", .str (sha256Hex canonicalPayload)),
    (text "payload_size_bytes", .int canonicalPayload.length),
    (text "replay_payload_base64", .str (Base64.encode canonicalPayload))]

def diagnosticFields (payload : List UInt8) (deliveryCount : Int) :
    Except Raised (List (Text × Value)) :=
  match decodeWorkMessage limits repr payload with
  | .error (.contract _) => .ok (poisonFields sha256Hex payload deliveryCount)
  | .error e => .error e
  | .ok message =>
    (encodeWorkMessage limits message).map fun canonicalPayload =>
      exhaustedFields sha256Hex message canonicalPayload deliveryCount

def encodeQuarantineDiagnostic (payload : List UInt8) (deliveryCount : Int) :
    Except Raised (List UInt8) :=
  match diagnosticFields limits repr sha256Hex payload deliveryCount with
  | .error e => .error e
  | .ok diagnostic =>
    match (dumps asciiEscape limits.digits (.dict diagnostic)).bind encode with
    | some bytes => .ok bytes
    | none => .error .valueError

def malformedDiagnostic (message : String) : Raised :=
  .contract ⟨"malformed_quarantine_diagnostic", text message⟩

def poisonKeys : List Text :=
  [text "contract_version", text "diagnostic_type", text "delivery_count", text "payload_sha256",
    text "payload_size_bytes", text "replay_payload_base64"]

def exhaustedKeys : List Text :=
  [text "contract_version", text "diagnostic_type", text "delivery_count", text "message_id",
    text "outbox_event_id", text "operation_id", text "command", text "payload_sha256",
    text "payload_size_bytes", text "replay_payload_base64"]

/-- `set(raw) == keys`. -/
def sameKeys (raw : List (Text × Value)) (keys : List Text) : Bool :=
  (raw.map Prod.fst).all (fun key => among key keys) &&
    keys.all fun key => among key (raw.map Prod.fst)

def isText (s : Text) : Value → Bool
  | .str t => decide (t = s)
  | _ => false

/-- Whether a set can be asked for the value. -/
def hashable : Value → Bool
  | .list _ | .dict _ => false
  | _ => true

structure DiagnosticFields where
  deliveryCount : Int
  payloadSha256 : Text
  payloadSizeBytes : Int

def checkFields (raw : List (Text × Value)) : Except Raised DiagnosticFields :=
  let diagnosticType := optionalKey raw "diagnostic_type"
  let expectedKeys :=
    if isText (text "POISON_MESSAGE") diagnosticType then poisonKeys else exhaustedKeys
  if ¬ sameKeys raw expectedKeys ∨ ¬ isText (text "v1") (optionalKey raw "contract_version") then
    .error (malformedDiagnostic "quarantine diagnostic fields are invalid")
  else if ¬ hashable diagnosticType then .error .typeError
  else if ¬ (isText (text "POISON_MESSAGE") diagnosticType ∨
      isText (text "DELIVERY_EXHAUSTED") diagnosticType) then
    .error (malformedDiagnostic "quarantine diagnostic fields are invalid")
  else
    match optionalKey raw "delivery_count", optionalKey raw "payload_sha256",
        optionalKey raw "payload_size_bytes" with
    | .int deliveryCount, .str digest, .int size =>
      if 1 ≤ deliveryCount ∧ digest.length = 64 ∧ digest.all isHexDigit ∧ 0 ≤ size then
        .ok ⟨deliveryCount, digest, size⟩
      else .error (malformedDiagnostic "quarantine diagnostic fields are invalid")
    | _, _, _ => .error (malformedDiagnostic "quarantine diagnostic fields are invalid")

def readPoison (raw : List (Text × Value)) (fields : DiagnosticFields) :
    Except Raised QuarantineDiagnostic :=
  match optionalKey raw "replay_payload_base64" with
  | .null =>
    .ok ⟨text "POISON_MESSAGE", fields.deliveryCount, fields.payloadSha256, fields.payloadSizeBytes,
      none, none⟩
  | _ => .error (malformedDiagnostic "poison diagnostics cannot contain replay payloads")

def readReplay (raw : List (Text × Value)) (fields : DiagnosticFields)
    (replayPayload : List UInt8) : Except Raised QuarantineDiagnostic :=
  if (replayPayload.length : Int) ≠ fields.payloadSizeBytes ∨
      sha256Hex replayPayload ≠ fields.payloadSha256 then
    .error (malformedDiagnostic "quarantine replay payload identity is inconsistent")
  else
    match decodeWorkMessage limits repr replayPayload with
    | .error e => .error e
    | .ok message =>
      if isText (text message.messageId.value) (optionalKey raw "message_id") ∧
          isText (text message.outboxEventId.value) (optionalKey raw "outbox_event_id") ∧
          isText (text message.operationId.value) (optionalKey raw "operation_id") ∧
          isText (text message.command.value) (optionalKey raw "command") then
        .ok ⟨text "DELIVERY_EXHAUSTED", fields.deliveryCount, fields.payloadSha256,
          fields.payloadSizeBytes, some message, some replayPayload⟩
      else .error (malformedDiagnostic "quarantine replay metadata is inconsistent")

def readExhausted (raw : List (Text × Value)) (fields : DiagnosticFields) :
    Except Raised QuarantineDiagnostic :=
  match optionalKey raw "replay_payload_base64" with
  | .str replayEncoded =>
    match Base64.decode true replayEncoded with
    | some replayPayload => readReplay limits repr sha256Hex raw fields replayPayload
    | none => .error (malformedDiagnostic "quarantine replay payload is invalid")
  | _ => .error (malformedDiagnostic "delivery diagnostics require a replay payload")

def readDiagnostic (raw : List (Text × Value)) : Except Raised QuarantineDiagnostic :=
  match checkFields raw with
  | .error e => .error e
  | .ok fields =>
    if isText (text "POISON_MESSAGE") (optionalKey raw "diagnostic_type") then readPoison raw fields
    else readExhausted limits repr sha256Hex raw fields

def invalidAscii : WireError :=
  ⟨"malformed_quarantine_diagnostic", text "quarantine diagnostic must be valid ASCII JSON"⟩

def decodeQuarantineDiagnostic (payload : List UInt8) : Except Raised QuarantineDiagnostic :=
  if maxQuarantineDiagnosticBytes < payload.length then
    .error (.contract ⟨"oversize_quarantine_diagnostic",
      text "quarantine diagnostic exceeds the supported size"⟩)
  else
    match decodeAscii payload with
    | none => .error (.contract invalidAscii)
    | some t =>
      match loadJson invalidAscii limits t with
      | .error e => .error e
      | .ok (.dict raw) => readDiagnostic limits repr sha256Hex raw
      | .ok _ => .error (malformedDiagnostic "quarantine diagnostic must be an object")

/-- How a delivery is acknowledged; `publish` says whether the quarantine took the diagnostic. -/
def JetStreamConsumer.handle (handler : List UInt8 → Int → Except Raised AckDecision)
    (publish : List UInt8 → Bool) (payload : List UInt8) (deliveryCount : Int) :
    Except Raised AckDecision :=
  match handler payload deliveryCount with
  | .ok .term =>
    match encodeQuarantineDiagnostic limits repr sha256Hex payload deliveryCount with
    | .error e => .error e
    | .ok diagnostic => .ok (if publish diagnostic then .term else .nak)
  | decision => decision

end

/-! ## The texts of a message and of a diagnostic -/

theorem id_unescaped {id : OpaqueId} (formed : id.wellFormed) :
    (text id.value).length = 36 ∧ (text id.value).all isUnescaped := by
  obtain ⟨length, chars⟩ := opaqueIdPattern_chars formed
  refine ⟨length, List.all_eq_true.mpr fun c member => decide_eq_true ?_⟩
  rcases chars c member with digit | dash
  · have := of_decide_eq_true digit
    omega
  · omega

theorem toWire_unescaped (t : UtcTimestamp) :
    t.toWire.length = 27 ∧ t.toWire.all isUnescaped := by
  obtain ⟨length, chars⟩ := t.toWire_chars
  refine ⟨length, List.all_eq_true.mpr fun c member => decide_eq_true ?_⟩
  rcases chars c member with digit | mark
  · have := of_decide_eq_true digit
    omega
  · omega

theorem command_unescaped (command : WorkCommand) :
    (text command.value).length ≤ 10 ∧ (text command.value).all isUnescaped := by
  cases command <;> decide

theorem base64_unescaped (bytes : List UInt8) : (Base64.encode bytes).all isUnescaped := by
  obtain ⟨letters, pads, shape, all, _⟩ := Base64.encode_shape bytes
  have letter : ∀ n : Fin 64, isUnescaped (Base64.letter n) := by decide
  rw [shape, List.all_append, Bool.and_eq_true]
  constructor
  · rw [List.all_eq_true]
    intro c member
    obtain ⟨n, small, same⟩ := all c member
    rw [same]
    exact letter ⟨n, small⟩
  · rw [List.all_replicate]
    cases pads <;> rfl

/-- What `hexdigest` of a SHA-256 looks like. -/
def isDigest (s : Text) : Bool := decide (s.length = 64) && s.all isHexDigit

theorem digest_unescaped {s : Text} (digest : isDigest s) :
    s.length = 64 ∧ s.all isHexDigit ∧ s.all isUnescaped := by
  unfold isDigest at digest
  rw [Bool.and_eq_true] at digest
  refine ⟨of_decide_eq_true digest.1, digest.2, List.all_eq_true.mpr fun c member => ?_⟩
  have := of_decide_eq_true (List.all_eq_true.mp digest.2 c member)
  exact decide_eq_true (by omega)

/-! ## Encoding a message again -/

theorem size_printInt_le (i : Int) : size (printInt i) ≤ 1 + (decimal i.natAbs).length := by
  have sign : width 45 = 1 := rfl
  unfold printInt
  split
  · rw [size_cons, size_decimal, sign]
  · rw [size_decimal]
    omega

theorem mem_of_lookup? {data : List (Text × Value)} {key : Text} {v : Value}
    (found : lookup? data key = some v) : (key, v) ∈ data := by
  unfold lookup? at found
  obtain ⟨pair, first, value⟩ := Option.map_eq_some_iff.mp found
  have holds := List.find?_some first
  have named : pair.1 = key := by simpa using holds
  rw [← named, ← value]
  exact List.mem_of_find?_eq_some first

/-- Fields that are read by their names are all there is, where every name is known. -/
theorem perm_lookup {data : List (Text × Value)} {keys : List Text}
    (distinct : (data.map Prod.fst).Nodup) (distinct' : keys.Nodup)
    (known : ∀ pair ∈ data, pair.1 ∈ keys) (present : ∀ key ∈ keys, lookup? data key ≠ none) :
    data.Perm (keys.map fun key => (key, (lookup? data key).getD .null)) := by
  have nodup : (keys.map fun key => (key, (lookup? data key).getD .null)).Nodup := by
    refine List.Nodup.of_map Prod.fst ?_
    rw [List.map_map]
    exact (List.map_id keys).symm ▸ distinct'
  rw [List.perm_ext_iff_of_nodup (List.Nodup.of_map Prod.fst distinct) nodup]
  intro pair
  constructor
  · intro member
    have found : lookup? data pair.1 = some pair.2 := lookup?_mem distinct member
    refine List.mem_map.mpr ⟨pair.1, known pair member, ?_⟩
    rw [found]
    rfl
  · intro member
    obtain ⟨key, inside, same⟩ := List.mem_map.mp member
    obtain ⟨v, found⟩ := Option.ne_none_iff_exists'.mp (present key inside)
    rw [← same, found]
    exact mem_of_lookup? found

/-- The room of a message's values; all but three are of one size. -/
theorem valuesSize_fields (message : WorkMessageV1) :
    valuesSize (message.fields.map Prod.snd) =
      147 + size (print escape (.int message.expectedOperationVersion)) +
        size (print escape (.str (text message.command.value))) +
        size (print escape (optionalText message.correlationId)) := by
  have idSize : ∀ {id : OpaqueId}, id.wellFormed →
      size (print escape (.str (text id.value))) = 38 := by
    intro id formed
    obtain ⟨length, unescaped⟩ := id_unescaped formed
    rw [print, size_unescaped unescaped, length]
  have createdSize : size (print escape (.str message.createdAt.toWire)) = 29 := by
    obtain ⟨length, unescaped⟩ := toWire_unescaped message.createdAt
    rw [print, size_unescaped unescaped, length]
  have versionSize : size (print escape (.str (text message.contractVersion))) = 4 := by
    rw [message.version_v1, print]
    decide
  have none : valuesSize [] = 0 := rfl
  rw [WorkMessageV1.fields]
  simp only [List.map_cons, List.map_nil, valuesSize_cons, versionSize,
    idSize message.messageId_formed, idSize message.outboxEventId_formed,
    idSize message.operationId_formed, createdSize, none]
  generalize size (print escape (.int message.expectedOperationVersion)) = expected
  generalize size (print escape (.str (text message.command.value))) = command
  generalize size (print escape (optionalText message.correlationId)) = correlation
  omega

/-- A message without a correlation id is small, whatever it was read from. -/
theorem fields_size_untraced {message : WorkMessageV1} (untraced : message.correlationId = none)
    (within : (decimal message.expectedOperationVersion.natAbs).length ≤ 4300) :
    1 + pairsSize message.fields ≤ maxWorkMessageBytes := by
  have expectedSize : size (print escape (.int message.expectedOperationVersion)) ≤ 4301 := by
    have := size_printInt_le message.expectedOperationVersion
    rw [print]
    omega
  have commandSize : size (print escape (.str (text message.command.value))) ≤ 12 := by
    obtain ⟨length, unescaped⟩ := command_unescaped message.command
    rw [print, size_unescaped unescaped]
    omega
  have nullSize : size (print escape (optionalText message.correlationId)) = 4 := by
    rw [untraced, optionalText, print]
    decide
  have few : keysSize (message.fields.map Prod.fst) ≤ 240 :=
    show keysSize messageFields ≤ 240 by decide
  have values := valuesSize_fields message
  have room := pairsSize_eq message.fields
  unfold maxWorkMessageBytes
  omega

/-- With one it takes no more room than what it was read from. -/
theorem fields_size_traced {data : List (Text × Value)} {message : WorkMessageV1} {name : Text}
    (traced : message.correlationId = some name) (distinct : (data.map Prod.fst).Nodup)
    (read : ReadFrom data message) : pairsSize message.fields ≤ pairsSize data := by
  have there : lookup? data (text "correlation_id") =
      some (optionalText message.correlationId) := by
    have same := read.correlationId
    cases found : lookup? data (text "correlation_id") with
    | none =>
      rw [found, traced] at same
      cases same
    | some v =>
      rw [found] at same
      exact congrArg some same
  obtain ⟨id1, found1, parsed1⟩ := read.messageId
  obtain ⟨id2, found2, parsed2⟩ := read.outboxEventId
  obtain ⟨id3, found3, parsed3⟩ := read.operationId
  obtain ⟨time, found4, parsed4⟩ := read.createdAt
  have perm := perm_lookup distinct (show messageFields.Nodup by decide) read.known (by
    simp only [messageFields, List.forall_mem_cons]
    simp [read.version, found1, found2, found3, read.expected, read.command, there, found4])
  have valueOf : ∀ {key v}, lookup? data key = some v → (lookup? data key).getD .null = v :=
    fun found => by rw [found]; rfl
  have read_values : valuesSize ((messageFields.map fun key =>
      (key, (lookup? data key).getD .null)).map Prod.snd) =
        4 + size (print escape (.str id1)) + size (print escape (.str id2)) +
        size (print escape (.str id3)) + size (print escape (.str time)) +
        size (print escape (.int message.expectedOperationVersion)) +
        size (print escape (.str (text message.command.value))) +
        size (print escape (optionalText message.correlationId)) := by
    have versionSize : size (print escape (.str (text contractVersion))) = 4 := by
      rw [print]
      decide
    have none : valuesSize [] = 0 := rfl
    simp only [messageFields, List.map_cons, List.map_nil, valuesSize_cons, valueOf read.version,
      valueOf found1, valueOf found2, valueOf found3, valueOf read.expected, valueOf read.command,
      valueOf there, valueOf found4, versionSize, none]
    generalize size (print escape (.int message.expectedOperationVersion)) = expected
    generalize size (print escape (.str (text message.command.value))) = command
    generalize size (print escape (optionalText message.correlationId)) = correlation
    omega
  have keys : (messageFields.map fun key => (key, (lookup? data key).getD .null)).map Prod.fst =
      message.fields.map Prod.fst := rfl
  have values := valuesSize_fields message
  have room := pairsSize_eq message.fields
  have room' := pairsSize_eq (messageFields.map fun key => (key, (lookup? data key).getD .null))
  have long : ∀ s, s.length + 2 ≤ size (print escape (.str s)) := by
    intro s
    rw [print]
    exact size_printString_ge s
  have long1 := long id1
  have long2 := long id2
  have long3 := long id3
  have long4 := long time
  have length1 := OpaqueId.parse_length parsed1
  have length2 := OpaqueId.parse_length parsed2
  have length3 := OpaqueId.parse_length parsed3
  have length4 := UtcTimestamp.parse_length parsed4
  rw [pairsSize_perm perm, room, room', keys, read_values, values]
  omega

theorem decodeWorkMessage_ok {limits : Limits} {repr : Text → Text} {payload : List UInt8}
    {message : WorkMessageV1} (read : decodeWorkMessage limits repr payload = .ok message) :
    payload.length ≤ maxWorkMessageBytes ∧ ∃ t data, decode payload = some t ∧
      loads limits t = .ok (.dict data) ∧ ReadFrom data message := by
  unfold decodeWorkMessage at read
  split at read
  case isTrue => cases read
  case isFalse short =>
    refine ⟨Nat.not_lt.mp short, ?_⟩
    split at read
    case h_1 => cases read
    case h_2 t decoded =>
      unfold loadJson at read
      split at read
      case h_1 raw loaded =>
        rw [Except.bind, readWorkMessage] at read
        split at read
        case h_1 message' parsed =>
          cases read
          obtain ⟨data, same, from'⟩ := fromWire_ok parsed
          exact ⟨t, data, decoded, same ▸ loaded, from'⟩
        case h_2 => cases read
      all_goals cases read

theorem encodeWorkMessage_size {limits : Limits} (deep : 1 ≤ limits.depth)
    {message : WorkMessageV1} {bytes : List UInt8}
    (encoded : encodeWorkMessage limits message = .ok bytes) :
    bytes.length = 1 + pairsSize message.fields := by
  unfold encodeWorkMessage at encoded
  split at encoded
  case h_2 => cases encoded
  case h_1 bytes' found =>
    cases encoded
    obtain ⟨t, dumped, written⟩ := Option.bind_eq_some_iff.mp found
    have room := (dumps_flat deep (fields_flat message) (List.cons_ne_nil _ _) dumped).1
    rw [← room, (size_of_decode bytes t (decode_encode written)).1]

/-- A message has an encoding where its version can be converted and its correlation id has no
lone surrogate. -/
theorem encodeWorkMessage_iff {limits : Limits} {message : WorkMessageV1} :
    (∃ bytes, encodeWorkMessage limits message = .ok bytes) ↔
      (decimal message.expectedOperationVersion.natAbs).length ≤ limits.digits ∧
      ∀ name ∈ message.correlationId, name.all isScalar := by
  have ascii : ∀ c, c < 128 → isScalar c := fun c small => decide_eq_true (by omega)
  have within : withinDigits limits.digits message.toWire =
      decide ((decimal message.expectedOperationVersion.natAbs).length ≤ limits.digits) := by
    cases correlation : message.correlationId <;>
    simp [WorkMessageV1.toWire, WorkMessageV1.fields, withinDigits, pairsWithinDigits, optionalText,
      correlation]
  have created : message.createdAt.toWire.all isScalar := by
    refine text_mono (fun c plain => ?_) (toWire_unescaped message.createdAt).2
    have := of_decide_eq_true plain
    exact ascii c (by omega)
  have scalar : textsAll isScalar message.toWire ↔
      ∀ name ∈ message.correlationId, name.all isScalar := by
    cases correlation : message.correlationId <;>
    simp [WorkMessageV1.toWire, WorkMessageV1.fields, textsAll, pairsAll, text_scalar, created,
      optionalText, correlation]
  have printed : (print escape (sortKeys message.toWire)).all isScalar =
      textsAll isScalar message.toWire := by
    rw [print_all ascii, textsAll_sortKeys]
  rw [← scalar, ← printed]
  unfold encodeWorkMessage dumps encode
  rw [within]
  cases fits :
    decide ((decimal message.expectedOperationVersion.natAbs).length ≤ limits.digits) with
  | false => simp [of_decide_eq_false fits]
  | true =>
    have few := of_decide_eq_true fits
    cases all : (print escape (sortKeys message.toWire)).all isScalar with
    | false =>
      simp only [if_true, Option.bind_some, all, Bool.false_eq_true, if_false, and_false, iff_false]
      rintro ⟨bytes, found⟩
      cases found
    | true =>
      simp only [if_true, Option.bind_some, all, and_true]
      exact ⟨fun _ => few, fun _ => ⟨_, rfl⟩⟩

/-- A message that was decoded is encoded again, within the size, and decodes as itself. -/
theorem reencodes {limits : Limits} (deep : 1 ≤ limits.depth) (digits : limits.digits ≤ 4300)
    {repr : Text → Text} {payload : List UInt8} {message : WorkMessageV1}
    (decoded : decodeWorkMessage limits repr payload = .ok message)
    (named : ∀ name ∈ message.correlationId, name.all isScalar) :
    ∃ canonical, encodeWorkMessage limits message = .ok canonical ∧
      canonical.length ≤ maxWorkMessageBytes ∧
      decodeWorkMessage limits repr canonical = .ok message := by
  obtain ⟨short, t, data, read, loaded, source⟩ := decodeWorkMessage_ok decoded
  obtain ⟨room, within, distinct⟩ := loads_sound loaded
  have distinct' := distinct data rfl
  rw [withinDigits, pairsWithinDigits_eq, List.all_eq_true] at within
  have expected := within _ (mem_of_lookup? source.expected)
  rw [withinDigits] at expected
  have few := of_decide_eq_true expected
  obtain ⟨canonical, encoded⟩ := encodeWorkMessage_iff.mpr ⟨few, named⟩
  have length := encodeWorkMessage_size deep encoded
  have within' : canonical.length ≤ maxWorkMessageBytes := by
    cases correlation : message.correlationId with
    | none =>
      have := fields_size_untraced correlation (by omega)
      omega
    | some name =>
      have smaller := fields_size_traced correlation distinct' source
      have nonempty : data ≠ [] := List.ne_nil_of_mem (mem_of_lookup? source.expected)
      have whole := size_dict nonempty
      have bytes := (size_of_decode payload t read).1
      omega
  exact ⟨canonical, encoded, within',
    (decodeWorkMessage_encode deep repr encoded within').mpr source.named⟩

/-! ## Reading a diagnostic -/

theorem sameKeys_perm {data : List (Text × Value)} {keys : List Text}
    (perm : (data.map Prod.fst).Perm keys) : sameKeys data keys := by
  unfold sameKeys
  rw [Bool.and_eq_true, List.all_eq_true, List.all_eq_true]
  exact ⟨fun key member => among_iff.mpr (perm.mem_iff.mp member),
    fun key member => among_iff.mpr (perm.mem_iff.mpr member)⟩

theorem poisonFields_flat (sha256Hex : List UInt8 → Text) (payload : List UInt8)
    (deliveryCount : Int) : Flat (poisonFields sha256Hex payload deliveryCount) where
  distinct := show poisonKeys.Nodup by decide
  clean := by simp [poisonFields, PairsClean, Clean]
  shallow := by simp [poisonFields, pairsDepth, depthOf]

theorem exhaustedFields_flat (sha256Hex : List UInt8 → Text) (message : WorkMessageV1)
    (canonicalPayload : List UInt8) (deliveryCount : Int) :
    Flat (exhaustedFields sha256Hex message canonicalPayload deliveryCount) where
  distinct := show exhaustedKeys.Nodup by decide
  clean := by simp [exhaustedFields, PairsClean, Clean]
  shallow := by simp [exhaustedFields, pairsDepth, depthOf]

section
variable {limits : Limits} {repr : Text → Text} {sha256Hex : List UInt8 → Text}
  {data : List (Text × Value)} {deliveryCount : Int}

theorem readDiagnostic_poison {payload : List UInt8}
    (perm : data.Perm (poisonFields sha256Hex payload deliveryCount))
    (delivered : 1 ≤ deliveryCount) (digest : isDigest (sha256Hex payload)) :
    readDiagnostic limits repr sha256Hex data =
      .ok ⟨text "POISON_MESSAGE", deliveryCount, sha256Hex payload, payload.length, none,
        none⟩ := by
  have distinct : (data.map Prod.fst).Nodup :=
    (perm.map Prod.fst).nodup_iff.mpr (poisonFields_flat sha256Hex payload deliveryCount).distinct
  have at_ : ∀ {key v}, (text key, v) ∈ poisonFields sha256Hex payload deliveryCount →
      optionalKey data key = v := fun member => optionalKey_mem distinct (perm.mem_iff.mpr member)
  have version : optionalKey data "contract_version" = .str (text "v1") :=
    at_ (by simp [poisonFields])
  have kind : optionalKey data "diagnostic_type" = .str (text "POISON_MESSAGE") :=
    at_ (by simp [poisonFields])
  have count : optionalKey data "delivery_count" = .int deliveryCount :=
    at_ (by simp [poisonFields])
  have hex : optionalKey data "payload_sha256" = .str (sha256Hex payload) :=
    at_ (by simp [poisonFields])
  have size : optionalKey data "payload_size_bytes" = .int payload.length :=
    at_ (by simp [poisonFields])
  have replay : optionalKey data "replay_payload_base64" = .null := at_ (by simp [poisonFields])
  have keys : sameKeys data poisonKeys := sameKeys_perm (perm.map Prod.fst)
  obtain ⟨length, digits, _⟩ := digest_unescaped digest
  have poison : isText (text "POISON_MESSAGE") (.str (text "POISON_MESSAGE")) := by
    simp [isText]
  have v1 : isText (text "v1") (.str (text "v1")) := by simp [isText]
  unfold readDiagnostic checkFields
  simp only [version, kind, count, hex, size, poison, v1, keys, hashable, if_true,
    not_true_eq_false, or_self, if_false, true_or, delivered, length, digits, Int.natCast_nonneg,
    and_self, readPoison, replay]

theorem readDiagnostic_exhausted {message : WorkMessageV1} {canonicalPayload : List UInt8}
    (perm : data.Perm (exhaustedFields sha256Hex message canonicalPayload deliveryCount))
    (delivered : 1 ≤ deliveryCount) (digest : isDigest (sha256Hex canonicalPayload))
    (decoded : decodeWorkMessage limits repr canonicalPayload = .ok message) :
    readDiagnostic limits repr sha256Hex data =
      .ok ⟨text "DELIVERY_EXHAUSTED", deliveryCount, sha256Hex canonicalPayload,
        canonicalPayload.length, some message, some canonicalPayload⟩ := by
  have distinct : (data.map Prod.fst).Nodup := (perm.map Prod.fst).nodup_iff.mpr
    (exhaustedFields_flat sha256Hex message canonicalPayload deliveryCount).distinct
  have at_ : ∀ {key v},
      (text key, v) ∈ exhaustedFields sha256Hex message canonicalPayload deliveryCount →
        optionalKey data key = v := fun member => optionalKey_mem distinct (perm.mem_iff.mpr member)
  have version : optionalKey data "contract_version" = .str (text "v1") :=
    at_ (by simp [exhaustedFields])
  have kind : optionalKey data "diagnostic_type" = .str (text "DELIVERY_EXHAUSTED") :=
    at_ (by simp [exhaustedFields])
  have count : optionalKey data "delivery_count" = .int deliveryCount :=
    at_ (by simp [exhaustedFields])
  have messageId : optionalKey data "message_id" = .str (text message.messageId.value) :=
    at_ (by simp [exhaustedFields])
  have outboxEventId : optionalKey data "outbox_event_id" =
      .str (text message.outboxEventId.value) := at_ (by simp [exhaustedFields])
  have operationId : optionalKey data "operation_id" = .str (text message.operationId.value) :=
    at_ (by simp [exhaustedFields])
  have command : optionalKey data "command" = .str (text message.command.value) :=
    at_ (by simp [exhaustedFields])
  have hex : optionalKey data "payload_sha256" = .str (sha256Hex canonicalPayload) :=
    at_ (by simp [exhaustedFields])
  have size : optionalKey data "payload_size_bytes" = .int canonicalPayload.length :=
    at_ (by simp [exhaustedFields])
  have replay : optionalKey data "replay_payload_base64" =
      .str (Base64.encode canonicalPayload) := at_ (by simp [exhaustedFields])
  have keys : sameKeys data exhaustedKeys := sameKeys_perm (perm.map Prod.fst)
  obtain ⟨length, digits, _⟩ := digest_unescaped digest
  have same : ∀ s, isText s (.str s) = true := by simp [isText]
  have notPoison : isText (text "POISON_MESSAGE") (.str (text "DELIVERY_EXHAUSTED")) = false := by
    decide
  unfold readDiagnostic checkFields
  simp only [version, kind, count, hex, size, same, notPoison, keys, hashable, if_true,
    not_true_eq_false, Bool.false_eq_true, or_self, or_true, if_false, delivered, length, digits,
    Int.natCast_nonneg, and_self, readExhausted, replay, Base64.decode_encode, readReplay, ne_eq,
    decoded, messageId, outboxEventId, operationId, command]

end

/-! ## Writing a diagnostic -/

theorem size_int_le {limit : Nat} {i : Int} (within : (decimal i.natAbs).length ≤ limit) :
    size (print escape (.int i)) ≤ 1 + limit := by
  have := size_printInt_le i
  rw [print]
  omega

theorem size_str {s : Text} (unescaped : s.all isUnescaped) :
    size (print escape (.str s)) = s.length + 2 := by
  rw [print, size_unescaped unescaped]

section
variable {limits : Limits} {sha256Hex : List UInt8 → Text} {payload : List UInt8}
  {deliveryCount : Int} (deep : 1 ≤ limits.depth) (digits : limits.digits ≤ 4300)
  (digest : isDigest (sha256Hex payload))
  (count : (decimal deliveryCount.natAbs).length ≤ limits.digits)
include deep digits digest count

/-- A diagnostic of a poison payload is written in the room a diagnostic may take, and its fields
are read back. -/
theorem dumps_poison (length : (decimal payload.length).length ≤ limits.digits) :
    ∃ bytes, (dumps asciiEscape limits.digits
        (.dict (poisonFields sha256Hex payload deliveryCount))).bind encode = some bytes ∧
      bytes.length ≤ maxQuarantineDiagnosticBytes ∧ ∃ t data, decodeAscii bytes = some t ∧
        data.Perm (poisonFields sha256Hex payload deliveryCount) ∧
        loads limits t = .ok (.dict data) := by
  obtain ⟨hexLength, _, hex⟩ := digest_unescaped digest
  have flat := poisonFields_flat sha256Hex payload deliveryCount
  have names : (poisonFields sha256Hex payload deliveryCount).map Prod.fst = poisonKeys := rfl
  have printable : pairsAll isPrintable (poisonFields sha256Hex payload deliveryCount) := by
    rw [pairsAll_split, names, Bool.and_eq_true]
    refine ⟨by decide, ?_⟩
    simp only [poisonFields, List.map_cons, List.map_nil, itemsAll, textsAll,
      unescaped_printable hex]
    decide
  have within : pairsWithinDigits limits.digits (poisonFields sha256Hex payload deliveryCount) := by
    simp [poisonFields, pairsWithinDigits, withinDigits, count, length]
  obtain ⟨bytes, written, room, read⟩ :=
    dumps_ascii deep flat (List.cons_ne_nil _ _) printable within
  have keys : keysSize poisonKeys ≤ 150 := by decide
  have literals : size (print escape (.str (text "v1"))) = 4 ∧
      size (print escape (.str (text "POISON_MESSAGE"))) = 16 ∧ size (print escape .null) = 4 := by
    rw [print, print, print]
    decide
  have countSize := size_int_le count
  have lengthSize : size (print escape (.int payload.length)) ≤ 1 + limits.digits :=
    size_int_le length
  have hexSize := size_str hex
  have none : valuesSize [] = 0 := rfl
  have values :
      valuesSize ((poisonFields sha256Hex payload deliveryCount).map Prod.snd) ≤ 9000 := by
    simp only [poisonFields, List.map_cons, List.map_nil, valuesSize_cons, literals.1, literals.2.1,
      literals.2.2, hexSize, hexLength, none]
    generalize size (print escape (.int deliveryCount)) = a at *
    generalize size (print escape (.int payload.length)) = b at *
    omega
  have whole := pairsSize_eq (poisonFields sha256Hex payload deliveryCount)
  refine ⟨bytes, written, ?_, read⟩
  rw [room, whole, names]
  unfold maxQuarantineDiagnosticBytes
  omega

end

/-- So is one of a message. -/
theorem dumps_exhausted {limits : Limits} {sha256Hex : List UInt8 → Text} {deliveryCount : Int}
    {message : WorkMessageV1} {canonicalPayload : List UInt8} (deep : 1 ≤ limits.depth)
    (digits : limits.digits = 4300) (digest : isDigest (sha256Hex canonicalPayload))
    (count : (decimal deliveryCount.natAbs).length ≤ limits.digits)
    (short : canonicalPayload.length ≤ maxWorkMessageBytes) :
    ∃ bytes, (dumps asciiEscape limits.digits
        (.dict (exhaustedFields sha256Hex message canonicalPayload deliveryCount))).bind encode =
          some bytes ∧
      bytes.length ≤ maxQuarantineDiagnosticBytes ∧ ∃ t data, decodeAscii bytes = some t ∧
        data.Perm (exhaustedFields sha256Hex message canonicalPayload deliveryCount) ∧
        loads limits t = .ok (.dict data) := by
  have length : (decimal canonicalPayload.length).length ≤ 5 :=
    (decimal_length_le (by decide)).mpr (by unfold maxWorkMessageBytes at short; omega)
  obtain ⟨hexLength, _, hex⟩ := digest_unescaped digest
  obtain ⟨idLength, idText⟩ := id_unescaped message.messageId_formed
  obtain ⟨idLength', idText'⟩ := id_unescaped message.outboxEventId_formed
  obtain ⟨idLength'', idText''⟩ := id_unescaped message.operationId_formed
  obtain ⟨commandLength, commandText⟩ := command_unescaped message.command
  have base64 := base64_unescaped canonicalPayload
  have flat := exhaustedFields_flat sha256Hex message canonicalPayload deliveryCount
  have names : (exhaustedFields sha256Hex message canonicalPayload deliveryCount).map Prod.fst =
      exhaustedKeys := rfl
  have printable : pairsAll isPrintable
      (exhaustedFields sha256Hex message canonicalPayload deliveryCount) := by
    rw [pairsAll_split, names, Bool.and_eq_true]
    refine ⟨by decide, ?_⟩
    simp only [exhaustedFields, List.map_cons, List.map_nil, itemsAll, textsAll,
      unescaped_printable hex, unescaped_printable idText, unescaped_printable idText',
      unescaped_printable idText'', unescaped_printable commandText, unescaped_printable base64]
    decide
  have within : pairsWithinDigits limits.digits
      (exhaustedFields sha256Hex message canonicalPayload deliveryCount) := by
    have few : (decimal canonicalPayload.length).length ≤ limits.digits := by omega
    simp [exhaustedFields, pairsWithinDigits, withinDigits, count, few]
  obtain ⟨bytes, written, room, read⟩ :=
    dumps_ascii deep flat (List.cons_ne_nil _ _) printable within
  have keys : keysSize exhaustedKeys ≤ 250 := by decide
  have literals : size (print escape (.str (text "v1"))) = 4 ∧
      size (print escape (.str (text "DELIVERY_EXHAUSTED"))) = 20 := by
    rw [print, print]
    decide
  have countSize := size_int_le count
  have lengthSize : size (print escape (.int canonicalPayload.length)) ≤ 1 + 5 :=
    size_int_le length
  have none : valuesSize [] = 0 := rfl
  have values : valuesSize ((exhaustedFields sha256Hex message canonicalPayload deliveryCount).map
      Prod.snd) ≤ 27000 := by
    have encoded := Base64.encode_length canonicalPayload
    unfold maxWorkMessageBytes at short
    simp only [exhaustedFields, List.map_cons, List.map_nil, valuesSize_cons, literals.1,
      literals.2, size_str hex, size_str idText, size_str idText', size_str idText'',
      size_str commandText, size_str base64, hexLength, idLength, idLength', idLength'', encoded,
      none]
    generalize size (print escape (.int deliveryCount)) = a at *
    generalize size (print escape (.int canonicalPayload.length)) = b at *
    omega
  have whole := pairsSize_eq (exhaustedFields sha256Hex message canonicalPayload deliveryCount)
  refine ⟨bytes, written, ?_, read⟩
  rw [room, whole, names]
  unfold maxQuarantineDiagnosticBytes
  omega

/-! ## Round trips -/

/-- The limits of the interpreter: the digits of an integer, and the nesting that is left. -/
def interpreter (depth : Nat) : Limits := ⟨4300, depth⟩

/-- Reading the payload meets no limit of the interpreter, its length and its deliveries can be
written, and a message that it decodes as has no lone surrogate in its correlation id. -/
structure Quarantinable (limits : Limits) (repr : Text → Text) (payload : List UInt8)
    (deliveryCount : Int) : Prop where
  readable : Readable limits payload
  count : (decimal deliveryCount.natAbs).length ≤ limits.digits
  length : (decimal payload.length).length ≤ limits.digits
  named : ∀ message, decodeWorkMessage limits repr payload = .ok message →
    ∀ name ∈ message.correlationId, name.all isScalar

/-- What a diagnostic of the payload has to tell. -/
structure Tells (limits : Limits) (repr : Text → Text) (sha256Hex : List UInt8 → Text)
    (payload : List UInt8) (deliveryCount : Int) (diagnostic : QuarantineDiagnostic) : Prop where
  count : diagnostic.deliveryCount = deliveryCount
  poison : (∀ message, decodeWorkMessage limits repr payload ≠ .ok message) →
    diagnostic.payloadSizeBytes = payload.length ∧
    diagnostic.payloadSha256 = sha256Hex payload ∧ diagnostic.replayPayload = none
  replay : ∀ message, decodeWorkMessage limits repr payload = .ok message →
    ∃ canonical, encodeWorkMessage limits message = .ok canonical ∧
      diagnostic.replayPayload = some canonical ∧
      diagnostic.payloadSizeBytes = canonical.length ∧
      diagnostic.payloadSha256 = sha256Hex canonical ∧ diagnostic.message = some message

def RoundTrips (limits : Limits) (repr : Text → Text) (sha256Hex : List UInt8 → Text)
    (payload : List UInt8) (deliveryCount : Int) : Prop :=
  ∃ bytes diagnostic,
    encodeQuarantineDiagnostic limits repr sha256Hex payload deliveryCount = .ok bytes ∧
    decodeQuarantineDiagnostic limits repr sha256Hex bytes = .ok diagnostic ∧
    Tells limits repr sha256Hex payload deliveryCount diagnostic

section
variable {limits : Limits} {repr : Text → Text} {sha256Hex : List UInt8 → Text}
  {payload : List UInt8} {deliveryCount : Int}

/-- The fields of a diagnostic that is written have integers that can be. -/
theorem encodeQuarantineDiagnostic_ok {bytes : List UInt8}
    (encoded : encodeQuarantineDiagnostic limits repr sha256Hex payload deliveryCount = .ok bytes) :
    ∃ fields, diagnosticFields limits repr sha256Hex payload deliveryCount = .ok fields ∧
      pairsWithinDigits limits.digits fields := by
  unfold encodeQuarantineDiagnostic at encoded
  cases chosen : diagnosticFields limits repr sha256Hex payload deliveryCount with
  | error e => rw [chosen] at encoded; cases encoded
  | ok fields =>
    refine ⟨fields, rfl, ?_⟩
    rw [chosen] at encoded
    simp only at encoded
    split at encoded
    case h_2 => cases encoded
    case h_1 bytes' written =>
      obtain ⟨t, dumped, _⟩ := Option.bind_eq_some_iff.mp written
      unfold dumps at dumped
      split at dumped
      case isTrue within => rwa [withinDigits] at within
      case isFalse => cases dumped

theorem quarantinable_of_encoded (digits : limits.digits = 4300) {bytes : List UInt8}
    (encoded : encodeQuarantineDiagnostic limits repr sha256Hex payload deliveryCount = .ok bytes) :
    Quarantinable limits repr payload deliveryCount := by
  obtain ⟨fields, chosen, within⟩ := encodeQuarantineDiagnostic_ok encoded
  rw [pairsWithinDigits_eq, List.all_eq_true] at within
  unfold diagnosticFields at chosen
  cases decoded : decodeWorkMessage limits repr payload with
  | error e =>
    cases e with
    | valueError => rw [decoded] at chosen; cases chosen
    | typeError => rw [decoded] at chosen; cases chosen
    | recursionError => rw [decoded] at chosen; cases chosen
    | contract e =>
      rw [decoded] at chosen
      cases chosen
      have count := within (text "delivery_count", .int deliveryCount) (by simp [poisonFields])
      have length := within (text "payload_size_bytes", .int payload.length)
        (by simp [poisonFields])
      rw [withinDigits] at count length
      exact
        { readable := (settled_iff limits repr payload).mp (.inr ⟨e, decoded⟩)
          count := of_decide_eq_true count
          length := of_decide_eq_true length
          named := fun message read => by rw [decoded] at read; cases read }
  | ok message =>
    rw [decoded] at chosen
    simp only at chosen
    cases canonical : encodeWorkMessage limits message with
    | error e => rw [canonical] at chosen; cases chosen
    | ok canonicalPayload =>
      rw [canonical] at chosen
      cases chosen
      have count := within (text "delivery_count", .int deliveryCount) (by simp [exhaustedFields])
      rw [withinDigits] at count
      have short := (decodeWorkMessage_ok decoded).1
      have length : (decimal payload.length).length ≤ 5 :=
        (decimal_length_le (by decide)).mpr (by unfold maxWorkMessageBytes at short; omega)
      exact
        { readable := (settled_iff limits repr payload).mp (.inl ⟨message, decoded⟩)
          count := of_decide_eq_true count
          length := by omega
          named := fun message' read => by
            rw [decoded] at read
            cases read
            exact (encodeWorkMessage_iff.mp ⟨canonicalPayload, canonical⟩).2 }

/-- A diagnostic within its room decodes to what is read of its fields. -/
theorem decodeQuarantineDiagnostic_fields {bytes : List UInt8} {t : Text}
    {data : List (Text × Value)} (short : bytes.length ≤ maxQuarantineDiagnosticBytes)
    (ascii : decodeAscii bytes = some t) (loaded : loads limits t = .ok (.dict data)) :
    decodeQuarantineDiagnostic limits repr sha256Hex bytes =
      readDiagnostic limits repr sha256Hex data := by
  rw [decodeQuarantineDiagnostic, if_neg (by omega), ascii]
  simp only [loadJson, loaded]

theorem encodeQuarantineDiagnostic_fields {bytes : List UInt8} {fields : List (Text × Value)}
    (chosen : diagnosticFields limits repr sha256Hex payload deliveryCount = .ok fields)
    (written : (dumps asciiEscape limits.digits (.dict fields)).bind encode = some bytes) :
    encodeQuarantineDiagnostic limits repr sha256Hex payload deliveryCount = .ok bytes := by
  rw [encodeQuarantineDiagnostic, chosen]
  simp only [written]

theorem roundTrips_of_quarantinable (deep : 1 ≤ limits.depth) (digits : limits.digits = 4300)
    (digests : ∀ bytes, isDigest (sha256Hex bytes)) (delivered : 1 ≤ deliveryCount)
    (fit : Quarantinable limits repr payload deliveryCount) :
    RoundTrips limits repr sha256Hex payload deliveryCount := by
  rcases (settled_iff limits repr payload).mpr fit.readable with
    ⟨message, decoded⟩ | ⟨e, decoded⟩
  · obtain ⟨canonical, encoded, short, back⟩ := reencodes deep (by omega) decoded
      (fit.named message decoded)
    obtain ⟨bytes, written, room, t, data, ascii, perm, loaded⟩ := @dumps_exhausted limits sha256Hex
      deliveryCount message canonical deep digits (digests canonical) fit.count short
    have chosen : diagnosticFields limits repr sha256Hex payload deliveryCount =
        .ok (exhaustedFields sha256Hex message canonical deliveryCount) := by
      rw [diagnosticFields, decoded]
      simp only [encoded]
      rfl
    refine ⟨bytes, _, encodeQuarantineDiagnostic_fields chosen written,
      (decodeQuarantineDiagnostic_fields room ascii loaded).trans
        (readDiagnostic_exhausted perm delivered (digests canonical) back), rfl, ?_, ?_⟩
    · exact fun none => absurd decoded (none message)
    · intro message' read
      rw [decoded] at read
      cases read
      exact ⟨canonical, encoded, rfl, rfl, rfl, rfl⟩
  · obtain ⟨bytes, written, room, t, data, ascii, perm, loaded⟩ := dumps_poison deep
      (Nat.le_of_eq digits) (digests payload) fit.count fit.length
    have chosen : diagnosticFields limits repr sha256Hex payload deliveryCount =
        .ok (poisonFields sha256Hex payload deliveryCount) := by
      rw [diagnosticFields, decoded]
    refine ⟨bytes, _, encodeQuarantineDiagnostic_fields chosen written,
      (decodeQuarantineDiagnostic_fields room ascii loaded).trans
        (readDiagnostic_poison perm delivered (digests payload)), rfl, ?_, ?_⟩
    · exact fun _ => ⟨rfl, rfl, rfl⟩
    · intro message read
      rw [decoded] at read
      cases read

end

/-- A diagnostic comes back as it was meant, and a delivery that is to end is terminated, just where
the payload can be quarantined. -/
theorem quarantines {depth : Nat} (deep : 1 ≤ depth) (repr : Text → Text)
    {sha256Hex : List UInt8 → Text} (digests : ∀ bytes, isDigest (sha256Hex bytes))
    (payload : List UInt8) {deliveryCount : Int} (delivered : 1 ≤ deliveryCount) :
    (RoundTrips (interpreter depth) repr sha256Hex payload deliveryCount ↔
      Quarantinable (interpreter depth) repr payload deliveryCount) ∧
    ∀ handler publish, handler payload deliveryCount = .ok .term →
      (∀ diagnostic, publish diagnostic = true) →
        (JetStreamConsumer.handle (interpreter depth) repr sha256Hex handler publish payload
          deliveryCount = .ok .term ↔
            Quarantinable (interpreter depth) repr payload deliveryCount) := by
  have trips : Quarantinable (interpreter depth) repr payload deliveryCount →
      RoundTrips (interpreter depth) repr sha256Hex payload deliveryCount :=
    roundTrips_of_quarantinable deep rfl digests delivered
  refine ⟨⟨?_, trips⟩, ?_⟩
  · rintro ⟨bytes, diagnostic, encoded, _⟩
    exact quarantinable_of_encoded rfl encoded
  · intro handler publish ended published
    unfold JetStreamConsumer.handle
    rw [ended]
    cases encoded : encodeQuarantineDiagnostic (interpreter depth) repr sha256Hex payload
        deliveryCount with
    | ok bytes =>
      simp only [published, if_true, true_iff]
      exact quarantinable_of_encoded rfl encoded
    | error e =>
      simp only [reduceCtorEq, false_iff]
      intro fit
      obtain ⟨bytes, diagnostic, written, _⟩ := trips fit
      rw [encoded] at written
      cases written

/-- A message whose correlation id is a lone surrogate, as its sender writes it in ASCII. -/
def surrogatePayload : List UInt8 :=
  write (print asciiEscape (sortKeys (traced [0xD800]).toWire))

/-- Digits raise before there is a diagnostic; a lone surrogate is decoded and cannot be encoded
again. -/
theorem payloads_unquarantined :
    ¬ RoundTrips (interpreter 1000) id (fun _ => List.replicate 64 48) (List.replicate 4301 49) 1 ∧
    decodeWorkMessage (interpreter 1000) id surrogatePayload = .ok (traced [0xD800]) ∧
    ¬ RoundTrips (interpreter 1000) id (fun _ => List.replicate 64 48) surrogatePayload 1 := by
  have decoded : decodeWorkMessage (interpreter 1000) id surrogatePayload =
      .ok (traced [0xD800]) := by
    decide +kernel
  refine ⟨?_, decoded, ?_⟩
  · rintro ⟨bytes, diagnostic, encoded, _⟩
    have fit := quarantinable_of_encoded rfl encoded
    have settled := (settled_iff _ id _).mpr fit.readable
    have digits : decodeWorkMessage (interpreter 1000) id (List.replicate 4301 49) =
        .error .valueError := decodeWorkMessage_digits (by decide) (by decide)
    rw [digits] at settled
    simp [Settled] at settled
  · rintro ⟨bytes, diagnostic, encoded, _⟩
    have fit := quarantinable_of_encoded rfl encoded
    exact absurd (fit.named _ decoded [0xD800] rfl) (by decide)

/-- The digests of the empty payload and of the message of the correlation id `trace`. -/
def emptyDigest : Text :=
  text "e3b0c44298fc1c149afbf4c8996fb92427ae41e4649b934ca495991b7852b855"

def traceDigest : Text :=
  text "ed9a19ea7830f307c66d9bc5a442dcc6ace5471d600d7b58081ed875badf60dd"

theorem quarantines_trace :
    RoundTrips (interpreter 1000) id (fun _ => emptyDigest) [] 1 ∧
    JetStreamConsumer.handle (interpreter 1000) id (fun _ => emptyDigest)
      (fun _ _ => .ok .term) (fun _ => true) [] 1 = .ok .term ∧
    RoundTrips (interpreter 1000) id (fun _ => traceDigest) (tracedPayload (text "trace")) 5 := by
  have empty : Quarantinable (interpreter 1000) id [] 1 :=
    { readable := by
        intro _ t read
        cases read
        rfl
      count := by decide
      length := by decide
      named := fun message read => by cases read }
  have decoded : decodeWorkMessage (interpreter 1000) id (tracedPayload (text "trace")) =
      .ok (traced (text "trace")) :=
    (decodeWorkMessage_encode (by decide) id (by decide +kernel) (by decide +kernel)).mpr
      (by decide)
  have named : Quarantinable (interpreter 1000) id (tracedPayload (text "trace")) 5 :=
    { readable := (settled_iff _ id _).mp (.inl ⟨_, decoded⟩)
      count := by decide
      length := by decide +kernel
      named := fun message read => by
        rw [decoded] at read
        cases read
        decide }
  obtain ⟨trips, ends⟩ := @quarantines 1000 (by decide) id (fun _ => emptyDigest)
    (fun _ => by decide) [] 1 (by decide)
  exact ⟨trips.mpr empty, (ends (fun _ _ => .ok .term) (fun _ => true) rfl fun _ => rfl).mpr empty,
    (@quarantines 1000 (by decide) id (fun _ => traceDigest) (fun _ => by decide)
      (tracedPayload (text "trace")) 5 (by decide)).1.mpr named⟩

end Stateback.Messaging
