import Mathlib.Data.List.Sort
import Stateback.Domain.Wire
import Stateback.Lib.JsonRoundTrip
/-!
# Work messages

`domain/wire.py` and `WorkMessageV1` of `domain/messaging.py`.  A message's constructor checks are
fields of the structure, so that only a message that exists can be written down; its correlation id
is any text, the empty one and one with lone surrogates among them.

`repr` is Python's `repr` of a string, which some messages quote.
-/

namespace Stateback.Domain

open CodePoints JsonText

/-- A `ContractValidationError` whose message may quote what was read. -/
structure WireError where
  reasonCode : String
  message : Text
deriving DecidableEq, Repr

abbrev Wire (α : Type) := Except WireError α

/-! ## `domain/wire.py` -/

def requireMapping (typeName : String) : Value → Wire (List (Text × Value))
  | .dict items => .ok items
  | _ => .error ⟨"invalid_type", text (typeName ++ " must be a JSON object")⟩

def joined : List Text → Text
  | [] => []
  | [name] => name
  | name :: rest => name ++ text ", " ++ joined rest

def rejectUnknownKeys (typeName : String) (data : List (Text × Value)) (allowed : List Text) :
    Wire Unit :=
  let extra := (data.map Prod.fst).filter fun key => !among key allowed
  if extra = [] then .ok ()
  else .error ⟨"unknown_field", text (typeName ++ " has unknown field(s): ") ++
    joined (extra.insertionSort fun a b => precedes a b = true)⟩

def lookup? (data : List (Text × Value)) (key : Text) : Option Value :=
  (data.find? fun pair => decide (pair.1 = key)).map Prod.snd

def requireKey (typeName : String) (data : List (Text × Value)) (key : String) : Wire Value :=
  match lookup? data (text key) with
  | some raw => .ok raw
  | none => .error ⟨"missing_field", text (typeName ++ "." ++ key ++ " is required")⟩

def optionalKey (data : List (Text × Value)) (key : String) : Value :=
  (lookup? data (text key)).getD .null

def parseStr (field : String) : Value → Wire Text
  | .str [] => .error ⟨"empty_string", text (field ++ " must be non-empty")⟩
  | .str s => .ok s
  | _ => .error ⟨"invalid_type", text (field ++ " must be a string")⟩

def parseOptionalStr (field : String) : Value → Wire (Option Text)
  | .null => .ok none
  | raw => (parseStr field raw).map some

def parseInt (field : String) (minimum : Int) : Value → Wire {n : Int // minimum ≤ n}
  | .int n =>
    if enough : minimum ≤ n then .ok ⟨n, enough⟩
    else .error ⟨"invalid_range", text (field ++ " must be >= " ++ toString minimum)⟩
  | _ => .error ⟨"invalid_type", text (field ++ " must be an integer")⟩

def parseContractVersion (repr : Text → Text) (typeName : String) (raw : Value) : Wire Unit :=
  match parseStr (typeName ++ ".contract_version") raw with
  | .error e => .error e
  | .ok version =>
    if version = text contractVersion then .ok ()
    else .error ⟨"unsupported_contract_version",
      text (typeName ++ ".contract_version ") ++ repr version ++ text " is not supported"⟩

/-! ## Ids, timestamps and commands -/

/-- `OpaqueId.from_wire`. -/
def parseOpaqueId (field : String) : Value → Wire {id : OpaqueId // id.wellFormed}
  | .str s =>
    match read : OpaqueId.parse s with
    | some id => .ok ⟨id, OpaqueId.parse_formed read⟩
    | none => .error ⟨"invalid_opaque_id", text "opaque_id must be lowercase 8-4-4-4-12 hex"⟩
  | _ => .error ⟨"invalid_type", text (field ++ " must be a string")⟩

/-- `UtcTimestamp.from_wire`. -/
def parseTimestamp (field : String) : Value → Wire {t : UtcTimestamp // t.inCalendar}
  | .str s =>
    match read : UtcTimestamp.parse s with
    | some t => .ok ⟨t, UtcTimestamp.parse_inCalendar read⟩
    | none => .error ⟨"invalid_timestamp", text (field ++ " must be YYYY-MM-DDTHH:MM:SS.ffffffZ")⟩
  | _ => .error ⟨"invalid_type", text (field ++ " must be a string")⟩

def commandOf? (s : Text) : Option WorkCommand :=
  [WorkCommand.execute, .verify, .compensate].find? fun command => decide (text command.value = s)

/-- `parse_enum(WorkCommand, ...)`. -/
def parseCommand (repr : Text → Text) (field : String) : Value → Wire WorkCommand
  | .str s =>
    match commandOf? s with
    | some command => .ok command
    | none => .error ⟨"unknown_enum", text (field ++ " has unknown value ") ++ repr s⟩
  | _ => .error ⟨"invalid_type", text (field ++ " must be a string")⟩

/-! ## `WorkMessageV1` -/

structure WorkMessageV1 where
  contractVersion : String
  messageId : OpaqueId
  outboxEventId : OpaqueId
  operationId : OpaqueId
  expectedOperationVersion : Int
  command : WorkCommand
  correlationId : Option Text
  createdAt : UtcTimestamp
  version_v1 : contractVersion = Domain.contractVersion
  messageId_formed : messageId.wellFormed
  outboxEventId_formed : outboxEventId.wellFormed
  operationId_formed : operationId.wellFormed
  version_positive : 1 ≤ expectedOperationVersion
  createdAt_inside : createdAt.inCalendar
deriving DecidableEq

def messageFields : List Text :=
  [text "contract_version", text "message_id", text "outbox_event_id", text "operation_id",
    text "expected_operation_version", text "command", text "correlation_id", text "created_at"]

def optionalText : Option Text → Value
  | none => .null
  | some s => .str s

def WorkMessageV1.fields (message : WorkMessageV1) : List (Text × Value) :=
  [(text "contract_version", .str (text message.contractVersion)),
    (text "message_id", .str (text message.messageId.value)),
    (text "outbox_event_id", .str (text message.outboxEventId.value)),
    (text "operation_id", .str (text message.operationId.value)),
    (text "expected_operation_version", .int message.expectedOperationVersion),
    (text "command", .str (text message.command.value)),
    (text "correlation_id", optionalText message.correlationId),
    (text "created_at", .str message.createdAt.toWire)]

def WorkMessageV1.toWire (message : WorkMessageV1) : Value := .dict message.fields

def WorkMessageV1.fromWire (repr : Text → Text) (raw : Value) : Wire WorkMessageV1 := do
  let data ← requireMapping "WorkMessageV1" raw
  rejectUnknownKeys "WorkMessageV1" data messageFields
  let version ← requireKey "WorkMessageV1" data "contract_version"
  parseContractVersion repr "WorkMessageV1" version
  let messageId ← requireKey "WorkMessageV1" data "message_id"
  let messageId ← parseOpaqueId "WorkMessageV1.message_id" messageId
  let outboxEventId ← requireKey "WorkMessageV1" data "outbox_event_id"
  let outboxEventId ← parseOpaqueId "WorkMessageV1.outbox_event_id" outboxEventId
  let operationId ← requireKey "WorkMessageV1" data "operation_id"
  let operationId ← parseOpaqueId "WorkMessageV1.operation_id" operationId
  let expected ← requireKey "WorkMessageV1" data "expected_operation_version"
  let expected ← parseInt "WorkMessageV1.expected_operation_version" 1 expected
  let command ← requireKey "WorkMessageV1" data "command"
  let command ← parseCommand repr "WorkMessageV1.command" command
  let correlationId ← parseOptionalStr "WorkMessageV1.correlation_id"
    (optionalKey data "correlation_id")
  let createdAt ← requireKey "WorkMessageV1" data "created_at"
  let createdAt ← parseTimestamp "WorkMessageV1.created_at" createdAt
  pure
    { contractVersion := Domain.contractVersion
      messageId := messageId.1
      outboxEventId := outboxEventId.1
      operationId := operationId.1
      expectedOperationVersion := expected.1
      command := command
      correlationId := correlationId
      createdAt := createdAt.1
      version_v1 := rfl
      messageId_formed := messageId.2
      outboxEventId_formed := outboxEventId.2
      operationId_formed := operationId.2
      version_positive := expected.2
      createdAt_inside := createdAt.2 }

/-! ## Reading a message back -/

theorem lookup?_mem {data : List (Text × Value)} {key : Text} {v : Value}
    (distinct : (data.map Prod.fst).Nodup) (member : (key, v) ∈ data) :
    lookup? data key = some v := by
  induction data with
  | nil => simp at member
  | cons pair rest ih =>
    rw [List.map_cons, List.nodup_cons] at distinct
    unfold lookup?
    rcases List.mem_cons.mp member with same | later
    · rw [← same, List.find?_cons_of_pos (by simp)]
      rfl
    · have other : pair.1 ≠ key := by
        intro same
        exact distinct.1 (same ▸ List.mem_map_of_mem later)
      rw [List.find?_cons_of_neg (by simpa using other)]
      exact ih distinct.2 later

theorem requireKey_mem {typeName : String} {data : List (Text × Value)} {key : String} {v : Value}
    (distinct : (data.map Prod.fst).Nodup) (member : (text key, v) ∈ data) :
    requireKey typeName data key = .ok v := by
  rw [requireKey, lookup?_mem distinct member]

theorem optionalKey_mem {data : List (Text × Value)} {key : String} {v : Value}
    (distinct : (data.map Prod.fst).Nodup) (member : (text key, v) ∈ data) :
    optionalKey data key = v := by
  rw [optionalKey, lookup?_mem distinct member]
  rfl

theorem rejectUnknownKeys_known {typeName : String} {data : List (Text × Value)}
    {allowed : List Text} (known : ∀ pair ∈ data, pair.1 ∈ allowed) :
    rejectUnknownKeys typeName data allowed = .ok () := by
  have none : (data.map Prod.fst).filter (fun key => !among key allowed) = [] := by
    rw [List.filter_eq_nil_iff]
    intro key member
    obtain ⟨pair, inside, same⟩ := List.mem_map.mp member
    have there : among key allowed = true := among_iff.mpr (same ▸ known pair inside)
    simp [there]
  rw [rejectUnknownKeys, if_pos none]

theorem parseOpaqueId_text {field : String} {id : OpaqueId} (formed : id.wellFormed) :
    parseOpaqueId field (.str (text id.value)) = .ok ⟨id, formed⟩ := by
  rw [parseOpaqueId]
  split
  case h_1 id' read =>
    rw [OpaqueId.parse_text formed] at read
    cases read
    rfl
  case h_2 read =>
    rw [OpaqueId.parse_text formed] at read
    cases read

theorem parseTimestamp_toWire {field : String} {t : UtcTimestamp} (inside : t.inCalendar) :
    parseTimestamp field (.str t.toWire) = .ok ⟨t, inside⟩ := by
  rw [parseTimestamp]
  split
  case h_1 t' read =>
    rw [UtcTimestamp.parse_toWire inside] at read
    cases read
    rfl
  case h_2 read =>
    rw [UtcTimestamp.parse_toWire inside] at read
    cases read

theorem parseCommand_value (repr : Text → Text) (field : String) (command : WorkCommand) :
    parseCommand repr field (.str (text command.value)) = .ok command := by
  have back : commandOf? (text command.value) = some command := by
    cases command <;> decide
  rw [parseCommand, back]

theorem parseInt_enough {field : String} {minimum n : Int} (enough : minimum ≤ n) :
    parseInt field minimum (.int n) = .ok ⟨n, enough⟩ := by
  rw [parseInt, dif_pos enough]

theorem parseContractVersion_v1 (repr : Text → Text) (typeName : String) :
    parseContractVersion repr typeName (.str (text contractVersion)) = .ok () := by
  unfold parseContractVersion
  rfl

/-- A correlation id is read back as it was written, but the empty one is refused. -/
theorem parseOptionalStr_text (field : String) (s : Option Text) :
    parseOptionalStr field (optionalText s) =
      if s = some [] then .error ⟨"empty_string", text (field ++ " must be non-empty")⟩
      else .ok s := by
  cases s with
  | none => rfl
  | some s => cases s <;> rfl

/-- The fields of a message in any order are read as the message, unless its correlation id is
empty. -/
theorem fromWire_fields (repr : Text → Text) {message : WorkMessageV1}
    {data : List (Text × Value)} (perm : data.Perm message.fields) :
    WorkMessageV1.fromWire repr (.dict data) =
      if message.correlationId = some [] then
        .error ⟨"empty_string", text ("WorkMessageV1.correlation_id" ++ " must be non-empty")⟩
      else .ok message := by
  have names : message.fields.map Prod.fst = messageFields := rfl
  have distinct : (data.map Prod.fst).Nodup := by
    rw [(perm.map Prod.fst).nodup_iff, names]
    decide
  have known : ∀ pair ∈ data, pair.1 ∈ messageFields := by
    intro pair member
    rw [← names]
    exact List.mem_map_of_mem (perm.mem_iff.mp member)
  have at_ : ∀ {key v}, (text key, v) ∈ message.fields →
      requireKey "WorkMessageV1" data key = .ok v := fun member =>
    requireKey_mem distinct (perm.mem_iff.mpr member)
  have correlation : optionalKey data "correlation_id" = optionalText message.correlationId := by
    have member : (text "correlation_id", optionalText message.correlationId) ∈ message.fields := by
      simp [WorkMessageV1.fields]
    exact optionalKey_mem distinct (perm.mem_iff.mpr member)
  have version : requireKey "WorkMessageV1" data "contract_version" =
      .ok (.str (text contractVersion)) :=
    message.version_v1 ▸ at_ (by simp [WorkMessageV1.fields])
  have messageId : requireKey "WorkMessageV1" data "message_id" =
      .ok (.str (text message.messageId.value)) := at_ (by simp [WorkMessageV1.fields])
  have outboxEventId : requireKey "WorkMessageV1" data "outbox_event_id" =
      .ok (.str (text message.outboxEventId.value)) := at_ (by simp [WorkMessageV1.fields])
  have operationId : requireKey "WorkMessageV1" data "operation_id" =
      .ok (.str (text message.operationId.value)) := at_ (by simp [WorkMessageV1.fields])
  have expected : requireKey "WorkMessageV1" data "expected_operation_version" =
      .ok (.int message.expectedOperationVersion) := at_ (by simp [WorkMessageV1.fields])
  have command : requireKey "WorkMessageV1" data "command" =
      .ok (.str (text message.command.value)) := at_ (by simp [WorkMessageV1.fields])
  have createdAt : requireKey "WorkMessageV1" data "created_at" =
      .ok (.str message.createdAt.toWire) := at_ (by simp [WorkMessageV1.fields])
  unfold WorkMessageV1.fromWire
  simp only [requireMapping, bind, Except.bind, pure, Except.pure, rejectUnknownKeys_known known,
    version, parseContractVersion_v1, messageId, parseOpaqueId_text message.messageId_formed,
    outboxEventId, parseOpaqueId_text message.outboxEventId_formed, operationId,
    parseOpaqueId_text message.operationId_formed, expected,
    parseInt_enough message.version_positive, command, parseCommand_value, correlation,
    parseOptionalStr_text, createdAt, parseTimestamp_toWire message.createdAt_inside]
  by_cases empty : message.correlationId = some []
  · simp only [empty, if_true]
  · have v1 := message.version_v1
    simp only [if_neg empty]
    cases message
    cases v1
    rfl

/-! ## What a message was read from -/

theorem wire_bind_ok {α β : Type} {x : Wire α} {f : α → Wire β} {b : β}
    (read : (x >>= f) = .ok b) : ∃ a, x = .ok a ∧ f a = .ok b := by
  cases x with
  | error e => cases read
  | ok a => exact ⟨a, rfl, read⟩

/-- Each field, as it stands where the message was read from. -/
structure ReadFrom (data : List (Text × Value)) (message : WorkMessageV1) :
    Prop where
  known : ∀ pair ∈ data, pair.1 ∈ messageFields
  version : lookup? data (text "contract_version") = some (.str (text contractVersion))
  messageId : ∃ s, lookup? data (text "message_id") = some (.str s) ∧
    OpaqueId.parse s = some message.messageId
  outboxEventId : ∃ s, lookup? data (text "outbox_event_id") = some (.str s) ∧
    OpaqueId.parse s = some message.outboxEventId
  operationId : ∃ s, lookup? data (text "operation_id") = some (.str s) ∧
    OpaqueId.parse s = some message.operationId
  expected : lookup? data (text "expected_operation_version") =
    some (.int message.expectedOperationVersion)
  command : lookup? data (text "command") = some (.str (text message.command.value))
  correlationId : (lookup? data (text "correlation_id")).getD .null =
    optionalText message.correlationId
  named : message.correlationId ≠ some []
  createdAt : ∃ s, lookup? data (text "created_at") = some (.str s) ∧
    UtcTimestamp.parse s = some message.createdAt

theorem requireKey_ok {typeName key : String} {data : List (Text × Value)} {v : Value}
    (read : requireKey typeName data key = .ok v) : lookup? data (text key) = some v := by
  unfold requireKey at read
  split at read
  case h_1 raw found =>
    cases read
    exact found
  case h_2 => cases read

theorem parseOpaqueId_ok {field : String} {v : Value} {id : {id : OpaqueId // id.wellFormed}}
    (read : parseOpaqueId field v = .ok id) : ∃ s, v = .str s ∧ OpaqueId.parse s = some id.1 := by
  unfold parseOpaqueId at read
  split at read
  case h_1 s =>
    split at read
    case h_1 id' found =>
      cases read
      exact ⟨s, rfl, found⟩
    case h_2 => cases read
  case h_2 => cases read

theorem parseTimestamp_ok {field : String} {v : Value} {t : {t : UtcTimestamp // t.inCalendar}}
    (read : parseTimestamp field v = .ok t) :
    ∃ s, v = .str s ∧ UtcTimestamp.parse s = some t.1 := by
  unfold parseTimestamp at read
  split at read
  case h_1 s =>
    split at read
    case h_1 t' found =>
      cases read
      exact ⟨s, rfl, found⟩
    case h_2 => cases read
  case h_2 => cases read

theorem parseInt_ok {field : String} {minimum : Int} {v : Value} {n : {n : Int // minimum ≤ n}}
    (read : parseInt field minimum v = .ok n) : v = .int n.1 := by
  unfold parseInt at read
  split at read
  case h_1 =>
    split at read
    · cases read
      rfl
    · cases read
  case h_2 => cases read

theorem parseStr_ok {field : String} {v : Value} {s : Text} (read : parseStr field v = .ok s) :
    v = .str s ∧ s ≠ [] := by
  unfold parseStr at read
  split at read
  case h_1 => cases read
  case h_2 s' some =>
    cases read
    exact ⟨rfl, some⟩
  case h_3 => cases read

theorem parseContractVersion_ok {repr : Text → Text} {typeName : String} {v : Value}
    (read : parseContractVersion repr typeName v = .ok ()) : v = .str (text contractVersion) := by
  unfold parseContractVersion at read
  split at read
  case h_1 => cases read
  case h_2 version found =>
    split at read
    case isTrue same => rw [(parseStr_ok found).1, same]
    case isFalse => cases read

theorem parseCommand_ok {repr : Text → Text} {field : String} {v : Value} {command : WorkCommand}
    (read : parseCommand repr field v = .ok command) : v = .str (text command.value) := by
  unfold parseCommand at read
  split at read
  case h_1 s =>
    split at read
    case h_1 command' found =>
      cases read
      have named := List.find?_some found
      rw [of_decide_eq_true named]
    case h_2 => cases read
  case h_2 => cases read

theorem parseOptionalStr_ok {field : String} {v : Value} {s : Option Text}
    (read : parseOptionalStr field v = .ok s) : v = optionalText s ∧ s ≠ some [] := by
  unfold parseOptionalStr at read
  split at read
  case h_1 =>
    cases read
    exact ⟨rfl, by simp⟩
  case h_2 =>
    cases parsed : parseStr field v with
    | error e => rw [parsed] at read; cases read
    | ok s' =>
      rw [parsed] at read
      cases read
      obtain ⟨same, some⟩ := parseStr_ok parsed
      exact ⟨same, by simpa using some⟩

theorem rejectUnknownKeys_ok {typeName : String} {data : List (Text × Value)}
    {allowed : List Text} (read : rejectUnknownKeys typeName data allowed = .ok ()) :
    ∀ pair ∈ data, pair.1 ∈ allowed := by
  unfold rejectUnknownKeys at read
  simp only at read
  split at read
  case isTrue none =>
    intro pair member
    have kept := List.filter_eq_nil_iff.mp none pair.1 (List.mem_map_of_mem member)
    exact among_iff.mp (by simpa using kept)
  case isFalse => cases read

theorem requireMapping_ok {typeName : String} {raw : Value} {data : List (Text × Value)}
    (read : requireMapping typeName raw = .ok data) : raw = .dict data := by
  unfold requireMapping at read
  split at read
  case h_1 =>
    cases read
    rfl
  case h_2 => cases read

/-- A required key of a string that is parsed. -/
theorem lookup_read {α : Type} {parse : Text → Option α} {typeName key : String}
    {data : List (Text × Value)} {v : Value} {a : α}
    (found : requireKey typeName data key = .ok v)
    (parsed : ∃ s, v = .str s ∧ parse s = some a) :
    ∃ s, lookup? data (text key) = some (.str s) ∧ parse s = some a := by
  obtain ⟨s, same, parsed⟩ := parsed
  exact ⟨s, same ▸ requireKey_ok found, parsed⟩

theorem fromWire_ok {repr : Text → Text} {raw : Value} {message : WorkMessageV1}
    (read : WorkMessageV1.fromWire repr raw = .ok message) :
    ∃ data, raw = .dict data ∧ ReadFrom data message := by
  unfold WorkMessageV1.fromWire at read
  obtain ⟨data, mapping, read⟩ := wire_bind_ok read
  obtain ⟨_, known, read⟩ := wire_bind_ok read
  obtain ⟨version, versionKey, read⟩ := wire_bind_ok read
  obtain ⟨_, isV1, read⟩ := wire_bind_ok read
  obtain ⟨_, messageKey, read⟩ := wire_bind_ok read
  obtain ⟨messageId, messageRead, read⟩ := wire_bind_ok read
  obtain ⟨_, outboxKey, read⟩ := wire_bind_ok read
  obtain ⟨outboxEventId, outboxRead, read⟩ := wire_bind_ok read
  obtain ⟨_, operationKey, read⟩ := wire_bind_ok read
  obtain ⟨operationId, operationRead, read⟩ := wire_bind_ok read
  obtain ⟨_, expectedKey, read⟩ := wire_bind_ok read
  obtain ⟨expected, expectedRead, read⟩ := wire_bind_ok read
  obtain ⟨_, commandKey, read⟩ := wire_bind_ok read
  obtain ⟨command, commandRead, read⟩ := wire_bind_ok read
  obtain ⟨correlationId, correlationRead, read⟩ := wire_bind_ok read
  obtain ⟨_, createdKey, read⟩ := wire_bind_ok read
  obtain ⟨createdAt, createdRead, read⟩ := wire_bind_ok read
  cases read
  obtain ⟨same, named⟩ := parseOptionalStr_ok correlationRead
  refine ⟨data, requireMapping_ok mapping, ?_⟩
  exact
    { known := rejectUnknownKeys_ok known
      version := parseContractVersion_ok isV1 ▸ requireKey_ok versionKey
      messageId := lookup_read messageKey (parseOpaqueId_ok messageRead)
      outboxEventId := lookup_read outboxKey (parseOpaqueId_ok outboxRead)
      operationId := lookup_read operationKey (parseOpaqueId_ok operationRead)
      expected := parseInt_ok expectedRead ▸ requireKey_ok expectedKey
      command := parseCommand_ok commandRead ▸ requireKey_ok commandKey
      correlationId := same
      named := named
      createdAt := lookup_read createdKey (parseTimestamp_ok createdRead) }

end Stateback.Domain
