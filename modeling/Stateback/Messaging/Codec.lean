import Stateback.Domain.Messages
import Stateback.Lib.JsonLimits
import Stateback.Lib.JsonTexts
/-!
# The codec of work messages

`messaging/codec.py` for messages, and `WorkHandler.handle` up to the message it has decoded.  What
the interpreter raises of itself is kept apart from a `ContractValidationError`: only the latter is
caught.
-/

namespace Stateback.Messaging

open Stateback.Domain CodePoints JsonText

def maxWorkMessageBytes : Nat := 16 * 1024

/-- What the codec raises: its own error, a `ValueError` of the interpreter (an integer of too many
digits, a text that UTF-8 cannot write), a `TypeError` or a `RecursionError`. -/
inductive Raised where
  | contract (error : WireError)
  | valueError
  | typeError
  | recursionError
deriving DecidableEq

def encodeWorkMessage (limits : Limits) (message : WorkMessageV1) :
    Except Raised (List UInt8) :=
  match (dumps escape limits.digits message.toWire).bind encode with
  | some bytes => .ok bytes
  | none => .error .valueError

/-- `json.loads` where a `JSONDecodeError` is turned into an error of the codec. -/
def loadJson (malformed : WireError) (limits : Limits) (t : Text) : Except Raised Value :=
  match loads limits t with
  | .ok raw => .ok raw
  | .error .decode => .error (.contract malformed)
  | .error .digits => .error .valueError
  | .error .depth => .error .recursionError

def malformedWorkMessage : WireError :=
  ⟨"malformed_work_message", text "work message must be valid UTF-8 JSON"⟩

def readWorkMessage (repr : Text → Text) (raw : Value) : Except Raised WorkMessageV1 :=
  match WorkMessageV1.fromWire repr raw with
  | .ok message => .ok message
  | .error e => .error (.contract e)

def decodeWorkMessage (limits : Limits) (repr : Text → Text) (payload : List UInt8) :
    Except Raised WorkMessageV1 :=
  if maxWorkMessageBytes < payload.length then
    .error (.contract ⟨"oversize_work_message", text "work message exceeds the supported size"⟩)
  else
    match decode payload with
    | none => .error (.contract malformedWorkMessage)
    | some t => (loadJson malformedWorkMessage limits t).bind (readWorkMessage repr)

inductive AckDecision where
  | ack
  | nak
  | term
deriving DecidableEq, Repr

/-- `dispatch` is what `handle` does with a message it has decoded. -/
def WorkHandler.handle (limits : Limits) (repr : Text → Text)
    (dispatch : WorkMessageV1 → Int → Except Raised AckDecision) (payload : List UInt8)
    (deliveryCount : Int) : Except Raised AckDecision :=
  if deliveryCount < 1 then .error .valueError
  else
    match decodeWorkMessage limits repr payload with
    | .ok message => dispatch message deliveryCount
    | .error (.contract _) => .ok .term
    | .error e => .error e

/-! ## What is raised -/

/-- A message, or a `ContractValidationError`. -/
def Settled (r : Except Raised WorkMessageV1) : Prop :=
  (∃ message, r = .ok message) ∨ ∃ e, r = .error (.contract e)

/-- Reading the payload, where it is read at all, meets no limit of the interpreter: it gives what
it gives without limits. -/
def Readable (limits : Limits) (payload : List UInt8) : Prop :=
  payload.length ≤ maxWorkMessageBytes →
    ∀ t, decode payload = some t → loads limits t = loads (ample t) t

theorem readWorkMessage_settled (repr : Text → Text) (raw : Value) :
    Settled (readWorkMessage repr raw) := by
  unfold readWorkMessage
  split
  case h_1 message _ => exact .inl ⟨message, rfl⟩
  case h_2 e _ => exact .inr ⟨e, rfl⟩

theorem settled_bind_iff {limits : Limits} {repr : Text → Text} {t : Text} :
    Settled ((loadJson malformedWorkMessage limits t).bind (readWorkMessage repr)) ↔
      ¬ Met (loads limits t) := by
  unfold loadJson Met
  cases loads limits t with
  | ok raw => simp [Except.bind, readWorkMessage_settled]
  | error e =>
    cases e
    · simp [Except.bind, Settled]
    · simp [Except.bind, Settled]
    · simp [Except.bind, Settled]

theorem settled_iff (limits : Limits) (repr : Text → Text) (payload : List UInt8) :
    Settled (decodeWorkMessage limits repr payload) ↔ Readable limits payload := by
  unfold decodeWorkMessage Readable
  split
  case isTrue long =>
    constructor
    · intro _ short
      omega
    · exact fun _ => .inr ⟨_, rfl⟩
  case isFalse short =>
    cases decoded : decode payload with
    | none =>
      constructor
      · intro _ _ t none
        cases none
      · exact fun _ => .inr ⟨_, rfl⟩
    | some t =>
      simp only
      rw [settled_bind_iff, unmet_iff]
      constructor
      · intro same _ t' here
        cases here
        exact same
      · exact fun readable => readable (by omega) t rfl

theorem handle_malformed_iff {limits : Limits} {repr : Text → Text}
    {dispatch : WorkMessageV1 → Int → Except Raised AckDecision} {payload : List UInt8}
    {deliveryCount : Int} (delivered : 1 ≤ deliveryCount)
    (malformed : ∀ message, decodeWorkMessage limits repr payload ≠ .ok message) :
    (∃ decision, WorkHandler.handle limits repr dispatch payload deliveryCount = .ok decision) ↔
      Settled (decodeWorkMessage limits repr payload) := by
  unfold WorkHandler.handle
  rw [if_neg (by omega)]
  cases decoded : decodeWorkMessage limits repr payload with
  | ok message => exact absurd decoded (malformed message)
  | error e =>
    cases e with
    | contract e =>
      constructor
      · exact fun _ => .inr ⟨e, rfl⟩
      · exact fun _ => ⟨.term, rfl⟩
    | valueError => simp [Settled]
    | typeError => simp [Settled]
    | recursionError => simp [Settled]

theorem handle_raises {limits : Limits} {repr : Text → Text}
    {dispatch : WorkMessageV1 → Int → Except Raised AckDecision} {payload : List UInt8}
    {deliveryCount : Int} {e : Raised} (delivered : 1 ≤ deliveryCount)
    (raised : decodeWorkMessage limits repr payload = .error e)
    (uncaught : ∀ contract, e ≠ .contract contract) :
    WorkHandler.handle limits repr dispatch payload deliveryCount = .error e := by
  rw [WorkHandler.handle, if_neg (by omega), raised]
  cases e with
  | contract contract => exact absurd rfl (uncaught contract)
  | valueError => rfl
  | typeError => rfl
  | recursionError => rfl

/-! ## A message read back -/

theorem fields_flat (message : WorkMessageV1) : Flat message.fields := by
  have names : message.fields.map Prod.fst = messageFields := rfl
  have clean : Clean (optionalText message.correlationId) := by
    cases message.correlationId <;> simp [optionalText, Clean]
  have shallow : depthOf (optionalText message.correlationId) = 0 := by
    cases message.correlationId <;> rfl
  refine ⟨?_, ?_, ?_⟩
  · rw [names]
    decide
  · simp [WorkMessageV1.fields, PairsClean, Clean, clean]
  · simp [WorkMessageV1.fields, pairsDepth, depthOf, shallow]

/-- An encoded message decodes as itself, unless its correlation id is empty. -/
theorem decodeWorkMessage_encode {limits : Limits} (flat : 1 ≤ limits.depth) (repr : Text → Text)
    {message : WorkMessageV1} {bytes : List UInt8}
    (encoded : encodeWorkMessage limits message = .ok bytes)
    (short : bytes.length ≤ maxWorkMessageBytes) :
    decodeWorkMessage limits repr bytes = .ok message ↔ message.correlationId ≠ some [] := by
  unfold encodeWorkMessage at encoded
  split at encoded
  case h_2 => cases encoded
  case h_1 bytes' found =>
    cases encoded
    obtain ⟨t, dumped, written⟩ := Option.bind_eq_some_iff.mp found
    obtain ⟨_, data, perm, read⟩ :=
      dumps_flat flat (fields_flat message) (List.cons_ne_nil _ _) dumped
    have fields := fromWire_fields repr perm
    unfold decodeWorkMessage loadJson readWorkMessage
    rw [if_neg (by omega), decode_encode written]
    simp only [read, Except.bind, fields]
    by_cases empty : message.correlationId = some []
    · simp [empty]
    · simp [empty]

/-! ## Settled payloads -/

/-- Every payload is settled just where no limit of the interpreter is met on the way, and every
message comes back but one of an empty correlation id. -/
theorem decodes_settled {limits : Limits} (flat : 1 ≤ limits.depth) (repr : Text → Text) :
    (∀ payload, Settled (decodeWorkMessage limits repr payload) ↔ Readable limits payload) ∧
    (∀ dispatch payload deliveryCount, 1 ≤ deliveryCount →
      (∀ message, decodeWorkMessage limits repr payload ≠ .ok message) →
        ((∃ decision,
          WorkHandler.handle limits repr dispatch payload deliveryCount = .ok decision) ↔
            Readable limits payload)) ∧
    (∀ message bytes, encodeWorkMessage limits message = .ok bytes →
      bytes.length ≤ maxWorkMessageBytes →
        (decodeWorkMessage limits repr bytes = .ok message ↔ message.correlationId ≠ some [])) :=
  ⟨settled_iff limits repr,
    fun _ payload _ delivered malformed =>
      (handle_malformed_iff delivered malformed).trans (settled_iff limits repr payload),
    fun _ _ encoded short => decodeWorkMessage_encode flat repr encoded short⟩

/-! ## Payloads that are not settled -/

/-- A payload of too many digits, and one of too many brackets, raises past the handler. -/
theorem decodeWorkMessage_digits {limits : Limits} {repr : Text → Text} {n : Nat}
    (long : limits.digits < n) (short : n ≤ maxWorkMessageBytes) :
    decodeWorkMessage limits repr (List.replicate n 49) = .error .valueError := by
  have decoded : decode (List.replicate n 49) = some (List.replicate n 49) :=
    decode_replicate (by decide) n
  rw [decodeWorkMessage, if_neg (by rw [List.length_replicate]; omega), decoded]
  simp only [loadJson, loads_digits long]
  rfl

theorem decodeWorkMessage_nested {limits : Limits} {repr : Text → Text} {n : Nat}
    (deep : limits.depth < n) (short : n ≤ maxWorkMessageBytes) :
    decodeWorkMessage limits repr (List.replicate n 91) = .error .recursionError := by
  have decoded : decode (List.replicate n 91) = some (List.replicate n 91) :=
    decode_replicate (by decide) n
  rw [decodeWorkMessage, if_neg (by rw [List.length_replicate]; omega), decoded]
  simp only [loadJson, loads_nested deep]
  rfl

/-- A message with the correlation id `name`. -/
def traced (name : Text) : WorkMessageV1 where
  contractVersion := "v1"
  messageId := ⟨"00000000-0000-0000-0000-000000000001"⟩
  outboxEventId := ⟨"00000000-0000-0000-0000-000000000002"⟩
  operationId := ⟨"00000000-0000-0000-0000-000000000003"⟩
  expectedOperationVersion := 1
  command := .execute
  correlationId := some name
  createdAt := ⟨63909077213589793⟩
  version_v1 := rfl
  messageId_formed := by decide +kernel
  outboxEventId_formed := by decide +kernel
  operationId_formed := by decide +kernel
  version_positive := by decide
  createdAt_inside := by decide +kernel

def tracedPayload (name : Text) : List UInt8 :=
  (encodeWorkMessage ⟨4300, 1000⟩ (traced name)).toOption.getD []

/-- The digits and the brackets raise past the handler; a message of an empty correlation id is
encoded and refused when it comes back. -/
theorem payloads_unsettled :
    ¬ Settled (decodeWorkMessage ⟨4300, 1000⟩ id (List.replicate 4301 49)) ∧
    ¬ Settled (decodeWorkMessage ⟨4300, 1000⟩ id (List.replicate 1001 91)) ∧
    WorkHandler.handle ⟨4300, 1000⟩ id (fun _ _ => .ok .ack) (List.replicate 4301 49) 1 =
      .error .valueError ∧
    encodeWorkMessage ⟨4300, 1000⟩ (traced []) = .ok (tracedPayload []) ∧
    (tracedPayload []).length ≤ maxWorkMessageBytes ∧
    decodeWorkMessage ⟨4300, 1000⟩ id (tracedPayload []) ≠ .ok (traced []) := by
  have digits : decodeWorkMessage ⟨4300, 1000⟩ id (List.replicate 4301 49) = .error .valueError :=
    decodeWorkMessage_digits (by decide) (by decide)
  have nested : decodeWorkMessage ⟨4300, 1000⟩ id (List.replicate 1001 91) =
      .error .recursionError := decodeWorkMessage_nested (by decide) (by decide)
  have encoded : encodeWorkMessage ⟨4300, 1000⟩ (traced []) = .ok (tracedPayload []) := by
    decide +kernel
  have short : (tracedPayload []).length ≤ maxWorkMessageBytes := by decide +kernel
  refine ⟨?_, ?_, ?_, encoded, short, fun back => ?_⟩
  · rw [digits]
    simp [Settled]
  · rw [nested]
    simp [Settled]
  · exact handle_raises (by decide) digits (by simp)
  · exact (decodeWorkMessage_encode (by decide) id encoded short).mp back rfl

theorem decodes_settled_trace :
    Settled (decodeWorkMessage ⟨4300, 1000⟩ id [0xFF]) ∧
    (∃ decision,
      WorkHandler.handle ⟨4300, 1000⟩ id (fun _ _ => .ok .ack) [0xFF] 1 = .ok decision) ∧
    decodeWorkMessage ⟨4300, 1000⟩ id (tracedPayload (text "trace")) =
      .ok (traced (text "trace")) := by
  have unread : Readable ⟨4300, 1000⟩ [0xFF] := fun _ _ read => by cases read
  obtain ⟨settled, handled, back⟩ := @decodes_settled ⟨4300, 1000⟩ (by decide) id
  exact ⟨(settled [0xFF]).mpr unread,
    (handled (fun _ _ => .ok .ack) [0xFF] 1 (by decide) (fun _ read => by cases read)).mpr unread,
    (back (traced (text "trace")) (tracedPayload (text "trace")) (by decide +kernel)
      (by decide +kernel)).mpr (by decide)⟩

end Stateback.Messaging
