import PlatoAgent.JsonText
import PlatoAgent.ProtocolMessages

/-!
# The protocol envelope

An envelope is written with the fields that it has and read back by its kind.
What is read has exactly the fields of its kind and is read again unchanged, and
each table of the protocol takes a variant to its own method.
-/

namespace PlatoAgent

namespace Protocol

variable {Payload : PayloadType → Type}

/-- Structured error returned in a protocol error envelope. -/
structure ProtocolError where
  code : ProtocolErrorCode
  message : String
  deriving DecidableEq, Repr

namespace ProtocolError

def serialize (error : ProtocolError) : Value :=
  .object [("code", error.code.serialize), ("message", .string error.message)]

def deserialize (value : Value) : Except String ProtocolError := do
  let input ← readStruct ["code", "message"] true true value
  let code ← input.required "code"
    (expecting "an error code" ProtocolErrorCode.deserialize)
  let message ← input.required "message" readString
  return ⟨code, message⟩

theorem deserialize_serialize (error : ProtocolError) :
    deserialize error.serialize = .ok error := by
  have code : expecting "an error code" ProtocolErrorCode.deserialize
      error.code.serialize = .ok error.code := by
    unfold expecting
    rw [ProtocolErrorCode.deserialize_serialize]
  unfold deserialize serialize
  rw [readStruct_object (by simp) (by simp)]
  show (expecting "an error code" ProtocolErrorCode.deserialize
    error.code.serialize >>= fun code => .ok ⟨code, error.message⟩) = .ok error
  rw [code]
  rfl

end ProtocolError

/-- Current daemon protocol version. -/
def protocolVersion : UInt32 :=
  2

/-- Top-level versioned protocol envelope. -/
structure Envelope (Payload : PayloadType → Type) where
  v : UInt32
  id : Option String
  kind : EnvelopeKind
  method : Option ProtocolMethod
  params : Option (ProtocolRequest Payload)
  result : Option (ProtocolResponse Payload)
  error : Option ProtocolError

structure WireEnvelope where
  v : UInt32
  id : Option String
  kind : EnvelopeKind
  method : Option ProtocolMethod
  params : Option Value
  result : Option Value
  error : Option ProtocolError

def requiredMethod (method : Option ProtocolMethod) :
    Except String ProtocolMethod :=
  match method with
  | some method => .ok method
  | none => .error "method is required"

def rejectField (present : Bool) (field : String) (kind : EnvelopeKind) :
    Except String Unit :=
  if present then
    .error s!"{field} is not valid for a {kind.variantName} envelope"
  else .ok ()

namespace WireEnvelope

def deserialize (value : Value) : Except String WireEnvelope := do
  let input ← readStruct
    ["v", "id", "kind", "method", "params", "result", "error"] true true value
  let v ← input.required "v" readU32
  let id ← input.optional "id" readString
  let kind ← input.required "kind"
    (expecting "an envelope kind" EnvelopeKind.deserialize)
  let method ← input.defaulted "method" none
    (StructInput.readOption (expecting "a method" ProtocolMethod.deserialize))
  let params ← input.defaulted "params" none (StructInput.readOption .ok)
  let result ← input.defaulted "result" none (StructInput.readOption .ok)
  let error ← input.defaulted "error" none
    (StructInput.readOption ProtocolError.deserialize)
  return ⟨v, id, kind, method, params, result, error⟩

/-- The fields that a wire envelope is written with. -/
def fields (wire : WireEnvelope) : List (String × Value) :=
  [("v", LedgerText.u32 wire.v),
    ("id", LedgerText.nullable .string wire.id),
    ("kind", wire.kind.serialize)] ++
  wire.method.elim [] (fun method => [("method", method.serialize)]) ++
  wire.params.elim [] (fun params => [("params", params)]) ++
  wire.result.elim [] (fun result => [("result", result)]) ++
  wire.error.elim [] fun error => [("error", error.serialize)]

/-- The fields that a wire envelope may have. -/
def optionalFields (wire : WireEnvelope) : List (String × Option Value) :=
  [("v", some (LedgerText.u32 wire.v)),
    ("id", some (LedgerText.nullable .string wire.id)),
    ("kind", some wire.kind.serialize),
    ("method", wire.method.map ProtocolMethod.serialize),
    ("params", wire.params), ("result", wire.result),
    ("error", wire.error.map ProtocolError.serialize)]

theorem fields_eq (wire : WireEnvelope) :
    wire.fields = wire.optionalFields.filterMap fun field =>
      field.2.map fun value => (field.1, value) := by
  obtain ⟨v, id, kind, method, params, result, error⟩ := wire
  cases method <;> cases params <;> cases result <;> cases error <;> rfl

theorem optionalFields_distinct (wire : WireEnvelope) :
    (wire.optionalFields.map (·.1)).Nodup := by
  simp [optionalFields]

theorem names_sublist {entries : List (String × Option Value)} :
    ((entries.filterMap fun field => field.2.map fun value =>
        (field.1, value)).map (·.1)).Sublist (entries.map (·.1)) := by
  induction entries with
  | nil => exact List.Sublist.refl _
  | cons entry rest ih =>
      obtain ⟨name, value⟩ := entry
      cases value with
      | none => exact ih.cons _
      | some value => exact ih.cons_cons _

theorem fields_known (wire : WireEnvelope) :
    ∀ entry ∈ wire.fields, entry.1 ∈
      ["v", "id", "kind", "method", "params", "result", "error"] := by
  intro entry member
  have named := List.mem_map_of_mem (f := (·.1)) member
  rw [fields_eq] at named
  exact names_sublist.subset named

theorem fields_distinct (wire : WireEnvelope) :
    (wire.fields.map (·.1)).Nodup := by
  rw [fields_eq]
  exact wire.optionalFields_distinct.sublist names_sublist

/-- Fields that may be missing are found by their names. -/
theorem lookup_filterMap {entries : List (String × Option Value)}
    (distinct : (entries.map (·.1)).Nodup) {field : String × Option Value}
    (member : field ∈ entries) :
    (entries.filterMap fun field => field.2.map fun value =>
      (field.1, value)).reverse.lookup field.1 = field.2 := by
  have absent {entries : List (String × Option Value)} {name : String}
      (unknown : name ∉ entries.map (·.1)) :
      (entries.filterMap fun field => field.2.map fun value =>
        (field.1, value)).reverse.lookup name = none := by
    rw [List.lookup_eq_none_iff]
    intro entry isEntry
    rw [bne_iff_ne]
    rintro rfl
    have named := List.mem_map_of_mem (f := (·.1))
      (List.mem_reverse.mp isEntry)
    exact unknown (names_sublist.subset named)
  induction entries with
  | nil => cases member
  | cons entry others ih =>
      rw [List.map_cons, List.nodup_cons] at distinct
      rcases List.mem_cons.mp member with rfl | later
      · obtain ⟨name, value⟩ := field
        cases value with
        | none =>
            rw [List.filterMap_cons_none (by rfl)]
            exact absent distinct.1
        | some value =>
            rw [@List.filterMap_cons_some _ _ _ _ others (name, value)
              (by rfl), List.reverse_cons, List.lookup_append,
              absent distinct.1]
            simp
      · have rest := ih distinct.2 later
        obtain ⟨name, value⟩ := entry
        cases value with
        | none =>
            rw [List.filterMap_cons_none (by rfl)]
            exact rest
        | some value =>
            have other : field.1 ≠ name := by
              rintro rfl
              exact distinct.1 (List.mem_map_of_mem (f := (·.1)) later)
            rw [@List.filterMap_cons_some _ _ _ _ others (name, value)
              (by rfl), List.reverse_cons, List.lookup_append, rest]
            simp [List.lookup_cons, beq_false_of_ne other]

theorem lookup_fields (wire : WireEnvelope) :
    wire.fields.reverse.lookup "v" = some (LedgerText.u32 wire.v) ∧
    wire.fields.reverse.lookup "id" =
      some (LedgerText.nullable .string wire.id) ∧
    wire.fields.reverse.lookup "kind" = some wire.kind.serialize ∧
    wire.fields.reverse.lookup "method" =
      wire.method.map ProtocolMethod.serialize ∧
    wire.fields.reverse.lookup "params" = wire.params ∧
    wire.fields.reverse.lookup "result" = wire.result ∧
    wire.fields.reverse.lookup "error" =
      wire.error.map ProtocolError.serialize := by
  rw [fields_eq]
  have found := @lookup_filterMap _ wire.optionalFields_distinct
  exact ⟨found (.head _), found (.tail _ (.head _)),
    found (.tail _ (.tail _ (.head _))),
    found (.tail _ (.tail _ (.tail _ (.head _)))),
    found (.tail _ (.tail _ (.tail _ (.tail _ (.head _))))),
    found (.tail _ (.tail _ (.tail _ (.tail _ (.tail _ (.head _)))))),
    found (.tail _ (.tail _ (.tail _ (.tail _ (.tail _ (.tail _
      (.head _)))))))⟩

/-- A payload that is not null is read back. -/
theorem defaulted_value {input : StructInput} {name : String}
    {value : Option Value} (isField : input.field name = value)
    (notNull : ∀ payload ∈ value, payload ≠ .null) :
    input.defaulted name none (StructInput.readOption .ok) = .ok value := by
  unfold StructInput.defaulted
  rw [isField]
  cases value with
  | none => rfl
  | some payload =>
      dsimp only
      rw [StructInput.readOption_some (notNull payload rfl)]
      rfl

theorem defaulted_map {Result : Type} {input : StructInput} {name : String}
    {result : Option Result} {write : Result → Value}
    {read : Value → Except String Result}
    (isField : input.field name = result.map write)
    (restores : ∀ value, read (write value) = .ok value)
    (notNull : ∀ value, write value ≠ .null) :
    input.defaulted name none (StructInput.readOption read) = .ok result := by
  unfold StructInput.defaulted
  rw [isField]
  cases result with
  | none => rfl
  | some value =>
      dsimp only [Option.map_some]
      rw [StructInput.readOption_some (notNull value), restores]
      rfl

/-- The fields are read back. -/
theorem deserialize_fields (wire : WireEnvelope)
    (paramsNotNull : ∀ params ∈ wire.params, params ≠ .null)
    (resultNotNull : ∀ result ∈ wire.result, result ≠ .null) :
    deserialize (.object wire.fields) = .ok wire := by
  obtain ⟨v, id, kind, method, params, result, error⟩ := lookup_fields wire
  let input : StructInput :=
    ⟨false, fun name => wire.fields.reverse.lookup name⟩
  have isVersion : input.required "v" readU32 = .ok wire.v := by
    unfold StructInput.required
    dsimp only [input]
    rw [v]
    exact readU32_u32 wire.v
  have isId : input.optional "id" readString = .ok wire.id := by
    unfold StructInput.optional
    dsimp only [input]
    rw [id]
    cases wire.id <;> rfl
  have isKind : input.required "kind"
      (expecting "an envelope kind" EnvelopeKind.deserialize) =
        .ok wire.kind := by
    unfold StructInput.required
    dsimp only [input]
    rw [kind]
    dsimp only
    unfold expecting
    rw [EnvelopeKind.deserialize_serialize]
  have isMethod : input.defaulted "method" none (StructInput.readOption
      (expecting "a method" ProtocolMethod.deserialize)) =
        .ok wire.method := by
    refine defaulted_map method ?_ fun _ => Value.noConfusion
    intro method
    unfold expecting
    rw [ProtocolMethod.deserialize_serialize]
  have isParams : input.defaulted "params" none (StructInput.readOption .ok) =
      .ok wire.params :=
    defaulted_value params paramsNotNull
  have isResult : input.defaulted "result" none (StructInput.readOption .ok) =
      .ok wire.result :=
    defaulted_value result resultNotNull
  have isError : input.defaulted "error" none
      (StructInput.readOption ProtocolError.deserialize) = .ok wire.error :=
    defaulted_map error ProtocolError.deserialize_serialize
      fun _ => Value.noConfusion
  unfold deserialize
  rw [readStruct_object wire.fields_known wire.fields_distinct]
  change (input.required "v" readU32 >>= _) = _
  rw [isVersion]
  change (input.optional "id" readString >>= _) = _
  rw [isId]
  change (input.required "kind" _ >>= _) = _
  rw [isKind]
  change (input.defaulted "method" none _ >>= _) = _
  rw [isMethod]
  change (input.defaulted "params" none _ >>= _) = _
  rw [isParams]
  change (input.defaulted "result" none _ >>= _) = _
  rw [isResult]
  change (input.defaulted "error" none _ >>= _) = _
  rw [isError]
  rfl

def intoEnvelope (codecs : PayloadCodecs Payload) (wire : WireEnvelope) :
    Except String (Envelope Payload) :=
  match wire.kind with
  | .request => do
      let method ← requiredMethod wire.method
      rejectField wire.result.isSome "result" .request
      rejectField wire.error.isSome "error" .request
      let request ← ProtocolRequest.decode codecs method wire.params
      return ⟨wire.v, wire.id, wire.kind, some method, some request, none, none⟩
  | .response => do
      let method ← requiredMethod wire.method
      rejectField wire.params.isSome "params" .response
      rejectField wire.error.isSome "error" .response
      let response ← ProtocolResponse.decode codecs method wire.result
      return ⟨wire.v, wire.id, wire.kind, some method, none, some response,
        none⟩
  | .error => do
      rejectField wire.params.isSome "params" .error
      rejectField wire.result.isSome "result" .error
      let error ← wire.error.elim (.error "error is required") .ok
      return ⟨wire.v, wire.id, wire.kind, wire.method, none, none, some error⟩
  | .event => do
      rejectField wire.params.isSome "params" .event
      rejectField wire.result.isSome "result" .event
      rejectField wire.error.isSome "error" .event
      return ⟨wire.v, wire.id, wire.kind, wire.method, none, none, none⟩

end WireEnvelope

namespace Envelope

def request (id : Option String) (request : ProtocolRequest Payload) :
    Envelope Payload :=
  ⟨protocolVersion, id, .request, some request.method, some request, none, none⟩

def typedResponse (id : Option String) (response : ProtocolResponse Payload) :
    Envelope Payload :=
  ⟨protocolVersion, id, .response, some response.method, none, some response,
    none⟩

section Codec

variable (codecs : PayloadCodecs Payload)

def serialize (envelope : Envelope Payload) : Value :=
  .object ([("v", LedgerText.u32 envelope.v),
      ("id", LedgerText.nullable .string envelope.id),
      ("kind", envelope.kind.serialize)] ++
    envelope.method.elim [] (fun method => [("method", method.serialize)]) ++
    envelope.params.elim [] (ProtocolRequest.serializeParams codecs) ++
    envelope.result.elim [] (ProtocolResponse.serializeResult codecs) ++
    envelope.error.elim [] fun error => [("error", error.serialize)])

def deserialize (value : Value) : Except String (Envelope Payload) := do
  let wire ← WireEnvelope.deserialize value
  wire.intoEnvelope codecs

/-- The envelope has exactly the fields of its kind, and its payload is one of
its method. -/
def WellFormed (envelope : Envelope Payload) : Prop :=
  match envelope.kind with
  | .request => ∃ request, envelope.params = some request ∧
      envelope.method = some request.method ∧ envelope.result = none ∧
      envelope.error = none
  | .response => ∃ response, envelope.result = some response ∧
      envelope.method = some response.method ∧ envelope.params = none ∧
      envelope.error = none
  | .error => envelope.error.isSome = true ∧ envelope.params = none ∧
      envelope.result = none
  | .event => envelope.params = none ∧ envelope.result = none ∧
      envelope.error = none

/-- The stream events that an envelope carries are faithful. -/
def Faithful (envelope : Envelope Payload) : Prop :=
  ∀ response ∈ envelope.result, response.Faithful

theorem deserialize_of_fields {envelope : Envelope Payload}
    {wire : WireEnvelope} (isWire : envelope.serialize codecs =
      .object wire.fields)
    (paramsNotNull : ∀ params ∈ wire.params, params ≠ .null)
    (resultNotNull : ∀ result ∈ wire.result, result ≠ .null)
    (into : wire.intoEnvelope codecs = .ok envelope) :
    deserialize codecs (envelope.serialize codecs) = .ok envelope := by
  unfold deserialize
  rw [isWire, WireEnvelope.deserialize_fields wire paramsNotNull resultNotNull]
  exact into

/-- A well-formed envelope is read back. -/
theorem deserialize_serialize {envelope : Envelope Payload}
    (wellFormed : envelope.WellFormed) (faithful : envelope.Faithful) :
    deserialize codecs (envelope.serialize codecs) = .ok envelope := by
  have nothing : ∀ value ∈ (none : Option Value), value ≠ .null := by
    intro value isValue
    cases isValue
  obtain ⟨v, id, kind, method, params, result, error⟩ := envelope
  cases kind with
  | request =>
      obtain ⟨request, rfl, rfl, rfl, rfl⟩ := wellFormed
      obtain ⟨value, notNull, serialized, decoded⟩ :=
        request.decode_serializeParams codecs
      refine @deserialize_of_fields _ codecs _
        ⟨v, id, .request, some request.method, value, none, none⟩ ?_ notNull
        nothing ?_
      · unfold serialize WireEnvelope.fields
        dsimp only [Option.elim]
        rw [serialized]
        rfl
      · show (ProtocolRequest.decode codecs request.method value >>= _) = _
        rw [decoded]
        rfl
  | response =>
      obtain ⟨response, rfl, rfl, rfl, rfl⟩ := wellFormed
      obtain ⟨value, notNull, serialized, decoded⟩ :=
        ProtocolResponse.decode_serializeResult codecs (faithful response rfl)
      refine @deserialize_of_fields _ codecs _
        ⟨v, id, .response, some response.method, none, some value, none⟩ ?_
        nothing ?_ ?_
      · unfold serialize WireEnvelope.fields
        dsimp only [Option.elim]
        rw [serialized]
      · intro other isValue
        cases isValue
        exact notNull
      · show (ProtocolResponse.decode codecs response.method (some value) >>= _)
          = _
        rw [decoded]
        rfl
  | error =>
      obtain ⟨isError, rfl, rfl⟩ := wellFormed
      obtain ⟨detail, rfl⟩ := Option.isSome_iff_exists.mp isError
      exact @deserialize_of_fields _ codecs _
        ⟨v, id, .error, method, none, none, some detail⟩ rfl nothing nothing rfl
  | event =>
      obtain ⟨rfl, rfl, rfl⟩ := wellFormed
      exact @deserialize_of_fields _ codecs _
        ⟨v, id, .event, method, none, none, none⟩ rfl nothing nothing rfl

/-- What is read is well formed. -/
theorem wellFormed_of_intoEnvelope {wire : WireEnvelope}
    {envelope : Envelope Payload}
    (into : wire.intoEnvelope codecs = .ok envelope) :
    envelope.WellFormed ∧ envelope.Faithful := by
  have noResponse : ∀ response ∈ (none : Option (ProtocolResponse Payload)),
      response.Faithful := by
    intro response isResponse
    cases isResponse
  obtain ⟨v, id, kind, method, params, result, error⟩ := wire
  cases kind with
  | request =>
      obtain ⟨name, _, into⟩ := except_bind_ok_iff.mp into
      obtain ⟨_, _, into⟩ := except_bind_ok_iff.mp into
      obtain ⟨_, _, into⟩ := except_bind_ok_iff.mp into
      obtain ⟨request, decoded, into⟩ := except_bind_ok_iff.mp into
      cases into
      have sameMethod := ProtocolRequest.method_of_decode codecs decoded
      exact ⟨⟨request, rfl, by rw [sameMethod], rfl, rfl⟩, noResponse⟩
  | response =>
      obtain ⟨name, _, into⟩ := except_bind_ok_iff.mp into
      obtain ⟨_, _, into⟩ := except_bind_ok_iff.mp into
      obtain ⟨_, _, into⟩ := except_bind_ok_iff.mp into
      obtain ⟨response, decoded, into⟩ := except_bind_ok_iff.mp into
      cases into
      have decodes := ProtocolResponse.of_decode codecs decoded
      refine ⟨⟨response, rfl, by rw [decodes.1], rfl, rfl⟩, ?_⟩
      intro other isResponse
      cases isResponse
      exact decodes.2
  | error =>
      obtain ⟨_, _, into⟩ := except_bind_ok_iff.mp into
      obtain ⟨_, _, into⟩ := except_bind_ok_iff.mp into
      obtain ⟨detail, _, into⟩ := except_bind_ok_iff.mp into
      cases into
      exact ⟨⟨rfl, rfl, rfl⟩, noResponse⟩
  | event =>
      obtain ⟨_, _, into⟩ := except_bind_ok_iff.mp into
      obtain ⟨_, _, into⟩ := except_bind_ok_iff.mp into
      obtain ⟨_, _, into⟩ := except_bind_ok_iff.mp into
      cases into
      exact ⟨⟨rfl, rfl, rfl⟩, noResponse⟩

end Codec

end Envelope

/-- The calls into `serde_json` for text: a value that is written is parsed
back. -/
structure JsonLibrary where
  toString : Value → String
  fromStr : String → Option Value
  fromStr_toString : ∀ value, fromStr (toString value) = some value

namespace Envelope

variable (json : JsonLibrary) (codecs : PayloadCodecs Payload)

def toText (envelope : Envelope Payload) : String :=
  json.toString (envelope.serialize codecs)

def fromText (text : String) : Except String (Envelope Payload) :=
  match json.fromStr text with
  | some value => deserialize codecs value
  | none => .error "expected value"

/-- The codec of envelopes: requests and responses with faithful stream events
are read back, everything that is read is well formed and is read back, and the
tables of a variant are those of its method. -/
theorem codec_roundTrip :
    (∀ id (request : ProtocolRequest Payload),
      fromText json codecs (toText json codecs (.request id request)) =
        .ok (.request id request)) ∧
    (∀ id (response : ProtocolResponse Payload), response.Faithful →
      fromText json codecs (toText json codecs (.typedResponse id response)) =
        .ok (.typedResponse id response)) ∧
    (∀ text (envelope : Envelope Payload),
      fromText json codecs text = .ok envelope →
      envelope.WellFormed ∧
        fromText json codecs (toText json codecs envelope) = .ok envelope) ∧
    (∀ method : ProtocolMethod, method.serdeName = method.asStr ∧
      ProtocolMethod.parse method.asStr = some method) ∧
    (∀ request : ProtocolRequest Payload,
      request.serdeTag = request.method.asStr) ∧
    (∀ response : ProtocolResponse Payload,
      response.serdeTag = response.method.asStr) ∧
    (∀ method params (request : ProtocolRequest Payload),
      ProtocolRequest.decode codecs method params = .ok request →
      request.method = method) ∧
    (∀ method result (response : ProtocolResponse Payload),
      ProtocolResponse.decode codecs method result = .ok response →
      response.method = method) := by
  have roundTrip : ∀ envelope : Envelope Payload, envelope.WellFormed →
      envelope.Faithful →
      fromText json codecs (toText json codecs envelope) = .ok envelope := by
    intro envelope wellFormed faithful
    unfold fromText toText
    rw [json.fromStr_toString]
    exact deserialize_serialize codecs wellFormed faithful
  refine ⟨?_, ?_, ?_, ?_, ?_, ?_, ?_, ?_⟩
  · intro id request
    refine roundTrip _ ⟨request, rfl, rfl, rfl, rfl⟩ ?_
    intro response isResponse
    cases isResponse
  · intro id response faithful
    refine roundTrip _ ⟨response, rfl, rfl, rfl, rfl⟩ ?_
    intro other isResponse
    cases isResponse
    exact faithful
  · intro text envelope read
    unfold fromText at read
    split at read
    next value _ =>
      obtain ⟨wire, _, into⟩ := except_bind_ok_iff.mp read
      have isWellFormed := wellFormed_of_intoEnvelope codecs into
      exact ⟨isWellFormed.1, roundTrip _ isWellFormed.1 isWellFormed.2⟩
    next => cases read
  · exact fun method => ⟨method.serdeName_eq, method.parse_asStr⟩
  · exact ProtocolRequest.serdeTag_eq
  · exact ProtocolResponse.serdeTag_eq
  · exact fun _ _ _ => ProtocolRequest.method_of_decode codecs
  · exact fun _ _ _ decoded => (ProtocolResponse.of_decode codecs decoded).1

/-- Payloads without data. -/
abbrev NoPayload (_ : PayloadType) : Type :=
  Unit

/-- An object of the tag and these fields. -/
def taggedObject (kind : String) (fields : List (String × Value)) : Value :=
  .object (("kind", .string kind) :: fields)

def sampleKnownValue (event : KnownStreamEvent NoPayload) : Value :=
  taggedObject event.kind <|
    match event with
    | .ledger _ => []
    | .assistantDelta runId turnId step deltaIndex text =>
        [("run_id", .string runId), ("turn_id", .string turnId),
          ("step", LedgerText.u32 step),
          ("delta_index", .number (.posInt deltaIndex)), ("text", .string text)]
    | .approvalRequested runId toolCallId toolName _ reason diffPreview
        approvalPreview yoloEligible =>
        [("run_id", .string runId), ("tool_call_id", .string toolCallId),
          ("tool_name", .string toolName), ("reason", .string reason),
          ("diff_preview", LedgerText.nullable .string diffPreview),
          ("approval_preview", LedgerText.nullable .string approvalPreview),
          ("yolo_eligible", .bool yoloEligible)]
    | .canceled runId => [("run_id", .string runId)]
    | .completionClaimed runId _ =>
        [("run_id", .string runId), ("claim", .object [])]

def readSampleKnown :
    Value → Except String (KnownStreamEvent NoPayload)
  | .object [_] => .ok (.ledger ())
  | .object [_, (_, .string runId)] => .ok (.canceled runId)
  | .object [_, (_, .string runId), _] => .ok (.completionClaimed runId ())
  | .object [_, (_, .string runId), (_, .string turnId), (_, step),
      (_, .number (.posInt deltaIndex)), (_, .string text)] =>
      (readU32 step).map fun step =>
        .assistantDelta runId turnId step deltaIndex text
  | .object [_, (_, .string runId), (_, .string toolCallId),
      (_, .string toolName), (_, .string reason), (_, diffPreview),
      (_, approvalPreview), (_, .bool yoloEligible)] =>
      .ok (.approvalRequested runId toolCallId toolName () reason
        (LedgerText.readText diffPreview) (LedgerText.readText approvalPreview)
        yoloEligible)
  | _ => .error "no variant of a stream event"

def samplePayload : DerivedCodec Unit where
  toValue _ := .object []
  fromValue _ := .ok ()
  fromValue_toValue _ := rfl
  toValue_ne_null _ := Value.noConfusion

def sampleKnownCodec : DerivedCodec (KnownStreamEvent NoPayload) where
  toValue := sampleKnownValue
  fromValue := readSampleKnown
  fromValue_toValue := by
    intro event
    cases event with
    | assistantDelta runId turnId step deltaIndex text =>
        show (readU32 (LedgerText.u32 step)).map _ = _
        rw [readU32_u32]
        rfl
    | approvalRequested runId toolCallId toolName effect reason diffPreview
        approvalPreview yoloEligible =>
        cases diffPreview <;> cases approvalPreview <;> rfl
    | _ => rfl
  toValue_ne_null _ := Value.noConfusion

def sampleCodecs : PayloadCodecs NoPayload where
  payload _ := samplePayload
  knownStreamEvent := sampleKnownCodec
  kind_knownStreamEvent event := by
    cases event <;> rfl

def textLibrary : JsonLibrary :=
  ⟨JsonText.toText, JsonText.fromText, JsonText.fromText_toText⟩

/-- A page with one event. -/
def samplePage (event : StreamEvent NoPayload) : ProtocolResponse NoPayload :=
  .eventsStream ⟨"run_1", 0, 1, .canceled, [⟨0, event⟩]⟩

theorem codec_roundTrip_canceled :
    fromText textLibrary sampleCodecs (toText textLibrary sampleCodecs
      (.typedResponse none (samplePage (.canceled "run_1")))) =
        .ok (.typedResponse none (samplePage (.canceled "run_1"))) := by
  have faithful : (samplePage (.canceled "run_1")).Faithful := by
    intro buffered member
    cases List.mem_singleton.mp member
    exact True.intro
  exact (codec_roundTrip textLibrary sampleCodecs).2.1 none _ faithful

/-- A response that is read back is one that reading can make. -/
theorem faithful_of_read {Payload : PayloadType → Type} {json : JsonLibrary}
    {codecs : PayloadCodecs Payload} {response : ProtocolResponse Payload}
    (read : fromText json codecs (toText json codecs
      (.typedResponse none response)) = .ok (.typedResponse none response)) :
    response.Faithful := by
  unfold fromText toText at read
  rw [json.fromStr_toString] at read
  dsimp only at read
  unfold deserialize at read
  obtain ⟨wire, _, into⟩ := except_bind_ok_iff.mp read
  exact (wellFormed_of_intoEnvelope codecs into).2 response rfl

/-- An unknown event around a value without a kind is written and not read. -/
theorem codec_loses_unknown_null :
    ¬ ∀ (json : JsonLibrary) (codecs : PayloadCodecs NoPayload)
      (response : ProtocolResponse NoPayload),
      fromText json codecs (toText json codecs
        (.typedResponse none response)) = .ok (.typedResponse none response) := by
  intro roundTrip
  have faithful := @faithful_of_read NoPayload textLibrary sampleCodecs
    (samplePage (.unknown .null)) (roundTrip textLibrary sampleCodecs _)
  obtain ⟨kind, isKind, _⟩ := faithful ⟨0, .unknown .null⟩ List.mem_cons_self
  cases isKind

end Envelope

end Protocol

end PlatoAgent
