import HarmonyNetBridge.Protocol.Frame

/-! The JSON payloads the Mac sends: `json.Marshal` of the payload structures and the size check of
`MarshalJSONPayload`. -/
namespace HarmonyNetBridge

/-- One character of a JSON string as `encoding/json` writes it. -/
def jsonEscape (c : Char) : List Char :=
  if c = '\x22' ∨ c = '\\' then ['\\', c]
  else if c = '\x08' then ['\\', 'b']
  else if c = '\x0c' then ['\\', 'f']
  else if c = '\n' then ['\\', 'n']
  else if c = '\r' then ['\\', 'r']
  else if c = '\t' then ['\\', 't']
  else if c.toNat < 0x20 ∨ c = '<' ∨ c = '>' ∨ c = '&' then
    ['\\', 'u', '0', '0', lowerHexDigit (c.toNat / 16), lowerHexDigit (c.toNat % 16)]
  else if c.toNat = 0x2028 ∨ c.toNat = 0x2029 then
    ['\\', 'u', '2', '0', '2', lowerHexDigit (c.toNat % 16)]
  else [c]

def jsonString (text : String) : List Char :=
  '\x22' :: text.toList.flatMap jsonEscape ++ ['\x22']

def jsonArray (items : List (List Char)) : List Char :=
  '[' :: [','].intercalate items ++ [']']

def jsonBool (b : Bool) : List Char := (toString b).toList

/-- A structure with its field tags and encoded values. -/
def jsonObject (fields : List (String × List Char)) : List Char :=
  '\x7b' :: [','].intercalate (fields.map fun field => jsonString field.1 ++ ':' :: field.2) ++
    ['\x7d']

def HelloAck.json (ack : HelloAck) : List Char :=
  jsonObject [("selectedVersion", (toString ack.selectedVersion).toList),
    ("sessionToken", jsonString ack.sessionToken),
    ("capabilities", jsonArray (ack.capabilities.map jsonString)),
    ("mtu", (toString ack.mtu).toList), ("message", jsonString ack.message)]

def ErrorPayload.json (error : ErrorPayload) : List Char :=
  jsonObject [("code", jsonString error.code), ("message", jsonString error.message),
    ("fatal", jsonBool error.fatal)]

structure StopRequest where
  reason : String
  deriving DecidableEq, Repr

def StopRequest.json (request : StopRequest) : List Char :=
  jsonObject [("reason", jsonString request.reason)]

/-- `MarshalJSONPayload` on the text that `json.Marshal` returned, which has no other error for
these structures. -/
def marshalJSONPayload (json : List Char) : Except ProtocolError (List UInt8) :=
  let payload := json.flatMap String.utf8EncodeChar
  if payload.length > maxControlPayload.toNat then
    .error ⟨"PAYLOAD_TOO_LARGE", "control payload exceeds 16 KiB"⟩
  else .ok payload

theorem marshalJSONPayload_ok {json : List Char} {payload : List UInt8}
    (h : marshalJSONPayload json = .ok payload) :
    payload = json.flatMap String.utf8EncodeChar ∧ payload.length ≤ maxControlPayload.toNat := by
  unfold marshalJSONPayload at h
  dsimp only at h
  split at h
  · cases h
  next hle =>
    cases h
    exact ⟨rfl, Nat.not_lt.mp hle⟩

theorem marshal_object_head {fields : List (String × List Char)} {payload : List UInt8}
    (h : marshalJSONPayload (jsonObject fields) = .ok payload) :
    ∃ rest, payload = 0x7B :: rest := by
  obtain ⟨rfl, -⟩ := marshalJSONPayload_ok h
  exact ⟨_, rfl⟩

end HarmonyNetBridge
