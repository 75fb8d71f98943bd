import RemoteDrive.Fault
import RemoteDrive.Json.Tree

/-!
# Replies and their envelope

Every endpoint answers with a JSON object that wraps its payload in a code, a message and a `data`
field. Which names the code and the message go by depends on the family of the endpoint, and within
a family several names are tried in turn: the first that is a number is the code, the first that is
a text is the message.

A reply without a code counts as success, since the payload will show what it is worth. A code is
compared as an integer: it is taken as binary64, cut toward zero and kept within the range of a
signed word, in this order, so that 200.9 is a success and no number outside 200 ≤ v < 201 is.
-/

set_option autoImplicit false

namespace RemoteDrive

/-- The families of endpoints. -/
inductive EndpointFamily where
  /-- Listing, creating, moving, renaming and deleting. -/
  | operation
  /-- Authentication, refresh and download links. -/
  | service
  /-- Both steps of an upload. -/
  | upload
deriving DecidableEq

namespace EndpointFamily

/-- The names of the code, in the order in which they are tried. -/
def codeKeys : EndpointFamily → List String
  | .operation => ["code", "status"]
  | .service => ["status"]
  | .upload => ["status", "code"]

/-- The names of the message, in the order in which they are tried. -/
def messageKeys : EndpointFamily → List String
  | .operation => ["msg", "message"]
  | .service => ["message", "msg"]
  | .upload => ["msg", "message"]

end EndpointFamily

/-- The code of success. -/
def successCode : Int := 200

/-- What a failing reply without a message is said to have said. -/
def unknownError : String := "unknown error"

/-- `n` kept within the range of a signed word. -/
def clampSigned (n : Int) : Int := max (-signedLimit) (min (signedLimit - 1) n)

/-- The integer that a number means as a code. -/
def codeOfNumber (n : JsonNumber) : Int := clampSigned n.toBinary64.toInt

/-- A reply that is a JSON object, with what its envelope says. -/
structure Envelope where
  code : Option Int
  message : Option String
  success : Option Bool
  root : Json

namespace Envelope

/-- The envelope of an object. -/
def ofObject (family : EndpointFamily) (root : Json) : Envelope where
  code := (root.firstOf Json.number? family.codeKeys).map codeOfNumber
  message := root.firstOf Json.text? family.messageKeys
  success := (root.field? "success").bind Json.bool?
  root := root

/-- The envelope of a body, which must be a JSON object. -/
def decode (family : EndpointFamily) (body : List UInt8) : Except Fault Envelope :=
  match Json.ofBytes? body with
  | none => .error .malformedJson
  | some root => if root.isObject then .ok (ofObject family root) else .error .notAnObject

/-- There is no code, or it is the one of success. -/
def isSuccess (e : Envelope) : Bool := e.code.all (· == successCode)

/-- The message, or the words for the lack of one. -/
def errorMessage (e : Envelope) : String := e.message.getD unknownError

/-- A field beside the payload. -/
def field (e : Envelope) (key : String) : Json := e.root.fieldOrNull key

/-- The payload. -/
def data (e : Envelope) : Json := e.field "data"

/-- A text of the payload that is not empty. -/
def dataText? (e : Envelope) (key : String) : Option String :=
  ((e.data.field? key).bind Json.text?).filter (· ≠ "")

/-- The payload as a record, `default` where it is null. -/
def dataAs {α : Type} (e : Envelope) (default : α) (read : Json → Option α) : Except Fault α :=
  if e.data.isNull then .ok default
  else (read e.data).elim (.error .unexpectedData) .ok

/-- The envelope again, or the failure that it reports. -/
def check (e : Envelope) : Except Fault Envelope :=
  match e.code with
  | some code => if code = successCode then .ok e else .error (.application code e.errorMessage)
  | none => .ok e

end Envelope

end RemoteDrive
