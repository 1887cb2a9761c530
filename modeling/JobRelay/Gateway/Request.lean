import JobRelay.Data.Shape
import JobRelay.Gateway.Address
import JobRelay.Gateway.MediaType
import JobRelay.Text.Percent
import JobRelay.Text.Utf8

/-! # Requests and responses

A request as it arrives: a method, a target, headers, a body and the address of the peer. A header
is found by its name in any letter case; the first one of a name counts, and one with characters
that are not visible ASCII counts as missing. A response has a status code and perhaps a body of
data.
-/

namespace JobRelay

structure Request where
  method : String
  /-- The path and, behind a question mark, the query. -/
  target : String
  headers : List (String × String) := []
  body : List UInt8 := []
  /-- The address at the other end, if it is known. -/
  peer : Option IpAddress := none
deriving DecidableEq, Repr

structure Response where
  status : Nat
  body : Option Datum := none
deriving Repr

namespace Response

/-- A status code without data. -/
def bare (status : Nat) : Response := { status }

/-- An answer with data. -/
def ok (body : Datum) : Response := { status := 200, body := some body }

/-- A refusal with its text. -/
def refusal (status : Nat) (message : String) : Response :=
  { status, body := some (.record [("error", .text message)]) }

/-- No answer: the connection is closed. Zero is the status of no other response. -/
def dropped : Response := bare 0

end Response

def maxBodySize : Nat := 65536

namespace Request

/-- The target without a fragment. -/
def targetChars (r : Request) : List Char := r.target.toList.takeWhile (· != '#')

/-- The path as it was sent. -/
def path (r : Request) : String := String.ofList (r.targetChars.takeWhile (· != '?'))

/-- The query as it was sent, without its question mark. -/
def query (r : Request) : List Char := (r.targetChars.dropWhile (· != '?')).drop 1

/-- Whether all characters of a header are visible or tabs. -/
def isVisible (value : String) : Bool :=
  value.toList.all fun c => c == '\t' || (32 ≤ c.toNat && c.toNat < 127)

def sameName (a b : String) : Bool :=
  a.toList.map Char.toLower == b.toList.map Char.toLower

def header? (r : Request) (name : String) : Option String :=
  ((r.headers.find? fun h => sameName h.1 name).map (·.2)).filter isVisible

/-- The length of the body as the request declares it. -/
def declaredLength? (r : Request) : Option Nat :=
  (r.header? "Content-Length").bind (Text.unsignedBits? 64)

/-- Whether the request declares a body beyond the limit. -/
def declaresTooMuch (r : Request) : Bool :=
  r.declaredLength?.any (maxBodySize < ·)

/-- Whether the body keeps within the limit and within what the request declares. -/
def bodyFits (r : Request) : Bool :=
  r.body.length ≤ min maxBodySize (r.declaredLength?.getD maxBodySize)

/-- The body read as JSON of a shape: it has to be declared as JSON, to fit, to be well formed and
to have the shape. -/
def json {α : Type} (r : Request) (shape : Shape α) : Except Response α :=
  if !(r.header? "Content-Type").any MediaType.isJson then .error (.bare 415)
  else if !r.bodyFits then .error (.bare 413)
  else
    match Shape.readJson shape r.body with
    | .ok value => .ok value
    | .error .malformed => .error (.bare 400)
    | .error .unsuitable => .error (.bare 422)

/-- A part of a query with its name and its value decoded. -/
def queryPart? (cs : List Char) : Option String × Option String :=
  let decoded (cs : List Char) : Option String :=
    ofUtf8? (Text.Percent.decodeForm (utf8 (String.ofList cs)))
  (decoded (cs.takeWhile (· != '=')), decoded ((cs.dropWhile (· != '=')).drop 1))

def queryParts (r : Request) : List (Option String × Option String) :=
  ((String.ofList r.query).splitOn "&" |>.filter (!·.isEmpty)).map fun part =>
    queryPart? part.toList

/-- A number in the query that may be left out and not be repeated. -/
def queryNumber (r : Request) (name : String) : Except Response (Option Nat) :=
  match r.queryParts.filter fun part => part.1 == some name with
  | [] => .ok none
  | [part] =>
    match part.2.bind (Text.unsignedBits? 32) with
    | some n => .ok (some n)
    | none => .error (.bare 400)
  | _ => .error (.bare 400)

end Request

/-- A part of a path with its bytes decoded. -/
def decodeSegment (segment : String) : Except Response String :=
  match ofUtf8? (Text.Percent.decode (utf8 segment)) with
  | some decoded => .ok decoded
  | none => .error (.bare 400)

end JobRelay
