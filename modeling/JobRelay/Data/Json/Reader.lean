import JobRelay.Data.Json.Token

/-! # Reading JSON

Tokens are put together from the front. What is read before a fault is kept, with `broken` in the
place of the fault, so that a reader of the values can tell which of two faults comes first.
-/

namespace JobRelay.Json

mutual

/-- One value and the tokens after it. -/
def value (fuel : Nat) (tokens : List Token) : Datum × List Token :=
  match fuel, tokens with
  | 0, _ | _, [] => (.broken, [])
  | fuel + 1, token :: rest =>
    match token with
    | .null => (.null, rest)
    | .flag b => (.flag b, rest)
    | .number n => (n.getD .garbled, rest)
    | .text s => ((s.map Datum.text).getD .garbled, rest)
    | .openList =>
      match rest with
      | .closeList :: rest => (.list [], rest)
      | _ =>
        let (items, rest) := items fuel rest
        (.list items, rest)
    | .openRecord =>
      match rest with
      | .closeRecord :: rest => (.record [], rest)
      | _ =>
        let (fields, rest) := fields fuel rest
        (.record fields, rest)
    | _ => (.broken, [])

/-- The items of a list up to its end. -/
def items (fuel : Nat) (tokens : List Token) : List Datum × List Token :=
  match fuel with
  | 0 => ([.broken], [])
  | fuel + 1 =>
    let (item, rest) := value fuel tokens
    match rest with
    | .closeList :: rest => ([item], rest)
    | .comma :: rest =>
      let (more, rest) := items fuel rest
      (item :: more, rest)
    | _ => ([item, .broken], [])

/-- The fields of a record up to its end. A fault after a name breaks the field of that name, and a
fault in a name one without a name. -/
def fields (fuel : Nat) (tokens : List Token) : List (String × Datum) × List Token :=
  match fuel, tokens with
  | fuel + 1, .text (some name) :: .colon :: rest =>
    let (item, rest) := value fuel rest
    match rest with
    | .closeRecord :: rest => ([(name, item)], rest)
    | .comma :: rest =>
      let (more, rest) := fields fuel rest
      ((name, item) :: more, rest)
    | _ => ([(name, item), ("", .broken)], [])
  | _, .text (some name) :: _ => ([(name, .broken)], [])
  | _, _ => ([("", .broken)], [])

end

/-- A text read as a value: the value, and whether nothing follows it. -/
def read (bytes : List UInt8) : Datum × Bool :=
  let tokens := Token.scan bytes
  let (d, rest) := value (2 * tokens.length + 2) tokens
  (d, rest.isEmpty)

/-- The value of a well-formed text. -/
def read? (bytes : List UInt8) : Option Datum :=
  let (d, isWhole) := read bytes
  if isWhole && d.isSound then some d else none

end JobRelay.Json
