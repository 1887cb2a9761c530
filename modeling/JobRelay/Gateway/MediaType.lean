import JobRelay.Text.Blank

/-! # Media types

The type of a body as a header names it: type, subtype and parameters. A body is JSON if it is of
type `application` and its subtype or the suffix of its subtype is `json`.
-/

namespace JobRelay.MediaType

/-- The characters of names and unquoted values. -/
def isTokenChar (c : Char) : Bool :=
  c.isAlphanum || "!#$%&'*+-.^_\x60|~".toList.contains c

/-- The characters of quoted values. -/
def isQuotedChar (c : Char) : Bool :=
  31 < c.toNat && c.toNat != 127

/-- What follows a quoted value: blanks, then the end or the next parameter. -/
def afterQuoted? (cs : List Char) : Option (List Char) :=
  match cs.dropWhile (· == ' ') with
  | [] => some []
  | ';' :: rest => some rest
  | _ => none

/-- One parameter with what follows it. -/
def scanParameter? (cs : List Char) : Option (List Char) :=
  let name := cs.takeWhile isTokenChar
  match cs.drop name.length with
  | '=' :: '"' :: rest =>
    if name.isEmpty then none
    else
      let value := rest.takeWhile fun c => isQuotedChar c && c != '"'
      -- A quote at once is part of the value.
      match value, rest.drop value.length with
      | [], '"' :: more =>
        let value := more.takeWhile fun c => isQuotedChar c && c != '"'
        match more.drop value.length with
        | '"' :: rest => afterQuoted? rest
        | _ => none
      | _, '"' :: rest => afterQuoted? rest
      | _, _ => none
  | '=' :: rest =>
    if name.isEmpty then none
    else
      let value := rest.takeWhile isTokenChar
      match rest.drop value.length with
      | [] => some []
      | ';' :: rest => if value.isEmpty then none else some rest
      | _ => none
  | _ => none

/-- Whether the rest of a media type is a list of parameters, by a bound on their number. -/
def areParameters : Nat → List Char → Bool
  | _, [] => true
  | 0, _ => false
  | fuel + 1, cs =>
    match cs with
    | ' ' :: rest => areParameters fuel rest
    | _ =>
      match scanParameter? cs with
      | some rest => areParameters fuel rest
      | none => false

/-- Subtype and suffix: the part before the last plus sign that is not in front, and the part after
it. -/
def splitSuffix (subtype : List Char) : List Char × Option (List Char) :=
  let suffix := (subtype.reverse.takeWhile (· != '+')).reverse
  if suffix.length + 1 < subtype.length then
    (subtype.take (subtype.length - suffix.length - 1), some suffix)
  else (subtype, none)

/-- Whether a header names JSON. -/
def isJson (header : String) : Bool :=
  match Text.dropPrefix? "application/".toList (header.toList.map Char.toLower) with
  | none => false
  | some cs =>
    let whole := cs.takeWhile isTokenChar
    let (subtype, suffix) := splitSuffix whole
    (subtype == "json".toList || suffix == some "json".toList) &&
      match cs.drop whole.length with
      | [] => true
      | ';' :: rest => areParameters (rest.length + 1) rest
      | _ => false

end JobRelay.MediaType
