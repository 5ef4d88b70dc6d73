import VectorReplay.Json.Reader

/-!
JSON values. A number keeps its text. The members of an object are sorted by key, and the last one of
those that share a key is kept.
-/
namespace VectorReplay.Json

inductive Value
  | null
  | boolean (b : Bool)
  | number (text : String)
  | text (s : String)
  | list (items : List Value)
  | object (members : List (String × Value))

namespace Value

/-- What a value is called in a message. -/
def found : Value → Found
  | .null => .null
  | .boolean b => .boolean b
  | .number _ => .number
  | .text s => .text s
  | .list _ => .sequence
  | .object _ => .map

/-- The key under which numbers are handed on as texts. An object that begins with it is taken for the
number. -/
def numberKey : String := "$serde_json::private::Number"

/-- Puts a member at its place in the order of keys. -/
def insertMember (key : String) (v : Value) : List (String × Value) → List (String × Value)
  | [] => [(key, v)]
  | (k, w) :: rest =>
    if key < k then (key, v) :: (k, w) :: rest
    else if k < key then (k, w) :: insertMember key v rest
    else (key, v) :: rest

/-- A number with its sign. -/
def readNumber (s : List Char) : Except Error (Value × List Char) :=
  match s with
  | '-' :: r => do
    let (digits, r) ← Json.number .eofInValue r
    pure (.number (String.ofList ('-' :: digits)), r)
  | _ => do
    let (digits, r) ← Json.number .eofInValue s
    pure (.number (String.ofList digits), r)

/-- The number that makes up a whole text. What is wrong with the text is told without its place. -/
def ofNumberText (s : List Char) : Except Error Value :=
  match readNumber s with
  | .ok (v, []) => .ok v
  | .ok (_, _ :: _) => .error (.rejected Error.invalidNumber.message)
  | .error e => .error (.rejected e.message)

/-- A value that is no list and no object. -/
def readScalar (c : Char) (r : List Char) : Except Error (Value × List Char) :=
  if c = 'n' then (word "ull".toList r).map (.null, ·)
  else if c = 't' then (word "rue".toList r).map (.boolean true, ·)
  else if c = 'f' then (word "alse".toList r).map (.boolean false, ·)
  else if c = '-' || c.isDigit then readNumber (c :: r)
  else if c = '"' then (stringBody r).map fun (s, r) => (.text (String.ofList s), r)
  else .error .expectedValue

end Value

/-- How deep brackets may stand inside each other in a whole text. -/
def depthLimit : Nat := 127

end VectorReplay.Json
