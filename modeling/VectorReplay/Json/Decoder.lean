import VectorReplay.Json.Double
import VectorReplay.Json.Value
import VectorReplay.Json.Skip

/-!
Decoders of typed data, each from JSON text and from a value that was read before. A decoder from
text reports the first fault in the order of the text.
-/
namespace VectorReplay.Json

structure Decoder (α : Type) where
  read : Reader α
  ofValue : Value → Except Error α

namespace Decoder

variable {α β : Type}

/-- The text of a document. -/
def decode (d : Decoder α) (text : String) : Except Error α :=
  d.read.run text

/-- A string that `convert` takes apart; `expected` says what is wanted. -/
def text (expected : String) (convert : String → Except Error α) : Decoder α where
  read := Reader.dispatch fun c s =>
    if c = '"' then do
      let (t, r) ← stringBody (s.drop 1)
      let a ← convert (String.ofList t)
      pure (a, r)
    else .error (mistyped expected s)
  ofValue
    | .text s => convert s
    | v => .error (.invalidType v.found expected)

/-- Any string. -/
def string : Decoder String :=
  text "a string" .ok

/-- A number whose text stands in a string. -/
def quotedNumber : Decoder Value :=
  text "string containing a number" fun s => Value.ofNumberText s.toList

end Decoder

/-! ### Values -/

namespace Value

/-- Reads a member into those read before. -/
def member (inner : Reader Value) (ms : List (String × Value)) (key : String) :
    Reader (List (String × Value)) := fun s =>
  (Reader.afterColon inner s).map fun (v, r) => (insertMember key v ms, r)

/-- What follows the first key of an object, if this is the number key. -/
def afterNumberKey? (s : List Char) : Option (List Char) :=
  match nextMember true s with
  | .ok (true, t) =>
    match stringBody t with
    | .ok (key, u) => if String.ofList key = numberKey then some u else none
    | .error _ => none
  | _ => none

/-- What stands behind an open object bracket. Nothing may follow a number inside it. -/
def objectBody (inner : Reader Value) : Reader Value := fun s =>
  match afterNumberKey? s with
  | some u => do
    let (n, r) ← Reader.afterColon Decoder.quotedNumber.read u
    let r ← endObject r
    pure (n, r)
  | none => (Reader.objectBody (member inner) [] s).map fun (ms, r) => (.object ms, r)

/-- A value with at most `depth` brackets inside each other. -/
def read : (depth : Nat) → Reader Value
  | 0 => Reader.dispatch fun c s =>
    if c = '[' || c = '{' then .error .recursionLimit else readScalar c (s.drop 1)
  | depth + 1 => Reader.dispatch fun c s =>
    if c = '[' then
      (Reader.listBody (read depth) (s.drop 1)).map fun (items, r) => (.list items, r)
    else if c = '{' then objectBody (read depth) (s.drop 1)
    else readScalar c (s.drop 1)

mutual

/-- Reads a value that was read before once more. Keys are met in their order now, so that the number
key may have come to the front. -/
def again : Value → Except Error Value
  | .list items => (againItems items).map .list
  | .object [] => .ok (.object [])
  | .object ((key, v) :: rest) =>
    if key = numberKey then do
      let n ← Decoder.quotedNumber.ofValue v
      if rest.isEmpty then pure n
      else .error (.invalidLength (rest.length + 1) "fewer elements in map")
    else do
      let w ← v.again
      let ms ← againMembers rest
      pure (.object ((key, w) :: ms))
  | v => .ok v

def againItems : List Value → Except Error (List Value)
  | [] => .ok []
  | v :: rest => do
    let w ← v.again
    let ws ← againItems rest
    pure (w :: ws)

def againMembers : List (String × Value) → Except Error (List (String × Value))
  | [] => .ok []
  | (key, v) :: rest => do
    let w ← v.again
    let ms ← againMembers rest
    pure ((key, w) :: ms)

end

end Value

/-! ### Decoders of values that are put together -/

namespace Decoder

/-- `null` or a value. -/
def nullable (d : Decoder α) : Decoder (Option α) where
  read := Reader.dispatch fun c s =>
    if c = 'n' then (word "ull".toList (s.drop 1)).map (none, ·)
    else (d.read s).map fun (a, r) => (some a, r)
  ofValue
    | .null => .ok none
    | v => (d.ofValue v).map some

/-- The number of elements is checked after their contents. -/
def list (d : Decoder α) : Decoder (List α) where
  read := Reader.dispatch fun c s =>
    if c = '[' then Reader.listBody d.read (s.drop 1)
    else .error (mistyped "a sequence" s)
  ofValue
    | .list items => items.mapM d.ofValue
    | v => .error (.invalidType v.found "a sequence")

/-- An object of any keys, folded member by member: `key` reads a key, `add` takes an entry in. -/
def entries {κ σ : Type} (expected : String) (key : String → Except Error κ) (value : Decoder β)
    (blank : σ) (add : σ → κ → β → Except Error σ) : Decoder σ where
  read := Reader.dispatch fun c s =>
    if c = '{' then Reader.objectBody step blank (s.drop 1)
    else .error (mistyped expected s)
  ofValue
    | .object members => members.foldlM (fun acc (name, v) => do
        let k ← key name
        let b ← value.ofValue v
        add acc k b) blank
    | v => .error (.invalidType v.found expected)
where
  /-- Reads one entry. -/
  step (acc : σ) (name : String) : Reader σ := fun s => do
    let k ← key name
    let (b, r) ← Reader.afterColon value.read s
    let acc ← add acc k b
    pure (acc, r)

/-- Decodes and then checks or converts. -/
def andThen (d : Decoder α) (f : α → Except Error β) : Decoder β where
  read s := do
    let (a, r) ← d.read s
    let b ← f a
    pure (b, r)
  ofValue v := do
    let a ← d.ofValue v
    f a

/-- Any value, with at most `depth` brackets inside each other. -/
def value (depth : Nat) : Decoder Value where
  read := Value.read depth
  ofValue := Value.again

/-- The integer that a number text stands for, if it stands for one; a negative zero is none. -/
def integer? (text : List Char) : Option Int :=
  match text with
  | '-' :: r => if r.all Char.isDigit && natOfDigits r ≠ 0 then some (-(natOfDigits r : Int)) else none
  | r => if r.all Char.isDigit then some (natOfDigits r : Int) else none

/-- A signed 64-bit integer. -/
def int64 : Decoder Int where
  read := Reader.dispatch fun c s =>
    if c = '-' || c.isDigit then do
      let (v, r) ← Value.readNumber s
      let n ← ofNumber v
      pure (n, r)
    else .error (mistyped "i64" s)
  ofValue := ofNumber
where
  /-- Refuses what is no number, no integer or too large. -/
  ofNumber : Value → Except Error Int
    | .number text =>
      match integer? text.toList with
      | some n =>
        if Int64.minValue.toInt ≤ n ∧ n ≤ Int64.maxValue.toInt then .ok n
        else if 0 ≤ n ∧ n < UInt64.size then .error (.invalidValue (.integer n) "i64")
        else .error (fraction text.toList)
      | none => .error (fraction text.toList)
    | v => .error (.invalidType v.found "i64")
  /-- What is wrong with a number that is no 64-bit integer. -/
  fraction (text : List Char) : Error :=
    match doubleText? text with
    | some digits => .invalidType (.float digits) "i64"
    | none => .numberOutOfRange

end Decoder

end VectorReplay.Json
