import VectorReplay.Account.Basic
import VectorReplay.Json.HexText
import VectorReplay.Json.Record
import VectorReplay.Json.Write

/-!
Accounts in JSON documents. Two members for one address, or two storage keys for one word, are
refused.
-/
namespace VectorReplay

open Json

/-! ### Storage -/

namespace Storage

/-- Adds one entry that is given by texts; `s` must not have the key yet. -/
def addText (s : Storage) (entry : String × String) : Except Json.Error Storage := do
  let key ← HexText.parseInteger entry.1
  let value ← HexText.parseInteger entry.2
  if s.contains key then .error (.rejected ("duplicate storage key " ++ Hex.wordText key))
  else pure (s.insert key value)

def ofTexts (texts : List (String × String)) : Except Json.Error Storage :=
  texts.foldlM addText empty

/-- A key that is repeated letter by letter keeps its last value. -/
def texts : Decoder (Table String String) :=
  Decoder.entries "a map" .ok Decoder.string [] fun t key value => .ok (t.set key value)

def decoder : Decoder Storage :=
  texts.andThen ofTexts

def toValue (s : Storage) : Value :=
  .object (s.entries.map fun (key, value) => (Hex.wordText key, .text (Hex.wordText value)))

end Storage

/-! ### Accounts -/

namespace Account

/-- The parts of an account that were met so far. -/
structure Draft where
  code : Option Bytes := none
  balance : Option Word := none
  nonce : Option Word := none
  storage : Option Storage := none

def record : Record Draft Account where
  title := "AccountState"
  fields := [
    .of "code" true Draft.code (fun a d => { d with code := some a }) HexText.bytes,
    .of "balance" false Draft.balance (fun a d => { d with balance := some a }) HexText.integer,
    .of "nonce" false Draft.nonce (fun a d => { d with nonce := some a }) HexText.integer,
    .of "storage" true Draft.storage (fun a d => { d with storage := some a }) Storage.decoder]
  blank := {}
  build d := do
    let balance ← required "balance" d.balance
    let nonce ← required "nonce" d.nonce
    pure { code := d.code.getD [], balance, nonce, storage := d.storage.getD .empty }

def decoder : Decoder Account := record.decoder

def toValue (a : Account) : Value :=
  .object [
    ("code", .text (Hex.marked a.code)),
    ("balance", .text (Hex.wordText a.balance)),
    ("nonce", .text (Hex.wordText a.nonce)),
    ("storage", a.storage.toValue)]

end Account

namespace Accounts

/-- Appends an account whose address is new. -/
def add (as : Accounts) (address : Address) (a : Account) : Except Json.Error Accounts :=
  if (as.get? address).isSome then
    .error (.rejected ("duplicate account " ++ Hex.marked address.bytes))
  else .ok (as ++ [(address, a)])

def decoder : Decoder Accounts :=
  Decoder.entries "A map of addresses to account states" (HexText.parseFixed 20) Account.decoder []
    add

def toValue (as : Accounts) : Value :=
  .object (as.map fun (address, a) => (Hex.marked address.bytes, a.toValue))

def decode (text : String) : Except Json.Error Accounts :=
  decoder.decode text

def encode (as : Accounts) : String :=
  as.toValue.toText

end Accounts

end VectorReplay
