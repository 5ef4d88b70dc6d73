import VectorReplay.Rlp.Extent
import VectorReplay.Hex.Basic

/-!
Why a block cannot be decoded.
-/
namespace VectorReplay

/-- Names of the envelope kinds; the legacy one is a bare list. -/
inductive Kind
  | legacy
  | accessList
  | dynamicFee
  | blob
  | setCode
deriving DecidableEq, Repr

namespace Kind

def label : Kind → String
  | .legacy => "legacy"
  | .accessList => "access list"
  | .dynamicFee => "dynamic fee"
  | .blob => "blob"
  | .setCode => "set code"

/-- The number of payload fields, signature included. -/
def fieldCount : Kind → Nat
  | .legacy => 9
  | .accessList => 11
  | .dynamicFee => 12
  | .blob => 14
  | .setCode => 13

def ofByte? (b : UInt8) : Option Kind :=
  if b = 1 then some .accessList
  else if b = 2 then some .dynamicFee
  else if b = 3 then some .blob
  else if b = 4 then some .setCode
  else none

end Kind

/-- A departure from the shape of a block. -/
inductive SchemaError
  | notList (what : String)
  | trailingBytes (n : Nat)
  | missingParts
  | headerFields (n : Nat)
  | notString (field : String)
  | tooWide (field : String) (bits : Nat)
  | addressLength (field : String) (n : Nat)
  | transactionFields (kind : Kind) (n : Nat)
  | signatureV (v : Nat)
  | chainIdWidth
  | emptyEnvelope
  | unknownType (byte : UInt8)
  | payloadNotList (kind : Kind)
  | payloadLength (kind : Kind)
  | inTransaction (index : Nat) (e : SchemaError)
deriving DecidableEq

def SchemaError.message : SchemaError → String
  | .notList what => "the " ++ what ++ " is not an RLP list"
  | .trailingBytes n => toString n ++ " trailing bytes after the block"
  | .missingParts => "the block must contain a header and a transaction list"
  | .headerFields n => "the header must have at least 15 fields, got " ++ toString n
  | .notString field => "`" ++ field ++ "` must be a byte string"
  | .tooWide field bits => "`" ++ field ++ "` does not fit into " ++ toString bits ++ " bits"
  | .addressLength field n => "`" ++ field ++ "` must be 20 bytes long, got " ++ toString n
  | .transactionFields kind n =>
    "the " ++ kind.label ++ " transaction must have " ++ toString kind.fieldCount ++
      " fields, got " ++ toString n
  | .signatureV v => "invalid legacy signature `v` " ++ toString v
  | .chainIdWidth => "the chain id does not fit into 64 bits"
  | .emptyEnvelope => "empty typed transaction"
  | .unknownType byte => "unsupported transaction type " ++ Hex.marked [byte]
  | .payloadNotList kind => "the " ++ kind.label ++ " transaction payload is not an RLP list"
  | .payloadLength kind => "the " ++ kind.label ++ " transaction payload has an invalid length"
  | .inTransaction index e => "transaction " ++ toString index ++ ": " ++ e.message

inductive DecodeError
  | missingBlock
  | hex (e : Hex.Error)
  | rlp (e : Rlp.Error)
  | schema (e : SchemaError)
deriving DecidableEq

namespace DecodeError

def message : DecodeError → String
  | .missingBlock => "the test vector has no block"
  | .hex e => "invalid hex: " ++ e.message
  | .rlp e => "invalid RLP: " ++ e.name
  | .schema e => e.message

/-- What lies behind the error, outermost first. -/
def causes : DecodeError → List String
  | .hex e => [e.message]
  | .rlp e => [e.name]
  | _ => []

/-- Places a departure from the shape at a transaction; other errors stay as they are. -/
def inTransaction (index : Nat) : DecodeError → DecodeError
  | .schema e => .schema (.inTransaction index e)
  | e => e

end DecodeError

end VectorReplay
