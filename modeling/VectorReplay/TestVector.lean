import VectorReplay.Account.Document
import VectorReplay.Block.Basic

/-!
Test vectors: the accounts before a block, candidate blocks in RLP as hexadecimal text, and the
accounts expected afterwards. Only the first block counts.
-/
namespace VectorReplay

open Json

structure TestVector where
  pre : Accounts
  blocks : List String
  post : Accounts
  /-- The name of the protocol version, as the document records it. -/
  network : Option String
deriving DecidableEq

namespace TestVector

def firstBlock (v : TestVector) : Option String :=
  v.blocks.head?

/-- Decodes the first block. -/
def block (v : TestVector) : Except DecodeError Block :=
  match v.firstBlock with
  | none => .error .missingBlock
  | some text => Block.ofHex text

/-! ### Documents -/

/-- A block is a record of one member. -/
def blockRecord : Record (Option String) String where
  title := "BlockDescriptor"
  fields := [.of "rlp" false id (fun a _ => some a) Decoder.string]
  blank := none
  build := required "rlp"

/-- The parts of a vector that were met so far. -/
structure Draft where
  pre : Option Accounts := none
  blocks : Option (List String) := none
  post : Option Accounts := none
  network : Option (Option String) := none

def record : Record Draft TestVector where
  title := "TestVector"
  fields := [
    .of "pre" false Draft.pre (fun a d => { d with pre := some a }) Accounts.decoder,
    .of "blocks" false Draft.blocks (fun a d => { d with blocks := some a })
      (Decoder.list blockRecord.decoder),
    .of "postState" false Draft.post (fun a d => { d with post := some a }) Accounts.decoder,
    .of "network" true Draft.network (fun a d => { d with network := some a })
      (Decoder.nullable Decoder.string)]
  blank := {}
  build d := do
    let pre ← required "pre" d.pre
    let blocks ← required "blocks" d.blocks
    let post ← required "postState" d.post
    pure { pre, blocks, post, network := d.network.join }

def decode (text : String) : Except Json.Error TestVector :=
  record.decoder.decode text

/-- The network is left out when there is none. -/
def toValue (v : TestVector) : Value :=
  .object ([
    ("pre", v.pre.toValue),
    ("blocks", .list (v.blocks.map fun b => .object [("rlp", .text b)])),
    ("postState", v.post.toValue)] ++
    (v.network.toList.map fun n => ("network", .text n)))

def encode (v : TestVector) : String :=
  v.toValue.toText

end TestVector

end VectorReplay
