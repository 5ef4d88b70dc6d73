import VectorReplay.Block.Error
import VectorReplay.Rlp.Split
import VectorReplay.Word

/-!
Typed access to the items of a list by position.
-/
namespace VectorReplay.Block

def liftRlp {α : Type} : Except Rlp.Error α → Except DecodeError α
  | .ok a => .ok a
  | .error e => .error (.rlp e)

/-- The raw items of a list; `what` names it when it is none. -/
def listItems (what : String) (b : Bytes) : Except DecodeError (List Bytes) :=
  if Rlp.isList b then liftRlp (Rlp.items b)
  else .error (.schema (.notList what))

/-- The raw item at a position. -/
def fieldAt (fields : List Bytes) (i : Nat) : Except DecodeError Bytes :=
  match fields[i]? with
  | some b => .ok b
  | none => .error (.rlp .tooShort)

def bytesAt (fields : List Bytes) (i : Nat) (name : String) : Except DecodeError Bytes := do
  let b ← fieldAt fields i
  if Rlp.isList b then .error (.schema (.notString name)) else liftRlp (Rlp.payload b)

def wordAt (fields : List Bytes) (i : Nat) (name : String) : Except DecodeError Word := do
  let b ← bytesAt fields i name
  if 32 < b.length then .error (.schema (.tooWide name 256)) else .ok (Word.ofBytes b)

def uint64At (fields : List Bytes) (i : Nat) (name : String) : Except DecodeError UInt64 := do
  let w ← wordAt fields i name
  if UInt64.size ≤ w.toNat then .error (.schema (.tooWide name 64)) else .ok (Word.low64 w)

def addressAt (fields : List Bytes) (i : Nat) (name : String) : Except DecodeError Address := do
  let b ← bytesAt fields i name
  match FixedBytes.ofBytes? 20 b with
  | some a => .ok a
  | none => .error (.schema (.addressLength name b.length))

end VectorReplay.Block
