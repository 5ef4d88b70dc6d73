import VectorReplay.Keccak
import VectorReplay.Secp256k1

/-!
The two primitives that the rest of the library takes as given: a hash and the recovery of a
signer from a 64-byte signature.
-/
namespace VectorReplay

structure Crypto where
  hash : Bytes → Hash
  /-- The signer of a message; `odd` tells the parity of the curve point behind the signature. -/
  recover : (message : Hash) → (signature : Bytes) → (odd : Bool) → Option Address

namespace Crypto

/-- The last twenty bytes of the hash of the key. -/
def addressOfKey (hash : Bytes → Hash) (key : Nat × Nat) : Address :=
  FixedBytes.ofNat 20 (hash (Bytes.bigEndian 32 key.1 ++ Bytes.bigEndian 32 key.2)).toNat

/-- Keccak and secp256k1. -/
def ethereum : Crypto where
  hash := Keccak.hash
  recover message signature odd :=
    (Secp256k1.recover? message.toNat (Bytes.toNat (signature.take 32))
      (Bytes.toNat (signature.drop 32)) odd).map (addressOfKey Keccak.hash)

end Crypto

end VectorReplay
