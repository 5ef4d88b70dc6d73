import VectorReplay.Account.Storage
import VectorReplay.Table

/-!
Account states, and accounts by address in the order of their document.
-/
namespace VectorReplay

structure Account where
  code : Bytes
  balance : Word
  nonce : Word
  storage : Storage
deriving DecidableEq

abbrev Accounts := Table Address Account

namespace Accounts

/-- No address stands twice. -/
def Distinct (as : Accounts) : Prop :=
  (as.map Prod.fst).Nodup

instance (as : Accounts) : Decidable as.Distinct :=
  inferInstanceAs (Decidable (as.map Prod.fst).Nodup)

end Accounts

end VectorReplay
