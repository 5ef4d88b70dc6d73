import Mathlib
import VectorReplay.Proofs.Checksum
import VectorReplay.Proofs.Protocol.Order

/-!
Expectations on the fields of accounts, in the order in which they are verified, and what the answers
of a node say about them. The texts of a deviation read as the values that they stand for.
-/
namespace VectorReplay

/-! ### Fields -/

namespace StateField

/-- What a field holds. -/
def Value : StateField → Type
  | .code => Bytes
  | .balance | .nonce | .storage _ => Word

instance : (field : StateField) → DecidableEq field.Value
  | .code => inferInstanceAs (DecidableEq Bytes)
  | .balance | .nonce | .storage _ => inferInstanceAs (DecidableEq Word)

/-- The call that asks for a field. -/
def query (address : Address) : StateField → Call
  | .balance => .balance address
  | .nonce => .transactionCount address
  | .code => .code address
  | .storage key => .storage address (Word.toHash key)

theorem isQuery_query (address : Address) (field : StateField) :
    (field.query address).isQuery = true := by
  cases field <;> rfl

/-- The value in a reply. -/
def read (address : Address) : (field : StateField) → (field.query address).Reply → field.Value
  | .balance, w | .nonce, w => w
  | .code, b => b
  | .storage _, h => Word.ofHash h

/-- How a value is written where it deviates. -/
def text : (field : StateField) → field.Value → String
  | .code, b => Hex.marked b
  | .balance, w | .nonce, w | .storage _, w => Word.decimal w

/-- A text that reads as a value: a number in decimal, code in hexadecimal behind a mark. -/
def Denotes (s : String) : (field : StateField) → field.Value → Prop
  | .code, b => Hex.decode (Hex.stripMark s) = .ok b
  | .balance, w | .nonce, w | .storage _, w => s.toNat? = some w.toNat

theorem denotes_text (field : StateField) (v : field.Value) :
    Denotes (field.text v) field v := by
  cases field with
  | code => exact Hex.decode_marked v
  | balance | nonce | storage => exact Nat.toNat?_repr _

/-- A text reads as one value only. -/
theorem Denotes.unique {s : String} {field : StateField} {v w : field.Value}
    (hv : Denotes s field v) (hw : Denotes s field w) : v = w := by
  cases field with
  | code => exact Except.ok.inj (hv.symm.trans hw)
  | balance | nonce | storage =>
    exact BitVec.eq_of_toNat_eq (Option.some.inj (hv.symm.trans hw))

theorem text_ne {field : StateField} {v w : field.Value} (h : v ≠ w) :
    field.text v ≠ field.text w := by
  intro heq
  have hv := denotes_text field v
  rw [heq] at hv
  exact h (hv.unique (denotes_text field w))

end StateField

/-! ### Expectations -/

/-- An answer to every call that depends on nothing but the call. -/
abbrev View := (c : Call) → Except Fault c.Reply

/-- The node answers its queries by a view, whatever its state. -/
def Node.Shows {σ : Type} (node : Node σ) (view : View) : Prop :=
  ∀ c, c.isQuery → ∀ s, (node.answer c s).1 = view c

/-- The value that a field of an account is to have. -/
structure Expectation where
  address : Address
  field : StateField
  value : field.Value

namespace Expectation

def query (e : Expectation) : Call := e.field.query e.address

/-- The actual value, unless its query fails. -/
def observed (view : View) (e : Expectation) : Except Fault e.field.Value :=
  (view e.query).map (e.field.read e.address)

def Met (view : View) (e : Expectation) : Prop :=
  e.observed view = .ok e.value

/-- A deviation from an expectation: it names the account and the field, and its texts read as the
expected and the actual value. -/
structure Describes (crypto : Crypto) (d : Deviation) (e : Expectation) (actual : e.field.Value) :
    Prop where
  address : d.address = Checksum.text crypto.hash e.address
  legible : Hex.decode (Hex.stripMark d.address) = .ok e.address.bytes
  field : d.field = e.field
  expected : StateField.Denotes d.expected e.field e.value
  actual : StateField.Denotes d.actual e.field actual
  distinct : d.expected ≠ d.actual

/-- Why an expectation is not met: its query fails, or it answers another value. -/
inductive Deviates (crypto : Crypto) (view : View) (e : Expectation) : Fault → Prop
  | failed {f : Fault} : e.observed view = .error f → Deviates crypto view e f
  | differs {actual : e.field.Value} {d : Deviation} : e.observed view = .ok actual →
    actual ≠ e.value → Describes crypto d e actual →
    Deviates crypto view e (.failed (.mismatch d))

theorem Deviates.not_met {crypto : Crypto} {view : View} {e : Expectation} {f : Fault}
    (h : e.Deviates crypto view f) : ¬ e.Met view := by
  intro hmet
  unfold Met at hmet
  cases h with
  | failed hfailed =>
    rw [hfailed] at hmet
    cases hmet
  | differs hactual hne =>
    rw [hactual] at hmet
    exact hne (Except.ok.inj hmet)

end Expectation

/-- Balance, nonce, code, and every slot by ascending key. -/
def Account.expectations (address : Address) (x : Account) : List Expectation :=
  ⟨address, .balance, x.balance⟩ :: ⟨address, .nonce, x.nonce⟩ :: ⟨address, .code, x.code⟩ ::
    x.storage.entries.map fun (key, value) => ⟨address, .storage key, value⟩

/-- The expectations on every account that is not skipped, in the order of the accounts. -/
def Accounts.expectations (skip : SkipList) (post : Accounts) : List Expectation :=
  (post.filter fun (address, _) => !skip.contains address).flatMap
    fun (address, x) => x.expectations address

namespace Verify

/-- What a view shows of an account agrees with what is expected of it. -/
def Agrees (view : View) (address : Address) (x : Account) : Prop :=
  view (.balance address) = .ok x.balance ∧ view (.transactionCount address) = .ok x.nonce ∧
    view (.code address) = .ok x.code ∧ ∀ slot ∈ x.storage.entries,
      (view (.storage address (Word.toHash slot.1))).map Word.ofHash = .ok slot.2

theorem agrees_iff (view : View) (address : Address) (x : Account) :
    Agrees view address x ↔ ∀ e ∈ x.expectations address, e.Met view := by
  have hkept {α : Type} (r : Except Fault α) : r.map (fun a => a) = r := by cases r <;> rfl
  have hslots : (∀ e ∈ x.storage.entries.map fun (key, value) =>
        (⟨address, .storage key, value⟩ : Expectation), e.Met view) ↔
      ∀ slot ∈ x.storage.entries,
        (view (.storage address (Word.toHash slot.1))).map Word.ofHash = .ok slot.2 :=
    List.forall_mem_map
  rw [Account.expectations, List.forall_mem_cons, List.forall_mem_cons, List.forall_mem_cons, hslots,
    Agrees, ← hkept (view (.balance address)), ← hkept (view (.transactionCount address)),
    ← hkept (view (.code address))]
  rfl

/-- What is expected of accounts is met exactly if each that is not skipped agrees. -/
theorem forall_expectations_iff (view : View) (skip : SkipList) (post : Accounts) :
    (∀ e ∈ Accounts.expectations skip post, e.Met view) ↔
      ∀ entry ∈ post, skip.contains entry.1 = false → Agrees view entry.1 entry.2 := by
  simp only [Accounts.expectations, List.forall_mem_flatMap, List.mem_filter, agrees_iff,
    Bool.not_eq_true', and_imp]

theorem skip_of_mem_expectations {skip : SkipList} {post : Accounts} {e : Expectation}
    (h : e ∈ Accounts.expectations skip post) : skip.contains e.address = false := by
  obtain ⟨⟨address, x⟩, hentry, he⟩ := List.mem_flatMap.mp h
  have haddress : e.address = address := by
    simp only [Account.expectations, List.mem_cons, List.mem_map] at he
    rcases he with rfl | rfl | rfl | ⟨slot, -, rfl⟩ <;> rfl
  rw [haddress]
  simpa using (List.mem_filter.mp hentry).2

end Verify

end VectorReplay
