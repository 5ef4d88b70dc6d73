import VectorReplay.Json.Decoder

/-!
Records: objects with known members, or lists of them in their order. Unknown members are passed
over, a known one may stand once.
-/
namespace VectorReplay.Json

/-- A member of a record that is put together in a draft `δ`. -/
structure Field (δ : Type) where
  name : String
  /-- Whether a list may end before it. -/
  optional : Bool
  known : δ → Bool
  decoder : Decoder (δ → δ)

/-- A field that is kept as an optional part of the draft. -/
def Field.of {δ α : Type} (name : String) (optional : Bool) (get : δ → Option α)
    (set : α → δ → δ) (d : Decoder α) : Field δ where
  name
  optional
  known draft := (get draft).isSome
  decoder := d.andThen fun a => .ok (set a)

structure Record (δ α : Type) where
  title : String
  fields : List (Field δ)
  blank : δ
  /-- Completes a draft; members that are missing are reported in the order of the fields. -/
  build : δ → Except Error α

/-- A part that must be there. -/
def required {α : Type} (name : String) : Option α → Except Error α
  | some a => .ok a
  | none => .error (.missingField name)

namespace Record

variable {δ α : Type}

def expected (r : Record δ α) : String :=
  "struct " ++ r.title

def expectedLength (r : Record δ α) : String :=
  "struct " ++ r.title ++ " with " ++ toString r.fields.length ++
    (if r.fields.length = 1 then " element" else " elements")

def field? (r : Record δ α) (name : String) : Option (Field δ) :=
  r.fields.find? fun f => f.name = name

/-- Reads a member of an object into the draft. -/
def readMember (r : Record δ α) (draft : δ) (name : String) : Reader δ := fun s =>
  match r.field? name with
  | some f =>
    if f.known draft then .error (.duplicateField name)
    else do
      let (set, s) ← Reader.afterColon f.decoder.read s
      pure (set draft, s)
  | none => do
    let s ← colon s
    let s ← skipValue s
    pure (draft, s)

/-- Reads the elements of a list into the fields; `i` is the position of the first. -/
def readElements (tooShort : String) : List (Field δ) → (i : Nat) → (first : Bool) → δ → Reader δ
  | [], _, _, draft, s => .ok (draft, s)
  | f :: fs, i, first, draft, s => do
    let (more, s) ← nextElement first s
    if more then
      let (set, s) ← f.decoder.read s
      readElements tooShort fs (i + 1) false (set draft) s
    else if f.optional then readElements tooShort fs (i + 1) first draft s
    else .error (.invalidLength i tooShort)

def read (r : Record δ α) : Reader α := Reader.dispatch fun c s =>
  if c = '{' then do
    let (draft, s) ← Reader.members r.readMember (s.length + 1) true r.blank (s.drop 1)
    let a ← r.build draft
    let s ← endObject s
    pure (a, s)
  else if c = '[' then do
    let (draft, s) ← readElements r.expectedLength r.fields 0 true r.blank (s.drop 1)
    let a ← r.build draft
    let s ← endList s
    pure (a, s)
  else .error (mistyped r.expected s)

/-- The same from the elements of a list that was read before; answers what is left over. -/
def takeElements (tooShort : String) :
    List (Field δ) → (i : Nat) → δ → List Value → Except Error (δ × List Value)
  | [], _, draft, vs => .ok (draft, vs)
  | f :: fs, i, draft, [] =>
    if f.optional then takeElements tooShort fs (i + 1) draft []
    else .error (.invalidLength i tooShort)
  | f :: fs, i, draft, v :: vs => do
    let set ← f.decoder.ofValue v
    takeElements tooShort fs (i + 1) (set draft) vs

def takeMember (r : Record δ α) (draft : δ) (member : String × Value) : Except Error δ :=
  match r.field? member.1 with
  | some f =>
    if f.known draft then .error (.duplicateField member.1)
    else (f.decoder.ofValue member.2).map (· draft)
  | none => .ok draft

def ofValue (r : Record δ α) : Value → Except Error α
  | .object members => do
    let draft ← members.foldlM r.takeMember r.blank
    r.build draft
  | .list items => do
    let (draft, rest) ← takeElements r.expectedLength r.fields 0 r.blank items
    let a ← r.build draft
    if rest.isEmpty then pure a
    else .error (.invalidLength items.length "fewer elements in array")
  | v => .error (.invalidType v.found r.expected)

def decoder (r : Record δ α) : Decoder α where
  read := r.read
  ofValue := r.ofValue

end Record

end VectorReplay.Json
