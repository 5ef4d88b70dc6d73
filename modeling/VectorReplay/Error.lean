import VectorReplay.Block.Error
import VectorReplay.Json.Error
import VectorReplay.Hex.Integer

/-!
Why a run fails, and the messages that say so.
-/
namespace VectorReplay

/-! ### Files -/

inductive FileError
  | notFound
  | isDirectory
  | notDirectory
  | notText
  | nameTooLong
  /-- A path holds the character that ends paths. -/
  | endsEarly
deriving DecidableEq, Repr

def FileError.message : FileError → String
  | .notFound => "No such file or directory (os error 2)"
  | .isDirectory => "Is a directory (os error 21)"
  | .notDirectory => "Not a directory (os error 20)"
  | .notText => "stream did not contain valid UTF-8"
  | .nameTooLong => "File name too long (os error 36)"
  | .endsEarly => "file name contained an unexpected NUL byte"

/-! ### Post-state fields -/

/-- A part of an account that a post state fixes. -/
inductive StateField
  | balance
  | nonce
  | code
  | storage (key : Word)
deriving DecidableEq

def StateField.describe : StateField → String
  | .balance => "balance"
  | .nonce => "nonce"
  | .code => "code"
  | .storage key => "storage at key " ++ Hex.wordText key

/-- A field whose value is not the expected one, both written out. -/
structure Deviation where
  /-- The address in its checksummed form. -/
  address : String
  field : StateField
  expected : String
  actual : String
deriving DecidableEq

/-! ### Errors -/

/-- Longer test names than this cannot be file names. -/
def maxNameLength : Nat := 255

inductive Error
  | notFound (name : String)
  | invalidName (name : String)
  | ambiguous (name : String) (candidates : List String)
  | file (path : String) (cause : FileError)
  | vector (path : String) (cause : Json.Error)
  | block (cause : DecodeError)
  | launch (binary : String) (reason : String)
  | node (method : String) (reason : String)
  | emptyBlock
  | mismatch (d : Deviation)
deriving DecidableEq

namespace Error

def message : Error → String
  | .notFound name =>
    "Test `" ++ name ++ "` not found. Please ensure that you are using the valid EF-Test name, " ++
      "not the sanitized identifier used in the runner"
  | .invalidName name =>
    "Test name `" ++ name ++ "` could not be parsed because it exceeds the maximum length of " ++
      toString maxNameLength ++ " characters"
  | .ambiguous name candidates =>
    "Test `" ++ name ++ "` is ambiguous, please set the parent folder of the test file: " ++
      ", ".intercalate candidates
  | .file path cause => "Failed to read `" ++ path ++ "`: " ++ cause.message
  | .vector path cause => "Failed to parse the test vector `" ++ path ++ "`: " ++ cause.message
  | .block cause => "Could not decode the block of the test vector: " ++ cause.message
  | .launch binary reason => "Could not launch `" ++ binary ++ "`: " ++ reason
  | .node method reason => "Node call `" ++ method ++ "` failed: " ++ reason
  | .emptyBlock => "Could not find any transaction in the test block"
  | .mismatch d =>
    "Post state does not match for " ++ d.address ++ ", " ++ d.field.describe ++
      " error: expected " ++ d.expected ++ ", got " ++ d.actual

/-- What lies behind the error, outermost first. -/
def causes : Error → List String
  | .file _ cause => [cause.message]
  | .vector _ cause => [cause.message]
  | .block cause => cause.message :: cause.causes
  | _ => []

/-- A cause on lines of its own: the first line behind a label, the others as far to the right. -/
def causeText (label : String) (cause : String) : String :=
  let indent := String.ofList (List.replicate label.length ' ')
  label ++ ("\n" ++ indent).intercalate (cause.splitOn "\n")

/-- The message, and below it the causes; several are numbered. -/
def report (e : Error) : String :=
  match e.causes with
  | [] => e.message
  | [cause] => e.message ++ "\n\nCaused by:\n" ++ causeText "    " cause
  | causes =>
    e.message ++ "\n\nCaused by:\n" ++ "\n".intercalate
      (causes.zipIdx.map fun (cause, i) => causeText ("    " ++ toString i ++ ": ") cause)

end Error

end VectorReplay
