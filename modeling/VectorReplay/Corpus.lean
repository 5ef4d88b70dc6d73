import VectorReplay.Corpus.Files
import VectorReplay.Corpus.Filter
import VectorReplay.TestVector

/-!
A corpus of test vectors: finding the one file whose name passes a filter. Several matches are listed
in ascending order, and none of them is read.
-/
namespace VectorReplay

inductive Lookup
  | found (v : TestVector)
  | notFound
  | ambiguous (names : List String)
deriving DecidableEq

structure Corpus where
  path : String
  files : Files

namespace Corpus

/-- The names that pass, in ascending order. -/
def candidates (f : Filter) (names : List String) : List String :=
  (names.filter f.admits).mergeSort fun a b => decide (a ≤ b)

def matching (c : Corpus) (f : Filter) : Except Error (List String) :=
  match c.files.list with
  | .error e => .error (.file c.path e)
  | .ok names => .ok (candidates f names)

def read (c : Corpus) (name : String) : Except Error TestVector :=
  match c.files.read name with
  | .error e => .error (.file (Files.join c.path name) e)
  | .ok text => (TestVector.decode text).mapError (.vector (Files.join c.path name))

def lookup (c : Corpus) (f : Filter) : Except Error Lookup := do
  match ← c.matching f with
  | [] => pure .notFound
  | [name] =>
    let v ← c.read name
    pure (.found v)
  | names => pure (.ambiguous names)

/-- The one vector that passes. With a folder, several matches count as none. -/
def load (c : Corpus) (f : Filter) : Except Error TestVector := do
  match ← c.lookup f with
  | .found v => pure v
  | .notFound =>
    if maxNameLength < f.name.length then .error (.invalidName f.name)
    else .error (.notFound f.name)
  | .ambiguous names =>
    if f.hasFolder then .error (.notFound f.name) else .error (.ambiguous f.name names)

end Corpus

end VectorReplay
