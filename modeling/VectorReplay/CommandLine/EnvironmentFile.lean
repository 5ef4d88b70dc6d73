import VectorReplay.Table
import VectorReplay.Text.Alphanumeric
import VectorReplay.Text.Utf8

/-!
Environment files: lines `NAME=value` with quotes, escapes, comments and references to variables. An
entry may span lines while a quote is open. Reading stops at the first malformed entry; the entries
before it count.
-/
namespace VectorReplay

namespace Text

/-! ### Blanks -/

/-- The white space of Unicode. -/
def isBlank (c : Char) : Bool :=
  let n := c.toNat
  (0x09 ≤ n && n ≤ 0x0D) || n = 0x20 || n = 0x85 || n = 0xA0 || n = 0x1680 ||
    (0x2000 ≤ n && n ≤ 0x200A) || n = 0x2028 || n = 0x2029 || n = 0x202F || n = 0x205F ||
    n = 0x3000

def trimStart (s : List Char) : List Char :=
  s.dropWhile isBlank

def trimEnd (s : List Char) : List Char :=
  (s.reverse.dropWhile isBlank).reverse

end Text

namespace EnvironmentFile

/-! ### Entries -/

/-- Where a line stands when it is passed over character by character. -/
inductive Scan
  | plain
  | blank
  | escape
  | strong
  | strongEscape
  | weak
  | weakEscape
  | comment
deriving DecidableEq, Repr

def Scan.quoteOr (c : Char) (other : Scan) : Scan :=
  if c = '\\' then .escape
  else if c = '"' then .weak
  else if c = '\'' then .strong
  else other

def Scan.next (c : Char) : Scan → Scan
  | .plain =>
    if Text.isBlank c && c ≠ '\n' && c ≠ '\r' then .blank else Scan.quoteOr c .plain
  | .blank => if c = '#' then .comment else Scan.quoteOr c .plain
  | .escape => .plain
  | .strong => if c = '\\' then .strongEscape else if c = '\'' then .plain else .strong
  | .strongEscape => .strong
  | .weak => if c = '\\' then .weakEscape else if c = '"' then .plain else .weak
  | .weakEscape => .weak
  | .comment => .comment

/-- Passes over a line: what stands before a comment, and where the line ends. -/
def scanLine : List Char → Scan → List Char × Scan
  | [], state => ([], state)
  | c :: rest, state =>
    match state.next c with
    | .comment => ([], .comment)
    | state =>
      let (kept, last) := scanLine rest state
      (c :: kept, last)

def dropLineEnd (s : List Char) : List Char :=
  match s.reverse with
  | '\n' :: '\r' :: rest => rest.reverse
  | '\n' :: rest => rest.reverse
  | _ => s

/-- Joins lines into entries; a line that is no text, or a quote that is open at the end, is the end of
what can be read. -/
def entries : List (Option (List Char)) → (opened : List Char) → Scan → List (Option (List Char))
  | [], _, state => if state = .plain then [] else [none]
  | none :: _, _, _ => [none]
  | some line :: rest, opened, state =>
    if (Text.trimStart (opened ++ line)).head? = some '#' then entries rest [] .plain
    else
      let (kept, last) := scanLine line state
      if last = .plain then some (dropLineEnd (opened ++ kept)) :: entries rest [] .plain
      else if last = .comment then some (opened ++ kept) :: entries rest [] .plain
      else entries rest (opened ++ kept) last

/-! ### Values -/

/-- What a value is in the middle of. -/
inductive Mode
  | bare
  | ended
  | strong
  | weak
  /-- Behind a `$`; the name so far. -/
  | reference (weak : Bool) (name : List Char)
  /-- Behind `${`; the name so far. -/
  | braced (weak : Bool) (name : List Char)
deriving DecidableEq, Repr

/-- Reads a value; `look` gives the text of a variable. -/
def readValue (look : String → String) : Mode → List Char → Option (List Char)
  | .bare, [] | .ended, [] => some []
  | .reference false name, [] => some (look (String.ofList name)).toList
  | .strong, [] | .weak, [] | .reference true _, [] | .braced .., [] => none
  | .ended, c :: rest =>
    if c = ' ' || c = '\t' then readValue look .ended rest
    else if c = '#' then some []
    else none
  | .strong, c :: rest =>
    if c = '\'' then readValue look .bare rest
    else (readValue look .strong rest).map (c :: ·)
  | .reference weak name, c :: rest =>
    if Text.isAlphanumeric c then readValue look (.reference weak (name ++ [c])) rest
    else if c = '{' && name.isEmpty then readValue look (.braced weak []) rest
    else
      let value := (look (String.ofList name)).toList
      if c = '$' then (readValue look (.reference weak []) rest).map (value ++ ·)
      else (readValue look (if weak then .weak else .bare) rest).map (value ++ c :: ·)
  | .braced weak name, c :: rest =>
    if c = '}' then
      (readValue look (if weak then .weak else .bare) rest).map
        ((look (String.ofList name)).toList ++ ·)
    else readValue look (.braced weak (name ++ [c])) rest
  | .weak, c :: rest =>
    if c = '$' then readValue look (.reference true []) rest
    else if c = '"' then readValue look .bare rest
    else if c = '\\' then escaped .weak rest
    else (readValue look .weak rest).map (c :: ·)
  | .bare, c :: rest =>
    if c = '$' then readValue look (.reference false []) rest
    else if c = '\'' then readValue look .strong rest
    else if c = '"' then readValue look .weak rest
    else if c = '\\' then escaped .bare rest
    else if c = ' ' || c = '\t' then readValue look .ended rest
    else (readValue look .bare rest).map (c :: ·)
where
  /-- The character behind a backslash. -/
  escaped (mode : Mode) : List Char → Option (List Char)
    | [] => if mode = .weak then none else some []
    | c :: rest =>
      if c = '\\' || c = '\'' || c = '"' || c = '$' || c = ' ' then
        (readValue look mode rest).map (c :: ·)
      else if c = 'n' then (readValue look mode rest).map ('\n' :: ·)
      else none

/-! ### Assignments -/

def isKeyStart (c : Char) : Bool := c.isAlpha || c = '_'

def isKeyPart (c : Char) : Bool := c.isAlphanum || c = '_' || c = '.'

def readKey (s : List Char) : Option (List Char × List Char) :=
  match s with
  | [] => none
  | c :: _ =>
    if isKeyStart c then some (s.takeWhile isKeyPart, Text.trimStart (s.dropWhile isKeyPart))
    else none

def expectEqual (s : List Char) : Option (List Char) :=
  match s with
  | '=' :: rest => some rest
  | _ => none

/-- The key and the text of the value; a leading word `export` is passed over. -/
def readHead (s : List Char) : Option (String × List Char) := do
  let (key, rest) ← readKey s
  match expectEqual rest with
  | some value => pure (String.ofList key, Text.trimStart value)
  | none =>
    if String.ofList key = "export" then
      let (key, rest) ← readKey rest
      let value ← expectEqual rest
      pure (String.ofList key, Text.trimStart value)
    else none

/-- One entry: nothing at all, an assignment, or a fault. -/
def readEntry (look : String → String) (s : List Char) : Option (Option (String × String)) :=
  let s := Text.trimStart (Text.trimEnd s)
  if s.isEmpty || s.head? = some '#' then some none
  else do
    let (key, value) ← readHead s
    if value.isEmpty || value.head? = some '#' then pure (some (key, ""))
    else
      let value ← readValue look .bare value
      pure (some (key, String.ofList value))

/-- Puts the entries into an environment, one after the other. -/
def assign (env : Table String String) : List (Option (List Char)) → Table String String
  | [] => env
  | none :: _ => env
  | some entry :: rest =>
    match readEntry (fun name => (env.get? name).getD "") entry with
    | none => env
    | some none => assign env rest
    | some (some (key, value)) => assign (env.set key value) rest

/-! ### Files -/

/-- The lines of a file with their ends. -/
def lines : Bytes → Bytes → List Bytes
  | [], [] => []
  | [], line => [line.reverse]
  | b :: rest, line =>
    if b = 10 then (b :: line).reverse :: lines rest [] else lines rest (b :: line)

/-- Drops a mark of the byte order. -/
def dropMark : Bytes → Bytes
  | 0xEF :: 0xBB :: 0xBF :: rest => rest
  | b => b

/-- The environment after a file was read into it; the file wins. -/
def apply (file : Bytes) (env : Table String String) : Table String String :=
  let decoded := (lines (dropMark file) []).map fun line => (Text.decode? line).map String.toList
  assign env (entries decoded [] .plain)

end EnvironmentFile

end VectorReplay
