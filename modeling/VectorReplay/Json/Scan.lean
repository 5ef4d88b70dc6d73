import VectorReplay.Json.Error
import VectorReplay.Hex.Basic

/-!
The lexical parts of JSON: blanks, words, strings, numbers, and the commas and brackets of lists and
objects. Every reader answers what it read and the text that follows.
-/
namespace VectorReplay.Json

def isSpace (c : Char) : Bool :=
  c = ' ' || c = '\n' || c = '\t' || c = '\r'

def skipSpace (s : List Char) : List Char :=
  s.dropWhile isSpace

/-- The rest of a word after its first letter. -/
def word : (expected s : List Char) → Except Error (List Char)
  | [], s => .ok s
  | _ :: _, [] => .error .eofInValue
  | c :: cs, d :: s => if c = d then word cs s else .error .expectedIdent

/-! ### Strings -/

def hexValues : List Char → Option Nat
  | [a, b, c, d] => do
    let a ← Hex.charValue? a
    let b ← Hex.charValue? b
    let c ← Hex.charValue? c
    let d ← Hex.charValue? d
    pure (((a * 16 + b) * 16 + c) * 16 + d)
  | _ => none

/-- Four digits of an escape; fewer than four bytes of text are an early end. -/
def hexFour (s : List Char) : Except Error (Nat × List Char) :=
  match hexValues (s.take 4) with
  | some n => .ok (n, s.drop 4)
  | none => if Text.utf8Size s < 4 then .error .eofInString else .error .invalidEscape

theorem length_of_hexValues {s : List Char} {n : Nat} (h : hexValues s = some n) :
    s.length = 4 := by
  unfold hexValues at h
  split at h
  · rfl
  · cases h

theorem length_of_hexFour {s r : List Char} {n : Nat} (h : hexFour s = .ok (n, r)) :
    r.length < s.length := by
  unfold hexFour at h
  split at h
  · rename_i hv
    cases h
    have h4 := length_of_hexValues hv
    simp only [List.length_take] at h4
    simp only [List.length_drop]
    omega
  · split at h <;> simp at h

def isTrailing (n : Nat) : Bool := 0xDC00 ≤ n && n < 0xE000

def isLeading (n : Nat) : Bool := 0xD800 ≤ n && n < 0xDC00

/-- The second half of a pair of escapes. -/
def trailing (lead : Nat) (s : List Char) : Except Error (Char × List Char) :=
  match s with
  | [] => .error .eofInString
  | c :: s =>
    if c = '\\' then
      match s with
      | [] => .error .eofInString
      | d :: s =>
        if d = 'u' then
          match hexFour s with
          | .error e => .error e
          | .ok (n, s) =>
            if isTrailing n then
              .ok (Char.ofNat ((lead - 0xD800) * 0x400 + (n - 0xDC00) + 0x10000), s)
            else .error .loneSurrogate
        else .error .unfinishedEscape
    else .error .unfinishedEscape

theorem length_of_trailing {n : Nat} {s r : List Char} {c : Char}
    (h : trailing n s = .ok (c, r)) : r.length < s.length := by
  unfold trailing at h
  split at h
  · cases h
  · split at h
    · split at h
      · cases h
      · split at h
        · split at h
          · cases h
          · rename_i hf
            have := length_of_hexFour hf
            split at h
            · simp only [Except.ok.injEq, Prod.mk.injEq] at h
              obtain ⟨_, rfl⟩ := h
              simp only [List.length_cons]
              omega
            · cases h
        · cases h
    · cases h

def unicode (s : List Char) : Except Error (Char × List Char) :=
  match hexFour s with
  | .error e => .error e
  | .ok (n, s) =>
    if isTrailing n then .error .loneSurrogate
    else if isLeading n then trailing n s
    else .ok (Char.ofNat n, s)

def simpleEscape? : Char → Option Char
  | '"' => some '"'
  | '\\' => some '\\'
  | '/' => some '/'
  | 'b' => some '\x08'
  | 'f' => some '\x0c'
  | 'n' => some '\n'
  | 'r' => some '\r'
  | 't' => some '\t'
  | _ => none

/-- The character behind a backslash. -/
def unescape : List Char → Except Error (Char × List Char)
  | [] => .error .eofInString
  | c :: s =>
    match simpleEscape? c with
    | some d => .ok (d, s)
    | none => if c = 'u' then unicode s else .error .invalidEscape

theorem length_of_unicode {s r : List Char} {c : Char} (h : unicode s = .ok (c, r)) :
    r.length < s.length := by
  unfold unicode at h
  split at h
  · cases h
  · rename_i hf
    have h4 := length_of_hexFour hf
    split at h
    · cases h
    · split at h
      · have := length_of_trailing h
        omega
      · cases h
        exact h4

theorem length_of_unescape {s r : List Char} {c : Char} (h : unescape s = .ok (c, r)) :
    r.length < s.length := by
  unfold unescape at h
  split at h
  · cases h
  · split at h
    · cases h
      simp
    · split at h
      · have := length_of_unicode h
        simp only [List.length_cons]
        omega
      · cases h

/-- A string up to and past its closing quote. -/
def stringBody (s : List Char) : Except Error (List Char × List Char) :=
  match s with
  | [] => .error .eofInString
  | c :: r =>
    if c = '"' then .ok ([], r)
    else if c = '\\' then
      match _h : unescape r with
      | .error e => .error e
      | .ok (d, r') =>
        match stringBody r' with
        | .error e => .error e
        | .ok (text, rest) => .ok (d :: text, rest)
    else if c.toNat < 0x20 then .error .controlCharacter
    else
      match stringBody r with
      | .error e => .error e
      | .ok (text, rest) => .ok (c :: text, rest)
termination_by s.length
decreasing_by
  · have := length_of_unescape _h
    simp only [List.length_cons]
    omega
  · simp only [List.length_cons]; omega

/-- Passes over a string; escapes need not denote characters. -/
def passString (s : List Char) : Except Error (List Char) :=
  match s with
  | [] => .error .eofInString
  | c :: r =>
    if c = '"' then .ok r
    else if c = '\\' then
      match r with
      | [] => .error .eofInString
      | d :: r' =>
        if (simpleEscape? d).isSome then passString r'
        else if d = 'u' then
          match _h : hexFour r' with
          | .error e => .error e
          | .ok (_, rest) => passString rest
        else .error .invalidEscape
    else if c.toNat < 0x20 then .error .controlCharacter
    else passString r
termination_by s.length
decreasing_by
  · simp only [List.length_cons]; omega
  · have := length_of_hexFour _h
    simp only [List.length_cons]
    omega
  · simp only [List.length_cons]; omega

/-! ### Numbers -/

def someDigits (atEnd : Error) (s : List Char) : Except Error (List Char × List Char) :=
  match s with
  | [] => .error atEnd
  | c :: _ =>
    if c.isDigit then .ok (s.takeWhile Char.isDigit, s.dropWhile Char.isDigit)
    else .error .invalidNumber

def integerPart (atEnd : Error) (s : List Char) : Except Error (List Char × List Char) :=
  match s with
  | '0' :: r => if (r.head?.map Char.isDigit).getD false then .error .invalidNumber else .ok (['0'], r)
  | s => someDigits atEnd s

def fractionPart (atEnd : Error) (s : List Char) : Except Error (List Char × List Char) :=
  match s with
  | '.' :: r => do
    let (digits, r) ← someDigits atEnd r
    pure ('.' :: digits, r)
  | s => .ok ([], s)

def exponentSign : List Char → List Char × List Char
  | '+' :: r => ([], r)
  | '-' :: r => (['-'], r)
  | r => ([], r)

def exponentPart (atEnd : Error) (s : List Char) : Except Error (List Char × List Char) :=
  match s with
  | [] => .ok ([], [])
  | c :: r =>
    if c = 'e' || c = 'E' then do
      let (sign, r) := exponentSign r
      let (digits, r) ← someDigits atEnd r
      pure (c :: (sign ++ digits), r)
    else .ok ([], s)

/-- A number without its sign; `atEnd` is reported where the text stops inside it. -/
def number (atEnd : Error) (s : List Char) : Except Error (List Char × List Char) := do
  let (i, s) ← integerPart atEnd s
  let (f, s) ← fractionPart atEnd s
  let (e, s) ← exponentPart atEnd s
  pure (i ++ f ++ e, s)

def natOfDigits (s : List Char) : Nat :=
  s.foldl (fun n c => 10 * n + (c.toNat - 48)) 0

/-- What a number is called in a message. -/
def foundNumber (negative : Bool) (text : List Char) : Found :=
  let n := natOfDigits text
  if text.all Char.isDigit && (if negative then 2 * n ≤ UInt64.size else n < UInt64.size) then
    .integer (if negative then -(n : Int) else n)
  else .number

/-! ### Lists and objects -/

/-- Whether another element follows, and the text from it or from the closing bracket on. -/
def nextElement (first : Bool) (s : List Char) : Except Error (Bool × List Char) :=
  match skipSpace s with
  | [] => .error .eofInList
  | c :: r =>
    if c = ']' then .ok (false, c :: r)
    else if first then .ok (true, c :: r)
    else if c = ',' then
      match skipSpace r with
      | [] => .error .eofInValue
      | d :: r => if d = ']' then .error .trailingComma else .ok (true, d :: r)
    else .error .expectedListEnd

/-- The same for members: an open quote follows. -/
def nextMember (first : Bool) (s : List Char) : Except Error (Bool × List Char) :=
  match skipSpace s with
  | [] => .error .eofInObject
  | c :: r =>
    if c = '\x7d' then .ok (false, c :: r)
    else if first then key (c :: r)
    else if c = ',' then key (skipSpace r)
    else .error .expectedObjectEnd
where
  key : List Char → Except Error (Bool × List Char)
    | [] => .error .eofInValue
    | c :: r =>
      if c = '"' then .ok (true, r)
      else if c = '\x7d' then .error .trailingComma
      else .error .keyNotString

def colon (s : List Char) : Except Error (List Char) :=
  match skipSpace s with
  | [] => .error .eofInObject
  | c :: r => if c = ':' then .ok r else .error .expectedColon

def endList (s : List Char) : Except Error (List Char) :=
  match skipSpace s with
  | [] => .error .eofInList
  | c :: r =>
    if c = ']' then .ok r
    else if c = ',' then
      match skipSpace r with
      | [] => .error .trailingCharacters
      | d :: _ => if d = ']' then .error .trailingComma else .error .trailingCharacters
    else .error .trailingCharacters

def endObject (s : List Char) : Except Error (List Char) :=
  match skipSpace s with
  | [] => .error .eofInObject
  | c :: r =>
    if c = '\x7d' then .ok r
    else if c = ',' then .error .trailingComma
    else .error .trailingCharacters

/-- The error for a value that does not start as wanted. -/
def mistyped (expected : String) (s : List Char) : Error :=
  match s with
  | [] => .expectedValue
  | c :: r =>
    if c = 'n' then after (word "ull".toList r) .null
    else if c = 't' then after (word "rue".toList r) (.boolean true)
    else if c = 'f' then after (word "alse".toList r) (.boolean false)
    else if c = '-' then
      match number .eofInValue r with
      | .error e => e
      | .ok (text, _) => .invalidType (foundNumber true text) expected
    else if c.isDigit then
      match number .eofInValue s with
      | .error e => e
      | .ok (text, _) => .invalidType (foundNumber false text) expected
    else if c = '"' then
      match stringBody r with
      | .error e => e
      | .ok (text, _) => .invalidType (.text (String.ofList text)) expected
    else if c = '[' then .invalidType .sequence expected
    else if c = '{' then .invalidType .map expected
    else .expectedValue
where
  after (read : Except Error (List Char)) (found : Found) : Error :=
    match read with
    | .error e => e
    | .ok _ => .invalidType found expected

end VectorReplay.Json
