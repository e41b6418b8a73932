import PluginBridge.Json.Fault

/-! # Reading a document

A `Reader` takes the characters it understands from the front of a text. The readers here are those
of single values: words, numbers, texts, and values that are skipped because nobody asked for them.
A value of the wrong kind is a mismatch only once it has been read to its end, unless it is a
sequence or a map: those are refused at their bracket. Skipped values are checked more loosely than
the others: their numbers have no range and their texts may hold unpaired surrogates. -/

namespace PluginBridge.Json

/-- A computation that consumes the front of a text or finds its first fault. -/
abbrev Reader := StateT (List Char) (Except Fault)

/-- Stop at a fault. -/
def refuse {α : Type} (f : Fault) : Reader α := fun _ => .error f

/-- Stop at a value of the wrong shape. -/
def mismatch {α : Type} (m : Mismatch) : Reader α := refuse (.mismatch m)

/-- The blanks of the format: space, line feed, tab and carriage return. -/
def isBlank (c : Char) : Bool := c == ' ' || c == '\n' || c == '\t' || c == '\r'

/-- The next character after blanks, left in place. -/
def peek : Reader (Option Char) := fun cs =>
  let rest := cs.dropWhile isBlank
  .ok (rest.head?, rest)

/-- The next character after blanks, left in place, where there has to be one. -/
def peekSome : Reader Char := do
  match ← peek with
  | some c => pure c
  | none => refuse .truncated

/-- Drop one character. -/
def advance : Reader Unit := fun cs => .ok ((), cs.drop 1)

/-- The given letters, one after the other. -/
def word : List Char → Reader Unit
  | [] => pure ()
  | w :: ws => fun cs =>
    match cs with
    | [] => .error .truncated
    | c :: rest => if c = w then word ws rest else .error .malformed

/-! ## Texts -/

/-- The value of a digit in base sixteen. -/
def hexDigit? (c : Char) : Option Nat :=
  if '0' ≤ c ∧ c ≤ '9' then some (c.toNat - '0'.toNat)
  else if 'a' ≤ c ∧ c ≤ 'f' then some (c.toNat - 'a'.toNat + 10)
  else if 'A' ≤ c ∧ c ≤ 'F' then some (c.toNat - 'A'.toNat + 10)
  else none

/-- The value of four digits in base sixteen. -/
def hexUnit? (a b c d : Char) : Option Nat := do
  let a ← hexDigit? a
  let b ← hexDigit? b
  let c ← hexDigit? c
  let d ← hexDigit? d
  pure (((a * 16 + b) * 16 + c) * 16 + d)

/-- The fault of an escape without four digits: the text may end inside it, counted in bytes. -/
def shortUnit (rest : List Char) : Fault :=
  if rest.foldl (fun n c => n + c.utf8Size) 0 < 4 then .truncated else .malformed

/-- The character of a simple escape. -/
def simpleEscape? (c : Char) : Option Char :=
  match c with
  | '"' => some '"'
  | '\\' => some '\\'
  | '/' => some '/'
  | 'b' => some '\x08'
  | 'f' => some '\x0C'
  | 'n' => some '\n'
  | 'r' => some '\r'
  | 't' => some '\t'
  | _ => none

/-- The character of a surrogate pair. -/
def joinSurrogates (high low : Nat) : Char :=
  Char.ofNat (0x10000 + (high - 0xD800) * 0x400 + (low - 0xDC00))

/-- The second half of a surrogate pair, or the fault that stands in its place. -/
inductive PairEnd where
  | low (unit : Nat) (rest : List Char)
  | fault (f : Fault)

/-- What follows the first half of a surrogate pair. -/
def pairEnd : List Char → PairEnd
  | [] => .fault .truncated
  | '\\' :: [] => .fault .truncated
  | '\\' :: 'u' :: a :: b :: c :: d :: rest =>
    match hexUnit? a b c d with
    | some n => if 0xDC00 ≤ n ∧ n ≤ 0xDFFF then .low n rest else .fault .malformed
    | none => .fault .malformed
  | '\\' :: 'u' :: rest => .fault (shortUnit rest)
  | _ => .fault .malformed

/-- One step inside a text: its end, a character, or a fault. -/
inductive TextStep where
  | close (rest : List Char)
  | char (c : Char) (rest : List Char)
  | fault (f : Fault)

/-- The escape after a backslash. -/
def escapeStep : List Char → TextStep
  | [] => .fault .truncated
  | 'u' :: a :: b :: c :: d :: rest =>
    match hexUnit? a b c d with
    | none => .fault .malformed
    | some n =>
      if 0xD800 ≤ n ∧ n ≤ 0xDBFF then
        match pairEnd rest with
        | .low m rest => .char (joinSurrogates n m) rest
        | .fault f => .fault f
      else if 0xDC00 ≤ n ∧ n ≤ 0xDFFF then .fault .malformed
      else .char (Char.ofNat n) rest
  | 'u' :: rest => .fault (shortUnit rest)
  | c :: rest =>
    match simpleEscape? c with
    | some e => .char e rest
    | none => .fault .malformed

/-- The next step of a text whose opening quote has been read. -/
def textStep : List Char → TextStep
  | [] => .fault .truncated
  | '"' :: rest => .close rest
  | '\\' :: rest => escapeStep rest
  | c :: rest => if c.toNat < 0x20 then .fault .malformed else .char c rest

/-- The rest of a text whose opening quote has been read; `fuel` bounds the number of characters. -/
def textTail : (fuel : Nat) → List Char → Except Fault (List Char × List Char)
  | 0, _ => .error .truncated
  | fuel + 1, cs =>
    match textStep cs with
    | .close rest => .ok ([], rest)
    | .char c rest => (textTail fuel rest).map fun (ts, rest) => (c :: ts, rest)
    | .fault f => .error f

/-- A text, its opening quote included. -/
def quotedText : Reader String := fun cs =>
  let rest := cs.drop 1
  (textTail (rest.length + 1) rest).map fun (ts, rest) => (String.ofList ts, rest)

/-! ## Numbers -/

/-- Digits at the front of a text. -/
def digits : Reader (List Nat) := fun cs =>
  .ok ((cs.takeWhile Char.isDigit).map fun c => c.toNat - '0'.toNat, cs.dropWhile Char.isDigit)

/-- At least one digit. -/
def someDigits : Reader (List Nat) := do
  match ← digits with
  | [] => fun cs => .error (if cs.isEmpty then .truncated else .malformed)
  | ds => pure ds

/-- Take one of the given characters if it stands at the front. -/
def optionalChar (allowed : List Char) : Reader (Option Char) := fun cs =>
  match cs with
  | c :: rest => if allowed.contains c then .ok (some c, rest) else .ok (none, cs)
  | [] => .ok (none, [])

/-- A number without a value yet. A leading zero stands alone. -/
def spelling : Reader Spelling := do
  let negative := (← optionalChar ['-']).isSome
  let whole ← someDigits
  if whole.head? = some 0 ∧ 1 < whole.length then refuse .malformed
  let fraction ←
    match ← optionalChar ['.'] with
    | some _ => do pure (some (← someDigits))
    | none => pure none
  let exponent ←
    match ← optionalChar ['e', 'E'] with
    | some _ => do
      let sign ← optionalChar ['+', '-']
      pure (some (sign == some '-', ← someDigits))
    | none => pure none
  pure ⟨negative, whole, fraction, exponent⟩

/-- A number. -/
def number : Reader Number := do
  match (← spelling).number? with
  | some n => pure n
  | none => refuse .malformed

/-! ## Values of an expected kind -/

/-- Whether a character begins a number. -/
def startsNumber (c : Char) : Bool := c == '-' || c.isDigit

/-- Read the value at the front, whose first character is `c`, and refuse it. -/
def unexpected {α : Type} (c : Char) (expected : String) : Reader α := do
  let found : Found ←
    if c = 'n' then do word ['n', 'u', 'l', 'l']; pure .null
    else if c = 't' then do word ['t', 'r', 'u', 'e']; pure (.bool true)
    else if c = 'f' then do word ['f', 'a', 'l', 's', 'e']; pure (.bool false)
    else if startsNumber c then do pure (.number (← number))
    else if c = '"' then do pure (.text (← quotedText))
    else if c = '[' then pure .sequence
    else if c = '\x7b' then pure .map
    else refuse .malformed
  mismatch (.wrongType found expected)

/-- A truth value. -/
def bool : Reader Bool := do
  match ← peekSome with
  | 't' => do word ['t', 'r', 'u', 'e']; pure true
  | 'f' => do word ['f', 'a', 'l', 's', 'e']; pure false
  | c => unexpected c "a boolean"

/-- A text. -/
def text (expected : String) : Reader String := do
  let c ← peekSome
  if c = '"' then quotedText else unexpected c expected

/-- A whole number from zero to the largest machine word. -/
def natural (expected : String) : Reader Nat := do
  let c ← peekSome
  if startsNumber c then
    match ← number with
    | .natural n => pure n
    | .negative n => mismatch (.wrongValue (.number (.negative n)) expected)
    | n => mismatch (.wrongType (.number n) expected)
  else unexpected c expected

/-- The value `null`, where it is the only one allowed. -/
def unit (expected : String) : Reader Unit := do
  let c ← peekSome
  if c = 'n' then word ['n', 'u', 'l', 'l'] else unexpected c expected

/-- A value that may be `null`. -/
def nullable {α : Type} (value : Reader α) : Reader (Option α) := do
  match ← peek with
  | some 'n' => do word ['n', 'u', 'l', 'l']; pure none
  | _ => do pure (some (← value))

/-- The colon between a key and its value. -/
def colon : Reader Unit := do
  if (← peekSome) = ':' then advance else refuse .malformed

/-! ## Sequences and keys -/

/-- Whether another element follows in a sequence. -/
def nextElement (first : Bool) : Reader Bool := do
  match ← peekSome with
  | ']' => pure false
  | ',' =>
    if first then pure true
    else do
      advance
      if (← peekSome) = ']' then refuse .malformed
      pure true
  | _ => if first then pure true else refuse .malformed

/-- The closing bracket of a sequence whose elements have been taken. -/
def endSequence : Reader Unit := do
  if (← peekSome) = ']' then advance else refuse .malformed

/-- The next key of a map, or `none` at its closing bracket. -/
def nextKey (first : Bool) : Reader (Option String) := do
  let c ← peekSome
  if c = '\x7d' then pure none
  else do
    if ¬ first then
      if c = ',' then advance else refuse .malformed
    if (← peekSome) = '"' then do pure (some (← quotedText)) else refuse .malformed

/-- The elements of a sequence, its opening bracket already read. -/
def elements {α : Type} (item : Reader α) : (fuel : Nat) → (first : Bool) → Reader (List α)
  | 0, _ => refuse .truncated
  | fuel + 1, first => do
    if ← nextElement first then
      let x ← item
      let xs ← elements item fuel false
      pure (x :: xs)
    else pure []

/-- A sequence of values of one kind. -/
def list {α : Type} (item : Reader α) : Reader (List α) := do
  let c ← peekSome
  if c = '[' then
    advance
    let xs ← elements item ((← get).length + 1) true
    endSequence
    pure xs
  else unexpected c "a sequence"

/-! ## Skipped values -/

/-- Step over the escape after a backslash, without regard to surrogates. -/
def skipEscape : List Char → Except Fault (List Char)
  | [] => .error .truncated
  | 'u' :: a :: b :: c :: d :: rest =>
    match hexUnit? a b c d with
    | some _ => .ok rest
    | none => .error .malformed
  | 'u' :: rest => .error (shortUnit rest)
  | c :: rest => if (simpleEscape? c).isSome then .ok rest else .error .malformed

/-- Step over the rest of a text whose opening quote has been read. -/
def skipTextTail : (fuel : Nat) → List Char → Except Fault (List Char)
  | 0, _ => .error .truncated
  | _ + 1, [] => .error .truncated
  | _ + 1, '"' :: rest => .ok rest
  | fuel + 1, '\\' :: rest =>
    match skipEscape rest with
    | .ok rest => skipTextTail fuel rest
    | .error f => .error f
  | fuel + 1, c :: rest =>
    if c.toNat < 0x20 then .error .malformed else skipTextTail fuel rest

/-- Step over a text, its opening quote included. -/
def skipText : Reader Unit := fun cs =>
  let rest := cs.drop 1
  (skipTextTail (rest.length + 1) rest).map fun rest => ((), rest)

/-- At least one digit of a number whose value is not wanted. -/
def skipDigits : Reader (List Nat) := do
  match ← digits with
  | [] => refuse .malformed
  | ds => pure ds

/-- Step over a number. -/
def skipNumber : Reader Unit := do
  let _ ← optionalChar ['-']
  let whole ← skipDigits
  if whole.head? = some 0 ∧ 1 < whole.length then refuse .malformed
  if (← optionalChar ['.']).isSome then
    let _ ← skipDigits
  if (← optionalChar ['e', 'E']).isSome then
    let _ ← optionalChar ['+', '-']
    let _ ← skipDigits

mutual

/-- Step over a value of any kind. -/
def skipValue : (fuel : Nat) → Reader Unit
  | 0 => refuse .truncated
  | fuel + 1 => do
    let c ← peekSome
    if c = 'n' then word ['n', 'u', 'l', 'l']
    else if c = 't' then word ['t', 'r', 'u', 'e']
    else if c = 'f' then word ['f', 'a', 'l', 's', 'e']
    else if startsNumber c then skipNumber
    else if c = '"' then skipText
    else if c = '[' then do advance; skipElements fuel true
    else if c = '\x7b' then do advance; skipEntries fuel true
    else refuse .malformed

/-- Step over the elements of a sequence and its closing bracket. -/
def skipElements : (fuel : Nat) → (first : Bool) → Reader Unit
  | 0, _ => refuse .truncated
  | fuel + 1, first => do
    let c ← peekSome
    if c = ']' then advance
    else do
      if ¬ first then
        if c = ',' then advance else refuse .malformed
      skipValue fuel
      skipElements fuel false

/-- Step over the entries of a map and its closing bracket. -/
def skipEntries : (fuel : Nat) → (first : Bool) → Reader Unit
  | 0, _ => refuse .truncated
  | fuel + 1, first => do
    let c ← peekSome
    if c = '\x7d' then advance
    else do
      if ¬ first then
        if c = ',' then advance else refuse .malformed
      if (← peekSome) = '"' then skipText else refuse .malformed
      colon
      skipValue fuel
      skipEntries fuel false

end

/-- Step over a value of any kind, however deep. -/
def skip : Reader Unit := fun cs => skipValue (2 * cs.length + 2) cs

/-- Read a whole document: one value, and nothing but blanks after it. -/
def parse {α : Type} (value : Reader α) (document : String) : Except Fault α :=
  match value document.toList with
  | .error f => .error f
  | .ok (a, rest) => if rest.all isBlank then .ok a else .error .malformed

end PluginBridge.Json
