import PluginBridge.Log
import PluginBridge.Text.Alphanumeric
import PluginBridge.Text.Blank

/-! # Directives

A directive says which records are written: those of a part of the library, or of all of it, up to a
level. It is written `target[span]=level`, and everything but one of its parts may be missing. A
part of the library is named by the beginning of its records' target. A directive without a level
lets everything through, and a single word is a level if it reads as one.

In brackets a directive may ask for more: that the record is made inside a named span, or that it
has a field, `{field}`, perhaps with a certain value, `{field=value}`. Values are only looked for in
spans, and this library has no spans, so only the name of a field can be met here.

The parts are found without the blanks at the two ends of a directive, but their places are then
counted from its very beginning. A blank in front therefore moves every part, and a place may come
to lie inside a character, where the text cannot be cut. -/

namespace PluginBridge

/-- What a directive lets through. -/
inductive Threshold where
  | nothing
  | upTo (level : Level)
  deriving DecidableEq, Repr

namespace Threshold

/-- Whether a record of some level gets through. -/
def admits : Threshold → Level → Bool
  | .nothing, _ => false
  | .upTo most, l => l.rank ≤ most.rank

/-- The threshold that a word names, by the rank of its level or in letters of any case. -/
def read? (word : String) : Option Threshold :=
  match Text.readCount word with
  | .ok 0 => some .nothing
  | .ok n => (Level.ofRank? n).map .upTo
  | .error _ =>
    match Config.asciiLower word with
    | "off" => some .nothing
    | "error" => some (.upTo .error)
    | "warn" => some (.upTo .warn)
    | "info" => some (.upTo .info)
    | "debug" => some (.upTo .debug)
    | "trace" => some (.upTo .trace)
    | _ => none

end Threshold

/-- A field that a directive asks for, and the value that it has to have. -/
structure FieldDemand where
  name : String
  value : Option String
  deriving DecidableEq, Repr

/-- The demand in braces: a name, and a value after the first equals sign, up to the next. -/
def FieldDemand.read (cs : List Char) : FieldDemand where
  name := String.ofList (cs.takeWhile (· != '='))
  value := match cs.dropWhile (· != '=') with
    | [] => none
    | _ :: rest => some (String.ofList (rest.takeWhile (· != '=')))

/-- A directive. -/
structure Directive where
  threshold : Threshold := .upTo .trace
  target : Option String := none
  span : Option String := none
  field : Option FieldDemand := none
  deriving DecidableEq, Repr

/-- Why a text is no directive. -/
inductive DirectiveFault where
  /-- The text has another form. -/
  | malformed
  /-- A part begins or ends inside a character. -/
  | torn
  deriving DecidableEq, Repr

namespace Directive

/-! ## Reading -/

/-- How many bytes some characters take. -/
def byteCount (cs : List Char) : Nat := cs.foldl (fun n c => n + c.utf8Size) 0

/-- Split characters after a number of bytes; `none` if there is no end of a character. -/
def splitAfter? : Nat → List Char → Option (List Char × List Char)
  | 0, cs => some ([], cs)
  | _ + 1, [] => none
  | n, c :: cs =>
    if c.utf8Size ≤ n then
      (splitAfter? (n - c.utf8Size) cs).map fun (before, after) => (c :: before, after)
    else none

/-- The characters from one place of a text on. -/
def cutFrom (text : List Char) (start : Nat) : Except DirectiveFault (List Char) :=
  match splitAfter? start text with
  | some (_, after) => .ok after
  | none => .error .torn

/-- The characters between two places of a text. -/
def cut (text : List Char) (start stop : Nat) : Except DirectiveFault (List Char) := do
  match splitAfter? (stop - start) (← cutFrom text start) with
  | some (between, _) => .ok between
  | none => .error .torn

/-- A directive that is one word, a level or a target. -/
def ofWord (word : String) : Directive :=
  match Threshold.read? word with
  | some threshold => { threshold }
  | none => { target := some word }

/-- Read the level after the equals sign; without a word for it everything gets through. -/
def readThreshold (d : Directive) (text : List Char) (place : Nat) :
    Except DirectiveFault Directive := do
  let word := String.ofList (← cutFrom text place)
  if word = "" then .ok d
  else
    match Threshold.read? word with
    | some threshold => .ok { d with threshold }
    | none => .error .malformed

/-- Read what follows the brackets. -/
def readEnd (d : Directive) (text : List Char) (place : Nat) :
    List Char → Except DirectiveFault Directive
  | [] => .ok d
  | '=' :: _ => readThreshold d text (place + 1)
  | _ :: _ => .error .malformed

/-- Read what stands in braces, up to the end of the brackets. -/
def readField (d : Directive) (text : List Char) (place : Nat) (rest : List Char) :
    Except DirectiveFault Directive := do
  let inside := rest.takeWhile (· != '}')
  let stop := place + byteCount inside
  match rest.dropWhile (· != '}') with
  | [] => .error .malformed
  | _ :: rest =>
    let demand ← cut text place stop
    if demand.isEmpty then .error .malformed
    else
      match rest with
      | ']' :: rest =>
        readEnd { d with field := some (FieldDemand.read demand) } text (stop + 2) rest
      | _ => .error .malformed

/-- Read what stands in brackets. Brackets without braces name a span, even if they are empty. -/
def readBrackets (d : Directive) (text : List Char) (place : Nat) (rest : List Char) :
    Except DirectiveFault Directive := do
  let inside := rest.takeWhile fun c => c != ']' && c != '{'
  let stop := place + byteCount inside
  match rest.dropWhile fun c => c != ']' && c != '{' with
  | [] => .error .malformed
  | close :: rest =>
    let span := String.ofList (← cut text place stop)
    if close = ']' then readEnd { d with span := some span } text (stop + 1) rest
    else
      readField { d with span := if span = "" then none else some span } text (stop + 1) rest

/-- Whether a word may begin with a character. -/
def opensWord (c : Char) : Bool := c == '-' || c == ':' || c == '_' || Text.isAlphanumeric c

/-- Read a directive. -/
def read (text : List Char) : Except DirectiveFault Directive :=
  match Text.trimRight (Text.trimLeft text) with
  | [] => .error .malformed
  | '[' :: rest => readBrackets {} text 1 rest
  | c :: cs =>
    if opensWord c then do
      let word := (c :: cs).takeWhile fun c => c != '=' && c != '['
      let stop := byteCount word
      match (c :: cs).dropWhile fun c => c != '=' && c != '[' with
      | [] => .ok (ofWord (String.ofList text))
      | mark :: rest =>
        let d : Directive := { target := some (String.ofList (← cut text 0 stop)) }
        if mark = '=' then readThreshold d text (stop + 1)
        else readBrackets d text (stop + 1) rest
    else .error .malformed

/-- The pieces of a text between commas. -/
def pieces : List Char → List (List Char)
  | [] => [[]]
  | c :: cs =>
    match pieces cs with
    | [] => [[c]]
    | piece :: rest => if c = ',' then [] :: piece :: rest else (c :: piece) :: rest

/-- Read the pieces that are directives, and pass over the others; `none` if one cannot be cut. -/
def readEach : List (List Char) → Option (List Directive)
  | [] => some []
  | piece :: rest =>
    match read piece with
    | .ok d => (readEach rest).map (d :: ·)
    | .error .malformed => readEach rest
    | .error .torn => none

/-- The directives of a text, which stand between commas; `none` if one cannot be cut. -/
def list? (text : String) : Option (List Directive) := readEach (pieces text.toList)

/-! ## Meaning -/

/-- Whether a directive says something about a record. -/
def concerns (d : Directive) (r : LogRecord) : Bool :=
  d.span.isNone
    && d.target.all (fun t => t.toList.isPrefixOf r.target.toList)
    && d.field.all fun f =>
      f.value.isNone && (f.name == "message" || r.fields.any fun e => e.1 == f.name)

/-- How much of a target a directive names. -/
def reach (d : Directive) : Nat := d.target.elim 0 fun t => t.toList.length

/-- Whether the second of two directives that concern one record decides about it. The one that
names more of the target does, then the one that asks for a field, then the one with the later
field, and at last the later one. -/
def yieldsTo (a b : Directive) : Bool :=
  a.reach < b.reach ||
    a.reach == b.reach &&
      match a.field, b.field with
      | none, _ => true
      | some _, none => false
      | some f, some g => f.name ≤ g.name

/-- The directive that decides about a record. -/
def decisive? (ds : List Directive) (r : LogRecord) : Option Directive :=
  ds.foldl (fun best d =>
    if d.concerns r && best.all (fun b => b.yieldsTo d) then some d else best) none

end Directive

end PluginBridge
