import SessionGateway.Text.Reader
import SessionGateway.Toml.Tables

/-! The plain values of TOML: texts in four kinds of quotes, truth values, integers of 64 bits, numbers
with a point or an exponent, and dates and times. -/
namespace SessionGateway.Toml

open Text Document

/-- What may stand in a comment, and in a text on one line. -/
def isPlain (c : Char) : Bool := c = '\t' || (0x20 ≤ c.toNat && c.toNat ≠ 0x7F)

def isSpace (c : Char) : Bool := c = ' ' || c = '\t'

def spaces : Reader Unit := do let _ ← Reader.run isSpace

def newline : Reader Unit := Reader.char '\n' <|> Reader.word "\r\n"

/-! ### Texts -/

def fixedDigits (base : Nat) : (n : Nat) → Reader (List Char)
  | 0 => pure []
  | n + 1 => do
    let d ← Reader.one (isDigit base)
    return d :: (← fixedDigits base n)

def scalarValue (digits : List Char) : Reader Char := do
  let n := ofDigits 16 digits
  guard n.isValidChar
  return Char.ofNat n

def escape : Reader Char := do
  Reader.char '\\'
  match ← Reader.one fun _ => true with
  | 'b' => return '\x08'
  | 't' => return '\t'
  | 'n' => return '\n'
  | 'f' => return '\x0c'
  | 'r' => return '\r'
  | '"' => return '"'
  | '\\' => return '\\'
  | 'u' => scalarValue (← fixedDigits 16 4)
  | 'U' => scalarValue (← fixedDigits 16 8)
  | _ => failure

/-- The kinds of quotes. Only in the double ones a backslash means something. -/
inductive Quotes where
  | basic
  | literal
  deriving DecidableEq, Repr

namespace Quotes

def mark : Quotes → Char
  | basic => '"'
  | literal => '\''

def isContent (q : Quotes) (c : Char) : Bool :=
  isPlain c && c ≠ q.mark && (q = .literal || c ≠ '\\')

def content (q : Quotes) : Reader (List Char) := Reader.nonemptyRun q.isContent

def escaped (q : Quotes) : Reader (List Char) := do
  guard (q = .basic)
  return [← escape]

def line (q : Quotes) : Reader String := do
  Reader.char q.mark
  let pieces ← Reader.many (q.content <|> q.escaped)
  Reader.char q.mark
  return String.ofList pieces.flatten

/-- A run of marks that is neither shorter nor longer than said. -/
def marks (q : Quotes) (least most : Nat) : Reader Nat := do
  let found ← Reader.run (· = q.mark)
  guard (least ≤ found.length ∧ found.length ≤ most)
  return found.length

/-- A backslash at the end of a line takes away the line's end and all blanks after it. -/
def foldedLine (q : Quotes) : Reader (List Char) := do
  guard (q = .basic)
  Reader.char '\\'
  spaces
  newline
  let _ ← Reader.many (newline <|> do let _ ← Reader.nonemptyRun isSpace)
  return []

def lineBreak : Reader (List Char) := do newline; return ['\n']

def innerMarks (q : Quotes) : Reader (List Char) := do
  return List.replicate (← q.marks 1 2) q.mark

/-- A text over several lines. A line end right after the opening marks does not count, and up to two
marks right before the closing ones belong to the text. -/
def block (q : Quotes) : Reader String := do
  Reader.word (String.ofList [q.mark, q.mark, q.mark])
  Reader.orElse newline ()
  let pieces ← Reader.many (q.content <|> q.foldedLine <|> q.escaped <|> lineBreak <|> q.innerMarks)
  let closing ← q.marks 3 5
  return String.ofList (pieces.flatten ++ List.replicate (closing - 3) q.mark)

end Quotes

def text : Reader String :=
  Quotes.basic.block <|> Quotes.basic.line <|> Quotes.literal.block <|> Quotes.literal.line

/-! ### Numbers -/

def sign : Reader Bool :=
  (do Reader.char '-'; return true) <|> (do Reader.char '+'; return false) <|> pure false

/-- Digits, with single underscores between them if wanted. -/
def digitRun (base : Nat) : Reader (List Char) := do
  let first ← Reader.one (isDigit base)
  let more ← Reader.many (do
    Reader.orElse (Reader.char '_') ()
    Reader.one (isDigit base))
  return first :: more

/-- The digits of a decimal integer. Only zero itself starts with a zero. -/
def decimalDigits : Reader (List Char) :=
  (do Reader.char '0'; return ['0']) <|> digitRun 10

def signed (negative : Bool) (n : Nat) : Int := if negative then -n else n

def word64 (n : Int) : Reader Value := do
  guard (Int64.minValue.toInt ≤ n ∧ n ≤ Int64.maxValue.toInt)
  return .integer n

def decimal : Reader Value := do
  let negative ← sign
  word64 (signed negative (ofDigits 10 (← decimalDigits)))

def inBase (mark : String) (base : Nat) : Reader Value := do
  Reader.word mark
  word64 (ofDigits base (← digitRun base))

def integer : Reader Value := inBase "0x" 16 <|> inBase "0o" 8 <|> inBase "0b" 2 <|> decimal

/-- Whether `m` times ten to the `e` is nearer to infinity than to any 64-bit number. Its count of digits
settles that unless it has 309 of them before the point. -/
def isBeyond (m : Nat) (e : Int) : Bool :=
  if m = 0 then false
  else
    let magnitude := (digits 10 m).length + e
    if magnitude < 309 then false
    else if 309 < magnitude then true
    else
      let bound := Nat.pow 2 1024 - Nat.pow 2 970
      bound * Nat.pow 10 (-e).toNat ≤ m * Nat.pow 10 e.toNat

def exponent : Reader Int := do
  let _ ← Reader.one fun c => c = 'e' || c = 'E'
  let negative ← sign
  return signed negative (ofDigits 10 (← digitRun 10))

/-- A number with a point, an exponent or both. A positive one has to be finite. -/
def pointed : Reader Value := do
  let negative ← sign
  let whole ← decimalDigits
  let (places, e) ←
    (do
      Reader.char '.'
      let places ← digitRun 10
      return (places, ← Reader.orElse exponent 0)) <|>
    (do return ([], ← exponent))
  guard (negative ∨ ¬ isBeyond (ofDigits 10 (whole ++ places)) (e - places.length))
  return .fraction

def infinite : Reader Value := do
  let _ ← sign
  Reader.word "inf" <|> Reader.word "nan"
  return .fraction

def fraction : Reader Value := pointed <|> infinite

/-! ### Dates and times -/

/-- A number of exactly `n` digits within bounds, with its digits. -/
def numberOf (n least most : Nat) : Reader (Nat × String) := do
  let ds ← fixedDigits 10 n
  let value := ofDigits 10 ds
  guard (least ≤ value ∧ value ≤ most)
  return (value, String.ofList ds)

def isLeapYear (year : Nat) : Bool := year % 4 = 0 && (year % 100 ≠ 0 || year % 400 = 0)

def daysIn (year month : Nat) : Nat :=
  if month = 2 then if isLeapYear year then 29 else 28
  else if month = 4 ∨ month = 6 ∨ month = 9 ∨ month = 11 then 30
  else 31

def date : Reader String := do
  let (year, y) ← numberOf 4 0 9999
  Reader.char '-'
  let (month, m) ← numberOf 2 1 12
  Reader.char '-'
  let (_, d) ← numberOf 2 1 (daysIn year month)
  return s!"{y}-{m}-{d}"

/-- Parts of a second count down to the ninth place, and zeros at the end are not shown. -/
def partsOfSecond : Reader String := do
  Reader.char '.'
  let places ← Reader.nonemptyRun (isDigit 10)
  let shown := ((places.take 9).reverse.dropWhile (· = '0')).reverse
  return if shown.isEmpty then "" else "." ++ String.ofList shown

/-- A time of day. A leap second is let pass. -/
def timeOfDay : Reader String := do
  let (_, h) ← numberOf 2 0 23
  Reader.char ':'
  let (_, m) ← numberOf 2 0 59
  Reader.char ':'
  let (_, s) ← numberOf 2 0 60
  return s!"{h}:{m}:{s}" ++ (← Reader.orElse partsOfSecond "")

def offset : Reader String :=
  (do
    let _ ← Reader.one fun c => c = 'Z' || c = 'z'
    return "Z") <|>
  (do
    let signChar ← Reader.one fun c => c = '+' || c = '-'
    let (hours, h) ← numberOf 2 0 23
    Reader.char ':'
    let (minutes, m) ← numberOf 2 0 59
    let shown := if hours = 0 ∧ minutes = 0 then '+' else signChar
    return s!"{shown}{h}:{m}")

def instant : Reader Value := do
  let written ←
    (do
      let day ← date
      let time ← Reader.orElse (do
        let _ ← Reader.one fun c => c = 'T' || c = 't' || c = ' '
        let time ← timeOfDay
        return "T" ++ time ++ (← Reader.orElse offset "")) ""
      return day ++ time) <|>
    timeOfDay
  return .instant written

/-! ### All of them -/

def flag : Reader Value :=
  (do Reader.word "true"; return .flag true) <|> (do Reader.word "false"; return .flag false)

def scalar : Reader Value :=
  (do return .text (← text)) <|> flag <|> instant <|> fraction <|> integer

end SessionGateway.Toml
