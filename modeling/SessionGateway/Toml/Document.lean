import SessionGateway.Toml.Scalar
import SessionGateway.Toml.Tables

/-! TOML documents. The values nest only so deep and keys have only so many parts; both bounds are part
of what is accepted. -/
namespace SessionGateway.Toml

open Text Document

/-- How many lists and tables may lie within each other in one value. -/
def nestingLimit : Nat := 79

def keyLimit : Nat := 79

def isBare (c : Char) : Bool := c.isAlphanum || c = '_' || c = '-'

def simpleKey : Reader String :=
  Quotes.basic.line <|> Quotes.literal.line <|>
    (do return String.ofList (← Reader.nonemptyRun isBare))

def key : Reader Key := do
  let names ← Reader.separated (Reader.char '.') (do
    spaces
    let name ← simpleKey
    spaces
    return name)
  guard (names.length ≤ keyLimit)
  match names.reverse with
  | name :: parents => return ⟨parents.reverse, name⟩
  | [] => failure

def comment : Reader Unit := do
  Reader.char '#'
  let _ ← Reader.run isPlain

/-- Blanks, line ends and comments, as they may stand around the elements of a list. -/
def gap : Reader Unit := do
  let _ ← Reader.many ((do let _ ← Reader.nonemptyRun isSpace) <|> newline <|> comment)

/-- A list, over one or more lines; a comma after the last element is let pass. -/
def listOf (element : Reader Value) : Reader Value := do
  Reader.char '['
  let elements ← Reader.orElse (do
    let elements ← Reader.separated (Reader.char ',') (do
      gap
      let value ← element
      gap
      return value)
    Reader.orElse (Reader.char ',') ()
    return elements) []
  gap
  Reader.char ']'
  return .list elements

def pairOf (element : Reader Value) : Reader Entry := do
  let k ← key
  Reader.char '='
  spaces
  return (k, ← element)

/-- A table on one line, with no comma after the last entry. -/
def inlineTable (element : Reader Value) : Reader Value := do
  Reader.char '\x7b'
  let entries ← Reader.orElse (Reader.separated (Reader.char ',') (do
    let entry ← pairOf element
    spaces
    return entry)) []
  spaces
  Reader.char '\x7d'
  match Entries.insertAll entries [] with
  | some es => return .table (entryValues es)
  | none => failure

/-- A value with at most `room` lists and tables within each other. -/
def value : (room : Nat) → Reader Value
  | 0 => scalar
  | room + 1 => scalar <|> listOf (value room) <|> inlineTable (value room)

def lineEnd : Reader Unit := do
  spaces
  Reader.orElse comment ()
  newline <|> Reader.atEnd

def entries : Reader (List Entry) := do
  let lines ← Reader.many (
    (do lineEnd; return none) <|>
    (do
      let entry ← pairOf (value nestingLimit)
      lineEnd
      return some entry))
  return lines.filterMap id

def header : Reader Header := do
  spaces
  Reader.char '['
  let h ←
    (do
      Reader.char '['
      let k ← key
      Reader.word "]]"
      return Header.element k) <|>
    (do
      let k ← key
      Reader.char ']'
      return Header.table k)
  lineEnd
  return h

/-- A whole document, after a byte order mark if there is one. -/
def document : Reader (List Entry × List Section) := do
  Reader.orElse (Reader.char '\uFEFF') ()
  let first ← entries
  let sections ← Reader.many (do
    let h ← header
    return { header := h, entries := ← entries : Section })
  spaces
  Reader.atEnd
  return (first, sections)

def ofText? (s : String) : Option (List (String × Value)) := do
  let (first, sections) ← document.whole? s.toList
  let es ← Entries.insertAll first []
  let es ← sections.foldlM (fun es s => s.addTo es) es
  return entryValues es

end SessionGateway.Toml
