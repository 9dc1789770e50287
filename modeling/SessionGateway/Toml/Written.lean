import SessionGateway.Text.Reader
import SessionGateway.Toml.Tables

/-! Trees written down in TOML. A table gives a section: what stands in it on one line comes first, the
tables in it follow as sections of their own, and so do the elements of a list of tables. -/
namespace SessionGateway.Toml

open Text Document

/-- A character in double quotes. What is not plain is given by its number. -/
def quotedChar (c : Char) : List Char :=
  if c = '"' ∨ c = '\\' then ['\\', c]
  else if c.toNat < 0x20 ∨ c.toNat = 0x7F then
    let ds := digits 16 c.toNat
    '\\' :: 'u' :: List.replicate (4 - ds.length) '0' ++ ds
  else [c]

def quoted (s : String) : String := String.ofList ('"' :: s.toList.flatMap quotedChar ++ ['"'])

/-- A name as part of a key: bare where it can be. -/
def keyText (name : String) : String :=
  if name ≠ "" ∧ name.all (fun c => c.isAlphanum || c = '_' || c = '-') then name else quoted name

mutual

/-- A value on one line. What is unset cannot be written and leaves nothing. -/
def inlineText : Value → List String
  | .null => []
  | .flag b => [if b then "true" else "false"]
  | .integer n => [toString n]
  | .fraction => ["nan"]
  | .text s => [quoted s]
  | .instant written => [written]
  | .list values => ["[" ++ ", ".intercalate (inlineTexts values) ++ "]"]
  | .table entries => ["\x7b" ++ ", ".intercalate (pairTexts entries) ++ "\x7d"]

def inlineTexts : List Value → List String
  | [] => []
  | v :: later => inlineText v ++ inlineTexts later

def pairTexts : List (String × Value) → List String
  | [] => []
  | entry :: later => pairText entry ++ pairTexts later

def pairText : String × Value → List String
  | (name, v) => (inlineText v).map fun text => s!"{keyText name} = {text}"

end

def isTable : Value → Bool
  | .table _ => true
  | _ => false

/-- Whether a value is written in sections of its own. -/
def hasSections : Value → Bool
  | .table _ => true
  | .list values => !values.isEmpty && values.all isTable
  | _ => false

def ownLines (entries : List (String × Value)) : List String :=
  (pairTexts (entries.filter fun e => !hasSections e.2)).map (· ++ "\n")

def pathText (path : List String) : String := ".".intercalate (path.map keyText)

/-- A section with its header. One that only leads to others is left out, unless it is an element. -/
def sectionText (header : String) (isElement : Bool) (entries : List (String × Value)) : List String :=
  let lines := ownLines entries
  if isElement || entries.isEmpty || !lines.isEmpty then [header ++ String.join lines] else []

mutual

def sections (path : List String) : Value → List String
  | .table entries =>
    sectionText s!"[{pathText path}]\n" false entries ++ entrySections path entries
  | .list values => if hasSections (.list values) then elementSections path values else []
  | _ => []

def entrySections (path : List String) : List (String × Value) → List String
  | [] => []
  | entry :: later => namedSections path entry ++ entrySections path later

def namedSections (path : List String) : String × Value → List String
  | (name, v) => sections (path ++ [name]) v

def elementSections (path : List String) : List Value → List String
  | [] => []
  | .table entries :: later =>
    sectionText s!"[[{pathText path}]]\n" true entries ++ entrySections path entries ++
      elementSections path later
  | _ :: later => elementSections path later

end

/-- The text of a whole document. A blank line parts the sections. -/
def written (entries : List (String × Value)) : String :=
  let own := ownLines entries
  "\n".intercalate ((if own.isEmpty then [] else [String.join own]) ++ entrySections [] entries)

end SessionGateway.Toml
