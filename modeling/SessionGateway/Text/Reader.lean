/-! Readers take something from the front of a text and leave the rest, or fail. A reader that fails has
taken nothing, so another may be tried in its place. Before them stand what they read most: blanks and
numerals in plain positional notation. -/
namespace SessionGateway.Text

/-- The 25 code points with the property `White_Space`. -/
def isBlank (c : Char) : Bool :=
  let n := c.toNat
  (9 ≤ n && n ≤ 13) || n = 0x20 || n = 0x85 || n = 0xA0 || n = 0x1680 || (0x2000 ≤ n && n ≤ 0x200A) ||
    n = 0x2028 || n = 0x2029 || n = 0x202F || n = 0x205F || n = 0x3000

def trimChars (cs : List Char) : List Char :=
  ((cs.dropWhile isBlank).reverse.dropWhile isBlank).reverse

def trim (s : String) : String := String.ofList (trimChars s.toList)

/-! ### Numerals -/

/-- The value of a digit in a base of at most sixteen. -/
def digit? (base : Nat) (c : Char) : Option Nat :=
  let n := c.toNat
  let value :=
    if '0'.toNat ≤ n ∧ n ≤ '9'.toNat then some (n - '0'.toNat)
    else if 'a'.toNat ≤ n ∧ n ≤ 'f'.toNat then some (n - 'a'.toNat + 10)
    else if 'A'.toNat ≤ n ∧ n ≤ 'F'.toNat then some (n - 'A'.toNat + 10)
    else none
  value.filter (· < base)

def isDigit (base : Nat) (c : Char) : Bool := (digit? base c).isSome

/-- The number that digits stand for. Characters that are no digits do not count. -/
def ofDigits (base : Nat) (cs : List Char) : Nat :=
  cs.foldl (fun n c => match digit? base c with | some d => n * base + d | none => n) 0

/-- The digits of `n`, most significant first; `0` is written as one digit. -/
def digits (base n : Nat) : List Char := Nat.toDigits base n

/-- The longest run of digits at the front, its value and the rest. None if there is no digit. -/
def takeNumber? (base : Nat) (cs : List Char) : Option (List Char × Nat × List Char) :=
  match cs.span (isDigit base) with
  | ([], _) => none
  | (run, rest) => some (run, ofDigits base run, rest)

/-- A whole text of decimal digits, after an optional plus sign, of value at most `limit`. -/
def unsigned? (limit : Nat) (cs : List Char) : Option Nat :=
  let run := match cs with
    | '+' :: run => run
    | run => run
  if run ≠ [] ∧ run.all (isDigit 10) then
    let n := ofDigits 10 run
    if n ≤ limit then some n else none
  else none

/-! ### Readers -/

abbrev Reader := StateT (List Char) Option

namespace Reader

def one (p : Char → Bool) : Reader Char
  | c :: rest => if p c then some (c, rest) else none
  | [] => none

def char (c : Char) : Reader Unit
  | d :: rest => if c = d then some ((), rest) else none
  | [] => none

def word (s : String) : Reader Unit := s.toList.forM char

def run (p : Char → Bool) : Reader (List Char) := fun cs => some (cs.span p)

def nonemptyRun (p : Char → Bool) : Reader (List Char) := fun cs =>
  match cs.span p with
  | ([], _) => none
  | found => some found

def atEnd : Reader Unit
  | [] => some ((), [])
  | _ :: _ => none

def orElse (read : Reader α) (default : α) : Reader α := read <|> pure default

/-- What a reader gives again and again, until it fails or takes nothing. -/
def repeatedly (read : Reader α) (cs : List Char) : List α × List Char :=
  match read cs with
  | none => ([], cs)
  | some (a, rest) =>
    if rest.length < cs.length then
      let (more, rest) := repeatedly read rest
      (a :: more, rest)
    else ([], cs)
termination_by cs.length

def many (read : Reader α) : Reader (List α) := fun cs => some (repeatedly read cs)

/-- One or more, with a separator between neighbours. -/
def separated (separator : Reader Unit) (read : Reader α) : Reader (List α) := do
  let first ← read
  let more ← many (do separator; read)
  return first :: more

def whole? (read : Reader α) (cs : List Char) : Option α :=
  match read cs with
  | some (a, []) => some a
  | _ => none

end Reader

end SessionGateway.Text
