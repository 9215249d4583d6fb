import TlvCodec.Text

namespace TlvCodec.Toml.Number

def isHexDigit (c : Char) : Bool := (hexValue? c).isSome

def isOctalDigit (c : Char) : Bool := '0' ≤ c && c ≤ '7'

def isBinaryDigit (c : Char) : Bool := c = '0' || c = '1'

/-- Whether every underscore has a digit on both sides. -/
def isSeparated (isDigit : Char → Bool) (before : Bool) : List Char → Bool
  | [] => true
  | '_' :: rest =>
    before && (match rest with | c :: _ => isDigit c | [] => false) &&
      isSeparated isDigit false rest
  | c :: rest => isSeparated isDigit (isDigit c) rest

/-- As `isSeparated`, but an underscore may also stand after the first character. -/
def isSpaced (isDigit : Char → Bool) : List Char → Bool
  | [] => true
  | c :: rest => c ≠ '_' && isSeparated isDigit true rest

def isUnderscored (c : Char) : Bool := c.isDigit || c = '_'

def digitRun (s : List Char) : Nat × List Char :=
  (((s.takeWhile isUnderscored).filter Char.isDigit).length, s.dropWhile isUnderscored)

def whole? (s : List Char) : Option (List Char) :=
  match digitRun s with
  | (0, _) => none
  | (1, rest) => some rest
  | (_, rest) => if s.head? = some '0' then none else some rest

def digits? (s : List Char) : Option (List Char) :=
  match digitRun s with
  | (0, _) => none
  | (_, rest) => some rest

def fraction? : List Char → Option (List Char)
  | '.' :: s => digits? s
  | s => some s

def exponent? : List Char → Option (List Char)
  | c :: s =>
    if c = 'e' ∨ c = 'E' then
      match s with
      | '+' :: s | '-' :: s => digits? s
      | s => digits? s
    else some (c :: s)
  | [] => some []

def isFloat (s : List Char) : Bool :=
  (do exponent? (← fraction? (← whole? s))) = some []

def splitSign : List Char → Bool × List Char
  | '+' :: s | '-' :: s => (true, s)
  | s => (false, s)

/-- Whether `value` is a decimal number; `text` has its sign. -/
def isDecimal (text value : List Char) : Bool :=
  match value, value.dropWhile Char.isDigit with
  | [], _ => false
  | _, [] => value = ['0'] || value.head? ≠ some '0'
  | _, c :: rest =>
    if c = '-' ∨ c = ':' then false
    else if (c :: rest).any fun d => d = '.' || d = 'e' || d = 'E' then
      isFloat value && isSpaced Char.isDigit text
    else c = '_' && value.head? ≠ some '0' && isSpaced isHexDigit text

def isRadix (isDigit : Char → Bool) (signed : Bool) (digits : List Char) : Bool :=
  !signed && digits.all (fun c => isDigit c || c = '_') && isSeparated isDigit false digits

/-- Numbers are not converted, so that their size does not matter. -/
def isNumber (text : List Char) : Bool :=
  let (signed, value) := splitSign text
  match value with
  | ['i', 'n', 'f'] | ['n', 'a', 'n'] => true
  | '0' :: 'x' :: digits => isRadix isHexDigit signed digits
  | '0' :: 'o' :: digits => isRadix isOctalDigit signed digits
  | '0' :: 'b' :: digits => isRadix isBinaryDigit signed digits
  | _ => isDecimal text value

end TlvCodec.Toml.Number

namespace TlvCodec.Toml.Moment

def number (digits : List Char) : Nat :=
  digits.foldl (fun n d => n * 10 + (d.toNat - '0'.toNat)) 0

def digits? (n : Nat) (s : List Char) : Option (Nat × List Char) :=
  let ds := s.takeWhile Char.isDigit
  if ds.length = n then some (number ds, s.drop n) else none

def isLeapYear (year : Nat) : Bool := year % 4 = 0 && (year % 100 ≠ 0 || year % 400 = 0)

def daysIn (year month : Nat) : Nat :=
  match month with
  | 2 => if isLeapYear year then 29 else 28
  | 4 | 6 | 9 | 11 => 30
  | _ => 31

def date? (s : List Char) : Option (List Char) := do
  let (year, '-' :: s) ← digits? 4 s | none
  let (month, '-' :: s) ← digits? 2 s | none
  let (day, s) ← digits? 2 s
  if 1 ≤ month ∧ month ≤ 12 ∧ 1 ≤ day ∧ day ≤ daysIn year month then some s else none

def fraction? : List Char → Option (List Char)
  | '.' :: s =>
    match s.takeWhile Char.isDigit with
    | [] => none
    | _ => some (s.dropWhile Char.isDigit)
  | s => some s

/-- Reads the seconds, if given. There may be a leap second. -/
def seconds? : List Char → Option (List Char)
  | ':' :: s => do
    let (second, s) ← digits? 2 s
    if second ≤ 60 then fraction? s else none
  | s => some s

def hourMinute? (s : List Char) : Option (List Char) := do
  let (hour, ':' :: s) ← digits? 2 s | none
  let (minute, s) ← digits? 2 s
  if hour ≤ 23 ∧ minute ≤ 59 then some s else none

def time? (s : List Char) : Option (List Char) := do seconds? (← hourMinute? s)

def isOffset : List Char → Bool
  | [] => true
  | ['Z'] | ['z'] => true
  | '+' :: s | '-' :: s => hourMinute? s = some []
  | _ => false

/-- Whether a text is a date, a time of day, or both. -/
def isMoment (s : List Char) : Bool :=
  match date? s with
  | some [] => true
  | some (c :: rest) =>
    (c = 'T' || c = 't' || c = ' ') && (time? rest).any isOffset
  | none => time? s = some []

end TlvCodec.Toml.Moment
