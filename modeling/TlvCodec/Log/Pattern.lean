import TlvCodec.Text

namespace TlvCodec.Log.Pattern

inductive Atom where
  | character (c : Char)
  | characters

def byNumber? (size : Nat) (s : List Char) : Option (Atom × List Char) := do
  let digits ← (s.take size).mapM hexValue?
  let n := digits.foldl (fun n d => n * 16 + d) 0
  if digits.length = size ∧ n.isValidChar then some (.character (Char.ofNat n), s.drop size)
  else none

def isEscapable (c : Char) : Bool :=
  c.toNat < 128 && !c.isAlphanum && c ≠ '<' && c ≠ '>'

def escape? : List Char → Option (Atom × List Char)
  | [] => none
  | c :: s =>
    match c with
    | 'x' => byNumber? 2 s
    | 'u' => byNumber? 4 s
    | 'U' => byNumber? 8 s
    | 'p' | 'P' =>
      match s with
      | d :: s => if "LMNPSZC".toList.contains d.toUpper then some (.characters, s) else none
      | [] => none
    | 'd' | 'D' | 's' | 'S' | 'w' | 'W' => some (.characters, s)
    | 'a' => some (.character (Char.ofNat 7), s)
    | 'f' => some (.character (Char.ofNat 12), s)
    | 't' => some (.character '\t', s)
    | 'n' => some (.character '\n', s)
    | 'r' => some (.character '\r', s)
    | 'v' => some (.character (Char.ofNat 11), s)
    | c => if isEscapable c then some (.character c, s) else none

def member? : List Char → Option (Atom × List Char)
  | '\\' :: s => escape? s
  | c :: s => some (.character c, s)
  | [] => none

def rangeEnd? (start : Atom) : List Char → Option (List Char)
  | '-' :: ']' :: s => some ('-' :: ']' :: s)
  | '-' :: '-' :: s => some ('-' :: '-' :: s)
  | '-' :: s => do
    match start, ← member? s with
    | .character low, (.character high, s) => if low ≤ high then some s else none
    | _, _ => none
  | s => some s

def classNames : List String :=
  ["alnum", "alpha", "ascii", "blank", "cntrl", "digit", "graph", "lower", "print", "punct",
    "space", "upper", "word", "xdigit"]

def dropNegation : List Char → List Char
  | '^' :: s => s
  | s => s

def namedClass? : List Char → Option (List Char)
  | ':' :: s =>
    let s := dropNegation s
    let name := s.takeWhile (· ≠ ':')
    match s.drop name.length with
    | ':' :: ']' :: rest => if classNames.contains (String.ofList name) then some rest else none
    | _ => none
  | _ => none

/-- Drops a mark of negation, and then dashes or one bracket. -/
def dropOpening (s : List Char) : List Char :=
  match dropNegation s with
  | ']' :: s => s
  | s => s.dropWhile (· = '-')

/-- Reads the rest of `depth` classes inside each other; `fuel` bounds the members. -/
def closeClass? (fuel depth : Nat) (s : List Char) : Option (List Char) :=
  match fuel, depth with
  | _, 0 => some s
  | 0, _ => none
  | fuel + 1, depth + 1 =>
    match s with
    | [] => none
    | ']' :: s => closeClass? fuel depth s
    | '[' :: s =>
      match namedClass? s with
      | some rest => closeClass? fuel (depth + 1) rest
      | none => closeClass? fuel (depth + 2) (dropOpening s)
    | '&' :: '&' :: s | '-' :: '-' :: s | '~' :: '~' :: s => closeClass? fuel (depth + 1) s
    | s => do
      let (start, s) ← member? s
      closeClass? fuel (depth + 1) (← rangeEnd? start s)

/-- Each flag may be given once, and a minus may not end them. -/
def areFlags (s : List Char) : Bool :=
  s.all ("imsUuRx-".toList.contains ·) && s.eraseDups.length = s.length && s.getLast? ≠ some '-'

def isName : List Char → Bool
  | [] => false
  | c :: s =>
    (c = '_' || (isLetterOrNumber c && !c.isDigit)) &&
      s.all fun c => "_.[]".toList.contains c || isLetterOrNumber c

inductive Opening where
  | group (name : Option (List Char))
  | flags

def named? (s : List Char) : Option (Opening × List Char) :=
  let name := s.takeWhile (· ≠ '>')
  match s.drop name.length with
  | _ :: rest => if isName name then some (.group (some name), rest) else none
  | [] => none

def opening? : List Char → Option (Opening × List Char)
  | '?' :: 'P' :: '<' :: s => named? s
  | '?' :: '<' :: s => named? s
  | '?' :: s =>
    let letters := s.takeWhile fun c => c ≠ ':' ∧ c ≠ ')'
    match s.drop letters.length with
    | ':' :: rest => if areFlags letters then some (.group none, rest) else none
    | ')' :: rest => if areFlags letters ∧ letters ≠ [] then some (.flags, rest) else none
    | _ => none
  | s => some (.group none, s)

/-- Whether a text is the rest of a pattern inside `depth` groups. -/
def isRest (fuel depth : Nat) (repeatable : Bool) (names : List (List Char)) (s : List Char) :
    Bool :=
  match fuel with
  | 0 => s.isEmpty && depth = 0
  | fuel + 1 =>
    match s with
    | [] => depth = 0
    | '(' :: s =>
      match opening? s with
      | some (.group none, s) => isRest fuel (depth + 1) false names s
      | some (.group (some name), s) =>
        !names.contains name && isRest fuel (depth + 1) false (name :: names) s
      | some (.flags, s) => isRest fuel depth false names s
      | none => false
    | ')' :: s => depth ≠ 0 && isRest fuel (depth - 1) true names s
    | '|' :: s => isRest fuel depth false names s
    | '[' :: s =>
      match closeClass? s.length 1 (dropOpening s) with
      | some s => isRest fuel depth true names s
      | none => false
    | '\\' :: s =>
      match s, escape? s with
      | 'A' :: s, _ | 'z' :: s, _ => isRest fuel depth true names s
      | _, some (_, s) => isRest fuel depth true names s
      | _, none => false
    | c :: s =>
      if c = '*' ∨ c = '+' ∨ c = '?' then
        repeatable && isRest fuel depth true names (if s.head? = some '?' then s.drop 1 else s)
      else c.toNat ≠ 123 && isRest fuel depth true names s

/-- Every step takes a character, so that their number is fuel enough. -/
def isExpression (s : List Char) : Bool := isRest s.length 0 false [] s

def isNumber (s : List Char) : Bool :=
  let word := String.ofList (s.map Char.toLower)
  let whole := s.takeWhile Char.isDigit
  let rest := s.drop whole.length
  let (fraction, rest) := match rest with
    | '.' :: r => (r.takeWhile Char.isDigit, r.dropWhile Char.isDigit)
    | r => ([], r)
  let isExponent := match rest with
    | [] => true
    | c :: r =>
      let digits := match r with
        | '+' :: ds | '-' :: ds => ds
        | ds => ds
      (c = 'e' || c = 'E') && digits ≠ [] && digits.all Char.isDigit
  word = "inf" || word = "infinity" || word = "nan" ||
    ((whole ≠ [] || fraction ≠ []) && isExponent)

def isValue (s : List Char) : Bool :=
  isExpression s || (match s with
    | '+' :: s => isNumber s
    | _ => false)

end TlvCodec.Log.Pattern
