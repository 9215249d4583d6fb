import TlvCodec.Text

namespace TlvCodec.Toml

inductive Token where
  | bare (text : List Char)
  | string (text : List Char) (multiLine : Bool)
  | dot
  | equals
  | comma
  | openBracket
  | closeBracket
  | openBrace
  | closeBrace
  | newLine
deriving DecidableEq

structure Lexeme where
  token : Token
  gap : List Char
deriving DecidableEq

namespace Lexeme

/-- What the scanner is in the midst of; characters gathered stand last first. -/
inductive Mode where
  | between (gap : List Char)
  | comment
  | bare (gap : List Char) (seen : List Char)
  | opened (gap : List Char) (quote : Char)
  | openedTwice (gap : List Char) (quote : Char)
  | firstLine (gap : List Char) (quote : Char)
  | text (gap : List Char) (quote : Char) (multiLine : Bool) (seen : List Char)
  | quotes (gap : List Char) (quote : Char) (seen : List Char) (count : Nat)
  | escape (gap : List Char) (multiLine : Bool) (seen : List Char)
  | charNumber (gap : List Char) (multiLine : Bool) (seen : List Char) (count value : Nat)
  | lineEnd (gap : List Char) (seen : List Char) (broken : Bool)

structure Scan where
  mode : Mode
  found : List Lexeme

def isPlain (c : Char) : Bool := c = '\t' || (32 ≤ c.toNat && c.toNat ≠ 127)

def mark? (c : Char) : Option Token :=
  if c = '.' then some .dot
  else if c = '=' then some .equals
  else if c = ',' then some .comma
  else if c = '[' then some .openBracket
  else if c = ']' then some .closeBracket
  else if c.toNat = 123 then some .openBrace
  else if c.toNat = 125 then some .closeBrace
  else if c = '\n' then some .newLine
  else none

def isBare (c : Char) : Bool :=
  c ≠ ' ' && c ≠ '\t' && c ≠ '\r' && c ≠ '#' && (mark? c).isNone

def start? (gap : List Char) (found : List Lexeme) (c : Char) : Option Scan :=
  if c = ' ' ∨ c = '\t' then some ⟨.between (c :: gap), found⟩
  else if c = '#' then some ⟨.comment, found⟩
  else if c = '"' ∨ c = '\'' then some ⟨.opened gap c, found⟩
  else if isBare c then some ⟨.bare gap [c], found⟩
  else (mark? c).map fun t => ⟨.between [], ⟨t, gap⟩ :: found⟩

def string (gap : List Char) (multiLine : Bool) (seen : List Char) : Lexeme :=
  ⟨.string seen.reverse multiLine, gap⟩

def inside? (gap : List Char) (quote : Char) (multiLine : Bool) (seen : List Char)
    (found : List Lexeme) (c : Char) : Option Scan :=
  if c = '\\' ∧ quote = '"' then some ⟨.escape gap multiLine seen, found⟩
  else if isPlain c ∨ (multiLine ∧ c = '\n') then
    some ⟨.text gap quote multiLine (c :: seen), found⟩
  else none

def escaped? (c : Char) : Option Char :=
  match c with
  | '"' => some '"'
  | '\\' => some '\\'
  | 'b' => some (Char.ofNat 8)
  | 't' => some '\t'
  | 'n' => some '\n'
  | 'f' => some (Char.ofNat 12)
  | 'r' => some '\r'
  | 'e' => some (Char.ofNat 27)
  | _ => none

def numberSize? (c : Char) : Option Nat :=
  if c = 'x' then some 2 else if c = 'u' then some 4 else if c = 'U' then some 8 else none

def step? (s : Scan) (c : Char) : Option Scan :=
  match s.mode with
  | .between gap => start? gap s.found c
  | .comment =>
    if c = '\n' then start? [] s.found c
    else if isPlain c then some s
    else none
  | .bare gap seen =>
    if isBare c then some ⟨.bare gap (c :: seen), s.found⟩
    else start? [] (⟨.bare seen.reverse, gap⟩ :: s.found) c
  | .opened gap quote =>
    if c = quote then some ⟨.openedTwice gap quote, s.found⟩
    else inside? gap quote false [] s.found c
  | .openedTwice gap quote =>
    if c = quote then some ⟨.firstLine gap quote, s.found⟩
    else start? [] (string gap false [] :: s.found) c
  | .firstLine gap quote =>
    if c = '\n' then some ⟨.text gap quote true [], s.found⟩
    else if c = quote then some ⟨.quotes gap quote [] 1, s.found⟩
    else inside? gap quote true [] s.found c
  | .text gap quote multiLine seen =>
    if c = quote then
      if multiLine then some ⟨.quotes gap quote seen 1, s.found⟩
      else some ⟨.between [], string gap false seen :: s.found⟩
    else inside? gap quote multiLine seen s.found c
  | .quotes gap quote seen count =>
    if c = quote ∧ count < 5 then some ⟨.quotes gap quote seen (count + 1), s.found⟩
    else if 3 ≤ count then
      start? [] (string gap true (List.replicate (count - 3) quote ++ seen) :: s.found) c
    else inside? gap quote true (List.replicate count quote ++ seen) s.found c
  | .escape gap multiLine seen =>
    match numberSize? c with
    | some size => some ⟨.charNumber gap multiLine seen size 0, s.found⟩
    | none =>
      if multiLine ∧ (c = ' ' ∨ c = '\t' ∨ c = '\n') then
        some ⟨.lineEnd gap seen (c = '\n'), s.found⟩
      else (escaped? c).map fun x => ⟨.text gap '"' multiLine (x :: seen), s.found⟩
  | .charNumber gap multiLine seen count value => do
    let value := value * 16 + (← hexValue? c)
    if 1 < count then return ⟨.charNumber gap multiLine seen (count - 1) value, s.found⟩
    else if value.isValidChar then
      return ⟨.text gap '"' multiLine (Char.ofNat value :: seen), s.found⟩
    else none
  | .lineEnd gap seen broken =>
    if c = '\n' then some ⟨.lineEnd gap seen true, s.found⟩
    else if c = ' ' ∨ c = '\t' then some s
    else if ¬ broken then none
    else if c = '"' then some ⟨.quotes gap '"' seen 1, s.found⟩
    else inside? gap '"' true seen s.found c

def finish? (s : Scan) : Option (List Lexeme) :=
  match s.mode with
  | .between _ | .comment => some s.found.reverse
  | .bare gap seen => some (⟨.bare seen.reverse, gap⟩ :: s.found).reverse
  | .openedTwice gap _ => some (string gap false [] :: s.found).reverse
  | .quotes gap quote seen count =>
    if 3 ≤ count then
      some (string gap true (List.replicate (count - 3) quote ++ seen) :: s.found).reverse
    else none
  | _ => none

/-- Every line break as one character; a lone carriage return stays. -/
def unifyLines : List Char → List Char
  | '\r' :: '\n' :: rest => '\n' :: unifyLines rest
  | c :: rest => c :: unifyLines rest
  | [] => []

def dropMark : List Char → List Char
  | c :: rest => if c.toNat = 0xfeff then rest else c :: rest
  | [] => []

def scan? (text : List Char) : Option (List Lexeme) := do
  finish? (← (unifyLines (dropMark text)).foldlM step? ⟨.between [], []⟩)

end Lexeme

end TlvCodec.Toml
