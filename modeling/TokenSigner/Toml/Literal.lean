import TokenSigner.Toml.Reader
import TokenSigner.Toml.Value

namespace TokenSigner.Toml

open Reader

def isBlank (c : Char) : Bool := c == ' ' || c == '\t'

def isPrintable (c : Char) : Bool :=
  c == '\t' || (0x20 ≤ c.toNat && c.toNat != 0x7F)

def isHexDigit (c : Char) : Bool :=
  c.isDigit || ('a' ≤ c && c ≤ 'f') || ('A' ≤ c && c ≤ 'F')

def blanks : Reader Unit := discard (takeWhile isBlank)

def newline : Reader Unit := char '\n' <|> text "\r\n"

def digitsValue (base : Nat) (digits : List Char) : Nat :=
  digits.foldl (fun n c =>
    let d := if c.isDigit then c.toNat - 48 else c.toLower.toNat - 87
    n * base + d) 0

def codePoint (digits : Nat) : Reader Char := do
  let n := digitsValue 16 (← exactly isHexDigit digits)
  if n < 0xD800 ∨ (0xDFFF < n ∧ n < 0x110000) then return Char.ofNat n else failure

def escaped : Reader Char := do
  char '\\'
  match ← satisfy fun _ => true with
  | 'b' => return Char.ofNat 8
  | 't' => return '\t'
  | 'n' => return '\n'
  | 'f' => return Char.ofNat 12
  | 'r' => return '\r'
  | '"' => return '"'
  | '\\' => return '\\'
  | 'u' => codePoint 4
  | 'U' => codePoint 8
  | _ => failure

def basicString : Reader (List Char) := do
  char '"'
  let cs ← many (satisfy (fun c => isPrintable c && c != '"' && c != '\\') <|> escaped)
  char '"'
  return cs

def literalString : Reader (List Char) := do
  char '\''
  let cs ← takeWhile fun c => isPrintable c && c != '\''
  char '\''
  return cs

def joinedLines : Reader Unit := do
  char '\\'
  blanks
  newline
  discard (many (discard (satisfy isBlank) <|> newline))

def untilThree (quote : Char) (piece : Reader (List Char)) : Reader (List Char) := do
  discard (optional newline)
  let pieces ← many (piece <|> inner)
  char quote; char quote; char quote
  return pieces.flatten
where
  inner : Reader (List Char) := do
    let run := ((← get).takeWhile (· == quote)).length
    if run = 1 ∨ run = 2 then exactly (· == quote) run
    else if run = 4 ∨ run = 5 then exactly (· == quote) (run - 3)
    else failure

def newlineText : Reader (List Char) := do
  newline
  return ['\n']

def multilineBasicString : Reader (List Char) := do
  text "\"\"\""
  untilThree '"' (takeWhile1 (fun c => isPrintable c && c != '"' && c != '\\')
    <|> (do joinedLines; return []) <|> (do return [← escaped]) <|> newlineText)

def multilineLiteralString : Reader (List Char) := do
  text "'''"
  untilThree '\'' (takeWhile1 (fun c => isPrintable c && c != '\'') <|> newlineText)

def string : Reader String :=
  String.ofList <$>
    (multilineBasicString <|> basicString <|> multilineLiteralString <|> literalString)

def digitGroups (isDigit : Char → Bool) : Reader (List Char) := do
  let first ← satisfy isDigit
  let rest ← many (do discard (optional (char '_')); satisfy isDigit)
  return first :: rest

def decimalDigits : Reader (List Char) :=
  (do char '0'; return ['0']) <|> digitGroups Char.isDigit

def sign : Reader Bool :=
  (do char '-'; return true) <|> (do char '+'; return false) <|> pure false

def word (base : Nat) (digits : List Char) : Reader Int := do
  let significant := digits.dropWhile (· == '0')
  if 64 < significant.length then failure else return digitsValue base significant

def integer : Reader Int := do
  let n ← based "0x" 16 isHexDigit <|> based "0o" 8 (fun c => '0' ≤ c && c ≤ '7')
    <|> based "0b" 2 (fun c => c == '0' || c == '1') <|> decimal
  if -0x8000000000000000 ≤ n ∧ n < 0x8000000000000000 then return n else failure
where
  based (mark : String) (base : Nat) (isDigit : Char → Bool) : Reader Int := do
    text mark
    word base (← digitGroups isDigit)
  decimal : Reader Int := do
    let negative ← sign
    let n ← word 10 (← decimalDigits)
    return if negative then -n else n

def exponent : Reader Int := do
  discard (satisfy fun c => c == 'e' || c == 'E')
  let negative ← sign
  let n : Nat := (← digitGroups Char.isDigit).foldl
    (fun n c => if n < 0x10000 then n * 10 + (c.toNat - 48) else n) 0
  return if negative then -(n : Int) else n

def leastOverflow : Nat := 0x3FFFFFFFFFFFFF <<< 970

def overflows (digits : List Char) (point : Int) : Bool :=
  let significant := digits.dropWhile (· == '0')
  let point := point - (digits.length - significant.length : Nat)
  !significant.isEmpty && (309 < point ||
    point == 309 &&
      leastOverflow ≤ digitsValue 10 ((significant ++ List.replicate 309 '0').take 309))

def float : Reader Unit := do
  let negative ← sign
  text "inf" <|> text "nan" <|> do
    let whole ← decimalDigits
    let (fraction, exponent) ← (do return ([], ← exponent)) <|> do
      char '.'
      let fraction ← digitGroups Char.isDigit
      return (fraction, (← optional exponent).getD 0)
    if !negative && overflows (whole ++ fraction) (whole.length + exponent) then failure

def bounded (digits least greatest : Nat) : Reader Nat := do
  let n := digitsValue 10 (← exactly Char.isDigit digits)
  if least ≤ n ∧ n ≤ greatest then return n else failure

def daysOf (year month : Nat) : Nat :=
  if month = 2 then
    if year % 4 = 0 ∧ (year % 100 ≠ 0 ∨ year % 400 = 0) then 29 else 28
  else if month = 4 ∨ month = 6 ∨ month = 9 ∨ month = 11 then 30
  else 31

def date : Reader Unit := do
  let year ← bounded 4 0 9999
  char '-'
  let month ← bounded 2 1 12
  char '-'
  discard (bounded 2 1 (daysOf year month))

def time : Reader Unit := do
  discard (bounded 2 0 23)
  char ':'
  discard (bounded 2 0 59)
  char ':'
  discard (bounded 2 0 60)
  discard (optional (do char '.'; takeWhile1 Char.isDigit))

def offset : Reader Unit := do
  discard (satisfy fun c => c == 'Z' || c == 'z') <|> do
    discard (satisfy fun c => c == '+' || c == '-')
    discard (bounded 2 0 23)
    char ':'
    discard (bounded 2 0 59)

def dateTime : Reader Unit :=
  (do
    date
    discard (optional (do
      discard (satisfy fun c => c == 'T' || c == 't' || c == ' ')
      time
      discard (optional offset)))) <|> time

def scalar : Reader Value :=
  (.string <$> string)
    <|> (do text "true"; return .boolean true)
    <|> (do text "false"; return .boolean false)
    <|> (do dateTime; return .dateTime)
    <|> (do float; return .float)
    <|> (.integer <$> integer)

end TokenSigner.Toml
