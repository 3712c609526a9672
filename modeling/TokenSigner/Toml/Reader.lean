namespace TokenSigner.Toml

abbrev Reader := StateT (List Char) Option

namespace Reader

variable {α : Type}

def satisfy (p : Char → Bool) : Reader Char := do
  match ← get with
  | c :: rest => if p c then set rest; return c else failure
  | [] => failure

def char (c : Char) : Reader Unit := do
  discard (satisfy (· == c))

def text (s : String) : Reader Unit := do
  match s.toList.isPrefixOf? (← get) with
  | some rest => set rest
  | none => failure

def takeWhile (p : Char → Bool) : Reader (List Char) := do
  let cs ← get
  set (cs.dropWhile p)
  return cs.takeWhile p

def takeWhile1 (p : Char → Bool) : Reader (List Char) := do
  let cs ← takeWhile p
  if cs.isEmpty then failure else return cs

def exactly (p : Char → Bool) : (count : Nat) → Reader (List Char)
  | 0 => return []
  | count + 1 => do
    let c ← satisfy p
    return c :: (← exactly p count)

def manyAfter (item : Reader α) (before : List α) : (bound : List Char) → Reader (List α)
  | [] => return before.reverse
  | _ :: bound => fun cs =>
    match item.run cs with
    | some (a, rest) => manyAfter item (a :: before) bound rest
    | none => some (before.reverse, cs)

def many (item : Reader α) : Reader (List α) := do
  manyAfter item [] (← get)

def separated (separator : Reader Unit) (item : Reader α) : Reader (List α) := do
  let first ← item
  return first :: (← many (do separator; item))

def atEnd : Reader Unit := do
  if (← get).isEmpty then return () else failure

def readAll (r : Reader α) (cs : List Char) : Option α :=
  (do let a ← r; atEnd; return a : Reader α).run' cs

end Reader

end TokenSigner.Toml
