import TransportBridge.Toml.Value

/-!
Contract: the characters of a settings document, read as its tables.

Owns: line structure, comments, keys, the four string forms, integers in four
bases, booleans, arrays and inline tables.

Reading is all or nothing. Every reader takes the characters that are left and
gives those that remain after it; nested values count down a bound that the
number of characters never exceeds.
-/

namespace TransportBridge.Toml

abbrev Reader := StateT (List Char) Option

namespace Reader

def peek : Reader (Option Char) := fun input =>
  some (input.head?, input)

def expect (c : Char) : Reader Unit
  | head :: rest => if head = c then some ((), rest) else none
  | [] => none

/-- Drops a leading character if it is there, and tells so. -/
def accept (c : Char) : Reader Bool
  | head :: rest => if head = c then some (true, rest) else some (false, head :: rest)
  | [] => some (false, [])

def takeWhile (p : Char → Bool) : Reader (List Char) := fun input =>
  some (input.takeWhile p, input.dropWhile p)

/-- A step on the bare characters, where the grammar needs to look ahead. -/
def ofFunction {α : Type} (step : List Char → Option (α × List Char)) : Reader α := step

end Reader

open Reader

def isBlank (c : Char) : Bool :=
  c = ' ' || c = '\t'

/-- Tab, printable ASCII and everything beyond ASCII. -/
def isText (c : Char) : Bool :=
  c = '\t' || (' ' ≤ c && c ≤ '~') || '\x80' ≤ c

def blanks : Reader Unit := do
  let _ ← takeWhile isBlank

/-- A line ends with a line feed, before which a carriage return may stand. -/
def lineEnd : Reader Unit := ofFunction fun
  | '\n' :: rest => some ((), rest)
  | '\r' :: '\n' :: rest => some ((), rest)
  | _ => none

def comment : Reader Unit := do
  if ← accept '#' then
    let _ ← takeWhile isText

/-- What may follow an expression on its line. -/
def lineTail : Reader Unit := do
  blanks
  comment
  if (← peek).isSome then lineEnd

/-- Blanks, comments and line ends, as they may stand inside an array. -/
def spacing : Nat → Reader Unit
  | 0 => pure ()
  | bound + 1 => do
    blanks
    comment
    match ← peek with
    | some '\n' | some '\r' => lineEnd; spacing bound
    | _ => pure ()

/-! ## Strings -/

private def digitValue? (c : Char) : Option Nat :=
  if '0' ≤ c && c ≤ '9' then some (c.toNat - '0'.toNat)
  else if 'a' ≤ c && c ≤ 'f' then some (c.toNat - 'a'.toNat + 10)
  else if 'A' ≤ c && c ≤ 'F' then some (c.toNat - 'A'.toNat + 10)
  else none

private def scalar? (digits : List Char) : Option Char := do
  let code ← digits.foldlM
    (fun value digit => do return value * 16 + (← digitValue? digit)) 0
  if code.isValidChar then some (Char.ofNat code) else none

private def simpleEscape? (c : Char) : Option Char :=
  if c = 'b' then some '\x08'
  else if c = 't' then some '\t'
  else if c = 'n' then some '\n'
  else if c = 'f' then some '\x0c'
  else if c = 'r' then some '\r'
  else if c = '"' then some '"'
  else if c = '\\' then some '\\'
  else none

/-- The character that an escape stands for, read after its backslash. -/
private def escape? : List Char → Option (Char × List Char)
  | 'u' :: a :: b :: c :: d :: rest => do return (← scalar? [a, b, c, d], rest)
  | 'U' :: a :: b :: c :: d :: e :: f :: g :: h :: rest => do
    return (← scalar? [a, b, c, d, e, f, g, h], rest)
  | c :: rest => do return (← simpleEscape? c, rest)
  | [] => none

private def skipLines : List Char → List Char
  | '\n' :: rest => skipLines rest
  | '\r' :: '\n' :: rest => skipLines rest
  | ' ' :: rest => skipLines rest
  | '\t' :: rest => skipLines rest
  | rest => rest

/-- After a backslash at the end of a line: what follows the white space. -/
private def folded? (input : List Char) : Option (List Char) :=
  match input.dropWhile isBlank with
  | '\n' :: rest => some (skipLines rest)
  | '\r' :: '\n' :: rest => some (skipLines rest)
  | _ => none

/-- The body of a one-line string with escapes, up to its closing quote. -/
private def basicBody (read : List Char) : Nat → List Char → Option (String × List Char)
  | _ + 1, '"' :: rest => some (String.ofList read.reverse, rest)
  | bound + 1, '\\' :: rest => do
    let (c, rest) ← escape? rest
    basicBody (c :: read) bound rest
  | bound + 1, c :: rest => if isText c then basicBody (c :: read) bound rest else none
  | _, _ => none

/-- The body of a many-line string with escapes. Up to two quotes may stand
right before the closing three. -/
private def manyLineBasicBody (read : List Char) :
    Nat → List Char → Option (String × List Char)
  | _ + 1, '"' :: '"' :: '"' :: '"' :: '"' :: rest =>
    some (String.ofList ('"' :: '"' :: read).reverse, rest)
  | _ + 1, '"' :: '"' :: '"' :: '"' :: rest => some (String.ofList ('"' :: read).reverse, rest)
  | _ + 1, '"' :: '"' :: '"' :: rest => some (String.ofList read.reverse, rest)
  | bound + 1, '\\' :: rest =>
    match escape? rest with
    | some (c, rest) => manyLineBasicBody (c :: read) bound rest
    | none => do manyLineBasicBody read bound (← folded? rest)
  | bound + 1, '\r' :: '\n' :: rest => manyLineBasicBody ('\n' :: read) bound rest
  | bound + 1, c :: rest =>
    if c = '\n' || isText c then manyLineBasicBody (c :: read) bound rest else none
  | _, _ => none

/-- The body of a one-line string without escapes. -/
private def literalBody (read : List Char) : List Char → Option (String × List Char)
  | '\'' :: rest => some (String.ofList read.reverse, rest)
  | c :: rest => if isText c then literalBody (c :: read) rest else none
  | [] => none

/-- The body of a many-line string without escapes. -/
private def manyLineLiteralBody (read : List Char) : List Char → Option (String × List Char)
  | '\'' :: '\'' :: '\'' :: '\'' :: '\'' :: rest =>
    some (String.ofList ('\'' :: '\'' :: read).reverse, rest)
  | '\'' :: '\'' :: '\'' :: '\'' :: rest => some (String.ofList ('\'' :: read).reverse, rest)
  | '\'' :: '\'' :: '\'' :: rest => some (String.ofList read.reverse, rest)
  | '\r' :: '\n' :: rest => manyLineLiteralBody ('\n' :: read) rest
  | c :: rest =>
    if c = '\n' || isText c then manyLineLiteralBody (c :: read) rest else none
  | [] => none

/-- A line end right after the opening quotes of a many-line string is not part
of it. -/
private def withoutFirstLineEnd : List Char → List Char
  | '\n' :: rest => rest
  | '\r' :: '\n' :: rest => rest
  | rest => rest

/-- A string on one line. -/
def shortString : Reader String := ofFunction fun
  | '"' :: rest => basicBody [] rest.length rest
  | '\'' :: rest => literalBody [] rest
  | _ => none

def string : Reader String := ofFunction fun
  | '"' :: '"' :: '"' :: rest =>
    let body := withoutFirstLineEnd rest
    manyLineBasicBody [] body.length body
  | '\'' :: '\'' :: '\'' :: rest => manyLineLiteralBody [] (withoutFirstLineEnd rest)
  | input => shortString input

/-! ## Keys -/

def isBareKey (c : Char) : Bool :=
  c.isAlphanum || c = '_' || c = '-'

def simpleKey : Reader String := do
  match ← peek with
  | some '"' | some '\'' => shortString
  | _ =>
    let name ← takeWhile isBareKey
    if name.isEmpty then failure else return String.ofList name

/-- The keys of a path, separated by dots. -/
def keyPath : Nat → Reader (List String)
  | 0 => failure
  | bound + 1 => do
    blanks
    let key ← simpleKey
    blanks
    if ← accept '.' then return key :: (← keyPath bound) else return [key]

/-- A path as the tables it passes through and the key that it ends in. -/
def splitPath : List String → Option (List String × String)
  | [] => none
  | [key] => some ([], key)
  | step :: rest => do
    let (path, key) ← splitPath rest
    return (step :: path, key)

/-! ## Scalars -/

/-- Digits of a base, between which single underscores may stand. -/
private def digits? (base value : Nat) : List Char → Option Nat
  | [] => none
  | [c] => digit c
  | c :: '_' :: rest => do digits? base (← digit c) rest
  | c :: rest => do digits? base (← digit c) rest
where
  digit (c : Char) : Option Nat := do
    let found ← digitValue? c
    if found < base then some (value * base + found) else none

/-- A decimal number has no leading zero. -/
private def decimal? : List Char → Option Nat
  | ['0'] => some 0
  | '0' :: _ => none
  | cs => digits? 10 0 cs

private def magnitude? : List Char → Option Int
  | '+' :: rest => do return Int.ofNat (← decimal? rest)
  | '-' :: rest => do return -Int.ofNat (← decimal? rest)
  | '0' :: 'x' :: rest => do return Int.ofNat (← digits? 16 0 rest)
  | '0' :: 'o' :: rest => do return Int.ofNat (← digits? 8 0 rest)
  | '0' :: 'b' :: rest => do return Int.ofNat (← digits? 2 0 rest)
  | cs => do return Int.ofNat (← decimal? cs)

/-- One more than the largest integer, which has 64 bits with sign. -/
private def integerBound : Int := 0x8000000000000000

private def integer? (cs : List Char) : Option Int := do
  let number ← magnitude? cs
  if -integerBound ≤ number ∧ number < integerBound then some number else none

/-- Characters of numbers and words; a scalar is the longest run of them. -/
private def isScalar (c : Char) : Bool :=
  c.isAlphanum || c = '_' || c = '-' || c = '+' || c = '.' || c = ':'

def scalar : Reader Value := do
  let word ← takeWhile isScalar
  if word = "true".toList then return .boolean true
  else if word = "false".toList then return .boolean false
  else
    match integer? word with
    | some number => return .integer number
    | none => failure

/-! ## Values -/

mutual

def value : Nat → Reader Value
  | 0 => failure
  | bound + 1 => do
    match ← peek with
    | some '"' | some '\'' => return .text (← string)
    | some '[' =>
      expect '['
      return .array (← arrayItems bound)
    | some '\x7b' =>
      expect '\x7b'
      blanks
      if ← accept '\x7d' then return .table .inline []
      else return .table .inline (← inlineEntries bound [])
    | _ => scalar

/-- The items of an array after its opening bracket; the last one may be
followed by a comma. -/
def arrayItems : Nat → Reader (List Value)
  | 0 => failure
  | bound + 1 => do
    spacing (bound + 1)
    if ← accept ']' then return []
    let item ← value bound
    spacing (bound + 1)
    if ← accept ',' then return item :: (← arrayItems bound)
    expect ']'
    return [item]

/-- The entries of an inline table, on one line and without a final comma. -/
def inlineEntries : Nat → Entries → Reader Entries
  | 0, _ => failure
  | bound + 1, known => do
    let (path, key) ← StateT.lift (splitPath (← keyPath (bound + 1)))
    expect '='
    blanks
    let item ← value bound
    blanks
    let entries ← StateT.lift (known.define key item path)
    if ← accept ',' then inlineEntries bound entries
    else
      expect '\x7d'
      return entries

end

/-! ## Documents -/

/-- A document as far as it has been read: its tables, and the open one. -/
structure Progress where
  entries : Entries
  current : List String

/-- One line: nothing, a comment, a table header or a key with its value. -/
def line (bound : Nat) (progress : Progress) : Reader Progress := do
  blanks
  match ← peek with
  | none => return progress
  | some '\n' | some '\r' =>
    lineEnd
    return progress
  | some '#' =>
    lineTail
    return progress
  | some '[' =>
    expect '['
    let path ← keyPath bound
    expect ']'
    lineTail
    return ⟨← StateT.lift (progress.entries.openTable path), path⟩
  | some _ =>
    let (path, key) ← StateT.lift (splitPath (← keyPath bound))
    expect '='
    blanks
    let item ← value bound
    lineTail
    let define (table : Entries) := table.define key item path
    return { progress with
      entries := ← StateT.lift (progress.entries.within define progress.current) }

private def lines (bound : Nat) : Nat → Progress → Reader Entries
  | 0, _ => failure
  | left + 1, progress => do
    let progress ← line bound progress
    match ← peek with
    | none => return progress.entries
    | some _ => lines bound left progress

/-- A byte order mark may stand before the document. -/
private def withoutMark : List Char → List Char
  | '\ufeff' :: rest => rest
  | input => input

/-- The entries of a document, if it is one. -/
def read? (source : String) : Option Entries :=
  let input := withoutMark source.toList
  let bound := input.length + 1
  (lines bound bound ⟨[], []⟩ input).map (·.1)

end TransportBridge.Toml
