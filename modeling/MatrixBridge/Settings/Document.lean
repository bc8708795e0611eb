/-!
# Settings documents

The text form of settings is a TOML document. A setting is a text or an integer and stands at the
top level, so a document that holds anything else (a table, an array, a dotted key, a value of
another kind) names no settings and is refused whole, as an ill-formed one is. What is left of TOML
is read exactly: bare and quoted keys, the four forms of text, integers in four bases, comments.
-/

namespace MatrixBridge.Settings

inductive Datum where
  | text (s : String)
  | integer (n : Int)
deriving DecidableEq, Repr

namespace Document

def isBlank (c : Char) : Bool := c = ' ' || c = '\t'

def skipBlanks (cs : List Char) : List Char := cs.dropWhile isBlank

def isPlain (c : Char) : Bool := c = '\t' || (' ' ≤ c && c ≠ '\x7F')

def lineBreak? : List Char → Option (List Char)
  | [] => some []
  | '\n' :: rest => some rest
  | '\r' :: '\n' :: rest => some rest
  | _ => none

def lineEnd? (cs : List Char) : Option (List Char) :=
  match skipBlanks cs with
  | '#' :: rest => lineBreak? (rest.dropWhile isPlain)
  | rest => lineBreak? rest

/-! ## Texts -/

def hexDigit? (c : Char) : Option Nat :=
  if '0' ≤ c ∧ c ≤ '9' then some (c.toNat - '0'.toNat)
  else if 'a' ≤ c ∧ c ≤ 'f' then some (c.toNat - 'a'.toNat + 10)
  else if 'A' ≤ c ∧ c ≤ 'F' then some (c.toNat - 'A'.toNat + 10)
  else none

def codePoint? (ds : List Char) : Option Char := do
  let n ← ds.foldlM (fun n c => return n * 16 + (← hexDigit? c)) 0
  if n.isValidChar then some (.ofNat n) else none

def escaped? : Char → Option Char
  | 'b' => some '\x08'
  | 't' => some '\t'
  | 'n' => some '\n'
  | 'f' => some '\x0C'
  | 'r' => some '\r'
  | '"' => some '"'
  | '\\' => some '\\'
  | _ => none

abbrev Reading := Option (List Char × List Char)

def prepend (c : Option Char) (reading : Reading) : Reading := do
  let c ← c
  let (text, rest) ← reading
  return (c :: text, rest)

def basic? : List Char → Reading
  | '"' :: rest => some ([], rest)
  | '\\' :: 'u' :: a :: b :: c :: d :: rest => prepend (codePoint? [a, b, c, d]) (basic? rest)
  | '\\' :: 'U' :: a :: b :: c :: d :: e :: f :: g :: h :: rest =>
    prepend (codePoint? [a, b, c, d, e, f, g, h]) (basic? rest)
  | '\\' :: c :: rest => prepend (escaped? c) (basic? rest)
  | c :: rest => if isPlain c then prepend c (basic? rest) else none
  | [] => none

def literal? : List Char → Reading
  | '\'' :: rest => some ([], rest)
  | c :: rest => if isPlain c then prepend c (literal? rest) else none
  | [] => none

/-- How many quotes stand at the front, but at most five. -/
def quoteRun (quote : Char) (cs : List Char) : Nat := ((cs.take 5).takeWhile (· = quote)).length

/-- The rest of a text of several lines, where `skipping` says that line breaks and blanks are
being skipped after a backslash at the end of a line. Three quotes close the text; up to two more
in front of them belong to it. -/
def multilineBasic? (skipping : Bool) : List Char → Reading
  | [] => none
  | '\r' :: '\n' :: rest =>
    if skipping then multilineBasic? true rest else prepend '\n' (multilineBasic? false rest)
  | '\\' :: 'u' :: a :: b :: c :: d :: rest =>
    prepend (codePoint? [a, b, c, d]) (multilineBasic? false rest)
  | '\\' :: 'U' :: a :: b :: c :: d :: e :: f :: g :: h :: rest =>
    prepend (codePoint? [a, b, c, d, e, f, g, h]) (multilineBasic? false rest)
  | '\\' :: c :: rest =>
    match escaped? c with
    | some c => prepend c (multilineBasic? false rest)
    | none =>
      if (lineBreak? (skipBlanks (c :: rest))).isSome ∧ skipBlanks (c :: rest) ≠ [] then
        multilineBasic? true (c :: rest)
      else none
  | c :: rest =>
    let quotes := quoteRun '"' (c :: rest)
    if 3 ≤ quotes then some (List.replicate (quotes - 3) '"', (c :: rest).drop quotes)
    else if skipping ∧ (isBlank c ∨ c = '\n') then multilineBasic? true rest
    else if isPlain c ∨ c = '\n' then prepend c (multilineBasic? false rest)
    else none

def multilineLiteral? : List Char → Reading
  | [] => none
  | '\r' :: '\n' :: rest => prepend '\n' (multilineLiteral? rest)
  | c :: rest =>
    let quotes := quoteRun '\'' (c :: rest)
    if 3 ≤ quotes then some (List.replicate (quotes - 3) '\'', (c :: rest).drop quotes)
    else if isPlain c ∨ c = '\n' then prepend c (multilineLiteral? rest)
    else none

def dropFirstBreak : List Char → List Char
  | '\n' :: rest => rest
  | '\r' :: '\n' :: rest => rest
  | cs => cs

/-! ## Integers -/

def digit? (base : Nat) (c : Char) : Option Nat := (hexDigit? c).filter (· < base)

/-- Digits of a base; a single underscore may stand between two of them. -/
def digits? (base acc : Nat) : List Char → Option Nat
  | [] => some acc
  | '_' :: c :: rest => do digits? base (acc * base + (← digit? base c)) rest
  | c :: rest => do digits? base (acc * base + (← digit? base c)) rest

def natural? (base : Nat) : List Char → Option Nat
  | c :: rest => do digits? base (← digit? base c) rest
  | [] => none

def decimal? : List Char → Option Nat
  | ['0'] => some 0
  | '0' :: _ => none
  | cs => natural? 10 cs

def integer? (cs : List Char) : Option Int := do
  let n : Int ← match cs with
    | '0' :: 'x' :: rest => natural? 16 rest
    | '0' :: 'o' :: rest => natural? 8 rest
    | '0' :: 'b' :: rest => natural? 2 rest
    | '+' :: rest => decimal? rest
    | '-' :: rest => (decimal? rest).map fun n => -(n : Int)
    | rest => decimal? rest
  if Int64.minValue.toInt ≤ n ∧ n ≤ Int64.maxValue.toInt then some n else none

def isWordChar (c : Char) : Bool := c.isAlphanum || c = '_' || c = '-' || c = '+'

/-! ## Lines -/

def datum? (cs : List Char) : Option (Datum × List Char) :=
  let text (reading : Reading) := reading.map fun (cs, rest) => (Datum.text (.ofList cs), rest)
  match cs with
  | '"' :: '"' :: '"' :: rest => text (multilineBasic? false (dropFirstBreak rest))
  | '"' :: rest => text (basic? rest)
  | '\'' :: '\'' :: '\'' :: rest => text (multilineLiteral? (dropFirstBreak rest))
  | '\'' :: rest => text (literal? rest)
  | cs => (integer? (cs.takeWhile isWordChar)).map fun n => (.integer n, cs.dropWhile isWordChar)

def isBareKeyChar (c : Char) : Bool := c.isAlphanum || c = '_' || c = '-'

def key? (cs : List Char) : Option (String × List Char) :=
  let named (reading : Reading) := reading.map fun (cs, rest) => (String.ofList cs, rest)
  match cs with
  | '"' :: rest => named (basic? rest)
  | '\'' :: rest => named (literal? rest)
  | cs => match cs.takeWhile isBareKeyChar with
    | [] => none
    | key => some (.ofList key, cs.dropWhile isBareKeyChar)

def setting? (cs : List Char) : Option ((String × Datum) × List Char) := do
  let (key, rest) ← key? cs
  match skipBlanks rest with
  | '=' :: rest => do
    let (datum, rest) ← datum? (skipBlanks rest)
    return ((key, datum), ← lineEnd? rest)
  | _ => none

def lines? : Nat → List Char → Option (List (String × Datum))
  | 0, cs => if cs = [] then some [] else none
  | bound + 1, cs =>
    match skipBlanks cs with
    | [] => some []
    | cs@('#' :: _) | cs@('\n' :: _) | cs@('\r' :: _) => do lines? bound (← lineEnd? cs)
    | cs => do
      let (setting, rest) ← setting? cs
      return setting :: (← lines? bound rest)

end Document

/-- The keys and data of a document, in order. A key may be given once. -/
def Document.read? (document : String) : Option (List (String × Datum)) := do
  let cs := document.toList
  let cs := match cs with
    | '\uFEFF' :: rest => rest
    | cs => cs
  let settings ← lines? (cs.length + 1) cs
  if (settings.map (·.1)).Nodup then some settings else none

end MatrixBridge.Settings
