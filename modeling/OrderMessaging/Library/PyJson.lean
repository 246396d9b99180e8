import OrderMessaging.Library.PyValue

/-!
`json.loads` as a reader and `json.dumps` as a printer. The reader follows the
scanner of the standard library: whitespace is skipped around values, numbers
with a fraction or an exponent become floats through `parseFloat`, escaped
surrogate pairs are joined and lone ones kept, a repeated key keeps its last
value, and `NaN` and `Infinity` are read. Every recursive call takes fuel, and
the length of the text is enough. The printer sorts keys, escapes everything
outside ASCII and writes no spaces.
-/

namespace OrderMessaging.PyJson

open OrderMessaging.PyText OrderMessaging.PyException OrderMessaging.PyValue

set_option autoImplicit false

def isSpace (point : CodePoint) : Bool := point.val ∈ [0x20, 0x09, 0x0A, 0x0D]

def skipSpace (text : Str) : Str := text.dropWhile isSpace

def isDigit (point : CodePoint) : Bool := decide (0x30 ≤ point.val ∧ point.val ≤ 0x39)

def digitsValue (digits : Str) : Nat :=
  digits.foldl (fun total digit => total * 10 + (digit.val - 0x30)) 0

def hexValue (point : CodePoint) : Option Nat :=
  if 0x30 ≤ point.val ∧ point.val ≤ 0x39 then some (point.val - 0x30)
  else if 0x41 ≤ point.val ∧ point.val ≤ 0x46 then some (point.val - 0x37)
  else if 0x61 ≤ point.val ∧ point.val ≤ 0x66 then some (point.val - 0x57)
  else none

def hex4 : Str → Option (Nat × Str)
  | first :: second :: third :: fourth :: rest => do
      let a ← hexValue first
      let b ← hexValue second
      let c ← hexValue third
      let d ← hexValue fourth
      some (((a * 16 + b) * 16 + c) * 16 + d, rest)
  | _ => none

def point (value : Nat) : CodePoint := Fin.ofNat 0x110000 value

/-- One `\uXXXX` escape after its `u`, joined with a low surrogate that follows. -/
def scanUnicode (text : Str) : Option (CodePoint × Str) := do
  let (high, rest) ← hex4 text
  if 0xD800 ≤ high ∧ high ≤ 0xDBFF then
    match rest with
    | backslash :: u :: after =>
        if backslash = codePoint '\\' ∧ u = codePoint 'u' then
          let (low, tail) ← hex4 after
          if 0xDC00 ≤ low ∧ low ≤ 0xDFFF then
            some (point (0x10000 + (high - 0xD800) * 0x400 + (low - 0xDC00)), tail)
          else some (point high, rest)
        else some (point high, rest)
    | _ => some (point high, rest)
  else some (point high, rest)

def simpleEscape (escape : CodePoint) : Option CodePoint :=
  if escape = codePoint '"' ∨ escape = codePoint '\\' ∨ escape = codePoint '/' then some escape
  else if escape = codePoint 'b' then some 0x08
  else if escape = codePoint 'f' then some 0x0C
  else if escape = codePoint 'n' then some 0x0A
  else if escape = codePoint 'r' then some 0x0D
  else if escape = codePoint 't' then some 0x09
  else none

def scanString : Nat → Str → Option (Str × Str)
  | 0, _ => none
  | _ + 1, [] => none
  | fuel + 1, head :: rest =>
      if head = codePoint '"' then some ([], rest)
      else if head = codePoint '\\' then
        match rest with
        | [] => none
        | escape :: after => do
            let (decoded, remaining) ←
              if escape = codePoint 'u' then scanUnicode after
              else (simpleEscape escape).map fun decoded => (decoded, after)
            let (tail, final) ← scanString fuel remaining
            some (decoded :: tail, final)
      else if head.val < 0x20 then none
      else do
        let (tail, final) ← scanString fuel rest
        some (head :: tail, final)

def scanSign (mark : Char) : Str → Bool × Str
  | head :: rest => if head = codePoint mark then (true, rest) else (false, head :: rest)
  | [] => (false, [])

def scanFraction : Str → Str × Str
  | dot :: rest =>
      let digits := rest.takeWhile isDigit
      if dot = codePoint '.' ∧ digits ≠ [] then (digits, rest.dropWhile isDigit)
      else ([], dot :: rest)
  | [] => ([], [])

def scanExponent : Str → Option Int × Str
  | mark :: rest =>
      let (negative, unsigned) := scanSign '-' rest
      let unsigned := if negative then unsigned else (scanSign '+' unsigned).2
      let digits := unsigned.takeWhile isDigit
      if (mark = codePoint 'e' ∨ mark = codePoint 'E') ∧ digits ≠ [] then
        (some (if negative then -(digitsValue digits : Int) else digitsValue digits),
          unsigned.dropWhile isDigit)
      else (none, mark :: rest)
  | [] => (none, [])

variable (parseFloat : ℚ → PyFloat)

def scanNumber (text : Str) : Option (PyVal × Str) :=
  let (negative, unsigned) := scanSign '-' text
  let run := unsigned.takeWhile isDigit
  let digits := if run.head? = some (codePoint '0') then run.take 1 else run
  let rest := unsigned.drop digits.length
  if digits = [] then none
  else
    let (fraction, afterFraction) := scanFraction rest
    let (exponent, final) := scanExponent afterFraction
    if fraction = [] ∧ exponent = none then
      some (.int (if negative then -(digitsValue digits : Int) else digitsValue digits), final)
    else
      let magnitude : ℚ := digitsValue (digits ++ fraction) *
        (10 : ℚ) ^ (exponent.getD 0 - (fraction.length : Int))
      some (.float (parseFloat (if negative then -magnitude else magnitude)), final)

def literals : List (Str × PyVal) :=
  [("null", .none), ("true", .bool true), ("false", .bool false), ("NaN", .float .nan),
    ("Infinity", .float (.inf false)), ("-Infinity", .float (.inf true))]

def scanLiteral (text : Str) : Option (PyVal × Str) :=
  literals.findSome? fun literal =>
    if literal.1.isPrefixOf text then some (literal.2, text.drop literal.1.length) else none

mutual

def scanOnce : Nat → Str → Option (PyVal × Str)
  | 0, _ => none
  | _ + 1, [] => none
  | fuel + 1, head :: rest =>
      if head = codePoint '"' then
        (scanString (rest.length + 1) rest).map fun read => (.str read.1, read.2)
      else if head = codePoint '[' then
        match skipSpace rest with
        | close :: after =>
            if close = codePoint ']' then some (.list [], after)
            else scanItems fuel (close :: after) []
        | [] => none
      else if head = codePoint '{' then
        match skipSpace rest with
        | close :: after =>
            if close = codePoint '}' then some (.dict [], after)
            else scanMembers fuel (close :: after) []
        | [] => none
      else
        match scanLiteral (head :: rest) with
        | some read => some read
        | none => scanNumber parseFloat (head :: rest)

def scanItems : Nat → Str → List PyVal → Option (PyVal × Str)
  | 0, _, _ => none
  | fuel + 1, text, items => do
      let (value, rest) ← scanOnce fuel text
      match skipSpace rest with
      | mark :: after =>
          if mark = codePoint ']' then some (.list (items ++ [value]), after)
          else if mark = codePoint ',' then scanItems fuel (skipSpace after) (items ++ [value])
          else none
      | [] => none

def scanMembers : Nat → Str → List (PyVal × PyVal) → Option (PyVal × Str)
  | 0, _, _ => none
  | fuel + 1, text, entries => do
      let quote :: opened := text | none
      if quote ≠ codePoint '"' then none
      else
        let (name, afterName) ← scanString (opened.length + 1) opened
        let colon :: afterColon := skipSpace afterName | none
        if colon ≠ codePoint ':' then none
        else
          let (value, rest) ← scanOnce fuel (skipSpace afterColon)
          let extended := PyVal.insert (.str name) value entries
          match skipSpace rest with
          | mark :: after =>
              if mark = codePoint '}' then some (.dict extended, after)
              else if mark = codePoint ',' then scanMembers fuel (skipSpace after) extended
              else none
          | [] => none

end

def byteOrderMark : CodePoint := 0xFEFF

def loads (text : Str) : Except Exc PyVal :=
  if text.head? = some byteOrderMark then
    .error ⟨jsonDecodeError, "Unexpected UTF-8 BOM (decode using utf-8-sig)"⟩
  else
    match scanOnce parseFloat (text.length + 1) (skipSpace text) with
    | some (value, rest) =>
        if skipSpace rest = [] then .ok value else .error ⟨jsonDecodeError, "Extra data"⟩
    | none => .error ⟨jsonDecodeError, "Expecting value"⟩

def hexText (value : Nat) : Str :=
  [12, 8, 4, 0].map fun shift =>
    let nibble := value / 2 ^ shift % 16
    point (if nibble < 10 then 0x30 + nibble else 0x57 + nibble)

def escapeUnit (value : Nat) : Str := codePoint '\\' :: codePoint 'u' :: hexText value

def escapePoint (head : CodePoint) : Str :=
  if head = codePoint '"' then "\\\""
  else if head = codePoint '\\' then "\\\\"
  else if head.val = 0x08 then "\\b"
  else if head.val = 0x0C then "\\f"
  else if head.val = 0x0A then "\\n"
  else if head.val = 0x0D then "\\r"
  else if head.val = 0x09 then "\\t"
  else if 0x20 ≤ head.val ∧ head.val < 0x7F then [head]
  else if head.val < 0x10000 then escapeUnit head.val
  else
    escapeUnit (0xD800 + (head.val - 0x10000) / 0x400) ++
      escapeUnit (0xDC00 + (head.val - 0x10000) % 0x400)

def quoted (text : Str) : Str := "\"" ++ text.flatMap escapePoint ++ "\""

def joined (parts : List Str) : Str := List.intercalate "," parts

def keyBefore (left right : Str × Str) : Bool := decide (left.1 ≤ right.1)

def intText (value : Int) : Str := ofString (toString value)

mutual

/-- `none` stands for the `TypeError` about a key that is not text. -/
def dumps (floatText : PyFloat → Str) : PyVal → Option Str
  | .none => some "null"
  | .bool value => some (if value then "true" else "false")
  | .int value => some (intText value)
  | .float value => some (floatText value)
  | .str text => some (quoted text)
  | .list items => do
      let parts ← dumpsItems floatText items
      some ("[" ++ joined parts ++ "]")
  | .dict entries => do
      let members ← dumpsEntries floatText entries
      let sorted := members.mergeSort keyBefore
      let members := sorted.map fun member => quoted member.1 ++ ":" ++ member.2
      some ("\x7b" ++ joined members ++ "\x7d")

def dumpsItems (floatText : PyFloat → Str) : List PyVal → Option (List Str)
  | [] => some []
  | item :: rest => do
      let head ← dumps floatText item
      let tail ← dumpsItems floatText rest
      some (head :: tail)

def dumpsEntries (floatText : PyFloat → Str) : List (PyVal × PyVal) → Option (List (Str × Str))
  | [] => some []
  | (.str key, value) :: rest => do
      let head ← dumps floatText value
      let tail ← dumpsEntries floatText rest
      some ((key, head) :: tail)
  | _ :: _ => none

end

end OrderMessaging.PyJson
