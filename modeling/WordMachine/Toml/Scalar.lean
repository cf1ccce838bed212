import WordMachine.Toml.Value

/-!
# TOML scalars

How texts, numbers, dates and times are written. A reader takes its part off the front
of the characters; nothing is said about why one fails.
-/

namespace WordMachine.Toml

/-- Takes something off the front of the characters. -/
abbrev Reader (α : Type) := List Char → Option (α × List Char)

/-- A space or a tab. -/
def isSpace (c : Char) : Bool := c = ' ' || c = '\t'

/-- Part of the end of a line. -/
def isLineEnd (c : Char) : Bool := c = '\n' || c = '\r'

def isDigit (c : Char) : Bool := '0' ≤ c && c ≤ '9'

/-! ## Texts -/

/-- The mark before and after a text without escapes. -/
def apostrophe : Char := '\x27'

def digitOf? (base : Nat) (c : Char) : Option Nat :=
  (Numeral.digit? c).bind fun d => if d < base then some d else none

def digitsValue? (base : Nat) (digits : List Char) : Option Nat :=
  digits.foldlM (fun value c => (digitOf? base c).map (base * value + ·)) 0

def charOfDigits? (digits : List Char) : Option Char := do
  let code ← digitsValue? 16 digits
  if code.isValidChar then return Char.ofNat code else none

/-- The character of a one-letter escape. -/
def escaped? (letter : Char) : Option Char :=
  if letter = 'b' then some '\x08'
  else if letter = 't' then some '\t'
  else if letter = 'n' then some '\n'
  else if letter = 'f' then some '\x0C'
  else if letter = 'r' then some '\r'
  else if letter = 'e' then some '\x1B'
  else if letter = '"' ∨ letter = '\\' then some letter
  else none

/-- How many digits follow the letter of an escape that spells a code. -/
def codeLength (letter : Char) : Nat :=
  if letter = 'x' then 2 else if letter = 'u' then 4 else if letter = 'U' then 8 else 0

/-- Whether every escape that spells a code has all its digits right after its letter. -/
def codesWhole : List Char → Bool
  | [] => true
  | '\\' :: letter :: rest =>
    let digits := rest.take (codeLength letter)
    digits.length = codeLength letter && digits.all (fun c => (digitOf? 16 c).isSome) &&
      codesWhole rest
  | _ :: rest => codesWhole rest

/-- The characters so far and then others, with their escapes resolved. -/
def unescapeInto (out : Array Char) : List Char → Option (Array Char)
  | [] => some out
  | '\\' :: 'x' :: a :: b :: rest => do
    unescapeInto (out.push (← charOfDigits? [a, b])) rest
  | '\\' :: 'u' :: a :: b :: c :: d :: rest => do
    unescapeInto (out.push (← charOfDigits? [a, b, c, d])) rest
  | '\\' :: 'U' :: a :: b :: c :: d :: e :: f :: g :: h :: rest => do
    unescapeInto (out.push (← charOfDigits? [a, b, c, d, e, f, g, h])) rest
  | '\\' :: letter :: rest => do
    unescapeInto (out.push (← escaped? letter)) rest
  | c :: rest => if c = '\\' then none else unescapeInto (out.push c) rest

/-- The characters with their escapes resolved. -/
def unescape (cs : List Char) : Option (List Char) :=
  (unescapeInto #[] cs).map (·.toList)

/-- The characters so far and then others, without the blanks and line ends after a
    backslash that ends a line, and without that backslash. -/
def joinLinesInto (out : Array Char) : List Char → Array Char
  | [] => out
  | '\\' :: '\\' :: rest => joinLinesInto ((out.push '\\').push '\\') rest
  | c :: rest =>
    if c = '\\' ∧ (rest.takeWhile fun d => isSpace d || isLineEnd d).contains '\n' then
      joinLinesInto out (rest.dropWhile fun d => isSpace d || isLineEnd d)
    else joinLinesInto (out.push c) rest
termination_by cs => cs.length
decreasing_by
  · simp only [List.length_cons]; omega
  · have shorter :=
      (List.dropWhile_sublist (fun d => isSpace d || isLineEnd d) (l := rest)).length_le
    simp only [List.length_cons]; omega
  · simp only [List.length_cons]; omega

/-- The characters without line ends that a backslash takes away. -/
def joinLines (cs : List Char) : List Char := (joinLinesInto #[] cs).toList

/-- The characters of a text on one line up to its closing quote, escapes unresolved. -/
def takeBasic (out : Array Char) : Reader (List Char)
  | [] => none
  | '\\' :: c :: rest => takeBasic ((out.push '\\').push c) rest
  | c :: rest =>
    if c = '"' then some (out.toList, rest)
    else if isLineEnd c then none
    else takeBasic (out.push c) rest

/-- The characters of a text on one line without escapes, up to its closing mark. -/
def takeLiteral (out : Array Char) : Reader (List Char)
  | [] => none
  | c :: rest =>
    if c = apostrophe then some (out.toList, rest)
    else if isLineEnd c then none
    else takeLiteral (out.push c) rest

/-- The end of a text over several lines, after a run of `marks` marks: the last three
    close it and those before them belong to it. -/
def closeLong? (mark : Char) (out : Array Char) (marks most : Nat) : Option (List Char) :=
  if 3 ≤ marks ∧ marks ≤ most then some (out.toList ++ List.replicate (marks - 3) mark) else none

/-- The most marks that a closing run may have. -/
abbrev closingRun : Nat := 5

/-- The characters of a text over several lines up to its closing marks, escapes
    unresolved. `marks` counts the marks just before, and `most` how many of them may
    close the text: one more than usual after an escaped backslash. -/
def takeLong (mark : Char) (escapes : Bool) (out : Array Char) (marks most : Nat) :
    Reader (List Char)
  | [] => (closeLong? mark out marks most).map fun content => (content, [])
  | c :: rest =>
    if c = mark then takeLong mark escapes out (marks + 1) most rest
    else if 3 ≤ marks then
      (closeLong? mark out marks most).map fun content => (content, c :: rest)
    else
      let out := (List.replicate marks mark).foldl Array.push out
      if escapes ∧ c = '\\' then
        match rest with
        | [] => none
        | d :: more =>
          takeLong mark escapes ((out.push c).push d) 0
            (if d = '\\' then closingRun + 1 else closingRun) more
      else takeLong mark escapes (out.push c) 0 closingRun rest

/-- The characters after a line end at their start. -/
def dropFirstLineEnd : List Char → List Char
  | '\n' :: rest => rest
  | '\r' :: '\n' :: rest => rest
  | cs => cs

/-- A text on one line, after its opening mark. -/
def readLine (mark : Char) : Reader String := fun cs =>
  if mark = '"' then do
    let (raw, rest) ← takeBasic #[] cs
    return (String.ofList (← unescape raw), rest)
  else do
    let (raw, rest) ← takeLiteral #[] cs
    return (String.ofList raw, rest)

/-- A text over several lines, after its three opening marks. -/
def readLines (mark : Char) : Reader String := fun cs =>
  if mark = '"' then do
    let (raw, rest) ← takeLong mark true #[] 0 closingRun cs
    if codesWhole raw then
      return (String.ofList (← unescape (joinLines (dropFirstLineEnd raw))), rest)
    else none
  else do
    let (raw, rest) ← takeLong mark false #[] 0 closingRun cs
    return (String.ofList (dropFirstLineEnd raw), rest)

/-- A text of either form, after its first opening mark. -/
def readText (mark : Char) : Reader String
  | a :: b :: rest =>
    if a = mark ∧ b = mark then readLines mark rest else readLine mark (a :: b :: rest)
  | cs => readLine mark cs

/-! ## Numbers -/

/-- Whether underscores stand between digits only, and a digit at the end. `afterDigit`
    says that a digit stands before. -/
def underscoresFit (afterDigit : Bool) : List Char → Bool
  | [] => afterDigit
  | c :: rest =>
    if c = '_' then afterDigit && underscoresFit false rest else underscoresFit true rest

/-- The digits of a number without the underscores between them. There is at least one
    digit. -/
def withoutUnderscores? (cs : List Char) : Option (List Char) :=
  if underscoresFit false cs then some (cs.filter (· ≠ '_')) else none

/-- The number that digits of a base spell. Digits after it has reached the cap add
    nothing. -/
def cappedValue? (cap base : Nat) (digits : List Char) : Option Nat :=
  digits.foldlM (fun value c => (digitOf? base c).map fun digit =>
    if value < cap then base * value + digit else value) 0

/-- A number past every integer. -/
abbrev integerCap : Nat := 0x10000000000000000

/-- The value of digits of a base with underscores between them, exact for integers. -/
def magnitude? (base : Nat) (digits : List Char) : Option Nat := do
  cappedValue? integerCap base (← withoutUnderscores? digits)

/-- Whether digits start with a needless zero. -/
def hasNeedlessZero : List Char → Bool
  | '0' :: _ :: _ => true
  | _ => false

/-- The value of decimal digits that do not start with a needless zero. -/
def decimalMagnitude? (digits : List Char) : Option Nat :=
  if hasNeedlessZero digits then none else magnitude? 10 digits

/-- A sign, if there is one, and the characters after it. -/
def splitSign : List Char → Option Bool × List Char
  | '+' :: rest => (some false, rest)
  | '-' :: rest => (some true, rest)
  | cs => (none, cs)

def signed (negative : Bool) (n : Nat) : Int :=
  if negative then -(n : Int) else n

/-- An integer of 64 bits. -/
def inRange? (n : Int) : Option Int :=
  if -0x8000000000000000 ≤ n ∧ n < 0x8000000000000000 then some n else none

/-- An integer. Only decimal ones take a sign. -/
def integer? (token : List Char) : Option Int :=
  match splitSign token with
  | (none, '0' :: 'x' :: digits) => (magnitude? 16 digits).bind fun (n : Nat) => inRange? n
  | (none, '0' :: 'o' :: digits) => (magnitude? 8 digits).bind fun (n : Nat) => inRange? n
  | (none, '0' :: 'b' :: digits) => (magnitude? 2 digits).bind fun (n : Nat) => inRange? n
  | (sign, digits) => (decimalMagnitude? digits).bind fun n => inRange? (signed (sign.getD false) n)

/-- The digits of the least number that is rounded to infinity in double precision. -/
def overflow : List Char := Nat.toDigits 10 (Nat.pow 2 1024 - Nat.pow 2 970)

/-- Whether the number that digits spell, times ten to the power `exponent`, is finite in
    double precision: it has fewer digits before its point than the least that is not, or
    as many and smaller ones. -/
def fits (digits : List Char) (exponent : Int) : Bool :=
  let digits := digits.dropWhile (· = '0')
  let whole : Int := digits.length + exponent
  digits.isEmpty || whole < overflow.length ||
    (whole == overflow.length && decide (digits < overflow))

def splitExponent (cs : List Char) : List Char × Option (List Char) :=
  match cs.span fun c => !(c = 'e' || c = 'E') with
  | (before, []) => (before, none)
  | (before, _ :: after) => (before, some after)

/-- The size from which digits of an exponent no longer count. -/
abbrev exponentCap : Nat := 10000

/-- The exponent of a number, zero if none is written. -/
def exponent? : Option (List Char) → Option Int
  | none => some 0
  | some digits => do
    let (sign, digits) := splitSign digits
    return signed (sign.getD false)
      (← cappedValue? exponentCap 10 (← withoutUnderscores? digits))

/-- Decimal digits without the underscores between them. -/
def decimalDigits? (cs : List Char) : Option (List Char) := do
  let digits ← withoutUnderscores? cs
  if digits.all isDigit then return digits else none

/-- The digits before an exponent, and how many of them stand after the point. -/
def significand? (cs : List Char) : Option (List Char × Nat) :=
  match cs.span (· ≠ '.') with
  | (whole, []) => do
    if hasNeedlessZero whole then none else return (← decimalDigits? whole, 0)
  | (whole, _ :: fraction) => do
    if hasNeedlessZero whole then none
    else
      let digits ← decimalDigits? fraction
      return ((← decimalDigits? whole) ++ digits, digits.length)

/-- A number with a fraction, an exponent or both. -/
def decimal? (token : List Char) : Option Decimal := do
  let (sign, body) := splitSign token
  let negative := sign.getD false
  if body = ['i', 'n', 'f'] then return .infinite negative
  else if body = ['n', 'a', 'n'] then return .undefined
  else
    let (front, power) := splitExponent body
    let shift ← exponent? power
    let (digits, places) ← significand? front
    let exponent := shift - (places : Int)
    if (power.isSome ∨ '.' ∈ front) ∧ fits digits exponent then
      return .finite negative digits exponent
    else none

/-! ## Dates and times -/

/-- A number of exactly so many digits. -/
def fixedDigits (count : Nat) : Reader Nat := fun cs => do
  let digits := cs.take count
  if digits.length = count then return (← digitsValue? 10 digits, cs.drop count) else none

/-- A given character. -/
def expect (c : Char) : Reader Unit
  | d :: rest => if d = c then some ((), rest) else none
  | [] => none

def daysIn (year month : Nat) : Nat :=
  if month = 2 then
    if year % 4 = 0 ∧ (year % 100 ≠ 0 ∨ year % 400 = 0) then 29 else 28
  else if month = 4 ∨ month = 6 ∨ month = 9 ∨ month = 11 then 30
  else 31

def readDate : Reader Unit := fun cs => do
  let (year, cs) ← fixedDigits 4 cs
  let (_, cs) ← expect '-' cs
  let (month, cs) ← fixedDigits 2 cs
  let (_, cs) ← expect '-' cs
  let (day, cs) ← fixedDigits 2 cs
  if 1 ≤ month ∧ month ≤ 12 ∧ 1 ≤ day ∧ day ≤ daysIn year month then return ((), cs) else none

/-- The characters after a fraction of a second, if there is one. -/
def skipFraction : List Char → List Char
  | '.' :: d :: rest => if isDigit d then rest.dropWhile isDigit else '.' :: d :: rest
  | cs => cs

/-- Reads over a time of day. Seconds may be left out. -/
def readTime : Reader Unit := fun cs => do
  let (hour, cs) ← fixedDigits 2 cs
  let (_, cs) ← expect ':' cs
  let (minute, cs) ← fixedDigits 2 cs
  if hour < 24 ∧ minute < 60 then
    match expect ':' cs with
    | none => return ((), cs)
    | some (_, cs) =>
      let (second, cs) ← fixedDigits 2 cs
      if second < 60 then return ((), skipFraction cs) else none
  else none

/-- Whether the characters are an offset from universal time, or nothing. A whole day and
    a whole hour are allowed. -/
def isOffset : List Char → Bool
  | [] => true
  | ['Z'] | ['z'] => true
  | sign :: cs =>
    if sign = '+' ∨ sign = '-' then
      match (do
        let (hours, cs) ← fixedDigits 2 cs
        let (_, cs) ← expect ':' cs
        let (minutes, cs) ← fixedDigits 2 cs
        return (hours, minutes, cs) : Option (Nat × Nat × List Char)) with
      | some (hours, minutes, []) => decide (hours ≤ 24 ∧ minutes ≤ 60)
      | _ => false
    else false

/-- Whether the characters are a date, a time of day, or a date and a time with an offset
    or without. -/
def isMoment (cs : List Char) : Bool :=
  match readDate cs with
  | some (_, []) => true
  | some (_, c :: rest) =>
    (c = 'T' || c = 't' || c = ' ') &&
      (match readTime rest with
      | some (_, offset) => isOffset offset
      | none => false)
  | none =>
    match readTime cs with
    | some (_, []) => true
    | _ => false

/-- A character that a date and a time may have. -/
def isMomentChar (c : Char) : Bool :=
  isDigit c || c = '-' || c = ':' || c = 'T' || c = 't' || c = ' ' || c = '.' || c = 'Z' ||
    c = 'z' || c = '+'

/-- A character that a number may have. -/
def isNumberChar (c : Char) : Bool :=
  isBare c || c = '+' || c = '.'

/-- A date or a time. The spaces after it do not belong to it. -/
def readMoment : Reader Value := fun cs =>
  let (taken, rest) := cs.span isMomentChar
  let written := (taken.reverse.dropWhile (· = ' ')).reverse
  if isMoment written then some (.moment (String.ofList written), rest) else none

def readNumber : Reader Value := fun cs => do
  let (token, rest) := cs.span isNumberChar
  match integer? token with
  | some n => return (.integer n, rest)
  | none => return (.decimal (← decimal? token), rest)

/-- A number, a date or a time. Digits before a hyphen or a colon start a date or a time. -/
def readPlain : Reader Value := fun cs =>
  match cs.dropWhile isDigit with
  | c :: _ =>
    if cs.head?.any isDigit ∧ (c = '-' ∨ c = ':') then readMoment cs else readNumber cs
  | [] => readNumber cs

def readTruth : Reader Value := fun cs =>
  let (word, rest) := cs.span isBare
  if word = "true".toList then some (.truth true, rest)
  else if word = "false".toList then some (.truth false, rest)
  else none

end WordMachine.Toml
