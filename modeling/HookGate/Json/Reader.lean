import HookGate.Json.Error

/-! # Reading JSON

Readers take characters off the front of a text. The first fault in the order of the text decides the error. Values
are read whole or passed over; what is passed over is held to less: no bound on depth or on the size of numbers, and
no pairing of surrogates. -/
namespace HookGate.Json

abbrev Reader := StateT (List Char) (Except Error)

namespace Reader

/-- The next character, left in place. -/
def peek : Reader (Option Char) := fun cs => .ok (cs.head?, cs)

/-- Passes over one character. -/
def advance : Reader Unit := fun cs => .ok ((), cs.drop 1)

def isSpace (c : Char) : Bool := c == ' ' || c == '\n' || c == '\t' || c == '\r'

/-- Passes over blanks and gives the character behind them, left in place. -/
def peekToken : Reader (Option Char) := fun cs =>
  let rest := cs.dropWhile isSpace
  .ok (rest.head?, rest)

def fail {α : Type} (e : Error) : Reader α := fun _ => .error e

/-- Reads the letters of a word. -/
def ident : List Char → Reader Unit
  | [], cs => .ok ((), cs)
  | _ :: _, [] => .error .endInValue
  | x :: xs, c :: cs => if x = c then ident xs cs else .error .expectedIdent

/-! ## Strings -/

def hexValue? (c : Char) : Option Nat :=
  if '0' ≤ c ∧ c ≤ '9' then some (c.toNat - 48)
  else if 'a' ≤ c ∧ c ≤ 'f' then some (c.toNat - 87)
  else if 'A' ≤ c ∧ c ≤ 'F' then some (c.toNat - 55)
  else none

/-- The number that four hexadecimal digits write. -/
def hexValue4? (a b c d : Char) : Option Nat := do
  return (((← hexValue? a) * 16 + (← hexValue? b)) * 16 + (← hexValue? c)) * 16 + (← hexValue? d)

/-- Reads four hexadecimal digits; where not even four bytes are left, the text has ended. -/
def hexEscape : Reader Nat := fun cs =>
  let bytesLeft := (cs.take 4).foldl (fun n c => n + c.utf8Size) 0
  let cut := if bytesLeft < 4 then Error.endInString else .invalidEscape
  match cs with
  | a :: b :: c :: d :: rest => match hexValue4? a b c d with
    | some n => .ok (n, rest)
    | none => .error cut
  | _ => .error cut

def simpleEscape? : Char → Option Char
  | '"' => some '"'
  | '\\' => some '\\'
  | '/' => some '/'
  | 'b' => some '\x08'
  | 'f' => some '\x0c'
  | 'n' => some '\n'
  | 'r' => some '\r'
  | 't' => some '\t'
  | _ => none

def isLead (n : Nat) : Bool := 0xD800 ≤ n && n ≤ 0xDBFF

def isTrail (n : Nat) : Bool := 0xDC00 ≤ n && n ≤ 0xDFFF

/-- Reads one character of the mark `\u` that the second half of a pair needs. -/
def pairMark (c : Char) : Reader Unit := fun cs =>
  match cs with
  | [] => .error .endInString
  | x :: rest => if x = c then .ok ((), rest) else .error .endOfSurrogates

/-- Reads what stands behind the mark `\u`: four digits, or two times four for a character beyond the first plane. -/
def unicodeEscape : Reader Char := do
  let n ← hexEscape
  if isTrail n then fail .loneSurrogate
  else if isLead n then
    pairMark '\\'
    pairMark 'u'
    let m ← hexEscape
    if isTrail m then return Char.ofNat ((n - 0xD800) * 0x400 + (m - 0xDC00) + 0x10000)
    else fail .loneSurrogate
  else return Char.ofNat n

/-- The character that is written behind a backslash, and how many characters write it. -/
def escape : List Char → Except Error (Char × Nat)
  | [] => .error .endInString
  | c :: rest =>
    if c = 'u' then do
      let (x, _) ← unicodeEscape rest
      return (x, if x.toNat < 0x10000 then 5 else 11)
    else match simpleEscape? c with
      | some x => .ok (x, 1)
      | none => .error .invalidEscape

/-- Reads up to the closing quote; `skip` characters belong to the escape before, and `seen` holds the characters of the
string so far, the last one first. -/
def stringBody : Nat → List Char → Reader String
  | _, _, [] => .error .endInString
  | skip + 1, seen, _ :: rest => stringBody skip seen rest
  | 0, seen, c :: rest =>
    if c = '"' then .ok (String.ofList seen.reverse, rest)
    else if c = '\\' then do
      let (x, width) ← escape rest
      stringBody width (x :: seen) rest
    else if c.toNat < 0x20 then .error .controlCharacter
    else stringBody 0 (c :: seen) rest

/-- Reads a string behind its opening quote. -/
def stringRest : Reader String := stringBody 0 []

/-- How many characters an escape takes behind its backslash, where halves of pairs may stand alone. -/
def escapeWidth : List Char → Except Error Nat
  | [] => .error .endInString
  | c :: rest =>
    if c = 'u' then do
      let _ ← hexEscape rest
      return 5
    else if (simpleEscape? c).isSome then .ok 1
    else .error .invalidEscape

def skipStringBody : Nat → Reader Unit
  | _, [] => .error .endInString
  | skip + 1, _ :: rest => skipStringBody skip rest
  | 0, c :: rest =>
    if c = '"' then .ok ((), rest)
    else if c = '\\' then do skipStringBody (← escapeWidth rest) rest
    else if c.toNat < 0x20 then .error .controlCharacter
    else skipStringBody 0 rest

/-- Passes over a string behind its opening quote. -/
def skipStringRest : Reader Unit := skipStringBody 0

/-! ## Numbers -/

def digit? (c : Char) : Option Nat := if '0' ≤ c ∧ c ≤ '9' then some (c.toNat - 48) else none

def isDigit (c : Char) : Bool := (digit? c).isSome

/-- Adds digits to a significand as long as it fits 64 bits; gives it with the count of the digits that were added,
of those that were not, and the rest. -/
def takeDigits (significand added dropped : Nat) : List Char → Nat × Nat × Nat × List Char
  | [] => (significand, added, dropped, [])
  | c :: cs => match digit? c with
    | none => (significand, added, dropped, c :: cs)
    | some d =>
      if dropped = 0 ∧ significand * 10 + d < 0x10000000000000000 then takeDigits (significand * 10 + d) (added + 1) 0 cs
      else takeDigits significand added (dropped + 1) cs

/-- Scales by a power of ten in steps of at most 308. -/
def scale : Nat → Float → Int → Except Error Float
  | 0, f, _ => .ok f
  | fuel + 1, f, e =>
    if e.natAbs ≤ 308 then
      if 0 ≤ e then
        let g := f * Float.ofScientific 1 false e.natAbs
        if g.isInf then .error .numberOutOfRange else .ok g
      else .ok (f / Float.ofScientific 1 false e.natAbs)
    else if f == 0 then .ok f
    else if 0 ≤ e then .error .numberOutOfRange
    else scale fuel (f / Float.ofScientific 1 false 308) (e + 308)

def signed (positive : Bool) (f : Float) : Number :=
  .double ⟨(if positive then f else -f).toBits⟩

/-- The number of a significand and a power of ten. -/
def assemble (positive : Bool) (significand : Nat) (e : Int) : Except Error Number :=
  return signed positive (← scale 8 significand.toUInt64.toFloat e)

/-- Whether an exponent goes up, which it does without a sign too, and what stands behind its sign. -/
def exponentSign : List Char → Bool × List Char
  | '+' :: r => (true, r)
  | '-' :: r => (false, r)
  | cs => (true, cs)

/-- Reads the digits of an exponent. -/
def exponentDigits (positive : Bool) (significand : Nat) (start : Int) (up : Bool) : Reader Number := fun cs =>
  match cs with
  | [] => .error .endInValue
  | c :: _ =>
    if isDigit c then
      let digits := cs.takeWhile isDigit
      let rest := cs.dropWhile isDigit
      let e := digits.foldl (fun n d => n * 10 + (d.toNat - 48)) 0
      if e < 0x80000000 then do
        let n ← assemble positive significand (if up then start + Int.ofNat e else start - Int.ofNat e)
        return (n, rest)
      else if significand ≠ 0 ∧ up then .error .numberOutOfRange
      else .ok (signed positive 0, rest)
    else .error .invalidNumber

/-- Reads the exponent behind its letter. -/
def exponent (positive : Bool) (significand : Nat) (start : Int) : Reader Number := fun cs =>
  exponentDigits positive significand start (exponentSign cs).1 (exponentSign cs).2

/-- Reads what follows the whole part: a fraction, an exponent, or nothing. -/
def numberRest (positive : Bool) (significand : Nat) (dropped : Nat) : Reader Number := fun cs =>
  match cs with
  | '.' :: cs =>
    let (significand, added, ignored, rest) := takeDigits significand 0 0 cs
    if added = 0 ∧ ignored = 0 then .error (if rest = [] then .endInValue else .invalidNumber)
    else
      let e := (dropped : Int) - added
      match rest with
      | 'e' :: r | 'E' :: r => exponent positive significand e r
      | r => do return (← assemble positive significand e, r)
  | 'e' :: cs | 'E' :: cs => exponent positive significand dropped cs
  | cs =>
    if dropped ≠ 0 then do return (← assemble positive significand dropped, cs)
    else if positive then .ok (.integer significand, cs)
    else if 0 < significand ∧ significand ≤ 0x8000000000000000 then .ok (.integer (-significand), cs)
    else .ok (signed false significand.toUInt64.toFloat, cs)

/-- Reads a number behind its sign. -/
def number (positive : Bool) : Reader Number := fun cs =>
  match cs with
  | [] => .error .endInValue
  | '0' :: rest =>
    if (rest.head?.map isDigit).getD false then .error .invalidNumber else numberRest positive 0 0 rest
  | c :: rest =>
    if isDigit c then
      let (significand, _, dropped, rest) := takeDigits 0 0 0 (c :: rest)
      numberRest positive significand dropped rest
    else .error .invalidNumber

/-- Passes over as many digits as there are, and at least one. -/
def skipDigits : Reader Unit := fun cs =>
  if (cs.head?.map isDigit).getD false then .ok ((), cs.dropWhile isDigit) else .error .invalidNumber

/-- Passes over an exponent where one stands. -/
def skipExponent : Reader Unit := fun cs =>
  match cs with
  | 'e' :: r | 'E' :: r => skipDigits (exponentSign r).2
  | r => .ok ((), r)

/-- Passes over what follows the whole part of a number. -/
def skipNumberRest : Reader Unit := fun cs =>
  match cs with
  | '.' :: r => (do skipDigits; skipExponent : Reader Unit) r
  | r => skipExponent r

/-- Passes over a number behind its sign. -/
def skipNumber : Reader Unit := fun cs =>
  match cs with
  | '0' :: rest => if (rest.head?.map isDigit).getD false then .error .invalidNumber else skipNumberRest rest
  | c :: rest => if isDigit c then skipNumberRest (rest.dropWhile isDigit) else .error .invalidNumber
  | [] => .error .invalidNumber

/-! ## Lists and objects -/

/-- Whether a list goes on with another item, read up to that item. -/
def moreItems (first : Bool) : Reader Bool := do
  match ← peekToken with
  | none => fail .endInList
  | some ']' => return false
  | some c =>
    if first then return true
    else if c = ',' then
      advance
      match ← peekToken with
      | none => fail .endInValue
      | some ']' => fail .trailingComma
      | some _ => return true
    else fail .expectedListEnd

/-- Whether an object goes on with another member, read up to its name. -/
def moreMembers (first : Bool) : Reader Bool := do
  match ← peekToken with
  | none => fail .endInObject
  | some '\x7d' => return false
  | some c =>
    if first then (if c = '"' then return true else fail .keyNotString)
    else if c = ',' then
      advance
      match ← peekToken with
      | none => fail .endInValue
      | some '"' => return true
      | some '\x7d' => fail .trailingComma
      | some _ => fail .keyNotString
    else fail .expectedObjectEnd

def colon : Reader Unit := do
  match ← peekToken with
  | none => fail .endInObject
  | some ':' => advance
  | some _ => fail .expectedColon

/-- Reads the end of a list. -/
def listEnd : Reader Unit := do
  match ← peekToken with
  | none => fail .endInList
  | some ']' => advance
  | some ',' =>
    advance
    match ← peekToken with
    | some ']' => fail .trailingComma
    | _ => fail .trailingCharacters
  | some _ => fail .trailingCharacters

/-- Reads the end of an object. -/
def objectEnd : Reader Unit := do
  match ← peekToken with
  | none => fail .endInObject
  | some '\x7d' => advance
  | some ',' => fail .trailingComma
  | some _ => fail .trailingCharacters

/-- Goes one level deeper; the depth left must not become zero. -/
def enter (depth : Nat) : Reader Nat :=
  if depth ≤ 1 then fail .tooDeep else return depth - 1

/-- Reads a word, a number or a string whose first character is `c`, and nothing for other characters. -/
def scalar? (c : Char) : Reader (Option Value) := do
  if c = 'n' then advance; ident ['u', 'l', 'l']; return some .null
  else if c = 't' then advance; ident ['r', 'u', 'e']; return some (.bool true)
  else if c = 'f' then advance; ident ['a', 'l', 's', 'e']; return some (.bool false)
  else if c = '-' then advance; return some (.number (← number false))
  else if isDigit c then return some (.number (← number true))
  else if c = '"' then advance; return some (.string (← stringRest))
  else return none

mutual

/-- Reads a value that may nest `depth - 1` levels. -/
def valueWith : Nat → Nat → Reader Value
  | 0, _ => fail .endInValue
  | fuel + 1, depth => do
    match ← peekToken with
    | none => fail .endInValue
    | some c =>
      match ← scalar? c with
      | some v => return v
      | none =>
        if c = '[' then
          let depth ← enter depth
          advance
          let items ← itemsWith fuel depth true
          listEnd
          return .array items
        else if c = '\x7b' then
          let depth ← enter depth
          advance
          let members ← membersWith fuel depth true []
          objectEnd
          return .object members
        else fail .expectedValue

def itemsWith : Nat → Nat → Bool → Reader (List Value)
  | 0, _, _ => fail .endInList
  | fuel + 1, depth, first => do
    if ← moreItems first then
      let v ← valueWith fuel depth
      let vs ← itemsWith fuel depth false
      return v :: vs
    else return []

def membersWith : Nat → Nat → Bool → List (String × Value) → Reader (List (String × Value))
  | 0, _, _, _ => fail .endInObject
  | fuel + 1, depth, first, seen => do
    if ← moreMembers first then
      advance
      let name ← stringRest
      colon
      let v ← valueWith fuel depth
      membersWith fuel depth false (Value.insert name v seen)
    else return seen

end

/-- A bound for the calls that reading a text of this length nests. -/
def fuelFor (cs : List Char) : Nat := 2 * cs.length + 3

/-- Reads a value that may nest `depth - 1` levels. -/
def value (depth : Nat) : Reader Value := fun cs => valueWith (fuelFor cs) depth cs

/-- Passes over what separates an item or a member, which begins with `c`, from what stands in front of it: nothing at
first, then a comma. -/
def separator (first : Bool) (c : Char) (missing : Error) : Reader Unit :=
  if first then return () else if c = ',' then advance else fail missing

/-- Passes over the opening quote of a name. -/
def openName : Reader Unit := do
  match ← peekToken with
  | none => fail .endInObject
  | some '"' => advance
  | some _ => fail .keyNotString

mutual

def skipWith : Nat → Reader Unit
  | 0 => fail .endInValue
  | fuel + 1 => do
    match ← peekToken with
    | none => fail .endInValue
    | some c =>
      if c = 'n' then advance; ident ['u', 'l', 'l']
      else if c = 't' then advance; ident ['r', 'u', 'e']
      else if c = 'f' then advance; ident ['a', 'l', 's', 'e']
      else if c = '-' then advance; skipNumber
      else if isDigit c then skipNumber
      else if c = '"' then advance; skipStringRest
      else if c = '[' then advance; skipItems fuel true
      else if c = '\x7b' then advance; skipMembers fuel true
      else fail .expectedValue

/-- Passes over the items of a list and its end. -/
def skipItems : Nat → Bool → Reader Unit
  | 0, _ => fail .endInList
  | fuel + 1, first => do
    match ← peekToken with
    | none => fail .endInList
    | some ']' => advance
    | some c =>
      separator first c .expectedListEnd
      skipWith fuel
      skipItems fuel false

/-- Passes over the members of an object and its end. -/
def skipMembers : Nat → Bool → Reader Unit
  | 0, _ => fail .endInObject
  | fuel + 1, first => do
    match ← peekToken with
    | none => fail .endInObject
    | some '\x7d' => advance
    | some c =>
      separator first c .expectedObjectEnd
      openName
      skipStringRest
      colon
      skipWith fuel
      skipMembers fuel false

end

/-- Passes over a value of any depth. -/
def skipValue : Reader Unit := fun cs => skipWith (fuelFor cs) cs

/-! ## Values of a wanted kind -/

/-- The error for a value that is not of the wanted kind, found in place of it. -/
def mismatch {α : Type} (wanted : String) : Reader α := do
  match ← peek with
  | none => fail .expectedValue
  | some c =>
    match ← scalar? c with
    | some v => fail (.wrongType (Found.ofValue v) wanted)
    | none =>
      if c = '[' then fail (.wrongType .sequence wanted)
      else if c = '\x7b' then fail (.wrongType .map wanted)
      else fail .expectedValue

def string : Reader String := do
  match ← peekToken with
  | none => fail .endInValue
  | some '"' => advance; stringRest
  | some _ => mismatch "a string"

/-- Reads `null` as nothing, and anything else by the reader. -/
def optional {α : Type} (read : Reader α) : Reader (Option α) := do
  match ← peekToken with
  | some 'n' => advance; ident ['u', 'l', 'l']; return none
  | _ => return some (← read)

/-- Reads the members of an object from the first on: `step` gets the name of each and reads the rest of it. -/
def foldMembersWith {σ : Type} (step : σ → String → Reader σ) : Nat → Bool → σ → Reader σ
  | 0, _, _ => fail .endInObject
  | fuel + 1, first, s => do
    if ← moreMembers first then
      advance
      let name ← stringRest
      foldMembersWith step fuel false (← step s name)
    else return s

/-- Reads the members of an object behind its opening brace, up to the closing one. -/
def foldMembers {σ : Type} (step : σ → String → Reader σ) (s : σ) : Reader σ :=
  fun cs => foldMembersWith step (cs.length + 1) true s cs

/-- Reads the first items of a list behind its opening bracket, one for each reader, as far as the list goes. -/
def foldItems {σ : Type} : List (σ → Reader σ) → Bool → σ → Reader σ
  | [], _, s => return s
  | read :: rest, first, s => do
    if ← moreItems first then foldItems rest false (← read s) else return s

/-- A record with named fields: `step` reads the member of a name, and `fields` read the items of a list that gives
the fields in order. -/
structure RecordReader (σ : Type) where
  name : String
  start : σ
  step : σ → String → Reader σ
  fields : List (σ → Reader σ)

/-- Reads a record from an object, or from a list of its fields. -/
def record {σ : Type} (r : Nat → RecordReader σ) (depth : Nat) : Reader σ := do
  match ← peekToken with
  | none => fail .endInValue
  | some c =>
    if c = '[' then
      let depth ← enter depth
      advance
      let s ← foldItems (r depth).fields true (r depth).start
      listEnd
      return s
    else if c = '\x7b' then
      let depth ← enter depth
      advance
      let s ← foldMembers (r depth).step (r depth).start
      objectEnd
      return s
    else mismatch ("struct " ++ (r depth).name)

/-- How deep lists and objects of a document may nest, with one level to spare. -/
def maxDepth : Nat := 128

/-- Reads a whole text. -/
def run {α : Type} (read : Reader α) (text : String) : Except Error α := do
  let (a, rest) ← read text.toList
  match rest.dropWhile isSpace with
  | [] => return a
  | _ => throw .trailingCharacters

end Reader

/-- Reads a text that holds one value. -/
def Value.ofText? (text : String) : Except Error Value := Reader.run (Reader.value Reader.maxDepth) text

end HookGate.Json
