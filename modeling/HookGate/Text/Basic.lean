/-! # Text

Blanks, trimming, words, lines, cutting to length and plain substring search, on lists of characters. Each
operation used on whole texts also has a `String` form that reads the characters and puts them together again. -/
namespace HookGate.Text

/-- White space, as the Unicode property of that name has it. -/
def isBlank (c : Char) : Bool :=
  let n := c.toNat
  (9 ≤ n && n ≤ 13) || n == 0x20 || n == 0x85 || n == 0xA0 || n == 0x1680 || (0x2000 ≤ n && n ≤ 0x200A) ||
    n == 0x2028 || n == 0x2029 || n == 0x202F || n == 0x205F || n == 0x3000

/-- The characters without the blanks in front. -/
def dropBlanks (cs : List Char) : List Char := cs.dropWhile isBlank

/-- The characters without the blanks behind. -/
def dropBlanksEnd (cs : List Char) : List Char := (cs.reverse.dropWhile isBlank).reverse

/-- The characters without the blanks at both ends. -/
def trimChars (cs : List Char) : List Char := dropBlanksEnd (dropBlanks cs)

def trim (s : String) : String := String.ofList (trimChars s.toList)

def trimEnd (s : String) : String := String.ofList (dropBlanksEnd s.toList)

/-- Nothing but blanks. -/
def isBlankText (s : String) : Bool := s.toList.all isBlank

/-- The pieces between the separators; one more piece than there are separators. -/
def pieces (sep : Char → Bool) : List Char → List (List Char)
  | [] => [[]]
  | c :: r =>
    match sep c, pieces sep r with
    | true, ps => [] :: ps
    | false, p :: ps => (c :: p) :: ps
    | false, [] => [[c]]

/-- The maximal runs of characters that are not blank. -/
def wordsOf (cs : List Char) : List (List Char) := (pieces isBlank cs).filter (· ≠ [])

def words (s : String) : List String := (wordsOf s.toList).map String.ofList

/-- Takes a carriage return off the end. -/
def dropReturn (cs : List Char) : List Char :=
  if cs.getLast? = some '\r' then cs.dropLast else cs

/-- The lines of the pieces between line feeds: a carriage return before a line feed belongs to the line end, and
an empty last piece is no line. -/
def linesOfPieces : List (List Char) → List (List Char)
  | [] => []
  | [p] => if p = [] then [] else [p]
  | p :: ps => dropReturn p :: linesOfPieces ps

def linesOf (cs : List Char) : List (List Char) := linesOfPieces (pieces (· == '\n') cs)

def lines (s : String) : List String := (linesOf s.toList).map String.ofList

/-- Whether the characters `part` stand together somewhere in the text. -/
def occurs (part : List Char) : List Char → Bool
  | [] => part.isEmpty
  | c :: r => part.isPrefixOf (c :: r) || occurs part r

def contains (s part : String) : Bool := occurs part.toList s.toList

def startsWith (s start : String) : Bool := start.toList.isPrefixOf s.toList

/-- What follows `start`, where the characters begin with it. -/
def rest? : List Char → List Char → Option (List Char)
  | [], cs => some cs
  | _ :: _, [] => none
  | x :: xs, c :: r => if x = c then rest? xs r else none

/-- What follows `start`, where the text begins with it. -/
def afterStart? (start s : String) : Option String := (rest? start.toList s.toList).map String.ofList

/-- Takes `start` off the front as often as it stands there. -/
def dropStarts (start : List Char) (cs : List Char) : List Char :=
  match start, cs with
  | [], cs => cs
  | _ :: _, [] => []
  | x :: xs, c :: r =>
    if (x :: xs).isPrefixOf (c :: r) then dropStarts (x :: xs) (r.drop xs.length) else c :: r
termination_by cs.length
decreasing_by simp only [List.length_drop, List.length_cons]; omega

/-- Replaces the occurrences of `part`, found from left to right, none overlapping; `skip` characters are still to
be passed over. -/
def replaceFrom (part new : List Char) : Nat → List Char → List Char
  | _, [] => []
  | skip + 1, _ :: r => replaceFrom part new skip r
  | 0, c :: r =>
    if part.isPrefixOf (c :: r) then new ++ replaceFrom part new (part.length - 1) r
    else c :: replaceFrom part new 0 r

/-- Replaces every occurrence of the non-empty text `part`. -/
def replaceAll (part new : List Char) (cs : List Char) : List Char := replaceFrom part new 0 cs

/-- The first `n` characters, with three dots behind if there were more. -/
def truncateChars (cs : List Char) (n : Nat) : List Char :=
  if n < cs.length then cs.take n ++ ['.', '.', '.'] else cs

def truncate (s : String) (n : Nat) : String := String.ofList (truncateChars s.toList n)

/-- The texts with `sep` between neighbours. -/
def joinWith (sep : String) (parts : List String) : String := sep.intercalate parts

/-- The decimal digits of a number. -/
def ofNat (n : Nat) : String := String.ofList (Nat.toDigits 10 n)

/-- The decimal digits of a number, with a minus sign before a negative one. -/
def ofInt : Int → String
  | .ofNat n => ofNat n
  | .negSucc n => "-" ++ ofNat (n + 1)

end HookGate.Text
