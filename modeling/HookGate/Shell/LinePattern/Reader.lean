import HookGate.Shell.LinePattern.Bracket

/-! # Reading patterns for lines

In the basic form parentheses, braces, bars, plus signs and question marks are ordinary until a backslash stands before
them; in the extended form it is the other way round. A repetition with nothing before it is an ordinary character in
the basic form, and repeats nothing in the extended one. -/
namespace HookGate.Shell.LinePattern

/-- How a text writes a pattern. -/
inductive Form
  | basic
  | extended
deriving Repr, DecidableEq

/-- What is to be said about a pattern that was read. -/
inductive Remark
  /-- A repetition repeats nothing. -/
  | idle (sign : String)
  | refusal (f : Fault)
deriving Repr, DecidableEq

namespace Reader

private inductive Token
  | ending
  | backslash
  | char (c : Char)
  | any
  | bracket
  | openGroup
  | closeGroup
  | bar
  | star
  | plus
  | optional
  | brace
  | caret
  | dollar
  | reference (n : Nat)
  | look (p : Place)
  | oneOf (negated : Bool) (members : List Member)
deriving DecidableEq

/-- What an ordinary character is where it has a meaning of its own. -/
private def sign? : Char → Option Token
  | '(' => some .openGroup
  | ')' => some .closeGroup
  | '|' => some .bar
  | '+' => some .plus
  | '?' => some .optional
  | '\x7b' => some .brace
  | _ => none

private def escaped (c : Char) : Token :=
  let word : List Member := [.kind "alnum", .range '_' '_']
  match c with
  | '<' => .look .wordStart
  | '>' => .look .wordEnd
  | 'b' => .look .wordEdge
  | 'B' => .look .noWordEdge
  | '\'' => .look .partEnd
  | 'w' => .oneOf false word
  | 'W' => .oneOf true word
  | 's' => .oneOf false [.kind "space"]
  | 'S' => .oneOf true [.kind "space"]
  | _ =>
    if c = Char.ofNat 0x60 then .look .lineStart
    else if '1' ≤ c ∧ c ≤ '9' then .reference (c.toNat - '0'.toNat)
    else .char c

/-- The first token, and what follows it. -/
private def token (form : Form) : List Char → Token × List Char
  | [] => (.ending, [])
  | ['\\'] => (.backslash, [])
  | '\\' :: c :: r =>
    match sign? c with
    | some t => (if form = .basic then t else .char c, r)
    | none => (escaped c, r)
  | '.' :: r => (.any, r)
  | '[' :: r => (.bracket, r)
  | '*' :: r => (.star, r)
  | '^' :: r => (.caret, r)
  | '$' :: r => (.dollar, r)
  | c :: r =>
    match sign? c with
    | some t => (if form = .basic then .char c else t, r)
    | none => (.char c, r)

/-- How often something is repeated. -/
private structure Count where
  min : Nat
  max : Option Nat

/-- What braces hold. -/
private inductive Braces
  | count (c : Count) (rest : List Char)
  /-- They are no braces, so the opening one is an ordinary character. -/
  | ordinary
  | fault (f : Fault)

/-- The largest count. -/
private def mostTimes : Nat := 32767

private def number (cs : List Char) : Nat := cs.foldl (fun n c => n * 10 + (c.toNat - '0'.toNat)) 0

/-- The digits up to a comma or a closing brace, whether all are digits, and what follows, the comma or the brace
included; `none` if neither comes. -/
private def limit? (form : Form) : List Char → Option (List Char × Bool × List Char)
  | [] => none
  | ',' :: r => some ([], true, ',' :: r)
  | '\\' :: '\x7d' :: r =>
    if form = .basic then some ([], true, '\\' :: '\x7d' :: r)
    else (limit? form r).map fun (ds, _, rest) => (ds, false, rest)
  | c :: r =>
    if c = '\x7d' ∧ form = .extended then some ([], true, c :: r)
    else (limit? form r).map fun (ds, isNumber, rest) => (c :: ds, isNumber && c.isDigit, rest)

/-- What stands behind an opening brace. In the extended form, what is no number makes the brace ordinary. -/
private def braces (form : Form) (cs : List Char) : Braces :=
  let close? : List Char → Option (List Char)
    | '\x7d' :: r => if form = .extended then some r else none
    | '\\' :: '\x7d' :: r => if form = .basic then some r else none
    | _ => none
  let wrong (f : Fault) : Braces := if form = .extended then .ordinary else .fault f
  let counted (min : Nat) (max : Option Nat) (rest : List Char) : Braces :=
    match close? rest with
    | none => .fault .badCount
    | some rest =>
      if max.any (· < min) then .fault .badCount
      else if mostTimes < max.getD min then .fault .tooBig
      else .count ⟨min, max⟩ rest
  match limit? form cs with
  | none => wrong .openBrace
  | some (_, false, _) => wrong .badCount
  | some (ds, true, rest) =>
    if (close? rest).isSome then
      if ds = [] then .fault .badCount else counted (number ds) (some (number ds)) rest
    else match limit? form (rest.drop 1) with
      | none => wrong .openBrace
      | some (_, false, _) => wrong .badCount
      | some (es, true, rest) => counted (number ds) (if es = [] then none else some (number es)) rest

/-- Where reading stands. -/
private structure Cursor where
  rest : List Char
  /-- How many groups were opened. -/
  groups : Nat := 0
  /-- The groups that may be asked for again. -/
  closed : List Nat := []
  remarks : List Remark := []

private abbrev Reading := StateT Cursor (Except Fault)

private def peek (form : Form) : Reading Token := return (token form (← get).rest).1

private def skip (form : Form) : Reading Unit := modify fun c => { c with rest := (token form c.rest).2 }

private def remark (r : Remark) : Reading Unit := modify fun c => { c with remarks := r :: c.remarks }

/-- The count that stands in front, if there is one; an opening brace that is ordinary gives none. -/
private def count? (form : Form) : Reading (Option (Count × String)) := do
  let found (min : Nat) (max : Option Nat) (sign : String) : Reading (Option (Count × String)) := do
    skip form
    return some (⟨min, max⟩, sign)
  match ← peek form with
  | .star => found 0 none "*"
  | .plus => found 1 none "+"
  | .optional => found 0 (some 1) "?"
  | .brace =>
    match braces form (token form (← get).rest).2 with
    | .fault f => throw f
    | .ordinary => return none
    | .count c rest =>
      modify fun cursor => { cursor with rest }
      return some (c, "\x7b...\x7d")
  | _ => return none

/-- Repeats a pattern as often as the counts that follow say. -/
private def repeated (form : Form) : Nat → LinePattern → Reading LinePattern
  | 0, p => return p
  | n + 1, p => do
    match ← count? form with
    | none => return p
    | some (c, _) => repeated form n (.repeat p c.min c.max)

/-- Counts behind a pattern that stands for no character, and whether what follows still has nothing before it, which
braces put an end to. -/
private def idle (form : Form) : Nat → LinePattern → Reading (LinePattern × Bool)
  | 0, p => return (p, true)
  | n + 1, p => do
    match ← count? form with
    | none => return (p, true)
    | some (c, sign) =>
      remark (.idle sign)
      let p := .repeat p c.min c.max
      if sign = "\x7b...\x7d" then return (← repeated form n p, false) else idle form n p

/-- The sign of a repetition as a character. -/
private def charOf : Token → Char
  | .plus => '+'
  | .optional => '?'
  | .brace => '\x7b'
  | _ => '*'

/-- Whether the sign of a repetition with nothing before it is one, and no ordinary brace. -/
private def isCount (form : Form) (rest : List Char) : Bool :=
  match token form rest with
  | (.brace, inner) => match braces form inner with
    | .ordinary | .fault .badCount => false
    | _ => true
  | _ => true

private def isRepetition (t : Token) : Bool := t = .star || t = .plus || t = .optional || t = .brace

/-- Whether a dollar sign stands for the end of the line before what follows. -/
private def endsLine (form : Form) (rest : List Char) : Bool :=
  form = .extended || [Token.ending, .bar, .closeGroup].contains (token form rest).1

mutual

/-- One piece of a branch without what repeats it; `isStart` tells whether the branch starts there. -/
private def atom (form : Form) (ignoresCase : Bool) : Nat → (depth : Nat) → (isStart : Bool) → Token → Reading LinePattern
  | 0, _, _, _ => return .empty
  | n + 1, depth, isStart, t => do
    skip form
    match t with
    | .ending | .bar => return .empty
    | .backslash => throw .trailingBackslash
    | .char c => return .char c
    | .any => return .any
    | .look p => return .look p
    | .oneOf negated members => return .oneOf negated members
    | .caret => return if form = .extended ∨ isStart then .look .lineStart else .char '^'
    | .dollar => return if endsLine form (← get).rest then .look .lineEnd else .char '$'
    | .star | .plus | .optional | .brace => return .char (charOf t)
    | .closeGroup => if form = .basic then throw .lonelyParenthesis else return .char ')'
    | .reference k =>
      if !((← get).closed.contains k) then throw .badReference
      return .again k
    | .bracket =>
      let (p, isKindOutside, rest) ← Bracket.read ignoresCase (← get).rest
      modify fun c => { c with rest }
      if isKindOutside then remark (.refusal .kindOutside)
      return p
    | .openGroup =>
      let k := (← get).groups + 1
      modify fun c => { c with groups := k }
      let p ← alternatives form ignoresCase n (depth + 1)
      if (← peek form) ≠ .closeGroup then throw .openParenthesis
      skip form
      modify fun c => { c with closed := k :: c.closed }
      return .group k p

/-- The pieces up to the end of a branch, behind `before`; `isFirst` tells whether none of them stands for a
character. In the extended form, a closing parenthesis behind counts with nothing to repeat is ordinary. -/
private def branch (form : Form) (ignoresCase : Bool) :
    Nat → (depth : Nat) → (isFirst : Bool) → LinePattern → Reading LinePattern
  | 0, _, _, before => return before
  | n + 1, depth, isFirst, before => do
    let after (p : LinePattern) : LinePattern := if before = .empty then p else .seq before p
    let t ← peek form
    if t = .ending ∨ t = .bar ∨ (t = .closeGroup ∧ 0 < depth) then return before
    let length := (← get).rest.length
    let isIdle ← if isFirst ∧ form = .extended ∧ isRepetition t then pure (isCount form (← get).rest) else pure false
    let p ← if isIdle then pure .empty else atom form ignoresCase n depth (before = .empty) t
    let isFirst := isFirst && (isIdle || p matches .look _)
    if !isFirst then
      branch form ignoresCase n depth false (after (← repeated form (length + 1) p))
    else if form = .basic then branch form ignoresCase n depth true (after p)
    else
      let between := (← get).rest.length
      let (p, isFirst) ← idle form (length + 1) p
      let rest := (← get).rest
      if isFirst ∧ rest.length < between ∧ 0 < depth ∧ (token form rest).1 = .closeGroup then
        skip form
        branch form ignoresCase n depth false (after (.seq p (.char ')')))
      else branch form ignoresCase n depth isFirst (after p)

/-- Branches with bars between them. -/
private def alternatives (form : Form) (ignoresCase : Bool) : Nat → (depth : Nat) → Reading LinePattern
  | 0, _ => return .empty
  | n + 1, depth => do
    let closed := (← get).closed
    let first ← branch form ignoresCase n depth true .empty
    if (← peek form) ≠ .bar then return first
    skip form
    let soFar := (← get).closed
    modify fun c => { c with closed }
    let rest ← alternatives form ignoresCase n depth
    modify fun c => { c with closed := c.closed ++ soFar }
    return .alt first rest

end

end Reader

/-- The pattern that a text writes down, and what is to be said about it. -/
def read (form : Form) (ignoresCase : Bool) (cs : List Char) : Except Fault (LinePattern × List Remark) :=
  (Reader.alternatives form ignoresCase (4 * cs.length + 4) 0 { rest := cs }).map fun (p, c) => (p, c.remarks.reverse)

end HookGate.Shell.LinePattern
