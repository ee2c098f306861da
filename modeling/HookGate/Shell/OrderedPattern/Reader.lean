import HookGate.Shell.OrderedPattern.Escape

/-! # Reading patterns with an order of preference

Flags that are set in a group hold to its end. A pattern is read twice, because groups may be referred to by names that
come up only later; what is wrong with references shows after all else. -/
namespace HookGate.Shell.OrderedPattern

namespace Reader

/-- The flags in force. -/
structure Flags where
  ignoresCase : Bool := false
  /-- Whether line starts and line ends are everywhere. -/
  hasLines : Bool := false
  /-- Whether a point stands for line ends too. -/
  isFull : Bool := false
  /-- Whether blanks and comments count for nothing. -/
  isSpaced : Bool := false
  /-- Whether groups without names are not counted. -/
  isNamed : Bool := false
  /-- Whether fewer repetitions come first. -/
  isModest : Bool := false
  /-- Whether groups may share a name. -/
  sharesNames : Bool := false

private structure Cursor where
  rest : List Char
  flags : Flags
  /-- Whether characters stand for themselves. -/
  isQuoting : Bool := false
  groups : Nat := 0
  names : List (String × Nat) := []
  /-- The names of the whole pattern, once they are known. -/
  known : Option (List (String × Nat)) := none
  /-- The highest number of a group that is referred to. -/
  highest : Nat := 0
  /-- What is wrong, if all else is right. -/
  later : Option Fault := none

private abbrev Reading := StateT Cursor (Except Fault)

private def drop (n : Nat) : Reading Unit := modify fun c => { c with rest := c.rest.drop n }

private def setRest (rest : List Char) : Reading Unit := modify fun c => { c with rest }

private def failLater (f : Fault) : Reading Unit := modify fun c => { c with later := c.later <|> some f }

private def isBlank (c : Char) : Bool := c == ' ' || ('\t' ≤ c && c ≤ '\r')

/-- The set with the other cases of its letters, where case does not count. -/
private def cased (set : CharSet) : Reading CharSet := do
  return if (← get).flags.ignoresCase then .foldedAscii set else set

/-- Passes over blanks, comments, and the ends of quoted parts. -/
private def skip : Nat → Reading Unit
  | 0 => return
  | n + 1 => do
    let c ← get
    match c.rest with
    | '\\' :: 'E' :: rest =>
      set { c with rest, isQuoting := false }
      skip n
    | '\\' :: 'Q' :: rest =>
      if !c.isQuoting then
        set { c with rest, isQuoting := true }
        skip n
    | '(' :: '?' :: '#' :: rest =>
      if !c.isQuoting then
        let after := rest.dropWhile (· ≠ ')')
        if after = [] then throw .openComment
        setRest (after.drop 1)
        skip n
    | d :: rest =>
      if c.flags.isSpaced && !c.isQuoting then
        if isBlank d then
          setRest rest
          skip n
        else if d = '#' then
          setRest ((rest.dropWhile (· ≠ '\n')).drop 1)
          skip n
    | [] => return

/-! ## Counts -/

private def number (ds : List Char) : Nat := ds.foldl (fun n c => n * 10 + (c.toNat - '0'.toNat)) 0

private def mostTimes : Nat := 65535

/-- The count in braces, and what follows it; other braces are ordinary characters. -/
private def braces? (cs : List Char) : Option (List Char × Option (List Char) × List Char) :=
  let ds := cs.takeWhile Char.isDigit
  if ds = [] then none
  else match cs.drop ds.length with
    | '\x7d' :: r => some (ds, some ds, r)
    | ',' :: r =>
      let es := r.takeWhile Char.isDigit
      match r.drop es.length with
      | '\x7d' :: r => some (ds, if es = [] then none else some es, r)
      | _ => none
    | _ => none

/-- The count that stands in front. -/
private def count? : Reading (Option (Nat × Option Nat)) := do
  match (← get).rest with
  | '*' :: rest => found 0 none rest
  | '+' :: rest => found 1 none rest
  | '?' :: rest => found 0 (some 1) rest
  | '\x7b' :: rest =>
    match braces? rest with
    | none => return none
    | some (ds, es?, rest) =>
      if mostTimes < number ds ∨ mostTimes < number (es?.getD []) then throw .bigCount
      if es?.any (number · < number ds) then throw .countOrder
      found (number ds) (es?.map number) rest
  | _ => return none
where
  found (min : Nat) (max : Option Nat) (rest : List Char) : Reading (Option (Nat × Option Nat)) := do
    if (← get).isQuoting then return none
    setRest rest
    return some (min, max)

/-- A piece with the count behind it. -/
private def repeated (p : OrderedPattern) (isRepeatable : Bool) : Reading OrderedPattern := do
  skip ((← get).rest.length + 1)
  match ← count? with
  | none => return p
  | some (min, max) =>
    if !isRepeatable then throw .nothingToRepeat
    skip ((← get).rest.length + 1)
    let modest := (← get).flags.isModest
    match (← get).rest with
    | '+' :: rest =>
      setRest rest
      return .firstOf (.repeat p min max .more)
    | '?' :: rest =>
      setRest rest
      return .repeat p min max (if modest then .more else .less)
    | _ => return .repeat p min max (if modest then .less else .more)

/-! ## Brackets -/

/-- The text between a delimiter and the same one before a closing bracket, and what follows. -/
private def kindName? (delimiter : Char) : List Char → Option (List Char × List Char)
  | [] => none
  | '\\' :: c :: r =>
    if c = ']' ∨ c = '\\' then (kindName? delimiter r).map fun (n, rest) => ('\\' :: c :: n, rest)
    else (kindName? delimiter (c :: r)).map fun (n, rest) => ('\\' :: n, rest)
  | c :: r =>
    if c = delimiter ∧ r.head? = some ']' then some ([], r.drop 1)
    else if c = ']' ∨ (c = '[' ∧ r.head? = some delimiter) then none
    else (kindName? delimiter r).map fun (n, rest) => (c :: n, rest)

/-- What is named behind an inner bracket. -/
private def kind? : List Char → Except Fault (Option (CharSet × List Char))
  | d :: r =>
    if d = ':' ∨ d = '.' ∨ d = '=' then
      match kindName? d r with
      | none => .ok none
      | some (n, rest) => do
        if d ≠ ':' then throw .collation
        let (isNegated, n) := if n.head? = some '^' then (true, n.drop 1) else (false, n)
        match kinds.lookup (String.ofList n) with
        | none => throw .unknownKind
        | some set => return some (if isNegated then .compl set else set, rest)
    else .ok none
  | [] => .ok none

/-- A member of brackets: a character, or a set of them. -/
private inductive Member
  | char (c : Char)
  | set (s : CharSet)
  | nothing

private def member : Reading Member := do
  let c ← get
  match c.rest with
  | [] => throw .openClass
  | '\\' :: 'E' :: rest =>
    set { c with rest, isQuoting := false }
    return .nothing
  | d :: rest =>
    if c.isQuoting then
      setRest rest
      return .char d
    else if d = '\\' then
      let (e, rest) ← escaped true c.groups rest
      setRest rest
      match e with
      | .char d => return .char d
      | .set s => return .set s
      | .quoted =>
        modify fun c => { c with isQuoting := true }
        return .nothing
      | _ => return .nothing
    else if d = '[' then
      match ← kind? rest with
      | some (s, rest) =>
        setRest rest
        return .set s
      | none =>
        setRest rest
        return .char d
    else
      setRest rest
      return .char d

/-- The members up to the closing bracket, together with those that were read. -/
private def members : Nat → (isFirst : Bool) → CharSet → Reading CharSet
  | 0, _, _ => throw .openClass
  | n + 1, isFirst, read => do
    let c ← get
    match c.rest with
    | [] => throw .openClass
    | ']' :: rest =>
      if !isFirst ∧ !c.isQuoting then
        setRest rest
        return read
      else one n read
    | _ => one n read
where
  one (n : Nat) (read : CharSet) : Reading CharSet := do
    match ← member with
    | .nothing => members n false read
    | .set s =>
      match (← get).rest with
      | '-' :: d :: _ => if d ≠ ']' ∧ !(← get).isQuoting then throw .badRange else members n false (.union read s)
      | _ => members n false (.union read s)
    | .char a =>
      let c ← get
      match c.rest with
      | '-' :: d :: _ =>
        if d = ']' ∨ c.isQuoting then members n false (.union read (.single a))
        else
          drop 1
          match ← member with
          | .char b =>
            if b < a then throw .rangeOrder
            members n false (.union read (.span a b))
          | .set _ => throw .badRange
          | .nothing => members n false (.union (.union read (.single a)) (.single '-'))
      | _ => members n false (.union read (.single a))

private def bracket : Reading OrderedPattern := do
  let cs := (← get).rest
  match cs with
  | d :: r =>
    if (d = ':' ∨ d = '.' ∨ d = '=') ∧ (kindName? d r).isSome then throw (if d = ':' then .kindOutside else .collation)
  | [] => pure ()
  let isNegated := cs.head? = some '^'
  if isNegated then drop 1
  let set ← cased (← members (2 * cs.length + 2) true .empty)
  return .one (if isNegated then .compl set else set)

/-! ## Groups -/

private def refer (n : Nat) : Reading Unit := modify fun c => { c with highest := max c.highest n }

/-- The number of a named group. -/
private def numberOf (name : String) : Reading Nat := do
  match (← get).known with
  | none => return 0
  | some names =>
    match names.lookup name with
    | some n => return n
    | none =>
      failLater .missingGroup
      return 0

/-- The number of a group that many before. -/
private def numberBefore (distance : Nat) : Reading Nat := do
  let groups := (← get).groups
  if distance = 0 then throw .zeroRelative
  if groups < distance then failLater .missingGroup
  return groups + 1 - distance

private def again (n : Nat) : Reading OrderedPattern := do
  refer n
  return .again n (← get).flags.ignoresCase

private def call (n : Nat) : Reading OrderedPattern := do
  refer n
  return .call n

/-- What an escape outside brackets stands for, and whether it can be repeated. -/
private def escape : Reading (OrderedPattern × Bool) := do
  let c ← get
  let (e, rest) ← escaped false c.groups (c.rest.drop 1)
  setRest rest
  match e with
  | .char d => return (.one (← cased (.single d)), true)
  | .set s => return (.one s, true)
  | .look p => return (.look p, false)
  | .restart => return (.restart, false)
  | .lineBreak =>
    return (.firstOf (.alt (.seq (.one (.single '\r')) (.one (.single '\n'))) (.one (.ranges [(0xA, 0xD), (0x85, 0x85)]))), true)
  | .again n => return (← again n, true)
  | .backwards d => return (← again (← numberBefore d), true)
  | .named name => return (← again (← numberOf name), true)
  | .callNumber n => return (← call n, true)
  | .callName name => return (← call (← numberOf name), true)
  | .quoted | .unquoted => return (.empty, false)

/-- The flags that letters set, or take away behind a hyphen, up to the end of the letters. -/
private def setFlags : (isOn : Bool) → Flags → List Char → Except Fault (Flags × List Char)
  | _, _, [] => .error .openGroup
  | isOn, f, c :: r =>
    match c with
    | ')' | ':' => .ok (f, c :: r)
    | '-' => if isOn then setFlags false f r else .error .unknownFlag
    | 'i' => setFlags isOn { f with ignoresCase := isOn } r
    | 'm' => setFlags isOn { f with hasLines := isOn } r
    | 's' => setFlags isOn { f with isFull := isOn } r
    | 'x' => setFlags isOn { f with isSpaced := isOn } r
    | 'n' => setFlags isOn { f with isNamed := isOn } r
    | 'U' => setFlags isOn { f with isModest := isOn } r
    | 'J' => setFlags isOn { f with sharesNames := isOn } r
    | _ => .error .unknownFlag

/-- Whether each of the alternatives takes a number of characters of its own. -/
private def hasWidths : OrderedPattern → Bool
  | .alt a b => hasWidths a && hasWidths b
  | p => p.width?.isSome

private def newGroup (name? : Option String) : Reading Nat := do
  let c ← get
  let n := c.groups + 1
  if let some name := name? then
    if (c.names.lookup name).isSome && !c.flags.sharesNames then throw .sameName
  set { c with groups := n, names := c.names ++ (name?.map fun name => (name, n)).toList }
  return n

/-- The name of a verb behind a star. -/
private def verb (cs : List Char) : Except Fault (OrderedPattern × List Char) :=
  let name := cs.takeWhile (· ≠ ')')
  match String.ofList name, cs.drop name.length with
  | "F", _ :: rest | "FAIL", _ :: rest => .ok (.never, rest)
  | "ACCEPT", _ :: rest | "COMMIT", _ :: rest | "PRUNE", _ :: rest | "SKIP", _ :: rest | "THEN", _ :: rest =>
    .ok (.empty, rest)
  | _, _ => .error .unknownVerb

mutual

/-- The pattern of a group, and its closing parenthesis. -/
private def body : Nat → Reading OrderedPattern
  | 0 => throw .openGroup
  | n + 1 => do
    let flags := (← get).flags
    let p ← alternatives n
    match (← get).rest with
    | ')' :: rest =>
      modify fun c => { c with rest, flags }
      return p
    | _ => throw .openGroup

/-- What follows the parenthesis that opens a group, and whether it can be repeated. -/
private def group : Nat → Reading (OrderedPattern × Bool)
  | 0 => throw .openGroup
  | n + 1 => do
    let kept (name? : Option String) : Reading (OrderedPattern × Bool) := do
      let k ← newGroup name?
      return (.group k (← body n), true)
    let looking (length : Nat) (isBehind isNegated : Bool) : Reading (OrderedPattern × Bool) := do
      drop length
      let p ← body n
      if isBehind && !hasWidths p then failLater .lookBehind
      return (.around isBehind isNegated p, true)
    let called (k : Nat) : Reading (OrderedPattern × Bool) := do
      match (← get).rest with
      | ')' :: rest =>
        setRest rest
        return (← call k, true)
      | _ => throw .openGroup
    let named (stop : Char) (rest : List Char) : Reading String := do
      let (name, rest) ← name stop rest
      setRest rest
      return name
    let rest := (← get).rest
    match rest with
    | '*' :: r =>
      if r = [] then throw .nothingToRepeat
      let (p, rest) ← verb r
      setRest rest
      return (p, false)
    | '?' :: r =>
      match r with
      | [] => throw .openGroup
      | ':' :: _ => do
        drop 2
        return (← body n, true)
      | '|' :: _ => do
        drop 2
        let flags := (← get).flags
        let p ← resetting n (← get).groups (← get).groups
        match (← get).rest with
        | ')' :: rest =>
          modify fun c => { c with rest, flags }
          return (p, true)
        | _ => throw .openGroup
      | '>' :: _ => do
        drop 2
        return (.firstOf (← body n), true)
      | '=' :: _ => looking 2 false false
      | '!' :: _ => looking 2 false true
      | '<' :: '=' :: _ => looking 3 true false
      | '<' :: '!' :: _ => looking 3 true true
      | '<' :: r => kept (some (← named '>' r))
      | '\'' :: r => kept (some (← named '\'' r))
      | 'P' :: [] => throw .openGroup
      | 'P' :: '<' :: r => kept (some (← named '>' r))
      | 'P' :: '=' :: r => return (← again (← numberOf (← named ')' r)), true)
      | 'P' :: '>' :: r => return (← call (← numberOf (← named ')' r)), true)
      | 'P' :: _ => throw .unknownNamed
      | '&' :: r => return (← call (← numberOf (← named ')' r)), true)
      | 'R' :: _ => do
        drop 2
        called 0
      | '+' :: r => do
        let ds := r.takeWhile Char.isDigit
        if ds = [] then throw .missingDigit
        drop (2 + ds.length)
        if number ds = 0 then throw .zeroRelative
        called ((← get).groups + number ds)
      | '(' :: _ => do
        drop 2
        conditional n
      | c :: r =>
        let ds := r.takeWhile Char.isDigit
        if c.isDigit then do
          drop (2 + ds.length)
          called (number (c :: ds))
        else if c = '-' ∧ ds ≠ [] then do
          drop (2 + ds.length)
          called (← numberBefore (number ds))
        else do
          let before := (← get).flags
          let cleared : Flags := { before with
            ignoresCase := false, hasLines := false, isFull := false, isSpaced := false, isNamed := false }
          let (flags, rest) ← if c = '^' then setFlags true cleared r else setFlags true before (c :: r)
          match rest with
          | ':' :: rest =>
            modify fun c => { c with rest, flags }
            let p ← body n
            modify fun c => { c with flags := before }
            return (p, true)
          | _ =>
            modify fun c => { c with rest := rest.drop 1, flags }
            return (.empty, false)
    | _ =>
      if (← get).flags.isNamed then return (← body n, true) else kept none

/-- What depends on a condition, from behind the parenthesis that opens the condition. -/
private def conditional : Nat → Reading (OrderedPattern × Bool)
  | 0 => throw .openGroup
  | n + 1 => do
    let rest := (← get).rest
    let chosen (k : Nat) : Reading (OrderedPattern × Bool) := do
      refer k
      let (yes, no) ← choices n
      return (.given k yes no, true)
    let named (stop : Char) (r : List Char) : Reading String := do
      let (name, rest) ← name stop r
      setRest (if stop = ')' then rest else rest.drop 1)
      return name
    match rest with
    | '?' :: _ =>
      match ← group n with
      | (.around isBehind isNegated a, _) =>
        let (yes, no) ← choices n
        return (.alt (.seq (.around isBehind isNegated a) yes) (.seq (.around isBehind (!isNegated) a) no), true)
      | _ => throw .missingGroup
    | '<' :: r => chosen (← numberOf (← named '>' r))
    | '\'' :: r => chosen (← numberOf (← named '\'' r))
    | 'R' :: ')' :: rest =>
      setRest rest
      return ((← choices n).2, true)
    | _ =>
      let ds := rest.takeWhile Char.isDigit
      if ds ≠ [] ∧ (rest.drop ds.length).head? = some ')' then
        setRest (rest.drop (ds.length + 1))
        chosen (number ds)
      else chosen (← numberOf (← named ')' rest))

/-- What is matched if a condition holds and if it does not, and the closing parenthesis. -/
private def choices : Nat → Reading (OrderedPattern × OrderedPattern)
  | 0 => throw .openGroup
  | n + 1 => do
    let flags := (← get).flags
    let yes ← branch n .empty
    let no ← match (← get).rest with
      | '|' :: rest => do
        setRest rest
        branch n .empty
      | _ => pure .empty
    match (← get).rest with
    | ')' :: rest =>
      modify fun c => { c with rest, flags }
      return (yes, no)
    | '|' :: _ => throw .manyChoices
    | _ => throw .openGroup

/-- Alternatives in each of which groups are counted from the same number on; `most` is the highest count so far. -/
private def resetting : Nat → (groups most : Nat) → Reading OrderedPattern
  | 0, _, _ => throw .openGroup
  | n + 1, groups, most => do
    modify fun c => { c with groups }
    let first ← branch n .empty
    let most := max most (← get).groups
    match (← get).rest with
    | '|' :: rest =>
      setRest rest
      return .alt first (← resetting n groups most)
    | _ =>
      modify fun c => { c with groups := most }
      return first

/-- A piece, and whether it can be repeated. -/
private def atom : Nat → Reading (OrderedPattern × Bool)
  | 0 => throw .openGroup
  | n + 1 => do
    let c ← get
    match c.rest with
    | [] => return (.empty, false)
    | d :: rest =>
      if c.isQuoting then
        setRest rest
        return (.one (← cased (.single d)), true)
      else match d with
        | '\\' => escape
        | '(' =>
          drop 1
          group n
        | '[' =>
          drop 1
          return (← bracket, true)
        | '.' =>
          drop 1
          return (.one (if c.flags.isFull then .any else .compl (.single '\n')), true)
        | '^' =>
          drop 1
          return (.look (if c.flags.hasLines then .lineStart else .textStart), false)
        | '$' =>
          drop 1
          return (.look (if c.flags.hasLines then .lineEnd else .textEnd), false)
        | _ =>
          if (← count?).isSome then throw .nothingToRepeat
          drop 1
          return (.one (← cased (.single d)), true)

/-- The pieces up to the end of a branch, behind `before`. -/
private def branch : Nat → OrderedPattern → Reading OrderedPattern
  | 0, before => return before
  | n + 1, before => do
    skip ((← get).rest.length + 1)
    let c ← get
    if c.rest = [] ∨ (!c.isQuoting ∧ (c.rest.head? = some '|' ∨ c.rest.head? = some ')')) then return before
    let (p, isRepeatable) ← atom n
    let p ← repeated p isRepeatable
    branch n (if before = .empty then p else if p = .empty then before else .seq before p)

/-- Branches with bars between them. -/
private def alternatives : Nat → Reading OrderedPattern
  | 0 => throw .openGroup
  | n + 1 => do
    let first ← branch n .empty
    match (← get).rest with
    | '|' :: rest =>
      setRest rest
      return .alt first (← alternatives n)
    | _ => return first

end

/-- Reads a whole pattern. -/
private def whole (n : Nat) : Reading OrderedPattern := do
  let p ← alternatives n
  if (← get).rest ≠ [] then throw .closedGroup
  return p

end Reader

/-- The pattern that a text writes down. -/
def read (ignoresCase : Bool) (cs : List Char) : Except Fault OrderedPattern := do
  let start : Reader.Cursor := { rest := cs, flags := { ignoresCase } }
  let n := 6 * cs.length + 6
  let (_, first) ← Reader.whole n start
  let (p, c) ← Reader.whole n { start with known := some first.names }
  if c.groups < c.highest then throw .missingGroup
  match c.later with
  | some f => throw f
  | none => return p

end HookGate.Shell.OrderedPattern
