import Scaffold.Pattern.Basic
import Scaffold.Pattern.Names

/-!
# Reading patterns

The reader that the program is run with. It knows alternatives, groups with names and flags,
counted repetitions, escapes, bracketed sets with set operations, and the named sets of
`Scaffold.Pattern.Names`. Look-around and references back to a group are no patterns. A text that
it does not know reads as nothing. Trees are bounded in height, but not in size.
-/

namespace Scaffold.Pattern

open Text

namespace Reading

structure Flags where
  caseless : Bool := false
  multiLine : Bool := false
  dotAll : Bool := false
  swapGreed : Bool := false
  unicode : Bool := true
  returnLines : Bool := false
  spaced : Bool := false
  deriving Repr

def Flags.setFlag? (flags : Flags) (c : Char) (value : Bool) : Option Flags :=
  match c with
  | 'i' => some { flags with caseless := value }
  | 'm' => some { flags with multiLine := value }
  | 's' => some { flags with dotAll := value }
  | 'U' => some { flags with swapGreed := value }
  | 'u' => some { flags with unicode := value }
  | 'R' => some { flags with returnLines := value }
  | 'x' => some { flags with spaced := value }
  | _ => none

structure State where
  rest : List Char
  flags : Flags := {}
  groups : Nat := 0
  names : List (List Char) := []

abbrev Reader := StateT State Option

def dropSpace : (inComment : Bool) → List Char → List Char
  | _, [] => []
  | true, c :: rest => dropSpace (c != '\n') rest
  | false, c :: rest =>
    if isBlank c then dropSpace false rest
    else if c == '#' then dropSpace true rest
    else c :: rest

def peek? : Reader (Option Char) := return (← get).rest.head?

def current : Reader Char := do
  match (← get).rest with
  | [] => failure
  | c :: _ => pure c

def advance : Reader Unit := modify fun s => { s with rest := s.rest.drop 1 }

def skipSpace : Reader Unit :=
  modify fun s => if s.flags.spaced then { s with rest := dropSpace false s.rest } else s

def advanceSpaced : Reader Unit := do advance; skipSpace

def accept (text : String) : Reader Bool := do
  let s ← get
  if text.toList.isPrefixOf s.rest then
    set { s with rest := s.rest.drop text.length }
    pure true
  else pure false

/-- The next character to count where blanks may be skipped. A comment ends at its first
character. -/
def firstSolid : (inComment : Bool) → List Char → Option Char
  | _, [] => none
  | inComment, c :: rest =>
    if isBlank c then firstSolid (inComment && c != '\n') rest
    else if !inComment && c == '#' then firstSolid true rest
    else some c

def peekSolid? : Reader (Option Char) := do
  let s ← get
  let rest := s.rest.drop 1
  if s.flags.spaced then
    match firstSolid false rest with
    | some c => pure (some c)
    | none => pure rest.head?
  else pure rest.head?

def readWhile (p : Char → Bool) (step : Reader Unit) : Nat → Reader (List Char)
  | 0 => pure []
  | n + 1 => do
    match ← peek? with
    | some c =>
      if p c then
        step
        let rest ← readWhile p step n
        pure (c :: rest)
      else pure []
    | none => pure []

def charsWhile (p : Char → Bool) (step : Reader Unit) : Reader (List Char) := do
  readWhile p step (← get).rest.length

def require (b : Bool) : Reader Unit := if b then pure () else failure

def toReader {α : Type} : Option α → Reader α
  | some a => pure a
  | none => failure

def isHexDigit (c : Char) : Bool :=
  c.isDigit || ('a' ≤ c && c ≤ 'f') || ('A' ≤ c && c ≤ 'F')

def hexDigit (c : Char) : Nat :=
  if c.isDigit then c.toNat - 48
  else if c.toNat < 97 then c.toNat - 55
  else c.toNat - 87

def hexValue (digits : List Char) : Nat := digits.foldl (fun n c => 16 * n + hexDigit c) 0

def decimalValue (digits : List Char) : Nat := digits.foldl (fun n c => 10 * n + (c.toNat - 48)) 0

def charOfCode? (n : Nat) : Option Char :=
  if n.isValidChar then some (Char.ofNat n) else none

/-- A count in a repetition, below 2 to the 32. -/
def readDecimal : Reader Nat := do
  let _ ← charsWhile isBlank advance
  let digits ← charsWhile Char.isDigit advanceSpaced
  let _ ← charsWhile isBlank advanceSpaced
  require (!digits.isEmpty && decimalValue digits < 4294967296)
  pure (decimalValue digits)

/-- What an escape stands for. A byte escape above ASCII is no character where the pattern is
read in bytes. -/
inductive Primitive
  | char (c : Char)
  | set (s : CharSet)
  | boundary (b : Boundary)

def wordRule : Reader WordRule :=
  return if (← get).flags.unicode then .unicode else .ascii

def foldCase (s : CharSet) : Reader CharSet := do
  let flags := (← get).flags
  pure (if !flags.caseless then s else if flags.unicode then .caseless s else .asciiCaseless s)

def negate (negated : Bool) (s : CharSet) : Reader CharSet := do
  if negated then
    require (← get).flags.unicode
    pure (.compl s)
  else pure s

def readHexDigits : Nat → Reader (List Char)
  | 0 => pure []
  | n + 1 => do
    let c ← current
    require (isHexDigit c)
    advanceSpaced
    let rest ← readHexDigits n
    pure (c :: rest)

def readHex : Reader Primitive := do
  let kind ← current
  advanceSpaced
  if (← current) == '{' then
    advanceSpaced
    let digits ← charsWhile isHexDigit advanceSpaced
    require ((← current) == '}' && !digits.isEmpty)
    advanceSpaced
    return .char (← toReader (charOfCode? (hexValue digits)))
  else
    let count := if kind == 'x' then 2 else if kind == 'u' then 4 else 8
    let digits ← readHexDigits count
    let code := hexValue digits
    require (!(kind == 'x' && code ≥ 128) || (← get).flags.unicode)
    return .char (← toReader (charOfCode? code))

def cutAt (mark : List Char) : List Char → Option (List Char × List Char)
  | [] => none
  | c :: rest =>
    if mark.isPrefixOf (c :: rest) then some ([], (c :: rest).drop mark.length)
    else (cutAt mark rest).map fun (front, back) => (c :: front, back)

/-- A named set. "!=" between name and value takes the complement. -/
def setOfName? (name : List Char) : Option CharSet :=
  match cutAt ['!', '='] name with
  | some (prop, value) => (CharSet.valued? prop value).map .compl
  | none =>
    match cutAt [':'] name with
    | some (prop, value) => CharSet.valued? prop value
    | none =>
      match cutAt ['='] name with
      | some (prop, value) => CharSet.valued? prop value
      | none => CharSet.named? name

def readNamedSet : Reader CharSet := do
  let negated := (← current) == 'P'
  advanceSpaced
  let c ← current
  let name ←
    if c == '{' then do
      advanceSpaced
      let name ← charsWhile (· != '}') advanceSpaced
      require ((← current) == '}')
      advance
      pure name
    else do
      require (c != '\\')
      advanceSpaced
      pure [c]
  require (← get).flags.unicode
  let s ← toReader (setOfName? name)
  negate negated (← foldCase s)

def readShortSet : Reader CharSet := do
  let c ← current
  advance
  let unicode := (← get).flags.unicode
  let s : CharSet :=
    match c.toLower with
    | 'd' => if unicode then .digit else .asciiDigit
    | 's' => if unicode then .blank else CharSet.ascii?.asciiBlank
    | _ => if unicode then .word else CharSet.ascii?.asciiWord
  negate c.isUpper s

/-- A word edge with a name in braces. Braces that hold no name are left for a repetition. -/
def readEdgeName? (rule : WordRule) : Reader Boundary := do
  let s ← get
  if s.rest.head? != some '{' then return .wordEdge rule
  advanceSpaced
  let isNameChar := fun c : Char => c.isAlpha || c == '-'
  if !isNameChar (← current) then
    set s
    return .wordEdge rule
  let name ← charsWhile isNameChar advanceSpaced
  require ((← current) == '}')
  advance
  match String.ofList name with
  | "start" => pure (.wordStart rule)
  | "end" => pure (.wordEnd rule)
  | "start-half" => pure (.noWordBefore rule)
  | "end-half" => pure (.noWordAfter rule)
  | _ => failure

/-- The signs and blanks that an escape leaves as they are: all of ASCII but letters, digits and
angle brackets. -/
def isPlainEscape (c : Char) : Bool :=
  c.toNat < 128 && !c.isAlphanum && c != '<' && c != '>'

def readEscape : Reader Primitive := do
  advance
  let c ← current
  if c == 'x' || c == 'u' || c == 'U' then readHex
  else if c == 'p' || c == 'P' then return .set (← readNamedSet)
  else if "dswDSW".toList.contains c then return .set (← readShortSet)
  else
    advance
    if isPlainEscape c then return .char c
    let rule ← wordRule
    match c with
    | 'a' => pure (.char '\x07')
    | 'f' => pure (.char '\x0C')
    | 't' => pure (.char '\t')
    | 'n' => pure (.char '\n')
    | 'r' => pure (.char '\r')
    | 'v' => pure (.char '\x0B')
    | 'A' => pure (.boundary .textStart)
    | 'z' => pure (.boundary .textEnd)
    | 'b' => return .boundary (← readEdgeName? rule)
    | 'B' => pure (.boundary (.noWordEdge rule))
    | '<' => pure (.boundary (.wordStart rule))
    | '>' => pure (.boundary (.wordEnd rule))
    | _ => failure

/-! ## Bracketed sets -/

/-- A part of a pattern with the height of its syntax tree, which is limited. -/
structure Part (α : Type) where
  value : α
  height : Nat

structure Members where
  set : CharSet := .empty
  count : Nat := 0
  height : Nat := 0

def Members.add (m : Members) (s : CharSet) (height : Nat) : Members :=
  ⟨if m.count == 0 then s else .union m.set s, m.count + 1, max m.height height⟩

def Members.part (m : Members) : Part CharSet :=
  ⟨m.set, if m.count ≤ 1 then m.height else m.height + 1⟩

inductive SetOp
  | inter
  | minus
  | symmDiff

def SetOp.apply : SetOp → CharSet → CharSet → CharSet
  | inter => .inter
  | minus => .minus
  | symmDiff => .symmDiff

abbrev Pending := Option (SetOp × Part CharSet)

def Pending.finish (pending : Pending) (right : Part CharSet) : Reader (Part CharSet) := do
  match pending with
  | none => pure right
  | some (op, left) =>
    let a ← foldCase left.value
    let b ← foldCase right.value
    pure ⟨op.apply a b, max left.height right.height + 1⟩

/-- Opens a bracket. Hyphens, and a closing bracket that comes first, are members. -/
def openSet : Reader (Bool × Members) := do
  advanceSpaced
  let negated := (← current) == '^'
  if negated then advanceSpaced
  let hyphens ← charsWhile (· == '-') advanceSpaced
  let members := hyphens.foldl (fun m c => Members.add m (.single c) 0) {}
  if (← current) == ']' && members.count == 0 then
    advanceSpaced
    let _ ← current
    return (negated, members.add (.single ']') 0)
  return (negated, members)

def readAsciiClass? : Reader (Option CharSet) := do
  let s ← get
  match s.rest with
  | '[' :: ':' :: rest =>
    let negated := rest.head? == some '^'
    let body := if negated then rest.drop 1 else rest
    let name := body.takeWhile (· != ':')
    match body.dropWhile (· != ':'), CharSet.ascii? name with
    | ':' :: ']' :: after, some named =>
      set { s with rest := after }
      let folded ← foldCase named
      return some (← negate negated folded)
    | _, _ => pure none
  | _ => pure none

def readMember : Reader Primitive := do
  let c ← current
  if c == '\\' then readEscape
  else
    advance
    pure (.char c)

def readSetRange : Reader CharSet := do
  let first ← readMember
  skipSpace
  let c ← current
  let next ← peekSolid?
  let single (p : Primitive) : Reader CharSet := do
    match p with
    | .char c =>
      require (c.toNat < 128 || (← get).flags.unicode)
      pure (.single c)
    | .set s => pure s
    | .boundary _ => failure
  if c != '-' || next == some ']' || next == some '-' then single first
  else
    advanceSpaced
    let _ ← current
    let last ← readMember
    match first, last with
    | .char a, .char b =>
      require (a.toNat ≤ b.toNat)
      require (b.toNat < 128 || (← get).flags.unicode)
      pure (.range a b)
    | _, _ => failure

def readMembers : Nat → Members → Pending → (negated : Bool) → Reader (Part CharSet)
  | 0, _, _, _ => failure
  | fuel + 1, members, pending, negated => do
    skipSpace
    let c ← current
    let next := ((← get).rest.drop 1).head?
    let operate (op : SetOp) : Reader (Part CharSet) := do
      advance
      advance
      let left ← pending.finish members.part
      readMembers fuel {} (some (op, left)) negated
    if c == '[' then
      match ← readAsciiClass? with
      | some s => readMembers fuel (members.add s 0) pending negated
      | none =>
        let (innerNegated, innerMembers) ← openSet
        let inner ← readMembers fuel innerMembers none innerNegated
        readMembers fuel (members.add inner.value inner.height) pending negated
    else if c == ']' then
      advance
      let whole ← pending.finish members.part
      let folded ← foldCase whole.value
      return ⟨← negate negated folded, whole.height + 1⟩
    else if c == '&' && next == some '&' then operate .inter
    else if c == '-' && next == some '-' then operate .minus
    else if c == '~' && next == some '~' then operate .symmDiff
    else
      let s ← readSetRange
      readMembers fuel (members.add s 0) pending negated

def readSet (fuel : Nat) : Reader (Part CharSet) := do
  let (negated, members) ← openSet
  readMembers fuel members none negated

/-! ## Items, branches and groups -/

/-- What stands in a row in a branch. Flags take their place in the row but cannot be repeated. -/
structure Item where
  pattern : Pattern
  height : Nat
  repeatable : Bool

def charPattern (c : Char) : Reader Pattern := do
  let flags := (← get).flags
  if flags.caseless && (flags.unicode || c.isAlpha) then
    return .one (← foldCase (.single c))
  else return .one (.single c)

def dotPattern : Reader Pattern := do
  let flags := (← get).flags
  require flags.unicode
  pure <| .one <|
    if flags.dotAll then .any
    else if flags.returnLines then .compl (.oneOf ['\r', '\n'])
    else .compl (.single '\n')

def lineBoundary (text line returnLine : Boundary) : Reader Pattern := do
  let flags := (← get).flags
  pure <| .boundary <|
    if !flags.multiLine then text else if flags.returnLines then returnLine else line

def readPrimitive : Reader Pattern := do
  let c ← current
  if c == '\\' then
    match ← readEscape with
    | .char c => charPattern c
    | .set s => pure (.one s)
    | .boundary b => pure (.boundary b)
  else
    advance
    match c with
    | '.' => dotPattern
    | '^' => lineBoundary .textStart .lineStart .returnLineStart
    | '$' => lineBoundary .textEnd .lineEnd .returnLineEnd
    | c => charPattern c

/-- Repeats the last item. A repetition of no rounds is the empty pattern. -/
def repeatLast (items : List Item) (least : Nat) (most : Option Nat) (greedy : Bool) :
    Reader (List Item) := do
  match items with
  | [] => failure
  | last :: before =>
    require last.repeatable
    require (most.all (least ≤ ·))
    let greedy := greedy != (← get).flags.swapGreed
    let pattern : Pattern :=
      if most == some 0 then .empty else .repeated last.pattern least most greedy
    pure (⟨pattern, last.height + 1, true⟩ :: before)

def readGreed : Reader Bool := do
  if (← peek?) == some '?' then
    advance
    pure false
  else pure true

def readCount : Reader (Nat × Option Nat) := do
  advanceSpaced
  let least ← readDecimal
  let c ← current
  let bounds ←
    if c == ',' then do
      advanceSpaced
      if (← current) == '}' then pure (least, none)
      else
        let most ← readDecimal
        pure (least, some most)
    else pure (least, some least)
  require ((← current) == '}')
  advanceSpaced
  pure bounds

def isNameStart (c : Char) : Bool := c == '_' || isAlphabetic c

def isNameChar (c : Char) : Bool :=
  c == '_' || c == '.' || c == '[' || c == ']' || isAlphanumeric c

def readGroupName : Reader Unit := do
  let name ← charsWhile isNameChar advance
  require (name.head?.any isNameStart)
  require ((← current) == '>')
  advance
  require (!(← get).names.contains name)
  modify fun s => { s with names := name :: s.names }

/-- The letters of a flag group, each at most once, with at most one minus sign. -/
def readFlagLetters : Reader (List Char) := charsWhile (fun c => c != ':' && c != ')') advance

def applyFlags (flags : Flags) : (value : Bool) → List Char → Option Flags
  | _, [] => some flags
  | value, '-' :: rest => if value then applyFlags flags false rest else none
  | value, c :: rest => do applyFlags (← flags.setFlag? c value) value rest

/-- How a group opens: with a number, without one, or as flags for the rest of the group around
it. -/
inductive Opening
  | numbered (index : Nat)
  | plain (flags : Flags)
  | flags (flags : Flags)

def nextIndex : Reader Nat := do
  let s ← get
  set { s with groups := s.groups + 1 }
  pure (s.groups + 1)

def readOpening : Reader Opening := do
  advance
  skipSpace
  let rest := (← get).rest
  let looksAround := ["?=", "?!", "?<=", "?<!"].any fun text => text.toList.isPrefixOf rest
  require !looksAround
  if ← accept "?P<" then
    let index ← nextIndex
    readGroupName
    return .numbered index
  else if ← accept "?<" then
    let index ← nextIndex
    readGroupName
    return .numbered index
  else if ← accept "?" then
    let letters ← readFlagLetters
    require (letters.eraseDups.length == letters.length && letters.getLast? != some '-')
    let flags ← toReader (applyFlags (← get).flags true letters)
    let c ← current
    advance
    if c == ')' then
      require !letters.isEmpty
      return .flags flags
    else return .plain flags
  else return .numbered (← nextIndex)

def partOfItems (items : List Item) : Part Pattern :=
  match items with
  | [] => ⟨.empty, 0⟩
  | [item] => ⟨item.pattern, item.height⟩
  | items => ⟨.sequence (items.reverse.map (·.pattern)), (items.map (·.height)).foldl max 0 + 1⟩

def partOfBranches (branches : List (Part Pattern)) : Part Pattern :=
  match branches with
  | [branch] => branch
  | branches =>
    ⟨.choice (branches.reverse.map (·.value)), (branches.map (·.height)).foldl max 0 + 1⟩

def readBranches : Nat → List Item → List (Part Pattern) → Reader (Part Pattern)
  | 0, _, _ => failure
  | fuel + 1, items, branches => do
    skipSpace
    match ← peek? with
    | none => pure (partOfBranches (partOfItems items :: branches))
    | some ')' => pure (partOfBranches (partOfItems items :: branches))
    | some '|' =>
      advance
      readBranches fuel [] (partOfItems items :: branches)
    | some '(' =>
      let outer := (← get).flags
      let opening ← readOpening
      match opening with
      | .flags flags =>
        modify fun s => { s with flags := flags }
        readBranches fuel (⟨.empty, 0, false⟩ :: items) branches
      | .numbered index =>
        let item ← readGroup fuel outer (.group index)
        readBranches fuel (item :: items) branches
      | .plain flags =>
        modify fun s => { s with flags := flags }
        let item ← readGroup fuel outer id
        readBranches fuel (item :: items) branches
    | some '[' =>
      let s ← readSet fuel
      readBranches fuel (⟨.one s.value, s.height, true⟩ :: items) branches
    | some '?' =>
      advance
      readBranches fuel (← repeatLast items 0 (some 1) (← readGreed)) branches
    | some '*' =>
      advance
      readBranches fuel (← repeatLast items 0 none (← readGreed)) branches
    | some '+' =>
      advance
      readBranches fuel (← repeatLast items 1 none (← readGreed)) branches
    | some '{' =>
      let (least, most) ← readCount
      readBranches fuel (← repeatLast items least most (← readGreed)) branches
    | some _ =>
      let pattern ← readPrimitive
      readBranches fuel (⟨pattern, 0, true⟩ :: items) branches
where
  /-- The body of an open group, after which the flags around it hold again. -/
  readGroup (fuel : Nat) (outer : Flags) (wrap : Pattern → Pattern) : Reader Item := do
    let body ← readBranches fuel [] []
    require ((← peek?) == some ')')
    modify fun s => { s with flags := outer }
    advance
    pure ⟨wrap body.value, body.height + 1, true⟩

end Reading

def heightLimit : Nat := 250

def read? (text : String) : Option Pattern :=
  let chars := text.toList
  match (Reading.readBranches (chars.length + 1) [] []).run { rest := chars } with
  | some (part, state) =>
    if state.rest.isEmpty && part.height ≤ heightLimit then some part.value else none
  | none => none

instance : PatternReader := ⟨read?⟩

end Pattern

end Scaffold
