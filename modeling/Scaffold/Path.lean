import Scaffold.Text.Blank

/-!
# Spelled paths

A path is kept as its spelling, cut at the slashes. Its components leave out what names nothing:
empty segments, and single dots that do not come first.
-/

namespace Scaffold

structure Path where
  segments : List String
  deriving Repr, DecidableEq

inductive PathComponent
  | root
  /-- A single dot at the start. -/
  | here
  | up
  | name (s : String)
  deriving Repr, DecidableEq

namespace PathComponent

def text : PathComponent → String
  | root => "/"
  | here => "."
  | up => ".."
  | name s => s

end PathComponent

namespace Path

structure IsName (s : String) : Prop where
  notEmpty : s ≠ ""
  notHere : s ≠ "."
  notUp : s ≠ ".."
  noSlash : '/' ∉ s.toList

instance (s : String) : Decidable (IsName s) :=
  decidable_of_iff (s ≠ "" ∧ s ≠ "." ∧ s ≠ ".." ∧ '/' ∉ s.toList)
    ⟨fun ⟨a, b, c, d⟩ => ⟨a, b, c, d⟩, fun ⟨a, b, c, d⟩ => ⟨a, b, c, d⟩⟩

def ofString (s : String) : Path :=
  ⟨(Text.splitAt (· == '/') s.toList).map String.ofList⟩

def text (p : Path) : String := "/".intercalate p.segments

instance : Inhabited Path := ⟨⟨[""]⟩⟩

def isEmpty (p : Path) : Bool := p.segments == [""] || p.segments.isEmpty

def isAbsolute (p : Path) : Bool := p.segments.head? == some "" && 2 ≤ p.segments.length

def endsInSlash (p : Path) : Bool := p.segments.getLast? == some "" && 2 ≤ p.segments.length

/-- The segments without the slashes at the end; of the root alone its slash stays. -/
def trimSlashes (segments : List String) : List String :=
  match (segments.reverse.dropWhile (· == "")).reverse with
  | [] => segments
  | kept => kept

/-- Whether a segment names nothing behind the first one. -/
def isIdle (segment : String) : Bool := segment == "" || segment == "."

def component (segment : String) : PathComponent :=
  if segment == ".." then .up else .name segment

def bodyComponents (segments : List String) : List PathComponent :=
  (segments.filter (!isIdle ·)).map component

def front (p : Path) : List PathComponent × List String :=
  match p.segments with
  | "" :: next :: rest => ([.root], next :: rest)
  | "." :: rest => ([.here], rest)
  | segments => ([], segments)

def components (p : Path) : List PathComponent := p.front.1 ++ bodyComponents p.front.2

/-- An absolute path replaces what comes before it. -/
def join (p q : Path) : Path :=
  if q.isAbsolute then q
  else if p.isEmpty then q
  else if p.segments.getLast? == some "" then ⟨p.segments.dropLast ++ q.segments⟩
  else ⟨p.segments ++ q.segments⟩

def joinName (p : Path) (name : String) : Path := p.join (ofString name)

def trimBody (segments : List String) : List String :=
  (segments.reverse.dropWhile isIdle).reverse

def ofParts (start : List PathComponent) (body : List String) : Path :=
  match start, body with
  | .root :: _, [] => ⟨["", ""]⟩
  | .root :: _, body => ⟨"" :: body⟩
  | .here :: _, body => ⟨"." :: body⟩
  | _, [] => ⟨[""]⟩
  | _, body => ⟨body⟩

/-- The path without its last component. A root and an empty path have none. -/
def parent? (p : Path) : Option Path :=
  match p.front, trimBody p.front.2 with
  | ([.here], _), [] => some ⟨[""]⟩
  | (_, _), [] => none
  | (start, _), body => some (ofParts start (trimBody body.dropLast))

def fileName? (p : Path) : Option String :=
  match p.components.getLast? with
  | some (.name s) => some s
  | _ => none

/-- Cuts a file name at its last dot, unless that dot comes first. -/
def splitName (name : String) : String × Option String :=
  let reversed := name.toList.reverse
  let after := (reversed.takeWhile (· != '.')).reverse
  match reversed.dropWhile (· != '.') with
  | [] => (name, none)
  | _ :: before =>
    if before.isEmpty then (name, none)
    else (String.ofList before.reverse, some (String.ofList after))

def stem (p : Path) : String := (p.fileName?.map fun name => (splitName name).1).getD ""

def extension? (p : Path) : Option String := p.fileName?.bind fun name => (splitName name).2

def stripBody : List PathComponent → List String → Option (List String)
  | [], segments => some segments
  | c :: cs, segments =>
    match segments.dropWhile isIdle with
    | [] => none
    | s :: rest => if component s == c then stripBody cs rest else none

/-- What is left of a path behind another one that it starts with, component by component. -/
def stripPrefix? (base p : Path) : Option Path :=
  match base.components with
  | [] => some (ofParts p.front.1 (trimBody p.front.2))
  | c :: cs =>
    let body? :=
      match p.front with
      | ([], body) => stripBody (c :: cs) body
      | (start, body) => if start == [c] then stripBody cs body else none
    body?.map fun body => ofParts [] (trimBody (body.dropWhile isIdle))

def ofComponents (components : List PathComponent) : Path :=
  components.foldl (fun p c => p.joinName c.text) ⟨[""]⟩

/-- The way to a path from a directory, through the directories above if need be. Both are
absolute. -/
def relativeTo (p base : Path) : Path := ofComponents (go base.components p.components)
where
  go : List PathComponent → List PathComponent → List PathComponent
    | [], cs => cs
    | _ :: bs, [] => .up :: bs.map fun _ => .up
    | b :: bs, c :: cs =>
      if b == c then go bs cs else (.up :: bs.map fun _ => .up) ++ (c :: cs)

/-- The path with an ending behind its file name. A path without a file name stays as it is. -/
def withEnding (p : Path) (ending : String) : Path :=
  match p.front, trimBody p.front.2 with
  | (_, _), [] => p
  | (start, _), body =>
    match body.getLast? with
    | some name =>
      if name == ".." then p else ofParts start (body.dropLast ++ [name ++ "." ++ ending])
    | none => p

theorem components_eq (p : Path) : p.components = p.front.1 ++ bodyComponents p.front.2 := rfl

theorem bodyComponents_append (xs ys : List String) :
    bodyComponents (xs ++ ys) = bodyComponents xs ++ bodyComponents ys := by
  simp [bodyComponents]

end Path

end Scaffold
