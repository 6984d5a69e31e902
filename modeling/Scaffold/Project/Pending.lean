import Scaffold.Model.Statistics

/-!
# Pending routes

The generated server has handlers of its own for a few baseline routes. All other routes are
pending: they are listed by controller, in the order in which the controllers first appear, until
somebody writes their handlers.
-/

namespace Scaffold

def baselineRoutes : List (Method × String) :=
  [(.get, "/health"), (.post, "/api/auth/login"), (.post, "/api/auth/logout"),
    (.get, "/api/auth/verify")]

namespace Route

/-- Whether the path is the given one, or the end of it from a slash on: route files are mostly
mounted below a prefix. -/
def pathMatches (path full : String) : Bool :=
  path == full ||
    (path.toList.head? == some '/' && 1 < path.toList.length
      && path.toList.isSuffixOf full.toList)

def overlapsBaseline (r : Route) : Bool :=
  baselineRoutes.any fun b => b.1 == r.method && pathMatches r.path b.2

end Route

/-- Whether a controller name starts with "auth" in any case, with no small letter behind it. -/
def isAuthController (name : String) : Bool :=
  match name.toList with
  | a :: u :: t :: h :: rest =>
    [a, u, t, h].map Char.toLower == ['a', 'u', 't', 'h'] && !rest.head?.any Char.isLower
  | _ => false

namespace Route

def isCovered (r : Route) : Bool := isAuthController r.controller && r.overlapsBaseline

end Route

def isLineBreak (c : Char) : Bool := c == '\r' || c == '\n'

/-- The text on one line: its lines without the blanks around them, one space between them. -/
def singleLine (s : String) : String :=
  String.ofList <| Text.joinWith [' '] <|
    ((Text.splitAt isLineBreak s.toList).map Text.trim).filter (!·.isEmpty)

namespace Route

def line (r : Route) (duplicate : Bool) : String :=
  r.method.name ++ " " ++ singleLine r.path ++ " -> " ++ singleLine r.handler
    ++ (if r.middleware.isEmpty then ""
        else " [" ++ ", ".intercalate (r.middleware.map singleLine) ++ "]")
    ++ (if r.overlapsBaseline && !r.isCovered then " (path overlaps baseline)" else "")
    ++ (if duplicate then " (duplicate registration)" else "")

/-- A covered route is pending only if it is registered more than once: that has to be resolved
by hand. -/
def isPending (m : Model) (r : Route) : Bool := !r.isCovered || m.isDuplicate r

end Route

structure PendingGroup where
  controller : String
  lines : List String
  deriving Repr, DecidableEq

namespace PendingGroup

/-- Adds a line to the group of a controller, or a group behind the others. -/
def addLine (controller line : String) : List PendingGroup → List PendingGroup
  | [] => [⟨controller, [line]⟩]
  | group :: rest =>
    if group.controller == controller then ⟨controller, group.lines ++ [line]⟩ :: rest
    else group :: addLine controller line rest

def count : List PendingGroup → Nat
  | [] => 0
  | group :: rest => group.lines.length + count rest

theorem count_addLine (controller line : String) (groups : List PendingGroup) :
    count (addLine controller line groups) = count groups + 1 := by
  induction groups with
  | nil => rfl
  | cons group rest ih =>
    rw [addLine]
    split
    · rw [count, count, List.length_append, List.length_singleton]
      omega
    · rw [count, count, ih]
      omega

end PendingGroup

namespace Model

def pendingGroups (m : Model) : List PendingGroup :=
  (m.routes.filter (Route.isPending m)).foldl
    (fun groups r => PendingGroup.addLine (singleLine r.controller) (r.line (m.isDuplicate r)) groups)
    []

def pendingCount (m : Model) : Nat := PendingGroup.count m.pendingGroups

end Model

end Scaffold
