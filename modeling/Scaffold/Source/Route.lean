import Scaffold.Model.Basic
import Scaffold.Pattern.Match

/-!
# Routes in a source text

A routing idiom is a pattern whose first group is the method, whose second is the path and
whose third, if it has one, is the handler. The idioms are applied one after the other, each to
the whole text.
-/

namespace Scaffold

open Pattern

structure Idiom where
  name : String
  pattern : Pattern

namespace Idiom

def quote : CharSet := .oneOf "'\"".toList

def verb : Pattern := choice (["get", "post", "put", "delete", "patch"].map literal)

/-- A call such as `fastify.get('/path'`, up to the quote behind the path. -/
def call (receiver : String) : List Pattern :=
  [literal receiver, literal ".", group 1 verb, literal "(", one quote,
    group 2 (plus (one (.compl quote))), one quote]

def controllerMember : Pattern := sequence [wordPlus, literal "Controller.", wordPlus]

/-- The handler is the first word after the path on the same line; a member of a controller
counts as one word. -/
def fastify : Idiom :=
  ⟨"fastify", sequence (call "fastify" ++
    [lazyStar dot, group 3 (either controllerMember wordPlus)])⟩

def router : Idiom := ⟨"router", sequence (call "router" ++ [lazyStar dot, group 3 wordPlus])⟩

/-- Configured idioms are numbered from one. A pattern that cannot be read, or that has no
groups for method and path, is left out, and its number with it. -/
def custom [PatternReader] (patterns : List String) : List Idiom :=
  (patterns.zipIdx 1).filterMap fun (text, number) =>
    match PatternReader.read? text with
    | some pattern =>
      if 2 ≤ pattern.lastGroup then some ⟨"custom-" ++ toString number, pattern⟩ else none
    | none => none

def all [PatternReader] (patterns : List String) : List Idiom :=
  fastify :: router :: custom patterns

end Idiom

namespace Route

/-- What stands for a handler if the idiom has no group for it. -/
def unknownHandler : String := "unknown"

/-- Where middleware is attached, the text says so with this word. -/
def middlewareMarker : String := "preHandler"

def middlewareList : Pattern :=
  sequence [literal "preHandler:", blankStar, literal "[", group 1 (lazyStar dot), literal "]"]

def listedNames (list : List Char) : List String :=
  (((Text.splitAt (· == ',') list).map Text.trim).filter (!·.isEmpty)).map String.ofList

def occursIn (part : List Char) : List Char → Bool
  | [] => part.isEmpty
  | c :: rest => part.isPrefixOf (c :: rest) || occursIn part rest

def middlewareOf (text : List Char) : List String :=
  if occursIn middlewareMarker.toList text then
    (middlewareList.findAll text).flatMap fun found => listedNames ((found.group? 1).getD [])
  else []

/-- The controller of a route file: the end that marks route files gives way to the end that
marks controllers. -/
def controllerOf (stem routeSuffix controllerSuffix : String) : String :=
  let chars := stem.toList
  let marker := routeSuffix.toList
  let base :=
    if !marker.isEmpty && marker.isSuffixOf chars then chars.take (chars.length - marker.length)
    else chars
  String.ofList base ++ controllerSuffix

/-- The route of a match, unless its method is none of the known ones or it has no path. -/
def ofFound? (controller : String) (middleware : List String) (found : Found) : Option Route := do
  let method ← Method.ofToken? (String.ofList ((found.group? 1).getD []))
  let path ← found.group? 2
  let handler := ((found.group? 3).map String.ofList).getD unknownHandler
  pure ⟨method, String.ofList path, handler, middleware, controller⟩

def ofText (idioms : List Idiom) (controller : String) (text : List Char) : List Route :=
  let middleware := middlewareOf text
  idioms.flatMap fun idiom =>
    (idiom.pattern.findAll text).filterMap (ofFound? controller middleware)

end Route

end Scaffold
