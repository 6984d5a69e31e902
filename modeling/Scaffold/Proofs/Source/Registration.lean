import Mathlib.Data.List.Basic
import Scaffold.Proofs.Pattern.Scanner
import Scaffold.Source.Route

/-!
# Reading registrations

The calls that register routes, read directly: the receiver with one of the verbs, a quoted path,
and the first word behind it on the same line. The idioms find just what is read here. Nothing in
their patterns goes back over a text but the name in front of a member, which gives up the end that
all controllers have.
-/

namespace Scaffold

def Method.verb : Method → String
  | get => "get"
  | post => "post"
  | put => "put"
  | delete => "delete"
  | patch => "patch"

structure Registration where
  method : Method
  path : List Char
  handler : List Char
  deriving Repr, DecidableEq

namespace Registration

open Pattern Attempt

def isQuote (c : Char) : Bool := "'\"".toList.contains c

def verbAt? (text : List Char) : Option (Method × List Char) :=
  Method.all.findSome? fun m => ((m.verb ++ "(").toList.isPrefixOf? text).map (m, ·)

/-- A path between quotes. The two quotes need not be the same. -/
def quotedAt? : List Char → Option (List Char × List Char)
  | [] => none
  | c :: text =>
    if isQuote c then do
      match ← takeRun? (!isQuote ·) text with
      | (_, []) => none
      | (path, _ :: rest) => some (path, rest)
    else none

def dottedAt? : List Char → Option (List Char × List Char)
  | '.' :: text => takeRun? Text.isWord text
  | _ => none

/-- More than the end that the names of controllers have. -/
def isController (word : List Char) : Bool :=
  "Controller".toList.isSuffixOf word && "Controller".toList.length < word.length

def memberAt? (text : List Char) : Option (List Char × List Char) := do
  let (word, behind) ← takeRun? Text.isWord text
  let (member, rest) ← dottedAt? behind
  if isController word then some (word ++ '.' :: member, rest) else none

def nameAt? (members : Bool) (text : List Char) : Option (List Char × List Char) :=
  if members then (memberAt? text).or (takeRun? Text.isWord text) else takeRun? Text.isWord text

/-- The first word on the line. A member of a controller counts as one if members are read. -/
def handlerAt? (members : Bool) (text : List Char) : Option (List Char × List Char) :=
  nameAt? members (text.dropWhile fun c => !Text.isWord c && c != '\n')

def callAt? (receiver : String) (members : Bool) (text : List Char) :
    Option (Registration × List Char) := do
  let text ← (receiver ++ ".").toList.isPrefixOf? text
  let (method, text) ← verbAt? text
  let (path, text) ← quotedAt? text
  let (handler, rest) ← handlerAt? members text
  some (⟨method, path, handler⟩, rest)

variable {α : Type} {c : Char} {text rest taken : List Char} {place : Place} {groups : Groups}
  {accept : Place → Groups → Option α} {members : Bool} {receiver : String}

/-! ## What is left -/

theorem memberAt?_parts (h : memberAt? text = some (taken, rest)) : taken ++ rest = text := by
  simp only [memberAt?, Option.bind_eq_bind, Option.bind_eq_some_iff, Prod.exists] at h
  obtain ⟨word, behind, first, member, last, second, h⟩ := h
  split at h
  · cases h
    rw [← takeRun?_parts first]
    unfold dottedAt? at second
    split at second
    · rw [← takeRun?_parts second, List.append_assoc, List.cons_append]
    · cases second
  · cases h

theorem nameAt?_parts (h : nameAt? members text = some (taken, rest)) : taken ++ rest = text := by
  unfold nameAt? at h
  split at h
  · rcases Option.or_eq_some_iff.mp h with h | ⟨_, h⟩
    · exact memberAt?_parts h
    · exact takeRun?_parts h
  · exact takeRun?_parts h

theorem handlerAt?_length (h : handlerAt? members text = some (taken, rest)) :
    rest.length ≤ text.length := by
  have dropped : (text.dropWhile fun c => !Text.isWord c && c != '\n').length ≤ text.length :=
    (List.dropWhile_suffix _).length_le
  rw [← nameAt?_parts h, List.length_append] at dropped
  omega

theorem quotedAt?_cons : quotedAt? (c :: text) =
    if isQuote c then
      (takeRun? (!isQuote ·) text).bind fun read =>
        match read.2 with
        | [] => none
        | _ :: rest => some (read.1, rest)
    else none := by
  rw [quotedAt?]
  split
  · cases takeRun? (!isQuote ·) text with
    | none => rfl
    | some read =>
      obtain ⟨path, behind⟩ := read
      cases behind <;> rfl
  · rfl

theorem quotedAt?_length (h : quotedAt? text = some (taken, rest)) :
    rest.length ≤ text.length := by
  cases text with
  | nil => cases h
  | cons c text =>
    rw [quotedAt?_cons] at h
    split at h
    · obtain ⟨⟨path, behind⟩, run, h⟩ := Option.bind_eq_some_iff.mp h
      have length := congrArg List.length (takeRun?_parts run)
      cases behind with
      | nil => cases h
      | cons q behind =>
        cases h
        simp only [List.length_append, List.length_cons] at length ⊢
        omega
    · cases h

theorem verbAt?_length {m : Method} (h : verbAt? text = some (m, rest)) :
    rest.length ≤ text.length := by
  obtain ⟨m, _, h⟩ := List.exists_of_findSome?_eq_some h
  obtain ⟨behind, isPrefix, h⟩ := Option.map_eq_some_iff.mp h
  cases h
  rw [← List.isPrefixOf?_eq_some_iff_append_eq.mp isPrefix, List.length_append]
  omega

theorem callAt?_length {r : Registration} (h : callAt? receiver members text = some (r, rest)) :
    rest.length < text.length := by
  simp only [callAt?, Option.bind_eq_bind, Option.bind_eq_some_iff, Prod.exists] at h
  obtain ⟨called, start, m, behind, verb, path, last, quoted, handler, stop, word, h⟩ := h
  cases h
  have first := congrArg List.length (List.isPrefixOf?_eq_some_iff_append_eq.mp start)
  have dot : 0 < (receiver ++ ".").toList.length := by simp
  have second := verbAt?_length verb
  have third := quotedAt?_length quoted
  have fourth := handlerAt?_length word
  rw [List.length_append] at first
  omega

def scanner (receiver : String) (members : Bool) : Scanner Registration where
  step := callAt? receiver members
  shrinks := callAt?_length

/-! ## Names -/

theorem ending_split : "Controller.".toList = "Controller".toList ++ ['.'] := by decide

theorem isWord_of_mem_ending : ∀ c ∈ "Controller".toList, Text.isWord c = true :=
  List.all_eq_true.mp (by decide)

theorem isPrefixOf?_ending : "Controller.".toList.isPrefixOf? text = some rest ↔
    text.takeWhile Text.isWord = "Controller".toList ∧
      text.dropWhile Text.isWord = '.' :: rest := by
  have dot : Text.isWord '.' = false := by decide
  rw [List.isPrefixOf?_eq_some_iff_append_eq, ending_split, List.append_assoc]
  constructor
  · rintro rfl
    rw [List.takeWhile_append_of_pos isWord_of_mem_ending,
      List.dropWhile_append_of_pos isWord_of_mem_ending]
    simp [dot]
  · rintro ⟨word, behind⟩
    have parts : text.takeWhile Text.isWord ++ text.dropWhile Text.isWord = text :=
      List.takeWhile_append_dropWhile
    rw [← parts, word, behind]
    rfl

/-- The end of a controller's name with a dot behind it is at the end of a word. -/
theorem ending_eq (text : List Char) :
    ("Controller.".toList.isPrefixOf? text).bind (takeRun? Text.isWord) =
      if text.takeWhile Text.isWord = "Controller".toList then
        dottedAt? (text.dropWhile Text.isWord)
      else none := by
  cases found : "Controller.".toList.isPrefixOf? text with
  | some rest =>
    obtain ⟨word, dot⟩ := isPrefixOf?_ending.mp found
    rw [if_pos word, dot, Option.bind_some, dottedAt?]
  | none =>
    rw [Option.bind_none]
    split
    · rename_i word
      unfold dottedAt?
      split
      · rename_i dot
        cases found.symm.trans (isPrefixOf?_ending.mpr ⟨word, dot⟩)
      · rfl
    · rfl

theorem goesOn_ending (h : place.IsAt text)
    (accepts : ∀ stop groups, (accept stop groups).isSome = true) :
    GoesOn accept
      ((if text.takeWhile Text.isWord = "Controller".toList then
        dottedAt? (text.dropWhile Text.isWord) else none).map fun read => (groups, read.2))
      ((sequence [literal "Controller.", wordPlus]).attempt place groups accept) := by
  rw [← ending_eq, Option.map_bind, attempt_sequence_cons]
  refine (goesOn_literal "Controller." h).andThen fun rest stop _ isAt => ?_
  exact goesOn_word isAt accepts

theorem ite_suffix_cons {β : Type} (suffix word : List Char) (c : Char) (x : Option β) :
    (if suffix <:+ c :: word then x else none) =
      (if suffix <:+ word then x else none).or (if c :: word = suffix then x else none) := by
  by_cases inside : suffix <:+ word
  · rw [if_pos inside, if_pos (List.suffix_cons_iff.mpr (.inr inside))]
    split
    · exact Option.or_self.symm
    · exact Option.or_none.symm
  · rw [if_neg inside, Option.none_or]
    by_cases whole : c :: word = suffix
    · rw [if_pos whole, if_pos (List.suffix_cons_iff.mpr (.inl whole.symm))]
    · rw [if_neg whole, if_neg]
      rw [List.suffix_cons_iff, not_or]
      exact ⟨Ne.symm whole, inside⟩

/-- In a word the place is found from which the end of a controller's name goes on. -/
theorem goesOn_run_ending (h : place.IsAt text)
    (accepts : ∀ stop groups, (accept stop groups).isSome = true) :
    GoesOn accept
      ((if "Controller".toList <:+ text.takeWhile Text.isWord then
        dottedAt? (text.dropWhile Text.isWord) else none).map fun read => (groups, read.2))
      ((Pattern.run .word true).attempt place groups fun stop groups =>
        (sequence [literal "Controller.", wordPlus]).attempt stop groups accept) := by
  -- A greedy run is tried at its longest first, so the last place with an ending wins.
  induction text generalizing place with
  | nil =>
    rw [attempt_run_of_not_mem h (by simp)]
    exact goesOn_ending h accepts
  | cons c rest ih =>
    have ending : GoesOn accept
        ((if (c :: rest).takeWhile Text.isWord = "Controller".toList then
          dottedAt? ((c :: rest).dropWhile Text.isWord) else none).map fun read => (groups, read.2))
        ((sequence [literal "Controller.", wordPlus]).attempt place groups accept) :=
      goesOn_ending h accepts
    cases word : Text.isWord c with
    | false =>
      have other : ∀ d ∈ (c :: rest).head?, CharSet.word.contains d = false := by
        rintro d ⟨⟩
        exact word
      rw [List.takeWhile_cons_of_neg (by simp [word])] at ending ⊢
      rw [if_neg (by decide)] at ending
      rw [attempt_run_of_not_mem h other, if_neg (by decide)]
      exact ending
    | true =>
      have mem : CharSet.word.contains c = true := word
      rw [List.takeWhile_cons_of_pos word, List.dropWhile_cons_of_pos word] at ending ⊢
      rw [attempt_run_of_mem h mem, if_pos rfl, ite_suffix_cons, Option.map_or]
      exact (ih h.past).or_of_accepts ending accepts

theorem isController_cons (word : List Char) :
    isController (c :: word) = decide ("Controller".toList <:+ word) := by
  rw [isController, Bool.eq_iff_iff, Bool.and_eq_true, List.isSuffixOf_iff_suffix,
    List.suffix_cons_iff, decide_eq_true_iff, decide_eq_true_iff, List.length_cons]
  constructor
  · rintro ⟨whole | inside, longer⟩
    · rw [whole, List.length_cons] at longer
      exact absurd longer (Nat.lt_irrefl _)
    · exact inside
  · intro inside
    exact ⟨.inr inside, Nat.lt_succ_of_le inside.length_le⟩

theorem memberAt?_of_neg (free : ∀ c ∈ text.head?, Text.isWord c = false) :
    memberAt? text = none := by
  rw [memberAt?, takeRun?_of_neg free]
  rfl

theorem memberAt?_cons {β : Type} (f : List Char → β) (word : Text.isWord c = true) :
    (memberAt? (c :: rest)).map (fun read => f read.2) =
      (if "Controller".toList <:+ rest.takeWhile Text.isWord then
        dottedAt? (rest.dropWhile Text.isWord) else none).map fun read => f read.2 := by
  rw [memberAt?, takeRun?_cons_of_pos word]
  simp only [Option.bind_eq_bind, Option.bind_some, isController_cons, decide_eq_true_iff]
  cases dottedAt? (rest.dropWhile Text.isWord) with
  | none => split <;> rfl
  | some read =>
    rw [Option.bind_some]
    split <;> rfl

theorem goesOn_member (h : place.IsAt text)
    (accepts : ∀ stop groups, (accept stop groups).isSome = true) :
    GoesOn accept ((memberAt? text).map fun read => (groups, read.2))
      (Idiom.controllerMember.attempt place groups accept) := by
  rw [Idiom.controllerMember, attempt_sequence_cons,
    show wordPlus = someRun .word true from rfl]
  cases text with
  | nil =>
    rw [attempt_someRun_of_not_mem h (by simp), memberAt?_of_neg (by simp)]
    exact .fails
  | cons c rest =>
    cases word : Text.isWord c with
    | false =>
      rw [attempt_someRun_of_not_mem h (by rintro d ⟨⟩; exact word),
        memberAt?_of_neg (by rintro d ⟨⟩; exact word)]
      exact .fails
    | true =>
      have mem : CharSet.word.contains c = true := word
      rw [attempt_someRun_of_mem h mem, memberAt?_cons _ word]
      exact goesOn_run_ending h.past accepts

/-! ## Handlers -/

def namePattern (members : Bool) : Pattern :=
  if members then either Idiom.controllerMember wordPlus else wordPlus

theorem goesOn_name (h : place.IsAt text)
    (accepts : ∀ stop groups, (accept stop groups).isSome = true) :
    GoesOn accept ((nameAt? members text).map fun read => ((3, read.1) :: groups, read.2))
      ((group 3 (namePattern members)).attempt place groups accept) := by
  refine GoesOn.group h ?_ fun taken rest => nameAt?_parts
  have accepts' : ∀ stop groups,
      (accept stop ((3, place.textUpTo stop) :: groups)).isSome = true := fun _ _ => accepts _ _
  cases members with
  | false => exact goesOn_word h accepts'
  | true =>
    rw [nameAt?, if_pos rfl, Option.map_or]
    exact .of_eq (orElse_apply ..)
      ((goesOn_member h accepts').or_of_accepts (goesOn_word h accepts') accepts')

theorem nameAt?_of_neg (free : ∀ c ∈ text.head?, Text.isWord c = false) :
    nameAt? members text = none := by
  rw [nameAt?, memberAt?_of_neg free, takeRun?_of_neg free, Option.none_or, ite_self]

theorem nameAt?_of_pos (word : Text.isWord c = true) :
    (nameAt? members (c :: rest)).isSome = true := by
  rw [nameAt?, takeRun?_cons_of_pos word]
  split
  · rw [Option.isSome_or, Option.isSome_some, Bool.or_true]
  · rfl

theorem goesOn_handler (h : place.IsAt text)
    (accepts : ∀ stop groups, (accept stop groups).isSome = true) :
    GoesOn accept ((handlerAt? members text).map fun read => ((3, read.1) :: groups, read.2))
      ((sequence [lazyStar dot, group 3 (namePattern members)]).attempt place groups accept) := by
  have gap : GoesOn
      (fun stop groups => (group 3 (namePattern members)).attempt stop groups accept)
      (some (groups, text.dropWhile fun c => !Text.isWord c && c != '\n'))
      ((lazyStar dot).attempt place groups fun stop groups =>
        (group 3 (namePattern members)).attempt stop groups accept) := by
    simp only [← contains_dot]
    refine goesOn_lazyRun h (fun stop text isAt free => ?_) fun stop c rest isAt word => ?_
    · have name : GoesOn accept
          ((nameAt? members text).map fun read => ((3, read.1) :: groups, read.2))
          ((group 3 (namePattern members)).attempt stop groups accept) := goesOn_name isAt accepts
      rw [nameAt?_of_neg free] at name
      exact name.eq_none
    · rw [(goesOn_name isAt accepts).isSome_eq accepts, Option.isSome_map]
      exact nameAt?_of_pos word
  rw [attempt_sequence_cons]
  obtain ⟨stop, isAt, first⟩ := gap.exists_stop
  exact .of_eq first (goesOn_name isAt accepts)

/-! ## Paths -/

theorem contains_quote (c : Char) : Idiom.quote.contains c = isQuote c := by
  rw [Bool.eq_iff_iff, Idiom.quote, CharSet.contains_oneOf_iff, isQuote, List.contains_iff_mem]

theorem contains_unquoted : (CharSet.compl Idiom.quote).contains = (!isQuote ·) :=
  funext fun c => by rw [CharSet.contains, contains_quote]

def quotedBefore (ps : List Pattern) : Pattern :=
  sequence (one Idiom.quote :: group 2 (plus (one (.compl Idiom.quote))) :: one Idiom.quote :: ps)

theorem goesOn_quoted (ps : List Pattern) (h : place.IsAt text) :
    GoesOn (fun stop groups => (sequence ps).attempt stop groups accept)
      ((quotedAt? text).map fun read => ((2, read.1) :: groups, read.2))
      ((quotedBefore ps).attempt place groups accept) := by
  rw [quotedBefore, attempt_sequence_cons]
  cases text with
  | nil =>
    rw [attempt_one_of_not_mem h (by simp)]
    exact .fails
  | cons c text =>
    rw [quotedAt?_cons]
    cases quote : isQuote c with
    | false =>
      rw [attempt_one_of_not_mem h (by rintro d ⟨⟩; rw [contains_quote, quote])]
      exact .fails
    | true =>
      rw [attempt_one_of_mem h ((contains_quote c).trans quote), attempt_sequence_cons, if_pos rfl,
        Option.map_bind]
      -- The run is greedy, but it stops at quotes only, so no shorter run is followed by one.
      have path : GoesOn
          (fun stop groups => (sequence (one Idiom.quote :: ps)).attempt stop groups accept)
          ((takeRun? (!isQuote ·) text).map fun read => ((2, read.1) :: groups, read.2))
          ((group 2 (plus (one (.compl Idiom.quote)))).attempt (place.past c) groups
            fun stop groups => (sequence (one Idiom.quote :: ps)).attempt stop groups accept) := by
        rw [← contains_unquoted]
        refine GoesOn.group h.past (goesOn_someRun_of_blocks h.past ?_) fun _ _ => takeRun?_parts
        intro stop d rest isAt other
        have unquoted : Idiom.quote.contains d = false := by simpa [CharSet.contains] using other
        rw [attempt_sequence_cons]
        exact attempt_one_of_not_mem isAt (by rintro e ⟨⟩; exact unquoted)
      refine path.andThen fun read stop run isAt => ?_
      obtain ⟨path, behind⟩ := read
      rw [attempt_sequence_cons]
      cases behind with
      | nil =>
        rw [attempt_one_of_not_mem isAt (by simp)]
        exact .fails
      | cons d rest =>
        have quoted : isQuote d = true := by simpa using not_of_takeRun? run
        rw [attempt_one_of_mem isAt ((contains_quote d).trans quoted)]
        exact .stops _ isAt.past

/-! ## Verbs -/

theorem verb_eq : Idiom.verb = choice (Method.all.map fun m => literal m.verb) := rfl

/-- No verb with its bracket is the start of another one. -/
theorem eq_of_verbs {m m' : Method} (h : (m.verb ++ "(").toList <+: text)
    (h' : (m'.verb ++ "(").toList <+: text) : m = m' := by
  have apart : ∀ m m' : Method, (m.verb ++ "(").toList <+: (m'.verb ++ "(").toList → m = m' := by
    intro m m'
    cases m <;> cases m' <;> decide
  rcases List.prefix_or_prefix_of_prefix h h' with below | below
  · exact apart m m' below
  · exact (apart m' m below).symm

theorem prefix_of_isPrefixOf? {start : List Char} (h : start.isPrefixOf? text = some rest) :
    start <+: text :=
  ⟨rest, List.isPrefixOf?_eq_some_iff_append_eq.mp h⟩

theorem goesOn_oneVerb (m : Method) (h : place.IsAt text) :
    GoesOn accept
      (((m.verb ++ "(").toList.isPrefixOf? text).map fun rest =>
        ((1, m.verb.toList) :: groups, rest))
      ((literal m.verb).attempt place groups fun stop groups =>
        (literal "(").attempt stop ((1, place.textUpTo stop) :: groups) accept) := by
  rw [String.toList_append, isPrefixOf?_append, Option.map_bind]
  refine (goesOn_literal m.verb h).andThen fun rest stop start isAt => ?_
  rw [← List.isPrefixOf?_eq_some_iff_append_eq.mp start] at h
  rw [h.textUpTo isAt]
  exact goesOn_literal "(" isAt

theorem goesOn_verbs (h : place.IsAt text) {ms : List Method} (nodup : ms.Nodup) :
    GoesOn accept
      ((ms.findSome? fun m => ((m.verb ++ "(").toList.isPrefixOf? text).map (m, ·)).map fun read =>
        ((1, read.1.verb.toList) :: groups, read.2))
      ((choice (ms.map fun m => literal m.verb)).attempt place groups fun stop groups =>
        (literal "(").attempt stop ((1, place.textUpTo stop) :: groups) accept) := by
  induction ms with
  | nil =>
    rw [List.map_nil, attempt_choice_nil]
    exact .fails
  | cons m ms ih =>
    obtain ⟨fresh, nodup⟩ := List.nodup_cons.mp nodup
    rw [List.map_cons, attempt_choice_cons, List.findSome?_cons]
    have first := @goesOn_oneVerb α text place groups accept m h
    have later := ih nodup
    cases start : (m.verb ++ "(").toList.isPrefixOf? text with
    | none =>
      rw [start] at first
      rw [first.eq_none, Option.none_or]
      exact later
    | some rest =>
      -- The verbs are tried in turn, and where one of them fits no later one does.
      have others : (ms.findSome? fun m =>
          ((m.verb ++ "(").toList.isPrefixOf? text).map (m, ·)) = none := by
        refine List.findSome?_eq_none_iff.mpr fun other listed => ?_
        cases found : (other.verb ++ "(").toList.isPrefixOf? text with
        | none => rfl
        | some _ =>
          cases eq_of_verbs (prefix_of_isPrefixOf? start) (prefix_of_isPrefixOf? found)
          exact absurd listed fresh
      rw [others] at later
      rw [start] at first
      rw [later.eq_none, Option.or_none]
      exact first

theorem goesOn_verb (ps : List Pattern) (h : place.IsAt text) :
    GoesOn (fun stop groups => (sequence ps).attempt stop groups accept)
      ((verbAt? text).map fun read => ((1, read.1.verb.toList) :: groups, read.2))
      ((sequence (group 1 Idiom.verb :: literal "(" :: ps)).attempt place groups accept) := by
  rw [attempt_sequence_cons, verb_eq]
  simp only [attempt_sequence_cons]
  exact goesOn_verbs h (by decide)

/-! ## Calls -/

def callPattern (receiver : String) (members : Bool) : Pattern :=
  sequence (Idiom.call receiver ++ [lazyStar dot, group 3 (namePattern members)])

def record (r : Registration) : Groups := [(3, r.handler), (2, r.path), (1, r.method.verb.toList)]

theorem record_callAt? : (callAt? receiver members text).map (fun read => (record read.1, read.2)) =
    ((receiver ++ ".").toList.isPrefixOf? text).bind fun text =>
      (verbAt? text).bind fun verb =>
        (quotedAt? verb.2).bind fun path =>
          (handlerAt? members path.2).map fun handler =>
            ([(3, handler.1), (2, path.1), (1, verb.1.verb.toList)], handler.2) := by
  simp only [callAt?, Option.bind_eq_bind, Function.comp_def, Option.map_eq_bind,
    Option.bind_assoc, Option.bind_some]
  rfl

theorem goesOn_receiver (receiver : String) (h : place.IsAt text) :
    GoesOn accept (((receiver ++ ".").toList.isPrefixOf? text).map fun rest => (groups, rest))
      ((literal receiver).attempt place groups fun stop groups =>
        (literal ".").attempt stop groups accept) := by
  rw [String.toList_append, isPrefixOf?_append, Option.map_bind]
  exact (goesOn_literal receiver h).andThen fun rest stop _ isAt => goesOn_literal "." isAt

theorem describes_call (receiver : String) (members : Bool) :
    (scanner receiver members).Describes (callPattern receiver members) record := by
  refine ⟨fun {place text} h => ?_⟩
  change GoesOn _ ((callAt? receiver members text).map _) _
  rw [record_callAt?, matchAt?, callPattern, Idiom.call]
  simp only [List.cons_append, List.nil_append]
  rw [attempt_sequence_cons]
  simp only [attempt_sequence_cons (literal ".")]
  refine (goesOn_receiver receiver h).andThen fun text stop _ isAt => ?_
  refine (goesOn_verb _ isAt).andThen fun verb stop _ isAt => ?_
  refine (goesOn_quoted _ isAt).andThen fun path stop _ isAt => ?_
  exact goesOn_handler isAt fun _ _ => rfl

/-! ## Routes -/

theorem ofToken?_verb (m : Method) : Method.ofToken? m.verb = some m := by
  cases m <;> decide

def toRoute (controller : String) (middleware : List String) (r : Registration) : Route :=
  ⟨r.method, String.ofList r.path, String.ofList r.handler, middleware, controller⟩

theorem ofFound?_record (controller : String) (middleware : List String) (start stop : Place)
    (r : Registration) : Route.ofFound? controller middleware ⟨start, stop, record r⟩
      = some (r.toRoute controller middleware) := by
  have verb : Method.ofToken? (String.ofList r.method.verb.toList) = some r.method := by
    rw [String.ofList_toList, ofToken?_verb]
  change (do
    let method ← Method.ofToken? (String.ofList r.method.verb.toList)
    some (⟨method, String.ofList r.path, String.ofList r.handler, middleware, controller⟩ :
      Route)) = _
  rw [verb]
  rfl

theorem pattern_fastify : Idiom.fastify.pattern = callPattern "fastify" true := rfl

theorem pattern_router : Idiom.router.pattern = callPattern "router" false := rfl

/-- The idioms that are built in find the registrations with the two receivers. -/
theorem ofText_builtin [PatternReader] (controller : String) (text : List Char) :
    Route.ofText (Idiom.all []) controller text =
      ((scanner "fastify" true).run text ++ (scanner "router" false).run text).map
        (toRoute controller (Route.middlewareOf text)) := by
  have means := ofFound?_record controller (Route.middlewareOf text)
  have custom : Idiom.all [] = [Idiom.fastify, Idiom.router] := rfl
  rw [Route.ofText, custom, List.flatMap_cons, List.flatMap_singleton, pattern_fastify,
    pattern_router, (describes_call "fastify" true).findAll means text,
    (describes_call "router" false).findAll means text, List.map_append]

end Registration

end Scaffold
