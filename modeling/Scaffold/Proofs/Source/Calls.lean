import Scaffold.Pattern.Reader
import Scaffold.Proofs.Source.Middleware
import Scaffold.Proofs.Source.Registration
import Scaffold.Proofs.Text.Runs

/-!
# Writing registrations

Calls that register routes, written one on a line. Reading such a text gives back its calls, those
of each receiver in their order: a call is read at its own beginning, and nowhere else does the
text of one call look like the beginning of another, because an opening bracket stands only behind
the verb.
-/

namespace Scaffold

inductive Receiver
  | fastify
  | router
  deriving Repr, DecidableEq

namespace Receiver

def name : Receiver → String
  | fastify => "fastify"
  | router => "router"

/-- Whether the handler of a call may be a member of a controller. -/
def hasMembers : Receiver → Bool
  | fastify => true
  | router => false

def scanner (receiver : Receiver) : Scanner Registration :=
  Registration.scanner receiver.name receiver.hasMembers

def head (receiver : Receiver) (method : Method) : List Char :=
  (receiver.name ++ ".").toList ++ method.verb.toList

end Receiver

def IsWord (word : List Char) : Prop := word ≠ [] ∧ ∀ c ∈ word, Text.isWord c = true

/-- What may stand for the handler in a call: a word, or a member of a controller whose name is
more than the end that all controllers have. -/
inductive IsHandler : Receiver → List Char → Prop
  | word {receiver : Receiver} {word : List Char} (isWord : IsWord word) :
    IsHandler receiver word
  | member {stem member : List Char} (isStem : IsWord stem) (isMember : IsWord member) :
    IsHandler .fastify (stem ++ "Controller".toList ++ '.' :: member)

structure Call where
  receiver : Receiver
  method : Method
  quote : Char
  path : List Char
  handler : List Char
  quote_eq : quote = '\'' ∨ quote = '"'
  path_ne_nil : path ≠ []
  path_free : ∀ c ∈ path, c ∉ ['\'', '"', '(', '[']
  isHandler : IsHandler receiver handler

namespace Call

open Registration Pattern

def arguments (call : Call) : List Char :=
  call.quote :: (call.path ++ call.quote :: ',' :: ' ' :: call.handler)

def line (call : Call) : List Char :=
  call.receiver.head call.method ++ '(' :: (call.arguments ++ [')'])

def registration (call : Call) : Registration := ⟨call.method, call.path, call.handler⟩

def route (controller : String) (call : Call) : Route :=
  ⟨call.method, String.ofList call.path, String.ofList call.handler, [], controller⟩

/-- The calls stand in the text, one on a line. The last line may have an end or not. -/
inductive Lines : List Call → List Char → Prop
  | none : Lines [] []
  | last (call : Call) : Lines [call] call.line
  | more {calls : List Call} {text : List Char} (call : Call) (lines : Lines calls text) :
    Lines (call :: calls) (call.line ++ '\n' :: text)

variable {call : Call} {receiver : Receiver} {text rest : List Char} {c : Char}

/-! ## Characters that stand nowhere else -/

theorem isWord_of_mem_handler (h : IsHandler receiver text) (mem : c ∈ text) :
    Text.isWord c = true ∨ c = '.' := by
  cases h with
  | word isWord => exact .inl (isWord.2 c mem)
  | member isStem isMember =>
    rcases List.mem_append.mp mem with mem | mem
    · rcases List.mem_append.mp mem with mem | mem
      · exact .inl (isStem.2 c mem)
      · exact .inl (isWord_of_mem_ending c mem)
    · rcases List.mem_cons.mp mem with rfl | mem
      · exact .inr rfl
      · exact .inl (isMember.2 c mem)

theorem not_mem_handler (h : IsHandler receiver text) (other : Text.isWord c = false)
    (notDot : c ≠ '.') : c ∉ text := by
  intro mem
  rcases isWord_of_mem_handler h mem with word | dot
  · rw [other] at word
    cases word
  · exact notDot dot

theorem not_mem_arguments (call : Call) (bracket : c = '(' ∨ c = '[') : c ∉ call.arguments := by
  intro mem
  simp only [arguments, List.mem_cons, List.mem_append] at mem
  have quoted : c ≠ call.quote := by
    rcases bracket with rfl | rfl <;> rcases call.quote_eq with h | h <;> rw [h] <;> decide
  rcases mem with h | h | h | h | h | h
  · exact quoted h
  · rcases bracket with rfl | rfl <;> exact call.path_free _ h (by decide)
  · exact quoted h
  · rcases bracket with rfl | rfl <;> cases h
  · rcases bracket with rfl | rfl <;> cases h
  · have other : Text.isWord c = false := by
      rcases bracket with rfl | rfl <;> decide
    refine not_mem_handler call.isHandler other ?_ h
    rcases bracket with rfl | rfl <;> decide

theorem not_mem_head (receiver : Receiver) (method : Method)
    (other : c ∈ ['(', '[', ')']) : c ∉ receiver.head method := by
  have all : ∀ c ∈ ['(', '[', ')'], c ∉ receiver.head method := by
    cases receiver <;> cases method <;> simp [Receiver.head, Receiver.name, Method.verb]
  exact all c other

theorem not_mem_lines {calls : List Call} (h : Lines calls text) : '[' ∉ text := by
  have line (call : Call) : '[' ∉ call.line := by
    intro mem
    simp only [line, List.mem_append, List.mem_cons, List.not_mem_nil, or_false] at mem
    rcases mem with h | h | h | h
    · exact not_mem_head _ _ (by decide) h
    · cases h
    · exact call.not_mem_arguments (.inr rfl) h
    · cases h
  induction h with
  | none => exact List.not_mem_nil
  | last call => exact line call
  | more call _ ih =>
    intro mem
    rcases List.mem_append.mp mem with mem | mem
    · exact line call mem
    · rcases List.mem_cons.mp mem with h | mem
      · cases h
      · exact ih mem

/-! ## Where a call can be read -/

/-- Before its first opening bracket a call has its receiver and its verb. -/
theorem head_of_step {read : Registration × List Char}
    (h : receiver.scanner.step text = some read) :
    ∃ method, text.takeWhile (· != '(') = receiver.head method := by
  change callAt? _ _ text = some read at h
  simp only [callAt?, Option.bind_eq_bind, Option.bind_eq_some_iff, Prod.exists] at h
  obtain ⟨called, start, method, behind, verb, -⟩ := h
  obtain ⟨method, -, verb⟩ := List.exists_of_findSome?_eq_some verb
  obtain ⟨behind, isPrefix, -⟩ := Option.map_eq_some_iff.mp verb
  refine ⟨method, ?_⟩
  have bracket : (method.verb ++ "(").toList ++ behind = method.verb.toList ++ '(' :: behind := by
    simp
  rw [← List.isPrefixOf?_eq_some_iff_append_eq.mp start,
    ← List.isPrefixOf?_eq_some_iff_append_eq.mp isPrefix, bracket, ← List.append_assoc]
  change (receiver.head method ++ '(' :: behind).takeWhile _ = _
  rw [List.takeWhile_append_of_pos]
  · simp
  · intro c mem
    apply bne_iff_ne.mpr
    rintro rfl
    exact not_mem_head receiver method (by decide) mem

theorem step_eq_none (h : ∀ method, text.takeWhile (· != '(') ≠ receiver.head method) :
    receiver.scanner.step text = none := by
  cases read : receiver.scanner.step text with
  | none => rfl
  | some read' =>
    obtain ⟨method, same⟩ := head_of_step read
    exact absurd same (h method)

/-- Up to a closing bracket with no opening one before it there is no call. -/
theorem run_closed {chunk : List Char} (free : '(' ∉ chunk) :
    receiver.scanner.run (chunk ++ ')' :: rest) = receiver.scanner.run rest := by
  rw [← List.singleton_append, ← List.append_assoc]
  apply Scanner.run_append
  intro suffix isSuffix nonempty
  apply step_eq_none
  intro method same
  -- what stands before the next opening bracket holds the closing one, and no head does
  have closing : ')' ∈ suffix := by
    obtain ⟨front, whole⟩ := isSuffix
    have last := congrArg List.getLast? whole
    rw [List.getLast?_append_of_ne_nil _ nonempty, List.getLast?_concat] at last
    exact List.mem_of_getLast? last
  have closed : ∀ c ∈ suffix, (c != '(') = true := by
    intro c mem
    apply bne_iff_ne.mpr
    rintro rfl
    rcases List.mem_append.mp (isSuffix.mem mem) with mem | mem
    · exact free mem
    · cases List.mem_singleton.mp mem
  rw [List.takeWhile_append_of_pos closed] at same
  refine not_mem_head (c := ')') receiver method (by decide) ?_
  rw [← same]
  exact List.mem_append_left _ closing

theorem run_opening : receiver.scanner.run ('(' :: rest) = receiver.scanner.run rest := by
  apply Scanner.run_cons
  apply step_eq_none
  intro method same
  cases receiver <;> cases method <;> cases same

theorem run_newline : receiver.scanner.run ('\n' :: rest) = receiver.scanner.run rest := by
  apply Scanner.run_cons
  apply step_eq_none
  intro method same
  have first := congrArg List.head? same
  cases receiver <;> cases method <;> cases first

/-- The head of a call of one receiver does not end as that of another one. -/
theorem run_foreign_head (method : Method) (other : call.receiver ≠ receiver) :
    receiver.scanner.run (call.receiver.head method ++ '(' :: rest) =
      receiver.scanner.run rest := by
  rw [Scanner.run_append, run_opening]
  intro suffix isSuffix nonempty
  apply step_eq_none
  intro method' same
  have free : ∀ c ∈ suffix, (c != '(') = true := by
    intro c mem
    apply bne_iff_ne.mpr
    rintro rfl
    exact not_mem_head _ method (by decide) (isSuffix.mem mem)
  rw [List.takeWhile_append_of_pos free] at same
  simp only [bne_self_eq_false, Bool.false_eq_true, not_false_eq_true, List.takeWhile_cons_of_neg,
    List.append_nil] at same
  subst same
  have apart : ∀ a b : Receiver, a ≠ b → ∀ m m' : Method, ¬ (b.head m' <:+ a.head m) := by
    intro a b different m m'
    cases a <;> cases b <;> first | exact absurd rfl different | (cases m <;> cases m' <;> decide)
  exact apart _ _ other method method' isSuffix

/-! ## Reading a call at its beginning -/

theorem takeRun?_word {word : List Char} (isWord : IsWord word) {c : Char}
    (ends : Text.isWord c = false) :
    takeRun? Text.isWord (word ++ c :: rest) = some (word, c :: rest) := by
  apply takeRun?_append isWord.1 isWord.2
  rintro d ⟨⟩
  exact ends

theorem verbAt?_append (method : Method) (rest : List Char) :
    verbAt? (method.verb.toList ++ '(' :: rest) = some (method, rest) := by
  cases method <;> rfl

theorem isQuote_quote (call : Call) : isQuote call.quote = true := by
  rcases call.quote_eq with h | h <;> rw [h] <;> decide

theorem quotedAt?_path (call : Call) (rest : List Char) :
    quotedAt? (call.quote :: (call.path ++ call.quote :: rest)) = some (call.path, rest) := by
  rw [quotedAt?_cons, if_pos call.isQuote_quote, takeRun?_append call.path_ne_nil]
  · rfl
  · intro c mem
    have free := call.path_free c mem
    simp only [List.mem_cons, not_or] at free
    simp [isQuote, free.1, free.2.1]
  · rintro c ⟨⟩
    simp [call.isQuote_quote]

theorem isWord_append {front back : List Char} (isFront : IsWord front)
    (isBack : ∀ c ∈ back, Text.isWord c = true) : IsWord (front ++ back) := by
  constructor
  · exact List.append_ne_nil_of_left_ne_nil isFront.1 back
  · intro c mem
    rcases List.mem_append.mp mem with mem | mem
    · exact isFront.2 c mem
    · exact isBack c mem

theorem memberAt?_word {word : List Char} (isWord : IsWord word) :
    memberAt? (word ++ ')' :: rest) = none := by
  rw [memberAt?, takeRun?_word isWord (by decide)]
  rfl

theorem memberAt?_member {stem member : List Char} (isStem : IsWord stem)
    (isMember : IsWord member) :
    memberAt? (stem ++ "Controller".toList ++ '.' :: (member ++ ')' :: rest)) =
      some (stem ++ "Controller".toList ++ '.' :: member, ')' :: rest) := by
  have longer : isController (stem ++ "Controller".toList) = true := by
    have pos : 0 < stem.length := List.length_pos_iff.mpr isStem.1
    rw [isController, Bool.and_eq_true, List.isSuffixOf_iff_suffix, decide_eq_true_iff,
      List.length_append]
    exact ⟨List.suffix_append _ _, by omega⟩
  rw [memberAt?, takeRun?_word (isWord_append isStem isWord_of_mem_ending) (by decide)]
  simp only [Option.bind_eq_bind, Option.bind_some, dottedAt?]
  rw [takeRun?_word isMember (by decide)]
  simp only [Option.bind_some, longer, if_true]

theorem nameAt?_handler (h : IsHandler receiver text) :
    nameAt? receiver.hasMembers (text ++ ')' :: rest) = some (text, ')' :: rest) := by
  cases h with
  | word isWord =>
    rw [nameAt?, memberAt?_word isWord, takeRun?_word isWord (by decide), Option.none_or, ite_self]
  | member isStem isMember =>
    rw [nameAt?, Receiver.hasMembers, if_pos rfl, List.append_assoc, List.cons_append,
      memberAt?_member isStem isMember, Option.some_or]

theorem handler_cons (h : IsHandler receiver text) :
    ∃ c more, text = c :: more ∧ Text.isWord c = true := by
  cases h with
  | word isWord =>
    obtain ⟨c, more, rfl⟩ := List.exists_cons_of_ne_nil isWord.1
    exact ⟨c, more, rfl, isWord.2 c List.mem_cons_self⟩
  | member isStem isMember =>
    obtain ⟨c, more, rfl⟩ := List.exists_cons_of_ne_nil isStem.1
    exact ⟨c, _, rfl, isStem.2 c List.mem_cons_self⟩

theorem handlerAt?_handler (h : IsHandler receiver text) :
    handlerAt? receiver.hasMembers (',' :: ' ' :: (text ++ ')' :: rest)) =
      some (text, ')' :: rest) := by
  have name := @nameAt?_handler receiver text rest h
  obtain ⟨c, more, rfl, word⟩ := handler_cons h
  rw [handlerAt?, List.dropWhile_cons_of_pos (by decide),
    List.dropWhile_cons_of_pos (by decide), List.cons_append, List.dropWhile_cons_of_neg (by simp [word])]
  exact name

theorem step_line (call : Call) (rest : List Char) :
    call.receiver.scanner.step (call.line ++ rest) = some (call.registration, ')' :: rest) := by
  have parts : call.line ++ rest = (call.receiver.name ++ ".").toList ++
      (call.method.verb.toList ++ '(' :: call.quote :: (call.path ++ call.quote :: ',' :: ' ' ::
        (call.handler ++ ')' :: rest))) := by
    simp [line, arguments, Receiver.head]
  have called : (call.receiver.name ++ ".").toList.isPrefixOf? (call.line ++ rest) = some _ :=
    List.isPrefixOf?_eq_some_iff_append_eq.mpr parts.symm
  change callAt? _ _ _ = _
  simp only [callAt?, called, Option.bind_eq_bind, Option.bind_some, verbAt?_append,
    quotedAt?_path, handlerAt?_handler call.isHandler]
  rfl

/-! ## All calls of a text -/

theorem run_line (call : Call) (receiver : Receiver) (rest : List Char) :
    receiver.scanner.run (call.line ++ rest) =
      (if call.receiver = receiver then [call.registration] else []) ++
        receiver.scanner.run rest := by
  split
  · rename_i same
    subst same
    rw [Scanner.run_of_some (call.step_line rest), List.singleton_append,
      ← List.nil_append (')' :: rest), run_closed List.not_mem_nil]
  · rename_i other
    rw [line, List.append_assoc, List.cons_append, run_foreign_head call.method other,
      List.append_assoc, List.singleton_append, run_closed (call.not_mem_arguments (.inl rfl)),
      List.nil_append]

theorem run_lines {calls : List Call} (h : Lines calls text) (receiver : Receiver) :
    receiver.scanner.run text =
      (calls.filter (·.receiver = receiver)).map registration := by
  have nothing : receiver.scanner.run [] = [] := by
    apply Scanner.run_nil
    apply step_eq_none
    intro method same
    cases receiver <;> cases method <;> cases same
  induction h with
  | none => exact nothing
  | last call =>
    rw [← List.append_nil call.line, run_line, nothing]
    split <;> simp [*]
  | more call _ ih =>
    rw [run_line, run_newline, ih]
    split <;> simp [*]

theorem findAll_call (controller : String) (middleware : List String) (receiver : Receiver)
    (text : List Char) :
    ((callPattern receiver.name receiver.hasMembers).findAll text).filterMap
        (Route.ofFound? controller middleware) =
      (receiver.scanner.run text).map (toRoute controller middleware) :=
  (describes_call receiver.name receiver.hasMembers).findAll
    (ofFound?_record controller middleware) text

/-- Reading the routes of a text of calls gives back the calls, those of each receiver in their
order. -/
theorem ofText_lines [PatternReader] {calls : List Call} (h : Lines calls text)
    (controller : String) :
    Route.ofText (Idiom.all []) controller text =
      ((calls.filter (·.receiver = .fastify)) ++ (calls.filter (·.receiver = .router))).map
        (route controller) := by
  have custom : Idiom.all [] = [Idiom.fastify, Idiom.router] := rfl
  have first := findAll_call controller [] .fastify text
  have second := findAll_call controller [] .router text
  rw [run_lines h, List.map_map] at first second
  rw [Route.ofText, custom, List.flatMap_cons, List.flatMap_singleton,
    MiddlewareList.middlewareOf_eq_nil (not_mem_lines h), List.map_append]
  exact congrArg₂ _ first second

/-- Two equal calls, and between them one of the other receiver with a line break in its path. -/
def mixed : List Call :=
  [areas, { areas with
    receiver := .router, method := .post, quote := '"', path := "/a\nb".toList
    handler := "fastify".toList, quote_eq := .inr rfl, path_ne_nil := by decide
    path_free := by simp, isHandler := .word ⟨by decide, List.all_eq_true.mp (by decide)⟩ },
    areas]
where
  areas : Call := {
    receiver := .fastify, method := .get, quote := '\'', path := "/areas".toList
    handler := "Area".toList ++ "Controller".toList ++ '.' :: "list".toList
    quote_eq := .inl rfl, path_ne_nil := by decide, path_free := by simp
    isHandler := .member ⟨by decide, List.all_eq_true.mp (by decide)⟩
      ⟨by decide, List.all_eq_true.mp (by decide)⟩ }

def mixedText : String :=
  "fastify.get('/areas', AreaController.list)\nrouter.post(\"/a\nb\", fastify)\n" ++
    "fastify.get('/areas', AreaController.list)"

theorem lines_mixed : Lines mixed mixedText.toList := by
  have text : mixedText.toList = mixed.areas.line ++ '\n' :: ((mixed.get ⟨1, by decide⟩).line ++
      '\n' :: mixed.areas.line) := by decide
  rw [text]
  exact .more _ (.more _ (.last _))

theorem ofText_lines_mixed : Lines mixed mixedText.toList ∧
    Route.ofText (Idiom.all []) "AreaController" mixedText.toList =
      [⟨.get, "/areas", "AreaController.list", [], "AreaController"⟩,
        ⟨.get, "/areas", "AreaController.list", [], "AreaController"⟩,
        ⟨.post, "/a\nb", "fastify", [], "AreaController"⟩] :=
  ⟨lines_mixed, (ofText_lines lines_mixed "AreaController").trans (by decide)⟩

end Call

end Scaffold
