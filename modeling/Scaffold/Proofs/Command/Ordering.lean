import Scaffold.Command.Arguments
import Scaffold.Proofs.Text.Runs

/-!
# Arguments in any order

Where each switch is written at most once and carries its value behind an equals sign, every
argument is taken by itself and adds what it gives to the rest. So the order of the arguments does
not matter, nor on which side of the subcommand the switches stand that are known on both.
-/

namespace Scaffold

namespace Command

/-! ## Pieces of a command line -/

inductive DebugForm
  | letter
  | name
  deriving Repr, DecidableEq

inductive Piece
  | debug (form : DebugForm)
  | option (switch : Switch) (value : String)
  | module (name : String)
  deriving Repr, DecidableEq

namespace Piece

def text : Piece → String
  | debug .letter => "-d"
  | debug .name => "--debug"
  | option switch value => "--" ++ switch.name ++ "=" ++ value
  | module name => name

def isGlobal : Piece → Bool
  | debug _ => true
  | option switch _ => switch == .config
  | module _ => false

/-- The value of a switch is not empty, and the module does not look like a switch. -/
def IsWritable : Piece → Prop
  | debug _ => True
  | option _ value => value ≠ ""
  | module name => name.toList.head? ≠ some '-'

instance : (piece : Piece) → Decidable piece.IsWritable
  | debug _ => .isTrue trivial
  | option _ value => inferInstanceAs (Decidable (value ≠ ""))
  | module name => inferInstanceAs (Decidable (name.toList.head? ≠ some '-'))

/-- A switch that takes a value, and is found in the place by its name. -/
structure IsOption (scope : Scope) (switch : Switch) : Prop where
  named : scope.named? switch.name = some switch
  takesValue : ∃ placeholder, switch.kind = .value placeholder
  noEquals : '=' ∉ switch.name.toList

def IsKnown (scope : Scope) : Piece → Prop
  | debug _ => True
  | option switch _ => IsOption scope switch
  | module _ => scope = .generate

def key : Piece → Option Switch
  | debug _ => some .debug
  | option switch _ => some switch
  | module _ => none

def value : Piece → String
  | debug _ => "true"
  | option _ value => value
  | module name => name

end Piece

inductive Subcommand
  | analyze (backend output : Option String)
  | generate (module analysis output : Option String)
  deriving Repr, DecidableEq

/-- A command with the values that are given for it, and how its flag is written if it is given. -/
structure Request where
  debug : Option DebugForm
  config : Option String
  subcommand : Subcommand
  deriving Repr, DecidableEq

namespace Request

def scope (r : Request) : Scope :=
  match r.subcommand with
  | .analyze _ _ => .analyze
  | .generate _ _ _ => .generate

def word (r : Request) : String :=
  match r.subcommand with
  | .analyze _ _ => "analyze"
  | .generate _ _ _ => "generate"

/-- All arguments but the subcommand. -/
def pieces (r : Request) : List Piece :=
  r.debug.toList.map .debug ++ r.config.toList.map (.option .config) ++
    match r.subcommand with
    | .analyze backend output =>
      backend.toList.map (.option .backend) ++ output.toList.map (.option .result)
    | .generate module analysis output =>
      module.toList.map .module ++ analysis.toList.map (.option .analysis) ++
        output.toList.map (.option .outputDirectory)

/-- What is asked for. A value that is not given has its default. -/
def invocation (r : Request) : Invocation where
  debug := r.debug.isSome
  config := r.config.map .ofString
  task :=
    match r.subcommand with
    | .analyze backend output =>
      .analyze (.ofString (backend.getD "./backend"))
        (.ofString (output.getD "migration-tools/analysis_result.json"))
    | .generate module analysis output =>
      .generate module (.ofString (analysis.getD "migration-tools/analysis_result.json"))
        (output.map .ofString)

end Request

namespace Given

variable {g : Given} {scope : Scope} {piece : Piece} {pieces rest : List Piece}
  {key : Option Switch} {switch : Switch} {value argument : String} {arguments : List String}

/-! ## What is given -/

def get? (g : Given) : Option Switch → Option String
  | some switch => g.value? switch
  | none => g.module

theorem get?_empty (key : Option Switch) : ({} : Given).get? key = none := by
  cases key <;> rfl

def add (g : Given) : Piece → Given
  | .debug _ => { g with settled := g.settled ++ [(.debug, "true")] }
  | .option switch value => { g with settled := g.settled ++ [(switch, value)] }
  | .module name => { g with module := some name }

theorem isGiven_eq (g : Given) (switch : Switch) : g.isGiven switch = (g.value? switch).isSome := by
  rw [isGiven, value?, Option.isSome_map, List.isSome_find?]

theorem value?_settle (free : g.value? switch = none) (other : Switch) :
    ({ g with settled := g.settled ++ [(switch, value)] } : Given).value? other
      = if other = switch then some value else g.value? other := by
  unfold value? at free ⊢
  rw [List.find?_append, List.find?_singleton]
  by_cases same : other = switch
  · subst same
    rw [Option.map_eq_none_iff.mp free]
    simp
  · simp [same, Ne.symm same]

theorem get?_add (free : g.get? piece.key = none) (key : Option Switch) :
    (g.add piece).get? key = if key = piece.key then some piece.value else g.get? key := by
  cases piece with
  | debug form =>
    cases key with
    | none => rfl
    | some other => simpa [get?, add, Piece.key, Piece.value] using value?_settle free other
  | option switch value =>
    cases key with
    | none => rfl
    | some other => simpa [get?, add, Piece.key, Piece.value] using value?_settle free other
  | module name => cases key <;> rfl

/-! ## One argument -/

theorem settle_of_none (idle : g.pending = none) : g.settle = .ok g := by
  rw [settle, idle]

theorem take_debug (idle : g.pending = none) (free : g.value? .debug = none) (form : DebugForm) :
    g.take scope .debug none = .ok (g.add (.debug form)) := by
  have fresh : g.isGiven .debug = false := by rw [isGiven_eq, free, Option.isSome_none]
  change (do
    let g ← g.settle
    if g.isGiven .debug then .error (.switchRepeated Switch.debug.name)
    else .ok { g with settled := g.settled ++ [(Switch.debug, "true")] }) = _
  rw [settle_of_none idle]
  exact if_neg (by simp [fresh])

theorem take_option (idle : g.pending = none) (free : g.value? switch = none)
    (takesValue : ∃ placeholder, switch.kind = .value placeholder) (some : value ≠ "") :
    g.take scope switch (.some value) = .ok (g.add (.option switch value)) := by
  obtain ⟨placeholder, kind⟩ := takesValue
  have fresh : g.isGiven switch = false := by rw [isGiven_eq, free, Option.isSome_none]
  have taken : g.take scope switch (.some value) = (do (← g.settle).check switch (.some value)) := by
    unfold take
    rw [kind]
  rw [taken, settle_of_none idle]
  change g.check switch (.some value) = _
  rw [check, fresh, if_neg Bool.false_ne_true, if_neg (by simpa using some), add, idle]

theorem takeArgument_named (words : g.onlyWords = false) {body : List Char} (some : body ≠ [])
    (spelled : argument.toList = '-' :: '-' :: body) :
    g.takeArgument scope argument = g.takeNamed scope body := by
  obtain ⟨c, rest, rfl⟩ := List.exists_cons_of_ne_nil some
  rw [takeArgument, words, spelled]
  rfl

theorem takeArgument_word (words : g.onlyWords = false) (idle : g.pending = none)
    (noDash : argument.toList.head? ≠ some '-') :
    g.takeArgument scope argument = g.takeWord scope argument := by
  rw [takeArgument, words, if_neg Bool.false_ne_true, idle]
  split
  · rename_i spelled
    simp [spelled] at noDash
  · rename_i spelled
    simp [spelled] at noDash
  · rename_i spelled
    simp [spelled] at noDash
  · rfl

theorem takeArgument_piece (words : g.onlyWords = false) (idle : g.pending = none)
    (known : piece.IsKnown scope) (writable : piece.IsWritable) (free : g.get? piece.key = none) :
    g.takeArgument scope piece.text = .ok (g.add piece) := by
  cases piece with
  | debug form =>
    cases form with
    | letter =>
      have spelled : "-d".toList = ['-', 'd'] := by decide
      have lettered : scope.lettered? 'd' = some .debug := by cases scope <;> decide
      rw [Piece.text, takeArgument, words, if_neg Bool.false_ne_true, spelled]
      change g.takeLetters scope ['d'] = _
      rw [takeLetters, lettered]
      change (g.take scope .debug none >>= fun g => g.takeLetters scope []) = _
      rw [take_debug idle free .letter]
      rfl
    | name =>
      have spelled : "--debug".toList = '-' :: '-' :: "debug".toList := by decide
      have named : scope.named? "debug" = some .debug := by cases scope <;> decide
      rw [Piece.text, takeArgument_named words (by decide) spelled, takeNamed]
      rw [show String.ofList ("debug".toList.takeWhile (· != '=')) = "debug" by decide, named]
      exact take_debug idle free .name
  | option switch value =>
    have spelled : (Piece.option switch value).text.toList
        = '-' :: '-' :: (switch.name.toList ++ '=' :: value.toList) := by
      simp [Piece.text]
    obtain ⟨named, takesValue, noEquals⟩ := known
    have all : ∀ c ∈ switch.name.toList, (c != '=') = true := by
      intro c hc
      rw [bne_iff_ne]
      rintro rfl
      exact noEquals hc
    have stop : ∀ c ∈ ('=' :: value.toList).head?, (c != '=') = false := by
      rintro _ ⟨⟩
      rfl
    rw [takeArgument_named words (by simp) spelled, takeNamed]
    simp only [Text.takeWhile_run all stop, Text.dropWhile_run all stop, String.ofList_toList, named]
    exact take_option idle free takesValue writable
  | module name =>
    obtain rfl : scope = .generate := known
    have none : g.module = none := free
    rw [Piece.text, takeArgument_word words idle writable, takeWord, none, settle_of_none idle]
    rfl

/-! ## All arguments of one place -/

/-- The arguments are known in the place, and each of them gives something that was not given. -/
structure CanTake (g : Given) (scope : Scope) (pieces : List Piece) : Prop where
  words : g.onlyWords = false
  idle : g.pending = none
  known : ∀ piece ∈ pieces, piece.IsKnown scope
  writable : ∀ piece ∈ pieces, piece.IsWritable
  distinct : (pieces.map Piece.key).Nodup
  free : ∀ piece ∈ pieces, g.get? piece.key = none

theorem words_add (piece : Piece) : (g.add piece).onlyWords = g.onlyWords := by
  cases piece <;> rfl

theorem idle_add (piece : Piece) : (g.add piece).pending = g.pending := by
  cases piece <;> rfl

theorem CanTake.takeArgument (h : CanTake g scope (piece :: rest)) :
    g.takeArgument scope piece.text = .ok (g.add piece) :=
  takeArgument_piece h.words h.idle (h.known piece List.mem_cons_self)
    (h.writable piece List.mem_cons_self) (h.free piece List.mem_cons_self)

theorem CanTake.tail (h : CanTake g scope (piece :: rest)) : CanTake (g.add piece) scope rest := by
  obtain ⟨apart, distinct⟩ := List.nodup_cons.mp h.distinct
  obtain ⟨first, others⟩ := List.forall_mem_cons.mp h.free
  refine ⟨(words_add piece).trans h.words, (idle_add piece).trans h.idle,
    fun other mem => h.known other (List.mem_cons_of_mem piece mem),
    fun other mem => h.writable other (List.mem_cons_of_mem piece mem), distinct,
    fun other mem => ?_⟩
  rw [get?_add first, if_neg, others other mem]
  intro same
  exact apart (same ▸ List.mem_map_of_mem mem)

theorem CanTake.takeAll (h : CanTake g scope pieces) :
    g.takeAll scope (pieces.map Piece.text) = .ok (pieces.foldl add g) := by
  induction pieces generalizing g with
  | nil => exact settle_of_none h.idle
  | cons piece rest ih =>
    rw [List.map_cons, Given.takeAll, h.takeArgument]
    exact ih h.tail

theorem CanTake.foldl (h : CanTake g scope pieces) : CanTake (pieces.foldl add g) scope [] := by
  induction pieces generalizing g with
  | nil => exact h
  | cons piece rest ih => exact ih h.tail

/-- What is given in the end was given before, or by one of the arguments. -/
theorem CanTake.get?_foldl (h : CanTake g scope pieces) :
    (pieces.foldl add g).get? key = some value ↔
      g.get? key = some value ∨ ∃ piece ∈ pieces, piece.key = key ∧ piece.value = value := by
  induction pieces generalizing g with
  | nil => simp
  | cons piece rest ih =>
    have free := h.free piece List.mem_cons_self
    rw [List.foldl_cons, ih h.tail, get?_add free, List.exists_mem_cons_iff]
    by_cases same : key = piece.key
    · subst same
      simp [free]
    · simp [same, Ne.symm same]

end Given

/-! ## Both sides of the subcommand -/

def gather (pieces : List Piece) : Given := pieces.foldl Given.add {}

variable {g : Given} {scope : Scope} {pieces before behind : List Piece} {key : Option Switch}
  {value argument word : String} {arguments : List String} {r : Request}

theorem get?_gather (h : Given.CanTake {} scope pieces) : (gather pieces).get? key = some value ↔
    ∃ piece ∈ pieces, piece.key = key ∧ piece.value = value := by
  rw [gather, h.get?_foldl, Given.get?_empty]
  simp

theorem takeProgram_word (idle : g.pending = none) (words : g.onlyWords = false)
    (subcommand : Scope.ofSubcommand? word = some scope) (notHelp : word ≠ "help") :
    takeProgram g (word :: arguments) = (do
      let behind ← Given.takeAll {} scope arguments
      .ok (g, some (scope, behind))) := by
  have may : (!g.onlyWords && !g.awaitsValue) = true := by simp [words, Given.awaitsValue, idle]
  rw [takeProgram, may]
  simp only [Bool.true_and, beq_iff_eq, notHelp, if_false, if_true, subcommand,
    Given.settle_of_none idle]
  rfl

theorem takeProgram_argument (notSubcommand : Scope.ofSubcommand? argument = none)
    (notHelp : argument ≠ "help") : takeProgram g (argument :: arguments)
      = (do takeProgram (← g.takeArgument .program argument) arguments) := by
  rw [takeProgram]
  simp [notSubcommand, notHelp]

theorem notSubcommand_of_dash (dash : argument.toList.head? = some '-') :
    Scope.ofSubcommand? argument = none ∧ argument ≠ "help" := by
  constructor
  · unfold Scope.ofSubcommand?
    split
    · exact absurd dash (by decide)
    · exact absurd dash (by decide)
    · rfl
  · rintro rfl
    exact absurd dash (by decide)

theorem Piece.dash_of_isGlobal {piece : Piece} (h : piece.isGlobal = true) :
    piece.text.toList.head? = some '-' := by
  cases piece with
  | debug form => cases form <;> decide
  | option switch value => simp [Piece.text]
  | module name => cases h

theorem takeProgram_pieces (h : Given.CanTake g .program pieces)
    (global : ∀ piece ∈ pieces, piece.isGlobal = true) :
    takeProgram g (pieces.map Piece.text ++ arguments)
      = takeProgram (pieces.foldl Given.add g) arguments := by
  induction pieces generalizing g with
  | nil => rfl
  | cons piece rest ih =>
    obtain ⟨first, others⟩ := List.forall_mem_cons.mp global
    obtain ⟨notSubcommand, notHelp⟩ := notSubcommand_of_dash (Piece.dash_of_isGlobal first)
    rw [List.map_cons, List.cons_append, takeProgram_argument notSubcommand notHelp,
      h.takeArgument]
    exact ih h.tail others

/-! ## Requests -/

section Toggle

variable {α : Type} {given : Option α} {f : α → Piece}

theorem forall_mem_given {P : Piece → Prop} (h : ∀ a, P (f a)) :
    ∀ piece ∈ given.toList.map f, P piece := by
  intro piece mem
  obtain ⟨a, -, rfl⟩ := List.mem_map.mp mem
  exact h a

theorem keys_given (h : ∀ a, (f a).key = key) :
    ((given.toList.map f).map Piece.key).Sublist [key] := by
  cases given with
  | none => exact List.nil_sublist _
  | some a => simp [h a]

end Toggle

theorem isOption_config (scope : Scope) : Piece.IsOption scope .config :=
  ⟨by cases scope <;> decide, ⟨_, rfl⟩, by decide⟩

theorem isOption_own : Piece.IsOption .analyze .backend ∧ Piece.IsOption .analyze .result ∧
    Piece.IsOption .generate .analysis ∧ Piece.IsOption .generate .outputDirectory :=
  ⟨⟨by decide, ⟨_, rfl⟩, by decide⟩, ⟨by decide, ⟨_, rfl⟩, by decide⟩,
    ⟨by decide, ⟨_, rfl⟩, by decide⟩, ⟨by decide, ⟨_, rfl⟩, by decide⟩⟩

theorem Request.isKnown (r : Request) : ∀ piece ∈ r.pieces, piece.IsKnown r.scope := by
  obtain ⟨backend, result, analysis, outputDirectory⟩ := isOption_own
  obtain ⟨debug, config, subcommand⟩ := r
  refine List.forall_mem_append.mpr ⟨List.forall_mem_append.mpr
    ⟨forall_mem_given fun _ => trivial, forall_mem_given fun _ => isOption_config _⟩, ?_⟩
  cases subcommand with
  | analyze _ _ =>
    exact List.forall_mem_append.mpr
      ⟨forall_mem_given fun _ => backend, forall_mem_given fun _ => result⟩
  | generate _ _ _ =>
    exact List.forall_mem_append.mpr ⟨List.forall_mem_append.mpr
      ⟨forall_mem_given fun _ => rfl, forall_mem_given fun _ => analysis⟩,
      forall_mem_given fun _ => outputDirectory⟩

/-- Nothing is given twice. -/
theorem Request.distinct (r : Request) : (r.pieces.map Piece.key).Nodup := by
  obtain ⟨debug, config, subcommand⟩ := r
  cases subcommand with
  | analyze backend output =>
    have keys : List.Sublist
        ((Request.mk debug config (.analyze backend output)).pieces.map Piece.key)
        ([some .debug] ++ [some .config] ++ ([some .backend] ++ [some .result])) := by
      simp only [pieces, List.map_append]
      exact .append (.append (keys_given fun _ => rfl) (keys_given fun _ => rfl))
        (.append (keys_given fun _ => rfl) (keys_given fun _ => rfl))
    exact keys.nodup (by decide)
  | generate module analysis output =>
    have keys : List.Sublist
        ((Request.mk debug config (.generate module analysis output)).pieces.map Piece.key)
        ([some .debug] ++ [some .config] ++
          ([none] ++ [some .analysis] ++ [some .outputDirectory])) := by
      simp only [pieces, List.map_append]
      exact .append (.append (keys_given fun _ => rfl) (keys_given fun _ => rfl))
        (.append (.append (keys_given fun _ => rfl) (keys_given fun _ => rfl))
          (keys_given fun _ => rfl))
    exact keys.nodup (by decide)

def Request.Gives (r : Request) (key : Option Switch) (value : String) : Prop :=
  ∃ piece ∈ r.pieces, piece.key = key ∧ piece.value = value

theorem Request.gives_debug :
    r.Gives (some .debug) value ↔ (∃ form, r.debug = some form) ∧ "true" = value := by
  obtain ⟨debug, config, subcommand⟩ := r
  cases subcommand <;> simp +decide [Gives, pieces, Piece.key, Piece.value, or_and_right, exists_or]

theorem Request.gives_config : r.Gives (some .config) value ↔ r.config = some value := by
  obtain ⟨debug, config, subcommand⟩ := r
  cases subcommand <;> simp +decide [Gives, pieces, Piece.key, Piece.value, or_and_right, exists_or]

theorem gives_analyze (debug : Option DebugForm) (config backend output : Option String) :
    (∀ value, Request.Gives ⟨debug, config, .analyze backend output⟩ (some .backend) value ↔
      backend = some value) ∧
    ∀ value, Request.Gives ⟨debug, config, .analyze backend output⟩ (some .result) value ↔
      output = some value := by
  constructor <;> intro value <;>
    simp +decide [Request.Gives, Request.pieces, Piece.key, Piece.value, or_and_right, exists_or]

theorem gives_generate (debug : Option DebugForm) (config module analysis output : Option String) :
    (∀ value, Request.Gives ⟨debug, config, .generate module analysis output⟩ none value ↔
      module = some value) ∧
    (∀ value, Request.Gives ⟨debug, config, .generate module analysis output⟩ (some .analysis) value
      ↔ analysis = some value) ∧
    ∀ value, Request.Gives ⟨debug, config, .generate module analysis output⟩
      (some .outputDirectory) value ↔ output = some value := by
  refine ⟨?_, ?_, ?_⟩ <;> intro value <;>
    simp +decide [Request.Gives, Request.pieces, Piece.key, Piece.value, or_and_right, exists_or]

theorem Request.ofSubcommand?_word (r : Request) :
    Scope.ofSubcommand? r.word = some r.scope ∧ r.word ≠ "help" := by
  obtain ⟨debug, config, subcommand⟩ := r
  cases subcommand with
  | analyze _ _ => exact ⟨rfl, show "analyze" ≠ "help" by decide⟩
  | generate _ _ _ => exact ⟨rfl, show "generate" ≠ "help" by decide⟩

theorem Piece.global_cases {piece : Piece} (h : piece.isGlobal = true) :
    piece.IsKnown .program ∧ (piece.key = some .debug ∨ piece.key = some .config) := by
  cases piece with
  | debug form => exact ⟨trivial, .inl rfl⟩
  | option switch value =>
    obtain rfl := beq_iff_eq.mp h
    exact ⟨isOption_config .program, .inr rfl⟩
  | module name => cases h

/-- The arguments of a request around the subcommand, in any order. -/
structure Arranged (r : Request) (before behind : List Piece) : Prop where
  all : (before ++ behind).Perm r.pieces
  global : ∀ piece ∈ before, piece.isGlobal = true

namespace Arranged

variable (h : Arranged r before behind) (writable : ∀ piece ∈ r.pieces, piece.IsWritable)
include h

theorem mem {piece : Piece} : piece ∈ r.pieces ↔ piece ∈ before ∨ piece ∈ behind := by
  rw [← h.all.mem_iff, List.mem_append]

theorem distinct : (before.map Piece.key).Nodup ∧ (behind.map Piece.key).Nodup := by
  have whole := (h.all.map Piece.key).nodup_iff.mpr r.distinct
  rw [List.map_append] at whole
  obtain ⟨sooner, later, -⟩ := List.nodup_append.mp whole
  exact ⟨sooner, later⟩

include writable

theorem canTake_before : Given.CanTake {} .program before where
  words := rfl
  idle := rfl
  known piece mem := (Piece.global_cases (h.global piece mem)).1
  writable piece mem := writable piece (h.mem.mpr (.inl mem))
  distinct := h.distinct.1
  free piece _ := Given.get?_empty piece.key

theorem canTake_behind : Given.CanTake {} r.scope behind where
  words := rfl
  idle := rfl
  known piece mem := r.isKnown piece (h.mem.mpr (.inr mem))
  writable piece mem := writable piece (h.mem.mpr (.inr mem))
  distinct := h.distinct.2
  free piece _ := Given.get?_empty piece.key

theorem takeProgram_eq : takeProgram {} (before.map Piece.text ++ r.word :: behind.map Piece.text)
    = .ok (gather before, some (r.scope, gather behind)) := by
  have sooner := h.canTake_before writable
  obtain ⟨subcommand, notHelp⟩ := r.ofSubcommand?_word
  rw [takeProgram_pieces sooner h.global,
    takeProgram_word sooner.foldl.idle sooner.foldl.words subcommand notHelp,
    (h.canTake_behind writable).takeAll]
  rfl

theorem either : (gather before).get? key = some value ∨ (gather behind).get? key = some value ↔
    r.Gives key value := by
  rw [get?_gather (h.canTake_before writable), get?_gather (h.canTake_behind writable),
    Request.Gives]
  simp only [h.mem, or_and_right, exists_or]

theorem behind_own (notDebug : key ≠ some .debug) (notConfig : key ≠ some .config) :
    (gather behind).get? key = some value ↔ r.Gives key value := by
  rw [← h.either writable, or_iff_right]
  intro given
  obtain ⟨piece, mem, rfl, -⟩ := (get?_gather (h.canTake_before writable)).mp given
  exact (Piece.global_cases (h.global piece mem)).2.elim notDebug notConfig

theorem debug_eq : ((gather before).isGiven .debug || (gather behind).isGiven .debug)
    = r.debug.isSome := by
  have given : ∀ value, (gather before).value? .debug = some value ∨
      (gather behind).value? .debug = some value ↔
        (∃ form, r.debug = some form) ∧ "true" = value :=
    fun value => (h.either writable).trans Request.gives_debug
  rw [Given.isGiven_eq, Given.isGiven_eq, Bool.eq_iff_iff, Bool.or_eq_true,
    Option.isSome_iff_exists, Option.isSome_iff_exists, Option.isSome_iff_exists, ← exists_or]
  simp only [given, exists_and_left, exists_eq', and_true]

theorem config_eq : ((gather behind).value? .config <|> (gather before).value? .config)
    = r.config := by
  have given : ∀ value, (gather before).value? .config = some value ∨
      (gather behind).value? .config = some value ↔ r.config = some value :=
    fun value => (h.either writable).trans Request.gives_config
  cases last : (gather behind).value? .config with
  | some value => exact ((given value).mp (.inr last)).symm
  | none =>
    refine Option.ext fun value => ?_
    rw [← given value, last]
    simp

theorem taskOf_eq : taskOf r.scope (gather behind) = some r.invocation.task := by
  -- All but `--debug` and `--config` are given behind the subcommand or not at all.
  have own : ∀ {key : Option Switch} {o : Option String}, key ≠ some .debug →
      key ≠ some .config → (∀ value, r.Gives key value ↔ o = some value) →
      (gather behind).get? key = o := fun notDebug notConfig gives =>
    Option.ext fun value => (h.behind_own writable notDebug notConfig).trans (gives value)
  obtain ⟨debug, config, subcommand⟩ := r
  cases subcommand with
  | analyze backend output =>
    obtain ⟨givesBackend, givesOutput⟩ := gives_analyze debug config backend output
    have one : (gather behind).value? .backend = backend :=
      own (by decide) (by decide) givesBackend
    have two : (gather behind).value? .result = output := own (by decide) (by decide) givesOutput
    change some (Task.analyze ((((gather behind).value? .backend).map Path.ofString).getD _)
      ((((gather behind).value? .result).map Path.ofString).getD _)) = _
    rw [one, two]
    cases backend <;> cases output <;> rfl
  | generate module analysis output =>
    obtain ⟨givesModule, givesAnalysis, givesOutput⟩ :=
      gives_generate debug config module analysis output
    have one : (gather behind).module = module := own (by decide) (by decide) givesModule
    have two : (gather behind).value? .analysis = analysis :=
      own (by decide) (by decide) givesAnalysis
    have three : (gather behind).value? .outputDirectory = output :=
      own (by decide) (by decide) givesOutput
    change some (Task.generate (gather behind).module
      ((((gather behind).value? .analysis).map Path.ofString).getD _)
      (((gather behind).value? .outputDirectory).map Path.ofString)) = _
    rw [one, two, three]
    cases analysis <;> rfl

end Arranged

/-- The order of the arguments does not matter, nor on which side of the subcommand those stand
that are known on both. -/
theorem ofArguments_arranged (r : Request) (before behind : List Piece)
    (arranged : Arranged r before behind) (writable : ∀ piece ∈ r.pieces, piece.IsWritable) :
    Invocation.ofArguments (before.map Piece.text ++ r.word :: behind.map Piece.text)
      = .ok r.invocation := by
  have parsed := arranged.takeProgram_eq writable
  have debug := arranged.debug_eq writable
  have config := arranged.config_eq writable
  have task := arranged.taskOf_eq writable
  rw [Invocation.ofArguments, parsed]
  simp only [bind, Except.bind, Option.bind, task, Option.map_some, debug, config]
  rfl

/-- Values may look like switches, subcommands or other assignments. -/
theorem ofArguments_arranged_generate :
    Invocation.ofArguments ["-d", "generate", "--output-dir=-d out", "analyze", "--config=a=b"]
      = .ok {
        debug := true
        config := some (.ofString "a=b")
        task := .generate (some "analyze") (.ofString "migration-tools/analysis_result.json")
          (some (.ofString "-d out")) } :=
  ofArguments_arranged
    ⟨some .letter, some "a=b", .generate (some "analyze") none (some "-d out")⟩
    [.debug .letter]
    [.option .outputDirectory "-d out", .module "analyze", .option .config "a=b"]
    ⟨by decide, by decide⟩ (by decide)

end Command

end Scaffold
