import Scaffold.Proofs.Json.Meaning
import Scaffold.Proofs.Json.Uniqueness
import Scaffold.Proofs.Settings.Naming
import Scaffold.Proofs.Source.Entries

/-!
# The packages of a manifest

The packages are the entries of one block of the manifest whose versions are strings, with the names
and versions that are meant. A manifest without such a block has no packages.
-/

namespace Scaffold

namespace Json

variable {depth : Nat} {key document : String} {text : List Char} {told others : List Member}
  {members : List (String × Value)}

/-! ## The members of a document -/

def HasMembers (told : List Member) (text : List Char) : Prop :=
  (∀ m ∈ told, IsPair m) ∧ IsObject told text

theorem isValue_of_hasMembers (h : HasMembers told text) : IsValue text :=
  isValue_of_pairs h.1 h.2

theorem unique_hasMembers (h : HasMembers told text) (h' : HasMembers others text) :
    told = others := unique_object h.2 h'.2 h.1 h'.1

theorem hasMembers_of_means (h : Means depth (.object members) text) :
    ∃ given told depth, members = lastOnes given ∧
      List.Forall₂ (fun member m => Spells member.1 m.1 ∧ Means depth member.2 m.2) given told ∧
      HasMembers told text := by
  generalize whole : Value.object members = v at h
  cases h with
  | @object depth given told _ keys values isObject =>
    cases whole
    obtain ⟨same, spelled⟩ := List.forall₂_iff_zip.mp keys
    have both : List.Forall₂ (fun member m => Spells member.1 m.1 ∧ Means depth member.2 m.2)
        given told := List.forall₂_iff_zip.mpr ⟨same, fun mem => ⟨spelled mem, values _ mem⟩⟩
    refine ⟨given, told, depth, rfl, both, fun m mem => ?_, isObject⟩
    obtain ⟨member, -, isKey, means⟩ := exists_told both m mem
    exact ⟨isString_of_spells isKey, isValue_of_means means⟩
  | _ => cases whole

/-- There is no object under the key in the document: it is no JSON, no object, has no such key, or
what the key has at last is no object. -/
inductive LacksObject (key document : String) : Prop
  | noJson (h : ¬Document IsValue document)
  | noObject (h : Document (fun text => IsValue text ∧ ∀ told, ¬HasMembers told text) document)
  | absent {told : List Member} (h : Document (HasMembers told) document)
    (absent : ∀ m ∈ told, ¬Spells key m.1)
  | other {front behind : List Member} {m : Member}
    (h : Document (HasMembers (front ++ m :: behind)) document) (spelled : Spells key m.1)
    (last : ∀ later ∈ behind, ¬Spells key later.1) (value : ∀ told, ¬HasMembers told m.2)

theorem Document.imp {Tells Tells' : List Char → Prop} (h : Document Tells document)
    (each : ∀ text, Tells text → Tells' text) : Document Tells' document := by
  cases h with
  | blanks blanks tells blanks' => exact .blanks blanks (each _ tells) blanks'

/-- What is read from a document of members are the values of these members. -/
theorem read_hasMembers (h : Document (HasMembers told) document)
    (read : Value.ofText? document.toList = some (.object members)) :
    ∃ given depth, members = lastOnes given ∧
      List.Forall₂ (fun member m => Spells member.1 m.1 ∧ Means depth member.2 m.2) given told := by
  obtain ⟨text, means, has⟩ := unique_document (fun _ => isValue_of_means)
    (fun _ => isValue_of_hasMembers) (ofText?_eq_some_iff.mp read) h
  obtain ⟨given, others, depth, same, both, has'⟩ := hasMembers_of_means means
  exact ⟨given, depth, same, unique_hasMembers has' has ▸ both⟩

theorem not_object_of_lacks (lacks : LacksObject key document)
    (read : Value.ofText? document.toList = some (.object members))
    (block : List (String × Value)) : members.lookup key ≠ some (.object block) := by
  intro found
  have meant := ofText?_eq_some_iff.mp read
  -- a block that is read would be meant by the document, which each case excludes
  cases lacks with
  | noJson h => exact h (meant.imp fun _ => isValue_of_means)
  | noObject h =>
    obtain ⟨text, means, -, other⟩ := unique_document (fun _ => isValue_of_means)
      (fun _ known => known.1) meant h
    obtain ⟨-, told, -, -, -, has⟩ := hasMembers_of_means means
    exact other told has
  | absent h absent =>
    obtain ⟨given, depth, rfl, both⟩ := read_hasMembers h read
    rw [lookup_lastOnes_of_absent] at found
    · cases found
    · rintro member mem rfl
      obtain ⟨m, inside, spelled, -⟩ := exists_told both.flip member mem
      exact absent m inside spelled
  | @other front behind m h spelled last value =>
    obtain ⟨given, depth, rfl, both⟩ := read_hasMembers h read
    obtain ⟨member, later, ⟨isKey, means⟩, bothLater, split⟩ :=
      List.forall₂_cons_right_iff.mp (List.forall₂_drop_append given front (m :: behind) both)
    obtain rfl := spells_unique isKey spelled
    rw [← List.take_append_drop front.length given, split, lookup_lastOnes_of_last] at found
    · rw [Option.some.inj found] at means
      obtain ⟨-, told, -, -, -, has⟩ := hasMembers_of_means means
      exact value told has
    · intro other mem same
      obtain ⟨m', inside, spelled', -⟩ := exists_told bothLater.flip other mem
      exact last m' inside (same ▸ spelled')

end Json

open Json

/-! ## The packages of a text -/

namespace Manifest

variable {document : String} {found : NameMap String} 
  {top block members others : List (String × Value)}

theorem textMembers_append (front behind : List (String × Value)) :
    textMembers (front ++ behind) = textMembers front ++ textMembers behind :=
  List.filterMap_append

theorem textMembers_perm (h : members.Perm others) :
    (textMembers members).Perm (textMembers others) := h.filterMap _

theorem textMembers_strings (entries : List (String × String)) :
    textMembers (entries.map fun entry => (entry.1, .string entry.2)) = entries := by
  rw [textMembers, List.filterMap_map]
  exact List.filterMap_some

theorem textMembers_eq_nil (noStrings : ∀ member ∈ members, ∀ s, member.2 ≠ .string s) :
    textMembers members = [] := by
  refine List.filterMap_eq_nil_iff.mpr fun member mem => ?_
  split
  · rename_i version isString
    exact absurd isString (noStrings member mem version)
  · rfl

/-- The members with other values than strings add nothing, wherever they stand. -/
theorem perm_textMembers
    (union : block.Perm (found.entries.map (fun entry => (entry.1, .string entry.2)) ++ others))
    (noStrings : ∀ member ∈ others, ∀ s, member.2 ≠ .string s) :
    (textMembers block).Perm found.entries := by
  have split := textMembers_perm union
  rwa [textMembers_append, textMembers_strings, textMembers_eq_nil noStrings,
    List.append_nil] at split

theorem dependenciesOf_block (means : Document (Means (depthLimit - 1) (.object top)) document)
    (mem : ("dependencies", .object block) ∈ top)
    (union : block.Perm (found.entries.map (fun entry => (entry.1, .string entry.2)) ++ others))
    (noStrings : ∀ member ∈ others, ∀ s, member.2 ≠ .string s) :
    dependenciesOf document = found := by
  have read := ofText?_document means
  have known := lookup_of_mem (nodup_ofText? read) mem
  rw [dependenciesOf, read, Option.bind_some, Value.member?, known]
  exact NameMap.ofList_of_perm (perm_textMembers union noStrings)

theorem dependenciesOf_lacks (lacks : LacksObject "dependencies" document) :
    dependenciesOf document = ∅ := by
  unfold dependenciesOf
  split
  · rename_i block found
    obtain ⟨v, read, member⟩ := Option.bind_eq_some_iff.mp found
    cases v with
    | object top => exact absurd member (not_object_of_lacks lacks read block)
    | _ => cases member
  · rfl

end Manifest

/-! ## The packages of a file -/

namespace Survey

/-- There is no block of packages at the path: no file, no text, or no object under the key. -/
inductive LacksBlock (disk : Disk) (manifest : Path) : Prop
  | missing (h : ∀ loc bytes, disk.nodeAt? true manifest ≠ .ok (loc, .file bytes))
  | noText {loc : Location} {bytes : ByteArray}
    (file : disk.nodeAt? true manifest = .ok (loc, .file bytes))
    (h : ∀ text : String, bytes ≠ text.toUTF8)
  | noBlock {document : String} (file : disk.HasText manifest document)
    (lacks : LacksObject "dependencies" document)

variable {disk : Disk} {root : Path} {layout : SourceLayout}

theorem dependencies_of_hasText {document : String}
    (file : disk.HasText (root.join (.ofString layout.manifest)) document) :
    dependencies disk root layout = Manifest.dependenciesOf document := by
  rw [dependencies_eq_textAt?, textAt?_eq_some_iff.mpr file]
  rfl

theorem dependencies_of_no_text
    (noText : ∀ document, ¬disk.HasText (root.join (.ofString layout.manifest)) document) :
    dependencies disk root layout = ∅ := by
  have nothing : textAt? disk root layout.manifest = none :=
    Option.eq_none_iff_forall_ne_some.mpr fun document read =>
      noText document (textAt?_eq_some_iff.mp read)
  rw [dependencies_eq_textAt?, nothing]
  rfl

/-- The packages are the entries of the block that are strings, and all of them: its other entries
and the other members of the manifest do not count. Where there is no block there are none. -/
theorem dependencies_of_manifest (disk : Disk) (root : Path) (layout : SourceLayout) :
    (∀ (found : NameMap String) (top block others : List (String × Value)) (document : String),
      disk.HasText (root.join (.ofString layout.manifest)) document →
      Document (Means (depthLimit - 1) (.object top)) document →
      ("dependencies", .object block) ∈ top →
      block.Perm (found.entries.map (fun entry => (entry.1, .string entry.2)) ++ others) →
      (∀ member ∈ others, ∀ s, member.2 ≠ .string s) →
      dependencies disk root layout = found) ∧
    (LacksBlock disk (root.join (.ofString layout.manifest)) →
      dependencies disk root layout = ∅) := by
  constructor
  · intro found top block others document file means mem union noStrings
    rw [dependencies_of_hasText file]
    exact Manifest.dependenciesOf_block means mem union noStrings
  · intro lacks
    cases lacks with
    | missing noFile => exact dependencies_of_no_text fun _ ⟨loc, file⟩ => noFile loc _ file
    | @noText loc bytes file noText =>
      refine dependencies_of_no_text fun text ⟨loc', file'⟩ => noText text ?_
      rw [file] at file'
      cases file'
      rfl
    | noBlock file lacks =>
      rw [dependencies_of_hasText file]
      exact Manifest.dependenciesOf_lacks lacks

/-! A block with entries of every kind, and a key without a block. -/

def mixedBlock : List ((String × Value) × Printed) :=
  [(("é/\n", .string "^1"), .text "^1"), (("n", .number (.int 7)), fun _ => "7".toList),
    (("o", .object []), printedObject []), (("", .string "😀\""), .text "😀\"")]

def mixedManifest : List ((String × Value) × Printed) :=
  [(("name", .null), fun _ => "null".toList),
    (("dependencies", .object (mixedBlock.map Prod.fst)), printedObject mixedBlock)]

theorem means_mixedManifest : Means (depthLimit - 1) (.object (mixedManifest.map Prod.fst))
    (printedObject mixedManifest 0) := by
  have none : Means 125 (.object []) (printedObject [] 2) :=
    means_printedObject [] 2 List.nodup_nil (List.forall_mem_nil _)
  have block : Means 126 (.object (mixedBlock.map Prod.fst)) (printedObject mixedBlock 1) := by
    refine means_printedObject mixedBlock 1 (by decide) ?_
    simp only [mixedBlock, List.forall_mem_cons]
    exact ⟨.string (spells_quoted _), .number rfl, none, .string (spells_quoted _),
      List.forall_mem_nil _⟩
  exact means_printedObject mixedManifest 0 (by decide)
    (List.forall_mem_cons.mpr ⟨.null, List.forall_mem_singleton.mpr block⟩)

def bareManifest : List Char :=
  '\x7b' :: (Printed.quoted "dependencies" ++ ':' :: ("null".toList ++ ['\x7d']))

theorem lacksObject_bareManifest :
    LacksObject "dependencies" (String.ofList bareManifest) := by
  have spelled := spells_quoted "dependencies"
  have members : HasMembers ([] ++ (Printed.quoted "dependencies", "null".toList) :: [])
      bareManifest :=
    ⟨List.forall_mem_singleton.mpr ⟨isString_of_spells spelled, .null⟩, isObject_pair _ _⟩
  exact .other (document_of_tells members) spelled (List.forall_mem_nil _) fun told has =>
    nomatch has.2

def holding (manifest : List Char) : Disk where
  entries := [(["package.json"], .file (String.ofList manifest).toUTF8)]

theorem dependencies_of_manifest_mixed :
    dependencies (holding (printedObject mixedManifest 0)) ⟨[""]⟩ {} =
        .ofList [("é/\n", "^1"), ("", "😀\"")] ∧
      dependencies (holding bareManifest) ⟨[""]⟩ {} = ∅ := by
  have listed : (NameMap.ofList [("é/\n", "^1"), ("", "😀\"")]).entries =
      [("", "😀\""), ("é/\n", "^1")] := by decide
  constructor
  · refine (dependencies_of_manifest _ _ _).1 _ _ (mixedBlock.map Prod.fst)
      [("n", .number (.int 7)), ("o", .object [])] _ ⟨["package.json"], rfl⟩
      (document_of_tells means_mixedManifest) (List.mem_cons_of_mem _ List.mem_cons_self) ?_ ?_
    · rw [listed]
      exact @List.perm_middle _ ("", .string "😀\"") ((mixedBlock.map Prod.fst).take 3) []
    · exact List.forall_mem_cons.mpr ⟨fun s => Value.noConfusion,
        List.forall_mem_singleton.mpr fun s => Value.noConfusion⟩
  · exact (dependencies_of_manifest _ _ _).2
      (.noBlock ⟨["package.json"], rfl⟩ lacksObject_bareManifest)

end Survey

end Scaffold
