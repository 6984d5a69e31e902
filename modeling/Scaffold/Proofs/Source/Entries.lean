import Scaffold.Proofs.Source.Survey
import Scaffold.Proofs.Text.Utf8

/-!
# One entry for every source

Controllers, services and middleware are listed by the files right in their directories. Every file
that can be read and has one of the extensions gives one entry, which is made of its name and its
text alone, and the entries are in the order of the names.
-/

namespace Scaffold

namespace Disk

variable {disk : Disk} {loc : Location} {p : Path} {name : String}

theorem mem_namesIn_iff :
    name ∈ disk.namesIn loc ↔ Path.IsName name ∧ (disk.node? (loc ++ [name])).isSome := by
  have present : (disk.node? (loc ++ [name])).isSome ↔
      ∃ entry ∈ disk.entries, entry.1 = loc ++ [name] := by
    rw [node?, if_neg (by simp), List.lookup_isSome_iff]
    exact exists_congr fun entry => and_congr_right fun _ => beq_iff_eq.trans eq_comm
  rw [present]
  constructor
  · intro mem
    obtain ⟨entry, known, last⟩ := List.mem_filterMap.mp mem
    split at last
    · rename_i inside
      obtain ⟨begins, length⟩ := Bool.and_eq_true_iff.mp inside
      obtain ⟨behind, whole⟩ := List.isPrefixOf_iff_prefix.mp begins
      have single : behind.length = 1 := by
        rw [beq_iff_eq, ← whole, List.length_append] at length
        omega
      obtain ⟨other, rfl⟩ := List.length_eq_one_iff.mp single
      obtain ⟨found, isName⟩ := Option.filter_eq_some_iff.mp last
      rw [← whole, List.getLast?_concat] at found
      cases found
      exact ⟨of_decide_eq_true isName, entry, known, whole.symm⟩
    · cases last
  · rintro ⟨isName, entry, known, same⟩
    refine List.mem_filterMap.mpr ⟨entry, known, ?_⟩
    rw [same]
    simp [isName]

theorem mem_list_iff : name ∈ disk.list p ↔ Path.IsName name ∧
    ∃ loc, disk.nodeAt? true p = .ok (loc, .directory) ∧ (disk.node? (loc ++ [name])).isSome := by
  unfold list
  constructor
  · intro mem
    split at mem
    · rename_i loc leads
      obtain ⟨isName, present⟩ := mem_namesIn_iff.mp mem
      exact ⟨isName, loc, leads, present⟩
    · cases mem
  · rintro ⟨isName, loc, leads, present⟩
    rw [leads]
    exact mem_namesIn_iff.mpr ⟨isName, present⟩

theorem toUTF8_of_fromUTF8? {bytes : ByteArray} {text : String}
    (h : String.fromUTF8? bytes = some text) : bytes = text.toUTF8 := by
  unfold String.fromUTF8? at h
  split at h
  · cases h
    rfl
  · cases h

def HasText (disk : Disk) (p : Path) (text : String) : Prop :=
  ∃ loc, disk.nodeAt? true p = .ok (loc, .file text.toUTF8)

theorem readText_iff_hasText {text : String} : disk.readText p = .ok text ↔ disk.HasText p text := by
  constructor
  · intro read
    obtain ⟨loc, bytes, leads, decoded⟩ := readText_eq_ok_iff.mp read
    exact ⟨loc, toUTF8_of_fromUTF8? decoded ▸ leads⟩
  · rintro ⟨loc, leads⟩
    exact readText_of_nodeAt? leads

end Disk

namespace Survey

theorem textAt?_eq_some_iff {disk : Disk} {root : Path} {place text : String} :
    textAt? disk root place = some text ↔ disk.HasText (root.join (.ofString place)) text := by
  rw [← Disk.readText_iff_hasText, textAt?]
  cases disk.readText (root.join (.ofString place)) <;> simp [Except.toOption]

/-- What an entry is made of: the name of a file, the name without its extension, and the text. -/
structure Source where
  name : String
  stem : String
  text : String

/-- The source is a file right in the directory, links followed. Its name has one of the extensions
behind the last dot and something in front of that, and its contents are the text. -/
structure IsSource (disk : Disk) (dir : Path) (extensions : List String) (source : Source) :
    Prop where
  isName : Path.IsName source.name
  entry : ∃ loc, disk.nodeAt? true dir = .ok (loc, .directory) ∧
    (disk.node? (loc ++ [source.name])).isSome
  stem : source.stem ≠ ""
  extension : ∃ e ∈ extensions, '.' ∉ e.toList ∧ source.name = source.stem ++ "." ++ e
  contents : ∃ loc, disk.nodeAt? true (dir.joinName source.name) =
    .ok (loc, .file source.text.toUTF8)

/-- All sources of a directory, each once, in the order of the bytes of their names. -/
structure AreSources (disk : Disk) (dir : Path) (extensions : List String)
    (sources : List Source) : Prop where
  mem : ∀ source, source ∈ sources ↔ IsSource disk dir extensions source
  increasing : sources.Pairwise fun a b => a.name.toUTF8.toList < b.name.toUTF8.toList

variable {disk : Disk} {extensions : List String}

def sourceOf (entry : String × String) : Source := ⟨entry.1, (Path.splitName entry.1).1, entry.2⟩

theorem isSource_iff (disk : Disk) (dir : Path) (extensions : List String)
    (source : Source) : IsSource disk dir extensions source ↔
      Holds disk dir extensions source.name source.text ∧
        source.stem = (Path.splitName source.name).1 := by
  constructor
  · rintro ⟨isName, entry, stem, ⟨e, known, noDots, spelled⟩, loc, contents⟩
    have split := Path.splitName_eq_some_iff.mpr ⟨spelled, stem, noDots⟩
    have listed := Disk.mem_list_iff.mpr ⟨isName, entry⟩
    have extension : (Path.ofString source.name).extension? = some e := by
      rw [Path.extension?_ofString isName, split]
    refine ⟨⟨listed, ⟨e, known, extension⟩, ?_, ?_⟩, ?_⟩
    · exact Disk.isFile_of_nodeAt? contents
    · exact Disk.readText_of_nodeAt? contents
    · rw [split]
  · rintro ⟨⟨listed, ⟨e, known, extension⟩, -, readable⟩, stem⟩
    obtain ⟨isName, entry⟩ := Disk.mem_list_iff.mp listed
    rw [Path.extension?_ofString isName] at extension
    obtain ⟨spelled, some, noDots⟩ := Path.splitName_eq_some_iff.mp (Prod.ext stem.symm extension)
    obtain ⟨loc, bytes, leads, decoded⟩ := Disk.readText_eq_ok_iff.mp readable
    refine ⟨isName, entry, some, ⟨e, known, noDots, spelled⟩, loc, ?_⟩
    rw [leads, Disk.toUTF8_of_fromUTF8? decoded]

theorem areSources_textsIn (disk : Disk) (dir : Path) (extensions : List String) :
    AreSources disk dir extensions ((textsIn disk dir extensions).map sourceOf) where
  mem source := by
    rw [isSource_iff, ← mem_textsIn_iff]
    constructor
    · intro mem
      obtain ⟨⟨name, text⟩, known, rfl⟩ := List.mem_map.mp mem
      exact ⟨known, rfl⟩
    · rintro ⟨mem, stem⟩
      refine List.mem_map.mpr ⟨_, mem, ?_⟩
      rw [sourceOf, ← stem]
  increasing := by
    refine List.pairwise_map.mpr ((pairwise_textsIn disk dir extensions).imp ?_)
    exact Text.toUTF8_lt

/-- There is one entry for every source of the directory, in order, made of the stem of its name,
its place below the root and its text. -/
def AreEntries {α : Type} (disk : Disk) (root : Path) (dir : String) (extensions : List String)
    (entry : (stem place text : String) → α) (entries : List α) : Prop :=
  ∃ sources, AreSources disk (root.join (.ofString dir)) extensions sources ∧
    entries = sources.map fun source =>
      entry source.stem (root.locationFrom ((root.join (.ofString dir)).joinName source.name))
        source.text

theorem areEntries_sourcesIn {α : Type} (disk : Disk) (root : Path) (dir : String)
    (extensions : List String) (entry : (stem place text : String) → α) :
    AreEntries disk root dir extensions entry ((sourcesIn disk root dir extensions).map fun file =>
      entry file.path.stem (root.locationFrom file.path) file.text) := by
  refine ⟨_, areSources_textsIn disk _ extensions, ?_⟩
  rw [sourcesIn_eq, List.map_map, List.map_map]
  refine List.map_congr_left fun known mem => ?_
  have stem := Path.stem_joinName (root.join (.ofString dir)) (isName_of_mem_textsIn mem)
  simp only [Function.comp_apply, sourceOf, stem]

/-- Controllers, services and middleware have one entry for every source, in order. -/
theorem entries_of_sources (disk : Disk) (root : Path) (layout : SourceLayout) :
    AreEntries disk root layout.controllers layout.sourceExtensions
      (fun stem place text => ⟨stem, place, ModuleKind.controller.exportsOf text.toList⟩)
      (modules disk root layout .controller) ∧
    AreEntries disk root layout.services layout.sourceExtensions
      (fun stem place text => ⟨stem, place, ModuleKind.service.exportsOf text.toList⟩)
      (modules disk root layout .service) ∧
    AreEntries disk root layout.middleware layout.sourceExtensions
      (fun stem place text => ⟨stem, place, Description.ofText text.toList⟩)
      (middleware disk root layout) := by
  refine ⟨?_, ?_, ?_⟩
  · exact areEntries_sourcesIn disk root layout.controllers layout.sourceExtensions _
  · exact areEntries_sourcesIn disk root layout.services layout.sourceExtensions _
  · exact areEntries_sourcesIn disk root layout.middleware layout.sourceExtensions _

/-- Services among what is none of them: names without a stem or with other extensions, a directory,
a file that is no text and a link that leads nowhere. -/
def shelf : Disk where
  entries := [
    (["shelf"], .directory),
    (["shelf", "services"], .directory),
    (["shelf", "services", "mail.test.js"], .link ⟨["..", "mail"]⟩),
    (["shelf", "services", "gone.js"], .link ⟨["nowhere"]⟩),
    (["shelf", "services", "é.js"], .file "export class Z \x7b\x7d".toUTF8),
    (["shelf", "services", ".js"], .file "export class Hidden \x7b\x7d".toUTF8),
    (["shelf", "services", "notes.md"], .file "export class Notes \x7b\x7d".toUTF8),
    (["shelf", "services", "old.js"], .directory),
    (["shelf", "services", "bad.js"], .file ⟨#[0xff]⟩),
    (["shelf", "services", "Post.js"], .file "export function send() \x7b\x7d".toUTF8),
    (["shelf", "mail"], .file "export const post = 1".toUTF8)]

theorem entries_of_sources_shelf :
    AreEntries shelf ⟨["", "shelf"]⟩ "services" ["js"]
      (fun stem place text => ⟨stem, place, ModuleKind.service.exportsOf text.toList⟩)
      (modules shelf ⟨["", "shelf"]⟩ {} .service) ∧
    modules shelf ⟨["", "shelf"]⟩ {} .service = [
      ⟨"Post", "services/Post.js", .ofList ["send"]⟩,
      ⟨"mail.test", "services/mail.test.js", .ofList ["post"]⟩,
      ⟨"é", "services/é.js", .ofList ["Z"]⟩] :=
  ⟨(entries_of_sources shelf ⟨["", "shelf"]⟩ {}).2.1, by decide +kernel⟩

end Survey

end Scaffold
