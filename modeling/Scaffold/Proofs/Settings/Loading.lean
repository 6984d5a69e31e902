import Scaffold.Proofs.Disk.Written
import Scaffold.Proofs.Json.Values
import Scaffold.Proofs.Settings.Naming
import Scaffold.Proofs.Settings.Overriding
import Scaffold.Proofs.Text.Utf8
import Scaffold.Proofs.Toml.Documents

/-!
# Loading settings

A section is loaded from the file that is asked for, or from the one that is found. What it becomes
depends on what the file tells under its name alone, in whatever way the file is written.
-/

namespace Scaffold.Settings

open Setting (IsPlainName LeadsAlone)

/-! ## What files tell -/

/-- The whole text tells the entries in a format. A mark of the byte order may stand in front of
TOML. -/
inductive Format.Tells : Format → String → List (String × Setting) → Prop
  | toml {mark text : List Char} {tables : Toml.Entries} (isMark : mark = [] ∨ mark = ['\uFEFF'])
    (lines : Toml.Lines [] [] text tables) :
    Format.Tells .toml (String.ofList (mark ++ text)) (Setting.ofTomlEntries (Toml.finishEntries tables))
  | json {document : String} {members : List (String × Json.Value)}
    (told : Json.Document (Json.Means (Json.depthLimit - 1) (.object members)) document) :
    Format.Tells .json document (Setting.ofJsonMembers members)

/-- The file that settings are loaded from: its format and its text. -/
inductive SettingsFile (disk : Disk) (format : Format) (document : String) : Option Path → Prop
  | given {path file : Path} {loc : Location} (isThere : disk.exists? path = true)
    (stands : fileFor disk path = some (file, format))
    (node : disk.nodeAt? true file = .ok (loc, .file document.toUTF8)) :
    SettingsFile disk format document (some path)
  | found {path file : Path} {loc : Location} (located : locate disk = some path)
    (stands : fileFor disk path = some (file, format))
    (node : disk.nodeAt? true file = .ok (loc, .file document.toUTF8)) :
    SettingsFile disk format document none

variable {σ : Type} {disk : Disk} {format : Format} {document : String} {path? : Option Path}
  {entries : List (String × Setting)} {s : Section σ}

/-! ## Reading what is told -/

theorem dropByteOrderMark_object {members : List (String × Json.Value)} {depth : Nat}
    (told : Json.Document (Json.Means depth (.object members)) document) :
    Toml.dropByteOrderMark document.toList = document.toList := by
  cases told with
  | @blanks before text after blanks means =>
    rw [String.toList_ofList]
    cases before with
    | nil =>
      cases means with
      | object _ _ isObject =>
        cases isObject with
        | braces _ enclosed =>
          cases enclosed
          rfl
    | cons c before =>
      have blank := blanks c List.mem_cons_self
      simp only [Json.isBlank, Bool.or_eq_true, beq_iff_eq] at blank
      rcases blank with ((rfl | rfl) | rfl) | rfl <;> rfl

theorem read?_tells (h : format.Tells document entries) :
    format.read? (Toml.dropByteOrderMark document.toList) = some entries := by
  cases h with
  | @toml mark text _ isMark lines =>
    have unmarked : Toml.dropByteOrderMark (mark ++ text) = text := by
      rcases isMark with rfl | rfl
      · exact Toml.dropByteOrderMark_lines lines
      · rfl
    rw [String.toList_ofList, unmarked, Format.read?, Toml.readDocument_lines lines,
      Option.map_some]
  | json told =>
    rw [dropByteOrderMark_object told, Format.read?, Json.ofText?_document told]

/-! ## Loading a section -/

theorem readBytes_of_nodeAt? {p : Path} {loc : Location} {bytes : ByteArray}
    (h : disk.nodeAt? true p = .ok (loc, .file bytes)) : disk.readBytes p = .ok bytes := by
  rw [Disk.readBytes, h]
  rfl

theorem readFile_of_nodeAt? {path file : Path} {loc : Location}
    (stands : fileFor disk path = some (file, format))
    (node : disk.nodeAt? true file = .ok (loc, .file document.toUTF8)) :
    readFile disk path =
      match format.read? (Toml.dropByteOrderMark document.toList) with
      | none => .error (.unreadable path)
      | some entries => .ok (entries, (file.relativeTo disk.workingPath).text) := by
  cases read : format.read? (Toml.dropByteOrderMark document.toList) <;>
    simp only [readFile, stands, readBytes_of_nodeAt? node, Text.decode_toUTF8, read]

/-- A section is read from what is under its name, or has its defaults if nothing is. -/
inductive Section.Gives (s : Section σ) (entries : List (String × Setting)) : σ → Prop
  | defaults (absent : (Setting.ofEntries entries).lookup s.name = none) :
    Section.Gives s entries s.defaults
  | read {v : Setting} {record : σ} (there : (Setting.ofEntries entries).lookup s.name = some v)
    (read : s.read v = .ok record) : Section.Gives s entries record

theorem Section.ofFile_of_gives {record : σ} {path : Path} {name : String}
    (read : readFile disk path = .ok (entries, name)) (gives : s.Gives entries record) :
    Section.load.ofFile s disk path = .ok record := by
  rw [Section.load.ofFile, read]
  cases gives with
  | defaults absent => simp only [bind, Except.bind, absent]
  | read there read => simp only [bind, Except.bind, there, read]

theorem Section.load_of_gives {record : σ} (file : SettingsFile disk format document path?)
    (tells : format.Tells document entries) (gives : s.Gives entries record) :
    s.load path? disk = .ok record := by
  have read := read?_tells tells
  cases file with
  | given isThere stands node =>
    have entry := readFile_of_nodeAt? stands node
    rw [read] at entry
    rw [Section.load, if_pos isThere]
    exact ofFile_of_gives entry gives
  | found located stands node =>
    have entry := readFile_of_nodeAt? stands node
    rw [read] at entry
    simp only [Section.load, located]
    exact ofFile_of_gives entry gives

/-- A file that is there but not well formed for its reader is refused. -/
theorem Section.load_unread (s : Section σ) {path file : Path} {loc : Location}
    (isThere : disk.exists? path = true) (stands : fileFor disk path = some (file, format))
    (node : disk.nodeAt? true file = .ok (loc, .file document.toUTF8))
    (unread : format.read? (Toml.dropByteOrderMark document.toList) = none) :
    s.load (some path) disk = .error (.unreadable path) := by
  rw [Section.load, if_pos isThere, Section.load.ofFile, readFile_of_nodeAt? stands node, unread]
  rfl

/-! ## Settings over their defaults -/

/-- The entries of a file set the chosen keys of a section, or leave the section out. -/
inductive SetsSection (s : Section σ) (settings : List (String × Setting)) (chosen : List String)
    (entries : List (String × Setting)) : Prop
  | absent (absent : entries.lookup s.name = none) (nothing : chosen = []) :
    SetsSection s settings chosen entries
  | table {located : Bool} {held : List (String × Setting)}
    (there : entries.lookup s.name = some (.table located held))
    (sets : SetsKeys settings chosen held) : SetsSection s settings chosen entries

/-- The name is plain, or a path that leads into neither section. -/
def StandsAlone (name : String) : Prop :=
  IsPlainName name ∨ (KeyPath.ofName name).first ∉ [analyzer.name, generator.name]

variable {settings : List (String × Setting)} {chosen : List String} {result : List String → σ}
  {other : List (String × Setting)}

theorem leadsAlone_of_standsAlone (alone : ∀ entry ∈ entries, StandsAlone entry.1)
    (isSection : s.name ∈ [analyzer.name, generator.name]) : LeadsAlone s.name entries := by
  intro entry mem leads
  rcases alone entry mem with plain | aside
  · rw [Setting.ofName_plain plain] at leads
    exact leads
  · rw [leads] at aside
    exact absurd isSection aside

theorem isPlainName_section {name : String} (h : name ∈ [analyzer.name, generator.name]) :
    IsPlainName name := by
  have all : ∀ name ∈ [analyzer.name, generator.name], IsPlainName name := by
    simp only [List.forall_mem_cons]
    exact ⟨⟨by decide, List.all_eq_true.mp (by decide)⟩,
      ⟨by decide, List.all_eq_true.mp (by decide)⟩, List.forall_mem_nil _⟩
  exact all name h

theorem gives_of_sets (overrides : Overrides s settings result)
    (isSection : s.name ∈ [analyzer.name, generator.name])
    (apart : (entries.map Prod.fst).Nodup) (alone : ∀ entry ∈ entries, StandsAlone entry.1)
    (sets : SetsSection s settings chosen entries) : s.Gives entries (result chosen) := by
  have under := Setting.lookup_ofEntries (isPlainName_section isSection)
    (leadsAlone_of_standsAlone alone isSection) apart
  cases sets with
  | absent absent nothing =>
    rw [absent] at under
    rw [nothing, overrides.blank]
    exact .defaults under
  | table there sets =>
    rw [there] at under
    refine .read under ?_
    simp only [Setting.merge]
    exact overrides.read_table (setsKeys_mergeEntries overrides.solid sets) _

theorem load_of_sets (overrides : Overrides s settings result)
    (isSection : s.name ∈ [analyzer.name, generator.name])
    (file : SettingsFile disk format document path?) (tells : format.Tells document entries)
    (alone : ∀ entry ∈ entries, StandsAlone entry.1)
    (sets : SetsSection s settings chosen entries) :
    s.load path? disk = .ok (result chosen) :=
  s.load_of_gives file tells
    (gives_of_sets overrides isSection (Format.nodup_read (read?_tells tells)) alone sets)

/-- What stands under one name may be replaced without changing what a section under another name
sets. -/
theorem SetsSection.replaced {name : String} (sets : SetsSection s settings chosen entries)
    (differ : s.name ≠ name)
    (same : ∀ key, key ≠ name → other.lookup key = entries.lookup key) :
    SetsSection s settings chosen other := by
  cases sets with
  | absent absent nothing => exact .absent ((same s.name differ).trans absent) nothing
  | table there sets => exact .table ((same s.name differ).trans there) sets

theorem standsAlone_replaced {name : String} (plain : IsPlainName name)
    (alone : ∀ entry ∈ entries, StandsAlone entry.1)
    (same : ∀ key, key ≠ name → other.lookup key = entries.lookup key) :
    ∀ entry ∈ other, StandsAlone entry.1 := by
  intro entry mem
  by_cases replaced : entry.1 = name
  · exact .inl (replaced ▸ plain)
  · have there := List.lookup_isSome_iff.mpr ⟨entry, mem, beq_self_eq_true entry.1⟩
    rw [same entry.1 replaced, List.lookup_isSome_iff] at there
    obtain ⟨entry', mem', same'⟩ := there
    rw [beq_iff_eq.mp same']
    exact alone entry' mem'

/-- Settings override their defaults key by key, and neither section depends on the other. -/
theorem load_onDefaults {l : SourceLayout} {p : ProjectSettings} {chosen chosen' : List String}
    (file : SettingsFile disk format document path?) (tells : format.Tells document entries)
    (alone : ∀ entry ∈ entries, StandsAlone entry.1)
    (layout : SetsSection analyzer l.settings chosen entries)
    (project : SetsSection generator p.settings chosen' entries) :
    analyzer.load path? disk = .ok (l.onDefaults chosen) ∧
    generator.load path? disk = .ok (p.onDefaults chosen') ∧
    (∀ disk' format' document' path?' other, SettingsFile disk' format' document' path?' →
      format'.Tells document' other →
      (∀ key, key ≠ generator.name → other.lookup key = entries.lookup key) →
      analyzer.load path?' disk' = analyzer.load path? disk) ∧
    (∀ disk' format' document' path?' other, SettingsFile disk' format' document' path?' →
      format'.Tells document' other →
      (∀ key, key ≠ analyzer.name → other.lookup key = entries.lookup key) →
      generator.load path?' disk' = generator.load path? disk) := by
  have first : analyzer.name ∈ [analyzer.name, generator.name] := List.mem_cons_self
  have second : generator.name ∈ [analyzer.name, generator.name] :=
    List.mem_cons_of_mem _ List.mem_cons_self
  have analyzed := load_of_sets (overrides_analyzer l) first file tells alone layout
  have generated := load_of_sets (overrides_generator p) second file tells alone project
  -- a file that differs in the other section alone sets the same keys of this one
  refine ⟨analyzed, generated, ?_, ?_⟩
  · intro disk' format' document' path?' other file' tells' same
    rw [analyzed]
    exact load_of_sets (overrides_analyzer l) first file' tells'
      (standsAlone_replaced (isPlainName_section second) alone same)
      (layout.replaced (by decide) same)
  · intro disk' format' document' path?' other file' tells' same
    rw [generated]
    exact load_of_sets (overrides_generator p) second file' tells'
      (standsAlone_replaced (isPlainName_section first) alone same)
      (project.replaced (by decide) same)

namespace Small

open Toml (Lines Means Blanks SpellsPath EndsLine)

/-- A layout with its routes elsewhere and a further key, and settings that clean the output. -/
def text : List Char :=
  '[' :: ("analyzer".toList ++ ']' :: '\n' :: ("routes_dir".toList ++ '=' :: ("\"r\\u0041\"".toList
    ++ '\n' :: ("other".toList ++ '=' :: ("[1]".toList ++ '\n' :: '[' :: ("generator".toList
    ++ ']' :: '\n' :: ("clean_output".toList ++ '=' :: ("true".toList ++ ['\n']))))))))

def tables : Toml.Entries := [
  ("analyzer", .table .header [
    ("routes_dir", .value (.string "rA")), ("other", .value (.list [.scalar (.integer 1)]))]),
  ("generator", .table .header [("clean_output", .value (.scalar (.bool true)))])]

def place : Disk := { entries := [(["s.toml"], .file (String.ofList text).toUTF8)] }

theorem blanks_nil : Blanks [] := List.forall_mem_nil _

theorem endsLine_feed (more : List Char) : EndsLine more ('\n' :: more) :=
  @EndsLine.line more [] [] ['\n'] blanks_nil .none .feed

variable {keys inner more : List Char} {path above current : List String} {key : String}
  {v : Toml.Value} {entries next final : Toml.Entries}

theorem spellsPath_bare {key : String} (nonempty : key.toList ≠ [])
    (all : key.toList.all Toml.isBareKey = true) : SpellsPath [key] key.toList := by
  have path := SpellsPath.last blanks_nil (.bare nonempty (List.all_eq_true.mp all)) blanks_nil
  rw [List.nil_append, List.append_nil] at path
  exact path

theorem lines_header (spelled : SpellsPath [key] keys) (made : entries.makeTable [] key = some next)
    (later : Lines [key] next more final) :
    Lines current entries ('[' :: (keys ++ ']' :: '\n' :: more)) final :=
  @Lines.header current [key] [] key entries next final [] keys ('\n' :: more) more
    (.blanks blanks_nil) spelled rfl made (endsLine_feed more) later

theorem lines_value (spelled : SpellsPath [key] keys) (means : Means Toml.depthLimit v inner)
    (made : entries.under current (Toml.Entries.addValue key v []) = some next)
    (later : Lines current next more final) :
    Lines current entries (keys ++ '=' :: (inner ++ '\n' :: more)) final :=
  @Lines.value current [key] [] key v entries next final [] keys [] inner ('\n' :: more) more
    (.blanks blanks_nil) spelled blanks_nil means rfl made (endsLine_feed more) later

theorem lines : Lines [] [] text tables := by
  have routes : Toml.Spells "rA" "\"r\\u0041\"".toList :=
    @Toml.Spells.basic "rA" _ (.plain rfl (by decide) (by decide)
      (@Toml.BasicBody.escape 'A' "u0041".toList [] [] (.code (by decide) rfl rfl) .nil))
  have one : Toml.IsWord (.integer 1) ['1'] := .word (by decide) (List.all_eq_true.mp (by decide)) rfl
  have ones : Means Toml.depthLimit (.list [.scalar (.integer 1)]) "[1]".toList :=
    @Means.list 79 _ [['1']] _ rfl (by simpa using .scalar one)
      (@Toml.Parts.last ']' [] ['1'] [] (.blanks blanks_nil) (.blanks blanks_nil))
  have yes : Toml.IsWord (.bool true) "true".toList := .word (by decide) (List.all_eq_true.mp (by decide)) rfl
  apply lines_header (spellsPath_bare (by decide) (by decide)) rfl
  apply lines_value (spellsPath_bare (by decide) (by decide)) (.string routes) rfl
  apply lines_value (spellsPath_bare (by decide) (by decide)) ones rfl
  apply lines_header (spellsPath_bare (by decide) (by decide)) rfl
  apply lines_value (spellsPath_bare (by decide) (by decide)) (.scalar yes) rfl
  exact @Lines.done _ _ [] [] (.blanks blanks_nil) .none

theorem tells : Format.toml.Tells (String.ofList text)
    (Setting.ofTomlEntries (Toml.finishEntries tables)) :=
  @Format.Tells.toml [] text tables (.inl rfl) lines

theorem load_onDefaults_small :
    analyzer.load (some ⟨["s.toml"]⟩) place = .ok { routes := "rA" } ∧
    generator.load (some ⟨["s.toml"]⟩) place = .ok { cleanOutput := true } := by
  have file : SettingsFile place .toml (String.ofList text) (some ⟨["s.toml"]⟩) :=
    .given rfl rfl rfl
  have alone : ∀ entry ∈ Setting.ofTomlEntries (Toml.finishEntries tables),
      StandsAlone entry.1 := by
    intro entry mem
    have name := List.mem_map_of_mem (f := Prod.fst) mem
    rw [Setting.keys_ofTomlEntries, Toml.keys_finishEntries] at name
    exact .inl (isPlainName_section name)
  have layout : SetsSection analyzer ({ routes := "rA" } : SourceLayout).settings ["routes_dir"]
      (Setting.ofTomlEntries (Toml.finishEntries tables)) :=
    @SetsSection.table _ analyzer _ _ _ true
      [("routes_dir", .text "rA"), ("other", .list true [.integer 1])] rfl
      ⟨by simp [SourceLayout.settings], by simp⟩
  have project : SetsSection generator ({ cleanOutput := true } : ProjectSettings).settings
      ["clean_output"] (Setting.ofTomlEntries (Toml.finishEntries tables)) :=
    @SetsSection.table _ generator _ _ _ true [("clean_output", .bool true)] rfl
      ⟨by simp [ProjectSettings.settings], by simp⟩
  have loaded := load_onDefaults file tells alone layout project
  exact ⟨loaded.1, loaded.2.1⟩

end Small

/-! ## A further key that is nested too deep -/

namespace Nested

/-- One more list than the reader allows in an object. -/
def text : List Char := Json.nestedMember 126

def place : Disk := { entries := [(["s.json"], .file (String.ofList text).toUTF8)] }

theorem read?_text :
    Format.json.read? (Toml.dropByteOrderMark (String.ofList text).toList) = none := by
  rw [String.toList_ofList, show Toml.dropByteOrderMark text = text from rfl, Format.read?, text,
    Json.ofText?_nestedMember (by decide)]

/-- A well-formed file that sets no known key is refused. -/
theorem load_nested :
    Json.Document (Json.Means Json.depthLimit (.object [("a", Json.nested 126)]))
      (String.ofList text) ∧
    (∀ entry ∈ Setting.ofJsonMembers [("a", Json.nested 126)], StandsAlone entry.1) ∧
    SetsSection analyzer ({} : SourceLayout).settings []
      (Setting.ofJsonMembers [("a", Json.nested 126)]) ∧
    analyzer.load (some ⟨["s.json"]⟩) place = .error (.unreadable ⟨["s.json"]⟩) := by
  refine ⟨Json.document_of_tells (Json.means_nestedMember 126), ?_, .absent rfl rfl, ?_⟩
  · simp only [Setting.ofJsonMembers, List.forall_mem_cons]
    exact ⟨.inl ⟨by decide, List.all_eq_true.mp (by decide)⟩, List.forall_mem_nil _⟩
  · exact analyzer.load_unread rfl rfl rfl read?_text

end Nested

end Scaffold.Settings
