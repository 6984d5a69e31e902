import Scaffold.Pattern.Reader
import Scaffold.Proofs.Disk.Written
import Scaffold.Proofs.Path.Location
import Scaffold.Source.Survey

/-!
# What a survey sees

Of a directory a survey sees the names and the texts of the files that count. It sees nothing of
where the directory lies, of what else is in it, and of the order in which it is listed, so it
finds the same model wherever the same sources are.
-/

namespace Scaffold

namespace Disk

variable {disk : Disk} {p : Path} {name text : String}

theorem isName_of_mem_list (h : name ∈ disk.list p) : Path.IsName name := by
  unfold list at h
  split at h
  · obtain ⟨entry, mem, last⟩ := List.mem_filterMap.mp h
    split at last
    · exact of_decide_eq_true (Option.filter_eq_some_iff.mp last).2
    · cases last
  · cases h

theorem list_of_not_isDirectory (h : disk.isDirectory p ≠ true) : disk.list p = [] := by
  unfold isDirectory at h
  unfold list
  split
  · rename_i found
    rw [found] at h
    exact absurd rfl h
  · rfl

theorem isFile_of_readText (h : disk.readText p = .ok text) : disk.isFile p = true := by
  obtain ⟨loc, bytes, leads, -⟩ := readText_eq_ok_iff.mp h
  exact isFile_of_nodeAt? leads

end Disk

namespace Survey

/-- A file that counts in a directory: it is right in the directory, its name has one of the
extensions, and it is a file of UTF-8 text, links followed. -/
structure Holds (disk : Disk) (dir : Path) (extensions : List String) (name text : String) :
    Prop where
  listed : name ∈ disk.list dir
  extension : ∃ e ∈ extensions, (Path.ofString name).extension? = some e
  isFile : disk.isFile (dir.joinName name) = true
  readable : disk.readText (dir.joinName name) = .ok text

/-- Two directories in which the same files count. -/
def SameFiles (a : Disk) (rootA : Path) (b : Disk) (rootB : Path) (dir : String)
    (extensions : List String) : Prop :=
  ∀ name text, Holds a (rootA.join (.ofString dir)) extensions name text ↔
    Holds b (rootB.join (.ofString dir)) extensions name text

def textAt? (disk : Disk) (root : Path) (place : String) : Option String :=
  (disk.readText (root.join (.ofString place))).toOption

/-- Two roots below which the same sources are. -/
structure SameSources (layout : SourceLayout) (a : Disk) (rootA : Path) (b : Disk)
    (rootB : Path) : Prop where
  routes : SameFiles a rootA b rootB layout.routes layout.sourceExtensions
  controllers : SameFiles a rootA b rootB layout.controllers layout.sourceExtensions
  middleware : SameFiles a rootA b rootB layout.middleware layout.sourceExtensions
  services : SameFiles a rootA b rootB layout.services layout.sourceExtensions
  migrations : SameFiles a rootA b rootB layout.migrations layout.migrationExtensions
  schemaSetup : textAt? a rootA layout.schemaSetup = textAt? b rootB layout.schemaSetup
  manifest : textAt? a rootA layout.manifest = textAt? b rootB layout.manifest

/-! ## The files of a directory by their names -/

variable {disk a b : Disk} {root rootA rootB : Path} {extensions : List String}

/-- The names and texts of the files that count, in the order of the names. -/
def textsIn (disk : Disk) (dir : Path) (extensions : List String) : List (String × String) :=
  ((NameSet.ofList (disk.list dir)).toList.filter fun name =>
    disk.isFile (dir.joinName name) && (dir.joinName name).extension?.any extensions.contains)
      |>.filterMap fun name => (disk.readText (dir.joinName name)).toOption.map (name, ·)

theorem filesIn_eq (disk : Disk) (dir : Path) (extensions : List String) :
    filesIn disk dir extensions =
      ((NameSet.ofList (disk.list dir)).toList.map dir.joinName).filter fun path =>
        disk.isFile path && path.extension?.any extensions.contains := by
  unfold filesIn
  split
  · rfl
  · rename_i notDirectory
    rw [Disk.list_of_not_isDirectory notDirectory]
    rfl

theorem sourcesIn_eq (disk : Disk) (root : Path) (dir : String) (extensions : List String) :
    sourcesIn disk root dir extensions =
      (textsIn disk (root.join (.ofString dir)) extensions).map fun entry =>
        ⟨(root.join (.ofString dir)).joinName entry.1, entry.2⟩ := by
  rw [sourcesIn, filesIn_eq, textsIn, List.filter_map, List.filterMap_map, List.map_filterMap]
  refine congrFun (congrArg List.filterMap (funext fun name => ?_)) _
  rw [Function.comp_apply, read?, Option.map_map]
  rfl

theorem mem_textsIn_iff (disk : Disk) (dir : Path) (extensions : List String)
    (name text : String) :
    (name, text) ∈ textsIn disk dir extensions ↔ Holds disk dir extensions name text := by
  -- The survey asks for the extension of the joined path, which is that of the name.
  have sameExtension : Path.IsName name → (dir.joinName name).extension? =
      (Path.ofString name).extension? := fun isName => by
    rw [Path.extension?_joinName dir isName, Path.extension?_ofString isName]
  constructor
  · intro mem
    obtain ⟨n, kept, read⟩ := List.mem_filterMap.mp mem
    obtain ⟨t, readable, same⟩ := Option.map_eq_some_iff.mp read
    cases same
    obtain ⟨listed, counts⟩ := List.mem_filter.mp kept
    rw [← NameSet.mem_def, NameSet.mem_ofList_iff] at listed
    obtain ⟨isFile, extension⟩ := Bool.and_eq_true_iff.mp counts
    rw [sameExtension (Disk.isName_of_mem_list listed)] at extension
    refine ⟨listed, ?_, isFile, ?_⟩
    · cases known : (Path.ofString name).extension? with
      | none =>
        rw [known] at extension
        cases extension
      | some e =>
        rw [known] at extension
        exact ⟨e, List.contains_iff_mem.mp extension, rfl⟩
    · cases outcome : disk.readText (dir.joinName name) with
      | error fault =>
        rw [outcome] at readable
        cases readable
      | ok found =>
        rw [outcome] at readable
        exact congrArg _ (Option.some.inj readable)
  · rintro ⟨listed, ⟨e, mem, known⟩, isFile, readable⟩
    have extension := sameExtension (Disk.isName_of_mem_list listed)
    refine List.mem_filterMap.mpr ⟨name, List.mem_filter.mpr ⟨?_, ?_⟩, ?_⟩
    · exact (NameSet.mem_ofList_iff name _).mpr listed
    · rw [isFile, extension, known]
      simpa using mem
    · rw [readable]
      rfl

theorem pairwise_textsIn (disk : Disk) (dir : Path) (extensions : List String) :
    (textsIn disk dir extensions).Pairwise fun x y => x.1 < y.1 := by
  refine List.Pairwise.filterMap _ ?_ ((NameSet.increasing _).filter _)
  intro m n less x hx y hy
  obtain ⟨_, _, rfl⟩ := Option.map_eq_some_iff.mp hx
  obtain ⟨_, _, rfl⟩ := Option.map_eq_some_iff.mp hy
  exact less

theorem nodup_of_increasing {xs : List (String × String)} (h : xs.Pairwise fun x y => x.1 < y.1) :
    xs.Nodup :=
  h.imp fun less same => NameSet.ne_of_less less (congrArg Prod.fst same)

/-- The order of the names leaves no choice. -/
theorem eq_of_increasing {xs ys : List (String × String)} (hx : xs.Pairwise fun x y => x.1 < y.1)
    (hy : ys.Pairwise fun x y => x.1 < y.1) (mem : ∀ entry, entry ∈ xs ↔ entry ∈ ys) : xs = ys := by
  have nodup := nodup_of_increasing hx
  have perm := (List.perm_ext_iff_of_nodup nodup (nodup_of_increasing hy)).mpr mem
  refine perm.eq_of_pairwise ?_ hx hy
  intro x y _ _ less more
  exact absurd (String.lt_trans less more) (String.lt_irrefl x.1)

theorem textsIn_eq {dir : String} (same : SameFiles a rootA b rootB dir extensions) :
    textsIn a (rootA.join (.ofString dir)) extensions
      = textsIn b (rootB.join (.ofString dir)) extensions := by
  refine eq_of_increasing (pairwise_textsIn _ _ _) (pairwise_textsIn _ _ _) fun (name, text) => ?_
  rw [mem_textsIn_iff, mem_textsIn_iff]
  exact same name text

theorem isName_of_mem_textsIn {dir : Path} {entry : String × String}
    (h : entry ∈ textsIn disk dir extensions) : Path.IsName entry.1 :=
  Disk.isName_of_mem_list ((mem_textsIn_iff disk dir extensions entry.1 entry.2).mp h).listed

/-! ## What is made of the files -/

theorem map_sourcesIn_eq {α : Type} {f g : SourceFile → α} {dir : String}
    (same : SameFiles a rootA b rootB dir extensions)
    (h : ∀ name text, Path.IsName name →
      f ⟨(rootA.join (.ofString dir)).joinName name, text⟩
        = g ⟨(rootB.join (.ofString dir)).joinName name, text⟩) :
    (sourcesIn a rootA dir extensions).map f = (sourcesIn b rootB dir extensions).map g := by
  rw [sourcesIn_eq, sourcesIn_eq, List.map_map, List.map_map, textsIn_eq same]
  refine List.map_congr_left fun entry mem => ?_
  exact h entry.1 entry.2 (isName_of_mem_textsIn mem)

/-- The recorded place of a file does not depend on the root. -/
theorem locationFrom_joinName {dir name : String} (root : Path) (isDir : Path.IsName dir)
    (isName : Path.IsName name) :
    root.locationFrom ((root.join (.ofString dir)).joinName name) =
      "/".intercalate [dir, name] := by
  have single := Path.areNames_singleton isDir
  rw [Path.ofString_of_isName isDir, Path.joinName_join root single isName,
    BytePath.locationFrom_ofPath,
    Path.placeFrom_join root (single.append (Path.areNames_singleton isName))]
  rfl

theorem flatMap_sourcesIn_eq {α : Type} {f g : SourceFile → List α} {dir : String}
    (same : SameFiles a rootA b rootB dir extensions)
    (h : ∀ name text, Path.IsName name →
      f ⟨(rootA.join (.ofString dir)).joinName name, text⟩
        = g ⟨(rootB.join (.ofString dir)).joinName name, text⟩) :
    (sourcesIn a rootA dir extensions).flatMap f =
      (sourcesIn b rootB dir extensions).flatMap g := by
  rw [List.flatMap_def, List.flatMap_def, map_sourcesIn_eq same h]

theorem routes_eq [PatternReader] {layout : SourceLayout}
    (same : SameFiles a rootA b rootB layout.routes layout.sourceExtensions) :
    routes a rootA layout = routes b rootB layout := by
  refine flatMap_sourcesIn_eq same fun name text isName => ?_
  rw [routesOf, routesOf, Path.stem_joinName _ isName, Path.stem_joinName _ isName]

theorem modules_eq {dir : String} (kind : ModuleKind) (isDir : Path.IsName dir)
    (same : SameFiles a rootA b rootB dir extensions) :
    (sourcesIn a rootA dir extensions).map (moduleOf kind rootA) =
      (sourcesIn b rootB dir extensions).map (moduleOf kind rootB) := by
  refine map_sourcesIn_eq same fun name text isName => ?_
  rw [moduleOf, moduleOf, Path.stem_joinName _ isName, Path.stem_joinName _ isName,
    locationFrom_joinName rootA isDir isName, locationFrom_joinName rootB isDir isName]

theorem middleware_eq {dir : String} (isDir : Path.IsName dir)
    (same : SameFiles a rootA b rootB dir extensions) :
    (sourcesIn a rootA dir extensions).map (middlewareOf rootA) =
      (sourcesIn b rootB dir extensions).map (middlewareOf rootB) := by
  refine map_sourcesIn_eq same fun name text isName => ?_
  rw [middlewareOf, middlewareOf, Path.stem_joinName _ isName, Path.stem_joinName _ isName,
    locationFrom_joinName rootA isDir isName, locationFrom_joinName rootB isDir isName]

/-! ## Single files -/

/-- A file that is read has a text, and what is no file has none. -/
theorem read?_eq_textAt? (disk : Disk) (root : Path) (place : String) :
    (if disk.isFile (root.join (.ofString place)) then read? disk (root.join (.ofString place))
      else none)
      = (textAt? disk root place).map fun text => ⟨root.join (.ofString place), text⟩ := by
  split
  · rfl
  · rename_i notFile
    cases outcome : disk.readText (root.join (.ofString place)) with
    | error fault => simp [textAt?, outcome, Except.toOption]
    | ok text => exact absurd (Disk.isFile_of_readText outcome) notFile

theorem tables_eq {layout : SourceLayout}
    (migrations : SameFiles a rootA b rootB layout.migrations layout.migrationExtensions)
    (setup : textAt? a rootA layout.schemaSetup = textAt? b rootB layout.schemaSetup) :
    tables a rootA layout = tables b rootB layout := by
  have single : ∀ (disk : Disk) (root : Path),
      ((textAt? disk root layout.schemaSetup).map fun text =>
        (⟨root.join (.ofString layout.schemaSetup), text⟩ : SourceFile)).toList.flatMap
          (fun file => Table.namesOf file.text.toList)
        = (textAt? disk root layout.schemaSetup).toList.flatMap
          (fun text => Table.namesOf text.toList) := by
    intro disk root
    cases textAt? disk root layout.schemaSetup <;> rfl
  have created :
      (sourcesIn a rootA layout.migrations layout.migrationExtensions).flatMap
          (fun file => Table.namesOf file.text.toList)
        = (sourcesIn b rootB layout.migrations layout.migrationExtensions).flatMap
          (fun file => Table.namesOf file.text.toList) :=
    flatMap_sourcesIn_eq migrations fun _ _ _ => rfl
  rw [tables, tables, schemaSources, schemaSources, read?_eq_textAt?, read?_eq_textAt?,
    List.flatMap_append, List.flatMap_append, single, single, setup, created]

theorem dependencies_eq_textAt? (disk : Disk) (root : Path) (layout : SourceLayout) :
    dependencies disk root layout =
      ((textAt? disk root layout.manifest).map Manifest.dependenciesOf).getD ∅ := by
  unfold dependencies
  -- What is made of the text is not looked at.
  generalize Manifest.dependenciesOf = ofText
  dsimp only
  rw [read?_eq_textAt?]
  cases textAt? disk root layout.manifest <;> rfl

/-! ## The whole model -/

/-- With the usual layout the model depends on nothing but the sources: neither on the root and
how it is spelled nor on what else is on the disk. -/
theorem model_eq_of_sameSources [PatternReader] (same : SameSources {} a rootA b rootB) :
    model a rootA {} = model b rootB {} := by
  have named : ∀ dir ∈ ["controllers", "middleware", "services"], Path.IsName dir := by decide
  have controllers : modules a rootA {} .controller = modules b rootB {} .controller := by
    rw [modules, modules]
    exact modules_eq .controller (named "controllers" (by simp)) same.controllers
  have services : modules a rootA {} .service = modules b rootB {} .service := by
    rw [modules, modules]
    exact modules_eq .service (named "services" (by simp)) same.services
  have middleware : Survey.middleware a rootA {} = Survey.middleware b rootB {} :=
    middleware_eq (named "middleware" (by simp)) same.middleware
  rw [model, model, routes_eq same.routes, controllers, middleware, services,
    tables_eq same.migrations same.schemaSetup, dependencies_eq_textAt?,
    dependencies_eq_textAt?, same.manifest]

def tidy : Disk where
  entries := [
    (["srv"], .directory),
    (["srv", "routes"], .directory),
    (["srv", "routes", "areaRoutes.js"], .file "router.get('/a', list)".toUTF8),
    (["srv", "controllers"], .directory),
    (["srv", "controllers", "area.js"], .file "export function list() \x7b\x7d".toUTF8)]

/-- The same elsewhere, one file behind a link, among a nested directory, a link that leads nowhere,
a file that is no text and one that is no source. -/
def cluttered : Disk where
  entries := [
    (["home"], .directory),
    (["home", "app"], .directory),
    (["home", "app", "controllers"], .directory),
    (["home", "app", "controllers", "gone.js"], .link ⟨["nowhere"]⟩),
    (["home", "app", "controllers", "bad.js"], .file ⟨#[0xff]⟩),
    (["home", "app", "controllers", "area.js"], .file "export function list() \x7b\x7d".toUTF8),
    (["home", "app", "routes"], .directory),
    (["home", "app", "routes", "old.js"], .directory),
    (["home", "app", "routes", "old.js", "b.js"], .file "router.put('/b', b)".toUTF8),
    (["home", "app", "routes", "areaRoutes.js"], .link ⟨["..", "..", "shared"]⟩),
    (["home", "app", "routes", "notes.md"], .file "router.put('/b', b)".toUTF8),
    (["home", "shared"], .file "router.get('/a', list)".toUTF8)]
  workingDirectory := ["home"]

theorem sameFiles_of_textsIn_eq {dir : String}
    (same : textsIn a (rootA.join (.ofString dir)) extensions
      = textsIn b (rootB.join (.ofString dir)) extensions) :
    SameFiles a rootA b rootB dir extensions := by
  intro name text
  rw [← mem_textsIn_iff, ← mem_textsIn_iff, same]

theorem model_eq_of_sameSources_cluttered :
    SameSources {} tidy ⟨["", "srv"]⟩ cluttered ⟨[".", "app", ""]⟩ ∧
    model tidy ⟨["", "srv"]⟩ {} = model cluttered ⟨[".", "app", ""]⟩ {} ∧
    (model tidy ⟨["", "srv"]⟩ {}).controllers =
      [⟨"area", "controllers/area.js", .ofList ["list"]⟩] := by
  have same : SameSources {} tidy ⟨["", "srv"]⟩ cluttered ⟨[".", "app", ""]⟩ :=
    ⟨sameFiles_of_textsIn_eq (by decide +kernel),
      sameFiles_of_textsIn_eq (by decide +kernel),
      sameFiles_of_textsIn_eq (by decide +kernel),
      sameFiles_of_textsIn_eq (by decide +kernel),
      sameFiles_of_textsIn_eq (by decide +kernel),
      by decide +kernel, by decide +kernel⟩
  exact ⟨same, model_eq_of_sameSources same, by decide +kernel⟩

end Survey

end Scaffold
