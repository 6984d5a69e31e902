import Mathlib.Data.List.Nodup
import Scaffold.Pattern.Reader
import Scaffold.Proofs.Disk.Reaching
import Scaffold.Proofs.Source.Entries

/-!
# New files

A file comes to a directory, at a name that was free. The paths that led to other files still lead
there, and those that lead to other files now did so before. What is seen anew is the file under its
own name, and under the names of links that lead to it. Without such links a survey has one more
source, and the routes of the other sources are what they were.
-/

namespace Scaffold

namespace Disk

variable {disk : Disk} {p dir : Path} {loc target : Location} {name : String} {node : Node}
  {bytes : ByteArray}

/-- A name in a directory leads to what is there, unless that is a link. -/
theorem place_of_joinName (reaches : Reaches disk dir target) (isName : Path.IsName name)
    (leads : disk.nodeAt? true (dir.joinName name) = .ok (loc, node)) :
    loc = target ++ [name] ∨ ∃ path, disk.node? (target ++ [name]) = some (.link path) := by
  obtain ⟨start, segments, left, started, before⟩ := reaches
  have areSolid := (Path.areNames_singleton isName).solid
  rw [Path.joinName, Path.ofString_of_isName isName] at leads
  have startedToo := start_append (Path.isAbsolute_join dir areSolid).symm
    (Path.solid_join dir areSolid) started
  obtain ⟨-, _, _, started', walked⟩ := locate_eq_ok_iff.mp (locate_of_nodeAt? leads)
  cases startedToo.symm.trans started'
  obtain ⟨left', other, slash, before', -, behind⟩ :=
    leads_of_walk walked (.inl (List.cons_ne_nil name []))
  obtain rfl := before.unique before'
  by_cases long : nameLimit < name.utf8ByteSize
  · cases (walk_long isName.notHere isName.notUp long).symm.trans behind
  rw [walk_entry ⟨isName.notHere, isName.notUp, Nat.le_of_not_lt long⟩] at behind
  split at behind
  · cases behind
  · rw [walk_nil] at behind
    cases behind
    exact .inl rfl
  · split at behind <;> cases behind
    exact .inl rfl
  · rename_i path isLink
    exact .inr ⟨path, isLink⟩

/-- A file for a directory, with a name that is free there. -/
structure NewFile (disk : Disk) (dir : Path) where
  home : Location
  name : String
  bytes : ByteArray
  isName : Path.IsName name
  directory : disk.nodeAt? true dir = .ok (home, .directory)
  free : disk.node? (home ++ [name]) = none

namespace NewFile

variable (new : NewFile disk dir)

def place : Location := new.home ++ [new.name]

def after : Disk := disk.set new.place (.file new.bytes)

/-- No link in the directory leads to the file. -/
def IsApart : Prop := ∀ other target, disk.node? (new.home ++ [other]) = some (.link target) →
  ∀ node, new.after.nodeAt? true (dir.joinName other) ≠ .ok (new.place, node)

theorem node?_after (x : Location) :
    new.after.node? x = if x = new.place then some (.file new.bytes) else disk.node? x :=
  node?_set (List.append_ne_nil_of_right_ne_nil _ (List.cons_ne_nil _ _))

theorem node?_place : new.after.node? new.place = some (.file new.bytes) := by
  rw [new.node?_after, if_pos rfl]

theorem node?_of_ne {x : Location} (h : x ≠ new.place) : new.after.node? x = disk.node? x := by
  rw [new.node?_after, if_neg h]

theorem keepsWays : KeepsWays disk new.after := keepsWays_set (.inl new.free)

theorem keepsWays_before : KeepsWays new.after disk := by
  have old : ∀ x node, new.after.node? x = some node → (∀ bytes, node ≠ .file bytes) →
      disk.node? x = some node := by
    intro x node there noFile
    rw [new.node?_after] at there
    split at there
    · cases there
      exact absurd rfl (noFile new.bytes)
    · exact there
  refine ⟨rfl, rfl, fun x there => ?_, fun x target there => ?_⟩
  · exact old x _ there fun _ same => by cases same
  · exact old x _ there fun _ same => by cases same

theorem nodeAt?_file_iff (other : loc ≠ new.place) :
    new.after.nodeAt? true p = .ok (loc, .file bytes) ↔
      disk.nodeAt? true p = .ok (loc, .file bytes) :=
  ⟨fun leads => nodeAt?_file_of_keepsWays new.keepsWays_before leads
      ((new.node?_of_ne other).symm.trans (node?_of_nodeAt?_file leads)),
    fun leads => nodeAt?_file_of_keepsWays new.keepsWays leads
      ((new.node?_of_ne other).trans (node?_of_nodeAt?_file leads))⟩

/-- Before the file came nothing led to its place. -/
theorem ne_place (leads : disk.nodeAt? true p = .ok (loc, .file bytes)) : loc ≠ new.place := by
  rintro rfl
  cases new.free.symm.trans (node?_of_nodeAt?_file leads)

theorem home_after : new.after.nodeAt? true dir = .ok (new.home, .directory) :=
  nodeAt?_directory new.keepsWays new.directory

theorem mem_list_iff : name ∈ disk.list dir ↔ name ∈ new.after.list dir ∧ name ≠ new.name := by
  have place : new.home ++ [name] = new.place ↔ name = new.name := by simp [NewFile.place]
  rw [Disk.mem_list_iff, Disk.mem_list_iff]
  constructor
  · rintro ⟨isName, loc, leads, present⟩
    cases new.directory.symm.trans leads
    have other : new.home ++ [name] ≠ new.place := by
      intro same
      rw [same] at present
      rw [show disk.node? new.place = none from new.free] at present
      cases present
    exact ⟨⟨isName, new.home, new.home_after, (new.node?_of_ne other).symm ▸ present⟩,
      fun same => other (place.mpr same)⟩
  · rintro ⟨⟨isName, loc, leads, present⟩, other⟩
    cases new.home_after.symm.trans leads
    rw [new.node?_of_ne fun same => other (place.mp same)] at present
    exact ⟨isName, new.home, new.directory, present⟩

/-- Under another name in the directory, no path leads to the file. -/
theorem ne_place_after {new : NewFile disk dir} (apart : new.IsApart) (isName : Path.IsName name)
    (other : name ≠ new.name)
    (leads : new.after.nodeAt? true (dir.joinName name) = .ok (loc, node)) : loc ≠ new.place := by
  have reaches := (nodeAt?_eq_directory_iff.mp new.home_after).2
  have elsewhere : new.home ++ [name] ≠ new.place := by simpa [NewFile.place] using other
  rintro rfl
  rcases place_of_joinName reaches isName leads with here | ⟨path, isLink⟩
  · exact elsewhere here.symm
  · rw [new.node?_of_ne elsewhere] at isLink
    exact apart name path isLink node leads

end NewFile

end Disk

namespace Survey

open Disk

variable {disk : Disk} {dir : Path} {extensions : List String} {name text other : String}
  {new : NewFile disk dir}

/-! ## The sources -/

theorem holds_iff : Holds disk dir extensions name text ↔
    name ∈ disk.list dir ∧ (∃ e ∈ extensions, (Path.ofString name).extension? = some e) ∧
      ∃ loc bytes, disk.nodeAt? true (dir.joinName name) = .ok (loc, .file bytes) ∧
        String.fromUTF8? bytes = some text := by
  constructor
  · rintro ⟨listed, extension, -, readable⟩
    exact ⟨listed, extension, readText_eq_ok_iff.mp readable⟩
  · rintro ⟨listed, extension, loc, bytes, leads, decoded⟩
    exact ⟨listed, extension, isFile_of_nodeAt? leads,
      readText_eq_ok_iff.mpr ⟨loc, bytes, leads, decoded⟩⟩

/-- The files that counted are those that count now under other names than that of the new file. -/
theorem holds_iff_after (apart : new.IsApart) :
    Holds disk dir extensions name text ↔
      Holds new.after dir extensions name text ∧ name ≠ new.name := by
  rw [holds_iff, holds_iff, new.mem_list_iff]
  constructor
  · rintro ⟨⟨listed, other⟩, extension, loc, bytes, leads, decoded⟩
    exact ⟨⟨listed, extension, loc, bytes, (new.nodeAt?_file_iff (new.ne_place leads)).mpr leads,
      decoded⟩, other⟩
  · rintro ⟨⟨listed, extension, loc, bytes, leads, decoded⟩, other⟩
    have elsewhere := NewFile.ne_place_after apart (isName_of_mem_list listed) other leads
    exact ⟨⟨listed, other⟩, extension, loc, bytes, (new.nodeAt?_file_iff elsewhere).mp leads,
      decoded⟩

/-- The new file has a place among the sources, and the others stand around it as they did. -/
theorem textsIn_after (apart : new.IsApart)
    (counts : Holds new.after dir extensions new.name text) : ∃ earlier later,
      textsIn new.after dir extensions = earlier ++ (new.name, text) :: later ∧
        textsIn disk dir extensions = earlier ++ later := by
  obtain ⟨earlier, later, all⟩ :=
    List.append_of_mem ((mem_textsIn_iff new.after dir extensions new.name text).mpr counts)
  have increasing := pairwise_textsIn new.after dir extensions
  rw [all] at increasing
  have others : (earlier ++ later).Sublist (earlier ++ (new.name, text) :: later) :=
    (List.sublist_cons_self _ _).append_left earlier
  have absent := (List.nodup_cons.mp (List.nodup_middle.mp (nodup_of_increasing increasing))).1
  refine ⟨earlier, later, all, eq_of_increasing (pairwise_textsIn disk dir extensions)
    (increasing.sublist others) fun (n, t) => ?_⟩
  rw [mem_textsIn_iff, holds_iff_after apart, ← mem_textsIn_iff, all]
  constructor
  · rintro ⟨mem, other⟩
    rcases List.mem_append.mp mem with mem | mem
    · exact List.mem_append_left _ mem
    · rcases List.mem_cons.mp mem with same | mem
      · exact absurd (congrArg Prod.fst same) other
      · exact List.mem_append_right _ mem
  · intro mem
    refine ⟨others.subset mem, ?_⟩
    rintro rfl
    -- a text under this name is the one that was read
    have read := ((mem_textsIn_iff new.after dir extensions new.name t).mp
      (all ▸ others.subset mem)).readable
    cases counts.readable.symm.trans read
    exact absent mem

/-! ## The routes -/

def routesOfSource [PatternReader] (layout : SourceLayout) (source : Source) : List Route :=
  Route.ofText (Idiom.all layout.extraRoutePatterns)
    (Route.controllerOf source.stem layout.routeSuffix layout.controllerSuffix) source.text.toList

theorem routes_eq_flatMap [PatternReader] (disk : Disk) (root : Path)
    (layout : SourceLayout) :
    routes disk root layout =
      ((textsIn disk (root.join (.ofString layout.routes)) layout.sourceExtensions).map
        sourceOf).flatMap (routesOfSource layout) := by
  rw [routes, sourcesIn_eq, List.flatMap_map, List.flatMap_map, List.flatMap_def, List.flatMap_def]
  refine congrArg List.flatten (List.map_congr_left fun entry mem => ?_)
  rw [routesOf, Path.stem_joinName _ (isName_of_mem_textsIn mem)]
  rfl

/-- A new route file brings its own routes, in its place in the order of the names. -/
theorem routes_newFile [PatternReader] {root : Path} {layout : SourceLayout} {stem e : String}
    (new : NewFile disk (root.join (.ofString layout.routes))) (apart : new.IsApart)
    (some : stem ≠ "") (known : e ∈ layout.sourceExtensions)
    (noDots : '.' ∉ e.toList) (spelled : new.name = stem ++ "." ++ e)
    (readable : new.after.readText ((root.join (.ofString layout.routes)).joinName new.name)
      = .ok text) :
    ∃ earlier later,
      AreSources disk (root.join (.ofString layout.routes)) layout.sourceExtensions
        (earlier ++ later) ∧
      AreSources new.after (root.join (.ofString layout.routes)) layout.sourceExtensions
        (earlier ++ ⟨new.name, stem, text⟩ :: later) ∧
      routes disk root layout =
        earlier.flatMap (routesOfSource layout) ++ later.flatMap (routesOfSource layout) ∧
      routes new.after root layout =
        earlier.flatMap (routesOfSource layout) ++ routesOfSource layout ⟨new.name, stem, text⟩ ++
          later.flatMap (routesOfSource layout) := by
  have split := Path.splitName_eq_some_iff.mpr ⟨spelled, some, noDots⟩
  have listed : new.name ∈ new.after.list (root.join (.ofString layout.routes)) :=
    Disk.mem_list_iff.mpr ⟨new.isName, new.home, new.home_after, new.node?_place ▸ rfl⟩
  have extension : (Path.ofString new.name).extension? = Option.some e := by
    rw [Path.extension?_ofString new.isName, split]
  have counts : Holds new.after _ layout.sourceExtensions new.name text :=
    ⟨listed, ⟨e, known, extension⟩, isFile_of_readText readable, readable⟩
  -- The texts around the new one are those from before, so are the routes that come of them.
  obtain ⟨earlier, later, all, others⟩ := textsIn_after apart counts
  have source : sourceOf (new.name, text) = ⟨new.name, stem, text⟩ := by rw [sourceOf, split]
  have before := areSources_textsIn disk (root.join (.ofString layout.routes))
    layout.sourceExtensions
  have behind := areSources_textsIn new.after (root.join (.ofString layout.routes))
    layout.sourceExtensions
  have was := routes_eq_flatMap disk root layout
  have is := routes_eq_flatMap new.after root layout
  rw [others, List.map_append] at before was
  rw [all, List.map_append, List.map_cons, source] at behind is
  refine ⟨_, _, before, behind, ?_, ?_⟩
  · rw [was, List.flatMap_append]
  · rw [is, List.flatMap_append, List.flatMap_cons, List.append_assoc]

/-- Two route files, one of them through a link, and a link that leads nowhere. -/
def counter : Disk where
  entries := [
    (["app"], .directory),
    (["app", "routes"], .directory),
    (["app", "routes", "aRoutes.js"], .file "router.get('/a', list)".toUTF8),
    (["app", "routes", "cRoutes.js"], .link ⟨["..", "shared"]⟩),
    (["app", "routes", "gone.js"], .link ⟨["nowhere"]⟩),
    (["app", "shared"], .file "preHandler: [auth] router.put('/c', save)".toUTF8)]

/-- A route file whose name comes between those of the other two. -/
def arrival : NewFile counter ((Path.mk ["", "app"]).join (.ofString "routes")) where
  home := ["app", "routes"]
  name := "bRoutes.js"
  bytes := "router.post('/b', add) preHandler: [admin]".toUTF8
  isName := by decide
  directory := by rfl
  free := by rfl

theorem isApart_arrival : arrival.IsApart := by
  intro other target isLink node leads
  have listed : (["app", "routes", other], Node.link target) ∈ counter.entries := by
    obtain ⟨before, behind, entries, -⟩ := List.lookup_eq_some_iff.mp isLink
    rw [entries]
    exact List.mem_append_right _ List.mem_cons_self
  simp only [counter, List.mem_cons, Prod.mk.injEq, reduceCtorEq, and_false, false_or,
    List.not_mem_nil, or_false, List.cons.injEq, and_true, true_and] at listed
  have found : (arrival.after.nodeAt? true (((Path.mk ["", "app"]).join
      (.ofString "routes")).joinName other)).toOption.map Prod.fst = some arrival.place :=
    congrArg (fun found => found.toOption.map Prod.fst) leads
  rcases listed with ⟨rfl, -⟩ | ⟨rfl, -⟩
  · exact absurd found (by decide)
  · exact absurd found (by decide)

theorem routes_newFile_arrival :
    arrival.IsApart ∧
    (∃ earlier later : List Source,
      routes counter ⟨["", "app"]⟩ {} = earlier.flatMap (routesOfSource {}) ++
        later.flatMap (routesOfSource {}) ∧
      routes arrival.after ⟨["", "app"]⟩ {} = earlier.flatMap (routesOfSource {}) ++
        routesOfSource {} ⟨"bRoutes.js", "bRoutes", "router.post('/b', add) preHandler: [admin]"⟩ ++
          later.flatMap (routesOfSource {})) ∧
    routes counter ⟨["", "app"]⟩ {} = [
      ⟨.get, "/a", "list", [], "aController"⟩, ⟨.put, "/c", "save", ["auth"], "cController"⟩] ∧
    routes arrival.after ⟨["", "app"]⟩ {} = [
      ⟨.get, "/a", "list", [], "aController"⟩, ⟨.post, "/b", "add", ["admin"], "bController"⟩,
      ⟨.put, "/c", "save", ["auth"], "cController"⟩] := by
  obtain ⟨earlier, later, -, -, before, behind⟩ := @routes_newFile counter
    "router.post('/b', add) preHandler: [admin]" _ ⟨["", "app"]⟩ {} "bRoutes" "js" arrival
    isApart_arrival (by decide) (by decide) (by decide) (by decide) (by rfl)
  exact ⟨isApart_arrival, ⟨earlier, later, before, behind⟩, by decide +kernel,
    by decide +kernel⟩

end Survey

end Scaffold
