import ModuleRunner.Proofs.Locating.Containment
import ModuleRunner.Proofs.Locating.Directory

/-!
# The ids of what is found

What is found at the first place of an id keeps that id.  What is found at the second one, in a
directory, gets an id of which that place is the first.  So a found module is at the first place of its
own id either way, and looking for that id finds it again.

The names of an id are those of its segments that are not empty, while a relative request drops the last
segment, empty or not.  So a request for a name beside a module asks beside its file, unless its id ends
with a slash: then it asks in the directory that has the name of the module.

* `probe`, `locateFile_eq_probe`, `exists_mem_of_probe` — the files that are asked for, one after the other.
* `exists_place_of_locateFile` — what is found is at the first place of its own id.
* `locateFile_id` — looking for the id of what is found.
* `beside`, `siblings_probed` — where a request for a name beside a module leads.
-/

namespace ModuleRunner.Module

open Files (Storage)

/-! ## Asking for files -/

/-- What the first path that leads to a file is read as.  Each path comes with the id of what is found
there. -/
def probe (storage : Storage) (id : String) : List (String × String) →
    Except LoadError (Option Resource)
  | [] => .ok none
  | (path, own) :: rest =>
    match storage.file? path with
    | some octets => (textOf id octets).map fun content => some ⟨own, path, content⟩
    | none => probe storage id rest

/-- Locating an id asks for its two places. -/
lemma locateFile_eq_probe {id : String} {file main : List String}
    (hplaces : places? id = some (file, main)) (storage : Storage) (root : String) :
    locateFile storage root id
      = probe storage id [(pathBelow root file, id), (pathBelow root main, mainId id)] := by
  unfold locateFile
  rw [hplaces]
  dsimp only [probe]
  cases storage.file? (pathBelow root file) with
  | some octets => cases textOf id octets <;> rfl
  | none =>
      cases storage.file? (pathBelow root main) with
      | some octets => cases textOf id octets <;> rfl
      | none => rfl

/-- Whose text is read makes no difference, if it is text. -/
lemma textOf_of_ok {id : String} {octets : List UInt8} {content : String}
    (h : textOf id octets = .ok content) (other : String) : textOf other octets = .ok content := by
  unfold textOf at h ⊢
  cases hdecode : Text.Utf8.decode octets with
  | error fault => simp [hdecode] at h
  | ok text => simpa [hdecode] using h

/-! ## The place of what is found -/

/-- The places of an id in terms of its last name. -/
lemma places?_of_namesOf {id last : String} {parents : List String}
    (h : namesOf id = parents ++ [last]) :
    places? id = some (parents ++ [last ++ ".js"], parents ++ [last] ++ ["main.js"]) := by
  rw [places?, h]
  simp

/-- What is found is read from a file at one of the places, and has the id that comes with that place. -/
lemma exists_mem_of_probe {storage : Storage} {id : String} {places : List (String × String)}
    {resource : Resource} (h : probe storage id places = .ok (some resource)) :
    (resource.origin, resource.id) ∈ places ∧ ∃ octets,
      storage.file? resource.origin = some octets ∧
      textOf resource.id octets = .ok resource.content := by
  induction places with
  | nil => cases h
  | cons place rest ih =>
      obtain ⟨path, own⟩ := place
      unfold probe at h
      cases hfile : storage.file? path with
      | none =>
          rw [hfile] at h
          obtain ⟨hmem, hread⟩ := ih h
          exact ⟨List.mem_cons_of_mem _ hmem, hread⟩
      | some octets =>
          rw [hfile] at h
          dsimp only at h
          cases htext : textOf id octets with
          | error e =>
              rw [htext] at h
              cases h
          | ok content =>
              rw [htext] at h
              cases h
              exact ⟨List.mem_cons_self, octets, hfile, textOf_of_ok htext own⟩

/-- What is found is at the first place of its own id. -/
lemma exists_place_of_locateFile {storage : Storage} {root id : String} {resource : Resource}
    (h : locateFile storage root id = .ok (some resource)) : ∃ parents last octets,
      namesOf resource.id = parents ++ [last] ∧
      resource.origin = pathBelow root (parents ++ [last ++ ".js"]) ∧
      storage.file? resource.origin = some octets ∧
      textOf resource.id octets = .ok resource.content := by
  cases hplaces : places? id with
  | none =>
      unfold locateFile at h
      rw [hplaces] at h
      cases h
  | some places =>
  obtain ⟨file, main⟩ := places
  obtain ⟨parents, last, hnames, rfl, rfl⟩ := places?_eq_some hplaces
  rw [locateFile_eq_probe hplaces] at h
  obtain ⟨hmem, octets, hfile, hcontent⟩ := exists_mem_of_probe h
  rcases List.mem_cons.mp hmem with hfirst | hsecond
  · obtain ⟨horigin, hid⟩ := Prod.mk.inj hfirst
    exact ⟨parents, last, octets, hid ▸ hnames, horigin, hfile, hcontent⟩
  · obtain ⟨horigin, hid⟩ := Prod.mk.inj (List.mem_singleton.mp hsecond)
    exact ⟨namesOf id, "main", octets, hid ▸ namesOf_mainId id, horigin, hfile, hcontent⟩

/-- **Canonical ids.**  Looking for the id of what is found finds the same thing again: the same id, the
same path, the same text. -/
theorem locateFile_canonical {storage : Storage} {root id : String} {resource : Resource}
    (h : locateFile storage root id = .ok (some resource)) :
    locateFile storage root resource.id = .ok (some resource) := by
  obtain ⟨parents, last, octets, hnames, horigin, hfile, hcontent⟩ := exists_place_of_locateFile h
  rw [locateFile_eq_probe (places?_of_namesOf hnames), ← horigin]
  dsimp only [probe]
  rw [hfile]
  dsimp only
  rw [hcontent]
  rfl

/-- A directory of modules below the base, with a main file in it. -/
def packaged : Storage :=
  ⟨[("base", .directory [("pkg", .directory [("main.js", .file [])])])], []⟩

lemma file?_packaged : packaged.file? "base/./pkg.js" = none ∧
    packaged.file? "base/./pkg/main.js" = some [] := by
  have hfile : "base/./pkg.js".contains '\x00' = false := by simp
  have hmain : "base/./pkg/main.js".contains '\x00' = false := by simp
  constructor
  · rw [Storage.file?, Storage.find_eq, hfile]
    decide +kernel
  · rw [Storage.file?, Storage.find_eq, hmain]
    decide +kernel

/-- The slashes behind the name of a directory are not in the id of its main file; those in front, and
the dot, are. -/
theorem locateFile_canonical_main :
    locateFile packaged "base" "/./pkg//"
      = .ok (some ⟨"/./pkg/main", "base/./pkg/main.js", ""⟩) ∧
    locateFile packaged "base" "/./pkg/main"
      = .ok (some ⟨"/./pkg/main", "base/./pkg/main.js", ""⟩) := by
  have hplaces : places? "/./pkg//" = some ([".", "pkg.js"], [".", "pkg", "main.js"]) := by
    decide +kernel
  have hfile : pathBelow "base" [".", "pkg.js"] = "base/./pkg.js" := by decide +kernel
  have hmain : pathBelow "base" [".", "pkg", "main.js"] = "base/./pkg/main.js" := by decide +kernel
  have hid : mainId "/./pkg//" = "/./pkg/main" := by decide +kernel
  have hfound : locateFile packaged "base" "/./pkg//"
      = .ok (some ⟨"/./pkg/main", "base/./pkg/main.js", ""⟩) := by
    rw [locateFile_eq_probe hplaces, hfile, hmain, hid]
    dsimp only [probe]
    rw [file?_packaged.1, file?_packaged.2]
    rfl
  exact ⟨hfound, locateFile_canonical hfound⟩

/-! ## Names beside a module -/

/-- What is left of a path or of an id without its last name, with something else in place of that. -/
def beside (path more : String) : String :=
  String.ofList (joinSegments ((segmentsOf path.toList).dropLast ++ [more.toList]))

lemma joinSegments_concat (last : List Char) : ∀ {segments : List (List Char)}, segments ≠ [] →
    joinSegments (segments ++ [last]) = joinSegments segments ++ '/' :: last
  | [], hne => absurd rfl hne
  | [segment], _ => by simp [joinSegments, List.intercalate]
  | segment :: next :: rest, _ => by
      have ih := joinSegments_concat last (List.cons_ne_nil next rest)
      rw [List.cons_append, joinSegments_cons (by simp), ih, joinSegments_cons (List.cons_ne_nil _ _),
        List.append_assoc, List.cons_append]

/-- A path with a name behind it is segments, the last of which is the name. -/
lemma exists_joinPath (path : String) : ∃ segments : List (List Char),
    (∀ segment ∈ segments, '/' ∉ segment) ∧
    ∀ more, joinPath path more = String.ofList (joinSegments (segments ++ [more.toList])) := by
  have hslash (cs : List Char) : ∀ segment ∈ segmentsOf cs, '/' ∉ segment := fun _ hmem =>
    slashless_of_mem_segmentsOf hmem
  have hconcat (cs : List Char) (more : String) :
      joinSegments (segmentsOf cs ++ [more.toList]) = cs ++ '/' :: more.toList := by
    rw [joinSegments_concat _ (segmentsOf_ne_nil cs), joinSegments_segmentsOf]
  by_cases hempty : path.isEmpty = true
  · refine ⟨[], by simp, fun more => ?_⟩
    rw [joinPath, if_pos hempty]
    simp [joinSegments, List.intercalate]
  by_cases hend : path.endsWith "/" = true
  · obtain ⟨left, hleft⟩ := (endsWith_slash_iff path).mp hend
    refine ⟨segmentsOf left, hslash left, fun more => String.toList_inj.mp ?_⟩
    rw [joinPath, if_neg hempty, if_pos hend, hconcat, String.toList_append, String.toList_ofList,
      ← hleft, List.append_assoc, List.singleton_append]
  · refine ⟨segmentsOf path.toList, hslash path.toList, fun more => String.toList_inj.mp ?_⟩
    rw [joinPath, if_neg hempty, if_neg hend, hconcat, String.toList_ofList]
    simp

lemma beside_joinPath (path : String) {name : String} (hname : IsName name) (more : String) :
    beside (joinPath path name) more = joinPath path more := by
  obtain ⟨segments, hslash, hjoin⟩ := exists_joinPath path
  have hall : ∀ segment ∈ segments ++ [name.toList], '/' ∉ segment := by
    intro segment hmem
    rcases List.mem_append.mp hmem with hmem | hmem
    · exact hslash segment hmem
    · rw [List.mem_singleton.mp hmem]
      exact fun hc => hname.2 '/' hc rfl
  rw [beside, hjoin name, String.toList_ofList, segmentsOf_joinSegments (by simp) hall,
    List.dropLast_concat, ← hjoin more]

lemma joinPath_append (path left right : String) :
    joinPath path (left ++ right) = joinPath path left ++ right := by
  unfold joinPath
  split
  · rfl
  · split <;> simp [String.append_assoc]

/-- Behind a name, more goes with a slash. -/
lemma joinPath_joinPath (path : String) {name : String} (hname : IsName name) (more : String) :
    joinPath (joinPath path name) more = joinPath path name ++ "/" ++ more := by
  obtain ⟨first, last, hlast⟩ := (List.eq_nil_or_concat' name.toList).resolve_left fun hnil =>
    hname.1 (String.toList_inj.mp hnil)
  have hne : last ≠ '/' := hname.2 last (by rw [hlast]; simp)
  have htext : (joinPath path name).toList = (joinPath path "").toList ++ first ++ [last] := by
    rw [List.append_assoc, ← hlast, ← String.toList_append, ← joinPath_append, String.empty_append]
  have hempty : ¬ (joinPath path name).isEmpty = true := by
    rw [String.isEmpty_iff, ← String.toList_inj, htext]
    simp
  have hend : ¬ (joinPath path name).endsWith "/" = true := by
    rw [endsWith_slash_iff, htext]
    rintro ⟨before, hbefore⟩
    have hsame := (List.append_inj' hbefore rfl).2
    exact hne (List.singleton_inj.mp hsame).symm
  rw [joinPath, if_neg hempty, if_neg hend]

lemma pathBelow_concat (root : String) (names : List String) (last : String) :
    pathBelow root (names ++ [last]) = joinPath (pathBelow root names) last := by
  rw [pathBelow, List.foldl_append]
  rfl

/-- An empty segment at the end names nothing. -/
lemma segmentNames_take {segments : List (List Char)} {n : Nat} (hend : segments.length ≤ n + 1)
    (hhole : segments[n]? = some []) : segmentNames (segments.take n) = segmentNames segments := by
  obtain ⟨hlast, hempty⟩ := List.getElem?_eq_some_iff.mp hhole
  have hdrop : segments.drop n = [[]] := by
    rw [List.drop_eq_getElem_cons hlast, hempty, List.drop_of_length_le hend]
  have hsplit := segmentNames_append (segments.take n) (segments.drop n)
  rw [List.take_append_drop, hdrop] at hsplit
  rw [hsplit]
  exact (List.append_nil _).symm

/-- The names of a request for a name beside a module: those of the module's id without its last
segment, and the name. -/
lemma namesOf_resolve_dot {name : String} (hname : IsPlain name.toList) (id : String) :
    namesOf (resolve ("./" ++ name) id) = segmentNames (segmentsOf id.toList).dropLast ++ [name] := by
  obtain ⟨hdot, hsegments⟩ := segmentsOf_dot name
  have hone : segmentsOf name.toList = [name.toList] :=
    Text.splitAt_of_forall_not ((slashless_iff name.toList).mp hname.slashless)
  have hend : (segmentsOf id.toList).dropLast.length
      ≤ (segmentsOf id.toList).dropLast.length - 1 + 1 := by omega
  obtain ⟨kept, hle, hstep, hwhere⟩ := Walk.step_on hend (Walk.isDots_of_isPlain hname)
  have hslash : ∀ segment ∈ (segmentsOf id.toList).dropLast.take kept ++ [name.toList],
      ∀ c ∈ segment, decide (c = '/') = false := by
    intro segment hmem
    rw [← slashless_iff]
    rcases List.mem_append.mp hmem with hmem | hmem
    · exact slashless_of_mem_segmentsOf (List.dropLast_subset _ (List.mem_of_mem_take hmem))
    · rw [List.mem_singleton.mp hmem]
      exact hname.slashless
  have hnames : segmentNames ((segmentsOf id.toList).dropLast.take kept)
      = segmentNames (segmentsOf id.toList).dropLast := by
    rcases hwhere with ⟨hhole, rfl⟩ | ⟨-, rfl⟩
    · exact segmentNames_take hend hhole
    · rw [List.take_length]
  rw [resolve_of_isRelative hdot, hsegments, hone, List.foldl_cons, List.foldl_cons, List.foldl_nil,
    Walk.step_ofBase_dot, hstep, namesOf_joinSegments hslash, segmentNames_append, hnames]
  simp [segmentNames, hname.ne_nil]

/-- Of an id that ends with a slash, only an empty segment comes behind the last name. -/
lemma segmentNames_dropLast_of_slash {id : String} (h : id.endsWith "/" = true) :
    segmentNames (segmentsOf id.toList).dropLast = namesOf id := by
  obtain ⟨left, hleft⟩ := (endsWith_slash_iff id).mp h
  have hsegments : segmentsOf id.toList = segmentsOf left ++ [[]] := by
    rw [← hleft]
    exact segmentsOf_append_slash left []
  have hnames : namesOf id = segmentNames (segmentsOf left ++ [[]]) := by
    rw [← hsegments]
    rfl
  rw [hnames, hsegments, List.dropLast_concat, segmentNames_append]
  exact (List.append_nil _).symm

/-- The last segment of any other id is its last name. -/
lemma segmentNames_dropLast {id last : String} {parents : List String} (h : id.endsWith "/" = false)
    (hnames : namesOf id = parents ++ [last]) :
    segmentNames (segmentsOf id.toList).dropLast = parents := by
  obtain ⟨first, segment, hsegments⟩ :=
    (List.eq_nil_or_concat' (segmentsOf id.toList)).resolve_left (segmentsOf_ne_nil _)
  have hsplit : namesOf id = segmentNames first ++ segmentNames [segment] := by
    rw [← segmentNames_append, ← hsegments]
    rfl
  have hsegment : segment ≠ [] := by
    rintro rfl
    cases first with
    | nil =>
        rw [hnames] at hsplit
        simp [segmentNames] at hsplit
    | cons next rest =>
        have htext := joinSegments_segmentsOf id.toList
        rw [hsegments, joinSegments_concat [] (List.cons_ne_nil next rest)] at htext
        rw [Bool.eq_false_iff, Ne, endsWith_slash_iff] at h
        exact h ⟨_, htext⟩
  have hone : segmentNames [segment] = [String.ofList segment] := by simp [segmentNames, hsegment]
  rw [hnames, hone] at hsplit
  rw [hsegments, List.dropLast_concat]
  exact (List.append_inj' hsplit rfl).1.symm

lemma isName_of_isPlain {name : String} (h : IsPlain name.toList) : IsName name := by
  refine ⟨fun hempty => h.ne_nil (by simp [hempty]), fun c hc => ?_⟩
  rintro rfl
  exact h.slashless hc

/-- A request for a name beside a module asks for two files in the directory that the module's id names
without its last segment. -/
lemma locateFile_resolve_dot {id name : String} {directory : List String}
    (hname : IsPlain name.toList) (hid : segmentNames (segmentsOf id.toList).dropLast = directory)
    (storage : Storage) (root : String) :
    locateFile storage root (resolve ("./" ++ name) id) = probe storage (resolve ("./" ++ name) id)
      [(joinPath (pathBelow root directory) (name ++ ".js"), resolve ("./" ++ name) id),
        (joinPath (pathBelow root directory) (name ++ "/main.js"),
          mainId (resolve ("./" ++ name) id))] := by
  have hnames : namesOf (resolve ("./" ++ name) id) = directory ++ [name] := by
    rw [namesOf_resolve_dot hname, hid]
  have hmain : pathBelow root (directory ++ [name] ++ ["main.js"])
      = joinPath (pathBelow root directory) (name ++ "/main.js") := by
    rw [pathBelow_concat, pathBelow_concat, joinPath_joinPath _ (isName_of_isPlain hname),
      joinPath_append, String.append_assoc]
    rfl
  rw [locateFile_eq_probe (places?_of_namesOf hnames), pathBelow_concat, hmain]

/-- The id of a main file ends with its name. -/
lemma endsWith_mainId (id : String) : (mainId id).endsWith "/" = false := by
  rw [Bool.eq_false_iff, Ne, endsWith_slash_iff, mainId, String.toList_append]
  rintro ⟨before, hbefore⟩
  have hmain : "/main".toList = "/mai".toList ++ ['n'] := by decide
  rw [hmain, ← List.append_assoc] at hbefore
  exact absurd (List.append_inj' hbefore rfl).2 (by decide)

/-- **Names beside a module.**  A request for a name beside a module that was found asks for the file of
that name beside the module's file, and then for the main file in the directory of that name beside
it.  It is not so where the id of the module ends with a slash, which no main file's does: then the
request asks for both in the directory that has the name of the module's file. -/
theorem siblings_probed {storage : Storage} {root id : String} {resource : Resource}
    (hfound : locateFile storage root id = .ok (some resource)) {name : String}
    (hname : IsPlain name.toList) :
    (resource.id.endsWith "/" = false → ∀ later : Storage,
      locateFile later root (resolve ("./" ++ name) resource.id)
        = probe later (resolve ("./" ++ name) resource.id)
          [(beside resource.origin (name ++ ".js"), resolve ("./" ++ name) resource.id),
            (beside resource.origin (name ++ "/main.js"),
              mainId (resolve ("./" ++ name) resource.id))]) ∧
    (resource.id.endsWith "/" = true → resource.id = id ∧ ∃ stem, resource.origin = stem ++ ".js" ∧
      ∀ later : Storage, locateFile later root (resolve ("./" ++ name) resource.id)
        = probe later (resolve ("./" ++ name) resource.id)
          [(stem ++ "/" ++ (name ++ ".js"), resolve ("./" ++ name) resource.id),
            (stem ++ "/" ++ (name ++ "/main.js"),
              mainId (resolve ("./" ++ name) resource.id))]) := by
  obtain ⟨parents, last, octets, hnames, horigin, -, -⟩ := exists_place_of_locateFile hfound
  have hmem : last ∈ namesOf resource.id := by
    rw [hnames]
    simp
  have hlast : IsName last := isName_of_mem_namesOf hmem
  rw [pathBelow_concat] at horigin
  constructor
  · intro hslash later
    rw [locateFile_resolve_dot hname (segmentNames_dropLast hslash hnames), horigin,
      beside_joinPath _ (isName_append hlast isName_js),
      beside_joinPath _ (isName_append hlast isName_js)]
  · intro hslash
    have hid : resource.id = id := by
      rcases id_of_locateFile hfound with hid | hid
      · exact hid
      · rw [hid, endsWith_mainId] at hslash
        cases hslash
    have hdirectory : segmentNames (segmentsOf resource.id.toList).dropLast = parents ++ [last] := by
      rw [segmentNames_dropLast_of_slash hslash, hnames]
    refine ⟨hid, joinPath (pathBelow root parents) last, ?_, fun later => ?_⟩
    · rw [horigin, joinPath_append]
    · rw [locateFile_resolve_dot hname hdirectory, pathBelow_concat, joinPath_joinPath _ hlast,
        joinPath_joinPath _ hlast]

/-- Two modules side by side. -/
def neighbours : Storage :=
  ⟨[("base", .directory [("pkg.js", .file []), ("helper.js", .file [])])], []⟩

lemma file?_neighbours : neighbours.file? "base/pkg.js" = some [] ∧
    neighbours.file? "base/helper.js" = some [] ∧
    neighbours.file? "base/pkg/helper.js" = none ∧
    neighbours.file? "base/pkg/helper/main.js" = none := by
  have hpkg : "base/pkg.js".contains '\x00' = false := by simp
  have hhelper : "base/helper.js".contains '\x00' = false := by simp
  have hinner : "base/pkg/helper.js".contains '\x00' = false := by simp
  have hmain : "base/pkg/helper/main.js".contains '\x00' = false := by simp
  refine ⟨?_, ?_, ?_, ?_⟩
  · rw [Storage.file?, Storage.find_eq, hpkg]
    decide +kernel
  · rw [Storage.file?, Storage.find_eq, hhelper]
    decide +kernel
  · rw [Storage.file?, Storage.find_eq, hinner]
    decide +kernel
  · rw [Storage.file?, Storage.find_eq, hmain]
    decide +kernel

/-- The same module finds its neighbour under its plain id, and does not find it under the id with a
slash behind it. -/
theorem siblings_probed_slash :
    IsPlain "helper".toList ∧
    locateFile neighbours "base" "pkg" = .ok (some ⟨"pkg", "base/pkg.js", ""⟩) ∧
    locateFile neighbours "base" (resolve "./helper" "pkg")
      = .ok (some ⟨"helper", "base/helper.js", ""⟩) ∧
    locateFile neighbours "base" "pkg/" = .ok (some ⟨"pkg/", "base/pkg.js", ""⟩) ∧
    locateFile neighbours "base" (resolve "./helper" "pkg/") = .ok none := by
  obtain ⟨hpkg, hhelper, hinner, hmain⟩ := file?_neighbours
  have hplain : IsPlain "helper".toList := ⟨by decide, by decide, by decide, by decide⟩
  have hfound (id : String) (hplaces : places? id = some (["pkg.js"], ["pkg", "main.js"])) :
      locateFile neighbours "base" id = .ok (some ⟨id, "base/pkg.js", ""⟩) := by
    have hpath : pathBelow "base" ["pkg.js"] = "base/pkg.js" := by decide +kernel
    rw [locateFile_eq_probe hplaces, hpath]
    dsimp only [probe]
    rw [hpkg]
    rfl
  have hbare := hfound "pkg" (by decide +kernel)
  have hslash := hfound "pkg/" (by decide +kernel)
  have hrequest : "./" ++ "helper" = "./helper" := by decide +kernel
  have hbeside := (siblings_probed hbare hplain).1 (by decide +kernel) neighbours
  have hsibling : beside "base/pkg.js" ("helper" ++ ".js") = "base/helper.js" := by decide +kernel
  have hid : resolve "./helper" "pkg" = "helper" := by decide +kernel
  obtain ⟨-, stem, hstem, hwithin⟩ := (siblings_probed hslash hplain).2 (by decide +kernel)
  have hpath : "base/pkg" ++ ".js" = "base/pkg.js" := by decide +kernel
  obtain rfl : stem = "base/pkg" := String.append_left_inj ".js" |>.mp (hpath.trans hstem).symm
  have hinside := hwithin neighbours
  rw [hrequest, hid] at hbeside
  rw [hrequest] at hinside
  refine ⟨hplain, hbare, ?_, hslash, ?_⟩
  · rw [hid, hbeside]
    dsimp only [probe]
    rw [hsibling, hhelper]
    rfl
  · have hfile : "base/pkg" ++ "/" ++ ("helper" ++ ".js") = "base/pkg/helper.js" := by decide +kernel
    have hdirectory : "base/pkg" ++ "/" ++ ("helper" ++ "/main.js") = "base/pkg/helper/main.js" := by
      decide +kernel
    rw [hinside, hfile, hdirectory]
    dsimp only [probe]
    rw [hinner, hmain]

end ModuleRunner.Module
