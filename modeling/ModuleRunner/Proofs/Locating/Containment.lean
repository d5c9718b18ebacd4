import ModuleRunner.Module.Locator
import ModuleRunner.Proofs.Files.Walk
import ModuleRunner.Proofs.Locating.Resolution

/-!
# Ids that stay below the base directory

The two places of an id are its names with an ending, and the walk over them starts in the base
directory.  Of the segments of an id only the empty ones are left out, so the places stay below the
base exactly if the names do.  Then nothing outside of the base directory can be told from what the
locator answers.

Relative requests cannot do what an id can: two dots drop the segments that the walk has reached, and
at the first one they drop nothing.

* `place_pathBelow` — the walk over a path below a directory.
* `staysBelow_places_iff` — when the places of an id stay below.
* `locateFile_eq_of_staysBelow` — nothing outside shows.
* `staysBelow_resolve` — relative requests.
-/

namespace ModuleRunner.Module

open Files (Storage Place Node StaysBelow)

/-! ## Paths below a directory -/

/-- A name that a path can be continued with. -/
def IsName (name : String) : Prop := name ≠ "" ∧ ∀ c ∈ name.toList, c ≠ '/'

lemma namesOf_of_isName {name : String} (h : IsName name) : Files.namesOf name = [name] := by
  have hsplit : Text.splitAt (· = '/') name.toList = [name.toList] :=
    Text.splitAt_of_forall_not fun c hc => by simpa using h.2 c hc
  simp [Files.namesOf, hsplit]

/-- The names of a path fall apart at a slash. -/
lemma namesOf_append_slash {path : String} (left name : String)
    (hpath : path.toList = left.toList ++ '/' :: name.toList) :
    Files.namesOf path = Files.namesOf left ++ Files.namesOf name := by
  rw [Files.namesOf, hpath, Text.splitAt_append_cons (by simp), List.map_append]
  rfl

/-- What a path starts with decides where its walk starts. -/
lemma start_append {storage : Storage} {path : String} (hpath : path ≠ "") (more : String) :
    storage.start (path ++ more) = storage.start path := by
  have hfirst : (path ++ more).startsWith "/" = path.startsWith "/" := by
    rw [Bool.eq_iff_iff, String.startsWith_string_iff, String.startsWith_string_iff,
      String.toList_append]
    cases hcs : path.toList with
    | nil => exact absurd (String.toList_inj.mp hcs) hpath
    | cons c cs => simp
  simp only [Storage.start, hfirst]

/-- The walk over a path whose names are those of another one and one more. -/
lemma place_of_namesOf {storage : Storage} {path longer name : String} (names : List String)
    (hstart : storage.start longer = storage.start path)
    (hpath : Files.namesOf path = names ∨ Files.namesOf path = names ++ [""])
    (hlonger : Files.namesOf longer = names ++ [name]) :
    storage.place longer = storage.place path >>= fun place => place.step name := by
  rw [Storage.place, Storage.place, hstart, hlonger, bind_assoc]
  congr 1
  funext start
  rcases hpath with hpath | hpath
  · rw [hpath, List.foldlM_append]
    simp
  · rw [hpath, List.foldlM_append, List.foldlM_append, bind_assoc]
    simp [Files.step_empty_bind]

lemma endsWith_slash_iff (s : String) : s.endsWith "/" = true ↔ ['/'] <:+ s.toList := by
  have hcopy : s.toSlice.copy.toList = s.toList := by rw [String.copy_toSlice]
  rw [← hcopy]
  exact String.Slice.endsWith_string_iff

/-- One more name is one more step. -/
lemma place_joinPath (storage : Storage) (path : String) {name : String} (h : IsName name) :
    storage.place (joinPath path name) = storage.place path >>= fun place => place.step name := by
  have hname := namesOf_of_isName h
  unfold joinPath
  split
  · -- an empty path has one name, the empty one, which leads nowhere
    rename_i hempty
    obtain rfl := String.isEmpty_iff.mp hempty
    have hstart : storage.start name = storage.start "" := by
      have hfirst : name.startsWith "/" = "".startsWith "/" := by
        have hnot : ¬ ['/'] <+: name.toList := by
          rintro ⟨rest, hrest⟩
          exact h.2 '/' (by rw [← hrest]; exact List.mem_cons_self) rfl
        rw [Bool.eq_iff_iff, String.startsWith_string_iff, String.startsWith_string_iff]
        exact ⟨fun hstarts => absurd hstarts hnot, fun hstarts => by simp at hstarts⟩
      simp only [Storage.start, hfirst]
    exact place_of_namesOf [] hstart (.inr rfl) hname
  · rename_i hempty
    have hne : path ≠ "" := by simpa using hempty
    split
    · rename_i hslash
      obtain ⟨left, hleft⟩ := (endsWith_slash_iff path).mp hslash
      have hpath : Files.namesOf path = Files.namesOf (String.ofList left) ++ [""] :=
        namesOf_append_slash _ "" (by simpa using hleft.symm)
      have hlonger : Files.namesOf (path ++ name)
          = Files.namesOf (String.ofList left) ++ [name] := by
        rw [← hname]
        exact namesOf_append_slash _ _ (by simp [← hleft])
      exact place_of_namesOf _ (start_append hne name) (.inr hpath) hlonger
    · have hlonger : Files.namesOf (path ++ "/" ++ name) = Files.namesOf path ++ [name] := by
        rw [← hname]
        exact namesOf_append_slash _ _ (by simp)
      have hstart : storage.start (path ++ "/" ++ name) = storage.start path := by
        rw [String.append_assoc]
        exact start_append hne _
      exact place_of_namesOf _ hstart (.inl rfl) hlonger

/-- A path below a directory leads where its names lead from there. -/
lemma place_pathBelow (storage : Storage) :
    ∀ (names : List String) (root : String), (∀ name ∈ names, IsName name) →
      storage.place (pathBelow root names)
        = storage.place root >>= fun place => names.foldlM Place.step place := by
  intro names
  induction names with
  | nil =>
      intro root _
      simp [pathBelow]
  | cons name rest ih =>
      intro root h
      have hstep := place_joinPath storage root (h name List.mem_cons_self)
      have hrest := ih (joinPath root name) fun other hmem => h other (List.mem_cons_of_mem _ hmem)
      rw [pathBelow, List.foldl_cons, ← pathBelow, hrest, hstep, bind_assoc]
      simp [List.foldlM_cons]

/-- Names that stay below lead to something that only the directory they start in decides. -/
lemma file?_pathBelow_eq {storage storage' : Storage} {root : String} {names : List String}
    (hroot : (storage.place root).map Place.node = (storage'.place root).map Place.node)
    (hnames : ∀ name ∈ names, IsName name) (h : StaysBelow names) :
    storage.file? (pathBelow root names) = storage'.file? (pathBelow root names) := by
  apply Storage.file?_eq_of_place
  rw [place_pathBelow storage names root hnames, place_pathBelow storage' names root hnames]
  have hinside (place : Place) : (names.foldlM Place.step place).map Place.node
      = (names.foldlM Place.step ⟨[], place.node⟩).map Place.node := by
    have hwalk := Files.foldlM_step_inside place.around names ⟨[], place.node⟩ h
    rw [show Place.inside place.around ⟨[], place.node⟩ = place from rfl] at hwalk
    rw [hwalk]
    cases names.foldlM Place.step ⟨[], place.node⟩ <;> rfl
  cases hplace : storage.place root with
  | error fault =>
      cases hplace' : storage'.place root with
      | error fault' =>
          rw [hplace, hplace'] at hroot
          rw [Except.error.inj hroot]
      | ok place' =>
          rw [hplace, hplace'] at hroot
          cases hroot
  | ok place =>
      cases hplace' : storage'.place root with
      | error fault' =>
          rw [hplace, hplace'] at hroot
          cases hroot
      | ok place' =>
          rw [hplace, hplace'] at hroot
          have hnode : place.node = place'.node := Except.ok.inj hroot
          show (names.foldlM Place.step place).map Place.node
            = (names.foldlM Place.step place').map Place.node
          rw [hinside place, hinside place', hnode]

/-! ## The places of an id -/

lemma isName_of_mem_namesOf {id name : String} (h : name ∈ namesOf id) : IsName name := by
  simp only [namesOf, List.mem_map, List.mem_filter] at h
  obtain ⟨segment, ⟨hmem, hne⟩, rfl⟩ := h
  constructor
  · intro hempty
    simp [String.ofList_eq_empty_iff.mp hempty] at hne
  · intro c hc
    rw [String.toList_ofList] at hc
    simpa using Text.eq_false_of_mem_splitAt hmem c hc

lemma isName_js : IsName ".js" := ⟨by decide, by simp⟩

lemma isName_main : IsName "main.js" := ⟨by decide, by simp⟩

lemma isName_append {name ending : String} (h : IsName name) (hending : IsName ending) :
    IsName (name ++ ending) := by
  constructor
  · intro hempty
    exact h.1 (String.append_eq_empty_iff.mp hempty).1
  · intro c hc
    rw [String.toList_append] at hc
    rcases List.mem_append.mp hc with hc | hc
    · exact h.2 c hc
    · exact hending.2 c hc

lemma isName_concat {names : List String} {last : String} (h : ∀ name ∈ names, IsName name)
    (hlast : IsName last) : ∀ name ∈ names ++ [last], IsName name := by
  intro name hname
  rcases List.mem_append.mp hname with hname | hname
  · exact h name hname
  · obtain rfl := List.mem_singleton.mp hname
    exact hlast

/-- No name with the ending of a file is two dots. -/
lemma append_js_ne_dots (name : String) : name ++ ".js" ≠ ".." := by
  intro h
  have hlength := congrArg String.length h
  have hending : ".js".length = 3 := rfl
  have hdots : "..".length = 2 := rfl
  rw [String.length_append] at hlength
  omega

/-- The places of an id, in terms of its names. -/
lemma places?_eq_some {id : String} {file main : List String}
    (h : places? id = some (file, main)) :
    ∃ parents last, namesOf id = parents ++ [last] ∧ file = parents ++ [last ++ ".js"] ∧
      main = namesOf id ++ ["main.js"] := by
  simp only [places?, Option.map_eq_some_iff, Prod.mk.injEq] at h
  obtain ⟨last, hlast, hfile, hmain⟩ := h
  obtain ⟨parents, hnames⟩ := List.getLast?_eq_some_iff.mp hlast
  refine ⟨parents, last, hnames, ?_, hmain.symm⟩
  rw [← hfile, hnames, List.dropLast_concat]

/-- **When both places stay below.**  Exactly when the names of the id do. -/
lemma staysBelow_places_iff {id : String} {file main : List String}
    (h : places? id = some (file, main)) :
    (StaysBelow file ∧ StaysBelow main) ↔ StaysBelow (namesOf id) := by
  obtain ⟨parents, last, hnames, rfl, rfl⟩ := places?_eq_some h
  constructor
  · rintro ⟨-, hmain⟩
    exact (Files.staysBelow_append_singleton (by decide)).mp hmain
  · intro hid
    have hparents : StaysBelow parents := by
      rw [hnames] at hid
      exact hid.of_first (List.prefix_append parents [last])
    exact ⟨(Files.staysBelow_append_singleton (append_js_ne_dots last)).mpr hparents,
      (Files.staysBelow_append_singleton (by decide)).mpr hid⟩

/-- **Nothing outside shows.**  Where the names of an id stay below, what it is found at depends on
the base directory alone. -/
theorem locateFile_eq_of_staysBelow {storage storage' : Storage} {root id : String}
    (hid : StaysBelow (namesOf id))
    (hroot : (storage.place root).map Place.node = (storage'.place root).map Place.node) :
    locateFile storage root id = locateFile storage' root id := by
  unfold locateFile
  cases hplaces : places? id with
  | none => rfl
  | some places =>
      obtain ⟨file, main⟩ := places
      obtain ⟨hfile, hmain⟩ := (staysBelow_places_iff hplaces).mpr hid
      obtain ⟨parents, last, hnames, rfl, rfl⟩ := places?_eq_some hplaces
      have hmem : ∀ name ∈ namesOf id, IsName name := fun name h => isName_of_mem_namesOf h
      have hlast : IsName last := hmem last (by rw [hnames]; simp)
      have hparents : ∀ name ∈ parents, IsName name := by
        intro name hname
        exact hmem name (by rw [hnames]; exact List.mem_append_left _ hname)
      have hfileNames := isName_concat hparents (isName_append hlast isName_js)
      have hmainNames := isName_concat hmem isName_main
      simp only [file?_pathBelow_eq hroot hfileNames hfile,
        file?_pathBelow_eq hroot hmainNames hmain]

/-! ## Relative requests -/

/-- The names among segments. -/
def segmentNames (segments : List (List Char)) : List String :=
  (segments.filter (· ≠ [])).map String.ofList

lemma segmentNames_append (left right : List (List Char)) :
    segmentNames (left ++ right) = segmentNames left ++ segmentNames right := by
  simp [segmentNames]

/-- What the walk of a relative request keeps to: the segments have no slash in them, the cursor
stands on the last one or behind it, and the names stay below. -/
structure Walk.Stays (walk : Walk) : Prop where
  slashless : ∀ segment ∈ walk.segments, ∀ c ∈ segment, decide (c = '/') = false
  atEnd : walk.segments.length ≤ walk.cursor + 1
  below : StaysBelow (segmentNames walk.segments)

/-- Segments at the end may be dropped. -/
lemma Walk.Stays.take {walk : Walk} (h : walk.Stays) (n cursor : Nat)
    (hn : n ≤ cursor + 1) : Walk.Stays ⟨walk.segments.take n, cursor⟩ := by
  refine ⟨fun segment hmem => h.slashless segment (List.mem_of_mem_take hmem), ?_, ?_⟩
  · have hlength := List.length_take_le n walk.segments
    exact hlength.trans hn
  · have hsplit : segmentNames walk.segments
        = segmentNames (walk.segments.take n) ++ segmentNames (walk.segments.drop n) := by
      rw [← segmentNames_append, List.take_append_drop]
    have hbelow := h.below
    rw [hsplit] at hbelow
    exact hbelow.of_first (List.prefix_append _ _)

/-- Names behind the others that are not two dots keep them below. -/
lemma staysBelow_segmentNames_concat {segments : List (List Char)} {segment : List Char}
    (h : StaysBelow (segmentNames segments)) (hup : segment ≠ ['.', '.']) :
    StaysBelow (segmentNames (segments ++ [segment])) := by
  rw [segmentNames_append]
  by_cases hempty : segment = []
  · simpa [segmentNames, hempty] using h
  · have hone : segmentNames [segment] = [String.ofList segment] := by
      simp [segmentNames, hempty]
    have hname : String.ofList segment ≠ ".." := by
      intro heq
      exact hup (by simpa using congrArg String.toList heq)
    rw [hone]
    exact (Files.staysBelow_append_singleton hname).mpr h

/-- So may a name that is not two dots be added. -/
lemma Walk.Stays.concat {walk : Walk} (h : walk.Stays) {segment : List Char} {cursor : Nat}
    (hslash : ∀ c ∈ segment, decide (c = '/') = false) (hup : segment ≠ ['.', '.'])
    (hcursor : walk.segments.length ≤ cursor) :
    Walk.Stays ⟨walk.segments ++ [segment], cursor⟩ := by
  refine ⟨?_, ?_, staysBelow_segmentNames_concat h.below hup⟩
  · intro other hmem
    rcases List.mem_append.mp hmem with hmem | hmem
    · exact h.slashless other hmem
    · obtain rfl := List.mem_singleton.mp hmem
      exact hslash
  · simpa using hcursor

/-- A segment of a request climbs nowhere. -/
lemma Walk.Stays.step {walk : Walk} (h : walk.Stays) {segment : List Char}
    (hslash : ∀ c ∈ segment, decide (c = '/') = false) : (walk.step segment).Stays := by
  cases hdots : Walk.isDots segment with
  | true =>
      obtain ⟨kept, -, hmax, hstep⟩ := Walk.step_back h.atEnd hdots
      rw [hstep]
      exact h.take kept _ (by omega)
  | false =>
      obtain ⟨kept, -, hstep, -⟩ := Walk.step_on h.atEnd hdots
      have hup : segment ≠ ['.', '.'] := by
        rintro rfl
        simp [Walk.isDots] at hdots
      have htaken := h.take kept kept (Nat.le_succ kept)
      rw [hstep]
      exact htaken.concat hslash hup (by simp)

/-- A request whose names are read from a base that stays below stays below. -/
lemma Walk.Stays.foldl {segments : List (List Char)}
    (hslash : ∀ segment ∈ segments, ∀ c ∈ segment, decide (c = '/') = false) :
    ∀ {walk : Walk}, walk.Stays → (segments.foldl Walk.step walk).Stays := by
  induction segments with
  | nil =>
      intro walk h
      exact h
  | cons segment rest ih =>
      intro walk h
      have hstep := h.step (hslash segment List.mem_cons_self)
      exact ih (fun other hmem => hslash other (List.mem_cons_of_mem _ hmem)) hstep

/-- The names of an id that was joined from segments. -/
lemma namesOf_joinSegments {segments : List (List Char)}
    (hslash : ∀ segment ∈ segments, ∀ c ∈ segment, decide (c = '/') = false) :
    namesOf (String.ofList (joinSegments segments)) = segmentNames segments := by
  unfold namesOf segmentsOf joinSegments
  rw [String.toList_ofList]
  by_cases hnil : segments = []
  · subst hnil
    rfl
  · rw [Text.splitAt_intercalate '/' hnil hslash]
    rfl

/-- **Relative requests stay below.**  What they stand for stays below if the id of the module that
makes them does. -/
theorem staysBelow_resolve {request base : String} (hrelative : isRelative request = true)
    (hbase : StaysBelow (namesOf base)) : StaysBelow (namesOf (resolve request base)) := by
  have hstart : (Walk.ofBase base.toList).Stays := by
    refine ⟨fun segment hmem => Text.eq_false_of_mem_splitAt hmem, ?_, hbase⟩
    simp only [Walk.ofBase]
    omega
  have hslash : ∀ segment ∈ segmentsOf request.toList, ∀ c ∈ segment, decide (c = '/') = false :=
    fun segment hmem => Text.eq_false_of_mem_splitAt hmem
  have hend := hstart.foldl hslash
  rw [resolve, if_pos hrelative, resolveRelative, namesOf_joinSegments hend.slashless]
  exact hend.below

/-! ## The ids of what is found -/

/-- Slashes at the end of an id name nothing. -/
lemma namesOf_append_slashes (cs : List Char) {slashes : List Char} (h : ∀ c ∈ slashes, c = '/') :
    segmentNames (segmentsOf (cs ++ slashes)) = segmentNames (segmentsOf cs) := by
  induction slashes generalizing cs with
  | nil => rw [List.append_nil]
  | cons c rest ih =>
      obtain rfl := h c List.mem_cons_self
      have hrest := ih [] fun d hd => h d (List.mem_cons_of_mem _ hd)
      rw [List.nil_append] at hrest
      rw [segmentsOf, Text.splitAt_append_cons (by simp), segmentNames_append]
      rw [segmentsOf] at hrest
      rw [hrest]
      simp [segmentNames, segmentsOf, Text.splitAt]

lemma namesOf_mainId (id : String) : namesOf (mainId id) = namesOf id ++ ["main"] := by
  have hsplit : id.toList = (id.toList.reverse.dropWhile (· = '/')).reverse
      ++ (id.toList.reverse.takeWhile (· = '/')).reverse := by
    rw [← List.reverse_append, List.takeWhile_append_dropWhile, List.reverse_reverse]
  have hslashes : ∀ c ∈ (id.toList.reverse.takeWhile (· = '/')).reverse, c = '/' := by
    intro c hc
    simpa using List.all_eq_true.mp List.all_takeWhile c (List.mem_reverse.mp hc)
  have hnames : namesOf id
      = segmentNames (segmentsOf (id.toList.reverse.dropWhile (· = '/')).reverse) := by
    rw [← namesOf_append_slashes _ hslashes, ← hsplit]
    rfl
  rw [hnames]
  show segmentNames (segmentsOf (mainId id).toList) = _
  have hmain : (mainId id).toList
      = (id.toList.reverse.dropWhile (· = '/')).reverse ++ '/' :: "main".toList := by
    simp [mainId]
  rw [hmain, segmentsOf, Text.splitAt_append_cons (by simp), segmentNames_append]
  rfl

/-- What is read as text has the id that it was read for. -/
lemma id_of_textOf {id own path : String} {octets : List UInt8} {resource : Resource}
    (h : (do return some ⟨own, path, ← textOf id octets⟩ : Except LoadError (Option Resource))
      = .ok (some resource)) : resource.id = own := by
  cases htext : textOf id octets with
  | error e =>
      rw [htext] at h
      cases h
  | ok content =>
      rw [htext] at h
      cases h
      rfl

/-- What is found for an id has that id, or that of the main file of a directory. -/
lemma id_of_locateFile {storage : Storage} {root id : String} {resource : Resource}
    (h : locateFile storage root id = .ok (some resource)) :
    resource.id = id ∨ resource.id = mainId id := by
  unfold locateFile at h
  split at h
  · cases h
  · dsimp only at h
    split at h
    · exact .inl (id_of_textOf h)
    · split at h
      · exact .inr (id_of_textOf h)
      · cases h

/-- What is found for an id that stays below has an id that does. -/
lemma staysBelow_of_locateFile {storage : Storage} {root id : String} {resource : Resource}
    (hid : StaysBelow (namesOf id)) (h : locateFile storage root id = .ok (some resource)) :
    StaysBelow (namesOf resource.id) := by
  rcases id_of_locateFile h with hresource | hresource
  · rw [hresource]
    exact hid
  · rw [hresource, namesOf_mainId]
    exact (Files.staysBelow_append_singleton (by decide)).mpr hid

/-! ## Where the locator looks -/

/-- **Where the locator looks.**  Both places of an id stay below the base directory exactly if the
names of the id do: no segment but the empty ones is left out.  If they do, nothing outside of the
base directory shows in what is found, and neither does it for any relative request of the module
that is found, whose own id stays below again. -/
theorem places_stay_below_iff (id : String) (file main : List String)
    (hplaces : places? id = some (file, main)) :
    ((StaysBelow file ∧ StaysBelow main) ↔ StaysBelow (namesOf id)) ∧
    (StaysBelow (namesOf id) →
      (∀ (storage storage' : Storage) (root : String),
        (storage.place root).map Place.node = (storage'.place root).map Place.node →
          locateFile storage root id = locateFile storage' root id) ∧
      ∀ (storage : Storage) (root : String) (resource : Resource),
        locateFile storage root id = .ok (some resource) →
          StaysBelow (namesOf resource.id) ∧
          ∀ request, isRelative request = true →
            StaysBelow (namesOf (resolve request resource.id))) := by
  refine ⟨staysBelow_places_iff hplaces, fun hid => ⟨fun storage storage' root hroot => ?_,
    fun storage root resource hfound => ?_⟩⟩
  · exact locateFile_eq_of_staysBelow hid hroot
  · have hresource := staysBelow_of_locateFile hid hfound
    exact ⟨hresource, fun request hrelative => staysBelow_resolve hrelative hresource⟩

/-- A base directory with a file beside it. -/
def besideBase : Storage := ⟨[("base", .directory []), ("secret.js", .file [])], []⟩

lemma file?_besideBase : besideBase.file? "base/../secret.js" = some [] := by
  have hnull : "base/../secret.js".contains '\x00' = false := by simp
  rw [Storage.file?, Storage.find_eq, hnull]
  decide +kernel

/-- An id whose second segment climbs is read from beside the base directory. -/
theorem places_stay_below_iff_climbing :
    places? "/../secret" = some (["..", "secret.js"], ["..", "secret", "main.js"]) ∧
    ¬ (StaysBelow ["..", "secret.js"] ∧ StaysBelow ["..", "secret", "main.js"]) ∧
    locateFile besideBase "base" "/../secret"
      = .ok (some ⟨"/../secret", "base/../secret.js", ""⟩) := by
  have hplaces : places? "/../secret" = some (["..", "secret.js"], ["..", "secret", "main.js"]) := by
    decide +kernel
  have hpath : pathBelow "base" ["..", "secret.js"] = "base/../secret.js" := by
    decide +kernel
  refine ⟨hplaces, ?_, ?_⟩
  · rw [(places_stay_below_iff "/../secret" _ _ hplaces).1]
    decide +kernel
  · unfold locateFile
    rw [hplaces]
    dsimp only
    rw [hpath, file?_besideBase]
    rfl

end ModuleRunner.Module
