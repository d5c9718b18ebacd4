import ModuleRunner.Module.Locator
import ModuleRunner.Proofs.Locating.Directory
import ModuleRunner.Proofs.Url.Site

/-!
# Where absolute ids stay absolute

An id that starts with a slash has an empty first segment, and nothing tells that segment from the
empty one behind a slash at the end.  As long as the walk of a request stands to the right of it, it
stays.  Once the walk has come to it, it is dropped, or the next name takes its place; and a walk that
has lost it cannot get it back, since no name goes behind an empty segment that stands alone.

Each segment of one dot or two moves the walk one segment to the left, and no other segment moves it to
the left.  So the slashes of the base are what a request can spend.

* `Walk.Rooted`, `Walk.Uprooted` — walks right of the empty first segment, and walks that have lost it.
* `Walk.Rooted.foldl` — every walk from an absolute id is one or the other.
* `Walk.Rooted.foldl_of_countP_lt`, `Walk.cursor_foldl_isDots` — what the segments that lead back cost.
* `moduleUrl_of_absolute` — the address of an absolute id.
* `resolve_absolute` — when a request keeps the slash.
-/

namespace ModuleRunner.Module

/-! ## Slashes and segments -/

/-- A text has one segment more than slashes. -/
lemma length_segmentsOf (cs : List Char) : (segmentsOf cs).length = cs.count '/' + 1 := by
  unfold segmentsOf
  induction cs with
  | nil => rfl
  | cons c rest ih =>
      by_cases hc : c = '/'
      · simp [Text.splitAt, hc, ih]
      · -- a character that is no slash goes to the first segment, and makes none
        obtain ⟨first, others, hsplit⟩ :=
          List.exists_cons_of_ne_nil (Text.splitAt_ne_nil (· = '/') rest)
        rw [hsplit] at ih
        simpa [Text.splitAt, hc, hsplit] using ih

/-- Joined segments start with a slash if the first one is empty and not the only one. -/
lemma slash_isPrefix_joinSegments_iff {segments : List (List Char)}
    (hslash : ∀ segment ∈ segments, '/' ∉ segment) :
    ['/'] <+: joinSegments segments ↔ segments.head? = some [] ∧ 1 < segments.length := by
  cases segments with
  | nil => simp [joinSegments]
  | cons segment rest =>
      cases rest with
      | nil =>
          have hnot : ¬ ['/'] <+: segment := by
            intro hstarts
            exact hslash segment List.mem_cons_self (hstarts.subset List.mem_cons_self)
          simpa [joinSegments] using hnot
      | cons next rest =>
          rw [joinSegments_cons (List.cons_ne_nil next rest)]
          cases segment with
          | nil => simp
          | cons c cs =>
              have hne : '/' ≠ c := by
                rintro rfl
                exact hslash _ List.mem_cons_self List.mem_cons_self
              simp [hne]

/-! ## Walks from absolute ids -/

namespace Walk

/-- Nothing comes into a walk but the segments of the request that do not lead back. -/
lemma mem_segments_step {walk : Walk} {segment other : List Char}
    (h : other ∈ (walk.step segment).segments) :
    other ∈ walk.segments ∨ other = segment ∧ isDots segment = false := by
  unfold step at h
  split at h
  · exact .inl (List.mem_of_mem_eraseIdx h)
  · next hdot =>
    split at h
    · exact .inl (List.mem_of_mem_eraseIdx (List.mem_of_mem_eraseIdx h))
    · next hdots =>
      have hname : isDots segment = false := by simp [isDots, hdot, hdots]
      split at h
      · exact (List.mem_or_eq_of_mem_set h).imp_right fun heq => ⟨heq, hname⟩
      · exact (List.mem_append.mp h).imp_right fun hmem => ⟨List.mem_singleton.mp hmem, hname⟩

/-- What holds of the segments that a walk starts with, and of those of the request that do not lead back,
holds of all that it ends with. -/
lemma forall_mem_foldl {P : List Char → Prop} {request : List (List Char)}
    (hrequest : ∀ segment ∈ request, isDots segment = false → P segment) :
    ∀ {walk : Walk}, (∀ segment ∈ walk.segments, P segment) →
      ∀ segment ∈ (request.foldl step walk).segments, P segment := by
  induction request with
  | nil =>
      intro walk h
      exact h
  | cons segment rest ih =>
      intro walk h
      refine ih (fun other hmem => hrequest other (List.mem_cons_of_mem _ hmem)) fun other hmem => ?_
      obtain hmem | ⟨rfl, hname⟩ := mem_segments_step hmem
      · exact h other hmem
      · exact hrequest other List.mem_cons_self hname

lemma slashless_foldl {segments : List (List Char)} (hslash : ∀ segment ∈ segments, '/' ∉ segment)
    {walk : Walk} (h : ∀ segment ∈ walk.segments, '/' ∉ segment) :
    ∀ segment ∈ (segments.foldl step walk).segments, '/' ∉ segment :=
  forall_mem_foldl (fun segment hmem _ => hslash segment hmem) h

/-- A walk that stands to the right of an empty first segment. -/
structure Rooted (walk : Walk) : Prop where
  first : walk.segments.head? = some []
  right : 0 < walk.cursor
  atEnd : walk.segments.length ≤ walk.cursor + 1
  within : walk.cursor ≤ walk.segments.length

/-- A walk that has lost the empty first segment, or is about to: it stands on it and nothing else is
left. -/
structure Uprooted (walk : Walk) : Prop where
  bare : walk.segments.head? = some [] → walk.segments = [[]] ∧ walk.cursor = 0
  atEnd : walk.segments.length ≤ walk.cursor + 1

/-- Behind a name, a walk right of the first segment stands on another one. -/
lemma Rooted.step_name {walk : Walk} (h : walk.Rooted) {name : List Char}
    (hname : isDots name = false) :
    (walk.step name).Rooted ∧ 1 < (walk.step name).segments.length := by
  obtain ⟨segments, cursor⟩ := walk
  obtain ⟨rest, rfl⟩ : ∃ rest, segments = [] :: rest := List.head?_eq_some_iff.mp h.first
  have hright : 0 < cursor := h.right
  obtain ⟨kept, hle, hstep, hwhere⟩ := step_on h.atEnd hname
  have hpos : 0 < kept := by
    rcases hwhere with ⟨-, rfl⟩ | ⟨-, rfl⟩
    · exact hright
    · exact Nat.succ_pos _
  have hlength : (([] :: rest).take kept ++ [name]).length = kept + 1 := by
    rw [List.length_append, List.length_take_of_le hle, List.length_singleton]
  rw [hstep]
  refine ⟨⟨?_, hpos, hlength.le, by dsimp only; omega⟩, by dsimp only; omega⟩
  cases kept with
  | zero => omega
  | succ kept => rfl

/-- Right of the first segment, a step stays there or loses it. -/
lemma Rooted.step {walk : Walk} (h : walk.Rooted) (segment : List Char) :
    0 < (walk.step segment).cursor ∧ (walk.step segment).Rooted ∨
      (walk.step segment).cursor = 0 ∧ (walk.step segment).Uprooted := by
  cases hdots : isDots segment with
  | false =>
      have hrooted := (h.step_name hdots).1
      exact .inl ⟨hrooted.right, hrooted⟩
  | true =>
      obtain ⟨segments, cursor⟩ := walk
      obtain ⟨hfirst, hright, hend, hwithin⟩ := h
      dsimp only at hfirst hright hend hwithin
      obtain ⟨rest, rfl⟩ : ∃ rest, segments = [] :: rest := List.head?_eq_some_iff.mp hfirst
      obtain ⟨kept, hmin, hmax, hstep⟩ := step_back hend hdots
      have hlength := List.length_take_le kept ([] :: rest)
      rw [hstep]
      rcases Nat.eq_zero_or_pos (cursor - 1) with hzero | hpos
      · refine .inr ⟨hzero, ⟨fun hbare => ?_, by dsimp only; omega⟩⟩
        cases kept with
        | zero => simp at hbare
        | succ kept =>
            obtain rfl : kept = 0 := by omega
            exact ⟨rfl, hzero⟩
      · refine .inl ⟨hpos, ⟨?_, hpos, by dsimp only; omega, ?_⟩⟩
        · cases kept with
          | zero => omega
          | succ kept => rfl
        · dsimp only
          rw [List.length_take]
          omega

/-- What is lost does not come back: no name goes behind an empty segment that stands alone. -/
lemma Uprooted.step {walk : Walk} (h : walk.Uprooted) (segment : List Char) :
    (walk.step segment).Uprooted := by
  obtain ⟨segments, cursor⟩ := walk
  obtain ⟨hbare, hend⟩ := h
  dsimp only at hbare hend
  cases hdots : isDots segment with
  | true =>
      obtain ⟨kept, -, hmax, hstep⟩ := step_back hend hdots
      have hlength := List.length_take_le kept segments
      rw [hstep]
      refine ⟨fun hfirst => ?_, by dsimp only; omega⟩
      rw [List.head?_take] at hfirst
      split at hfirst
      · cases hfirst
      · have hcursor := (hbare hfirst).2
        omega
  | false =>
      obtain ⟨kept, hle, hstep, hwhere⟩ := step_on hend hdots
      have hlength : (segments.take kept ++ [segment]).length = kept + 1 := by
        rw [List.length_append, List.length_take_of_le hle, List.length_singleton]
      rw [hstep]
      refine ⟨fun hfirst => ?_, hlength.le⟩
      rcases Nat.eq_zero_or_pos kept with rfl | hpos
      · obtain rfl : segment = [] := by simpa using hfirst
        exact ⟨rfl, rfl⟩
      · have hhead : (segments.take kept ++ [segment]).head? = segments.head? := by
          cases segments with
          | nil => simp at hle; omega
          | cons first rest => cases kept with
            | zero => omega
            | succ kept => rfl
        rw [hhead] at hfirst
        obtain ⟨rfl, rfl⟩ := hbare hfirst
        rcases hwhere with ⟨-, rfl⟩ | ⟨hhole, -⟩
        · omega
        · exact absurd rfl hhole

lemma Uprooted.foldl (segments : List (List Char)) :
    ∀ {walk : Walk}, walk.Uprooted → (segments.foldl Walk.step walk).Uprooted := by
  induction segments with
  | nil =>
      intro walk h
      exact h
  | cons segment rest ih =>
      intro walk h
      exact ih (h.step segment)

/-- **Walks from absolute ids.**  Either the walk is right of the first segment all the time and keeps
it, or it comes to it at some time and has lost it from then on. -/
lemma Rooted.foldl (segments : List (List Char)) : ∀ {walk : Walk}, walk.Rooted →
    (∀ first, first <+: segments → 0 < (first.foldl Walk.step walk).cursor) ∧
        (segments.foldl Walk.step walk).Rooted ∨
      (∃ first, first <+: segments ∧ (first.foldl Walk.step walk).cursor = 0) ∧
        (segments.foldl Walk.step walk).Uprooted := by
  induction segments with
  | nil =>
      intro walk h
      refine .inl ⟨fun first hfirst => ?_, h⟩
      rw [List.prefix_nil.mp hfirst]
      exact h.right
  | cons segment rest ih =>
      intro walk h
      rcases h.step segment with ⟨-, hstep⟩ | ⟨hzero, hstep⟩
      · rcases ih hstep with ⟨hright, hend⟩ | ⟨⟨first, hfirst, hcursor⟩, hend⟩
        · refine .inl ⟨fun first hfirst => ?_, hend⟩
          rcases List.prefix_cons_iff.mp hfirst with rfl | ⟨tail, rfl, htail⟩
          · exact h.right
          · exact hright tail htail
        · exact .inr ⟨⟨segment :: first, List.cons_prefix_cons.mpr ⟨rfl, hfirst⟩, hcursor⟩, hend⟩
      · exact .inr ⟨⟨[segment], by simp, hzero⟩, hstep.foldl rest⟩

/-- Segments that do not lead back do not move a walk to the left, and the others do so by one. -/
lemma Rooted.cursor_step_le {walk : Walk} (h : walk.Rooted) (segment : List Char) :
    walk.cursor ≤ (walk.step segment).cursor + [segment].countP isDots := by
  obtain ⟨segments, cursor⟩ := walk
  have hwithin : cursor ≤ segments.length := h.within
  cases hdots : isDots segment with
  | true =>
      obtain ⟨kept, -, -, hstep⟩ := step_back h.atEnd hdots
      rw [hstep, List.countP_singleton, hdots, if_pos rfl]
      dsimp only
      omega
  | false =>
      obtain ⟨kept, -, hstep, hwhere⟩ := step_on h.atEnd hdots
      rw [hstep]
      rcases hwhere with ⟨-, rfl⟩ | ⟨-, rfl⟩
      · exact Nat.le_add_right _ _
      · exact hwithin.trans (Nat.le_add_right _ _)

/-- A walk with more room to the left than the request has segments that lead back stays right of the
first segment. -/
lemma Rooted.foldl_of_countP_lt (segments : List (List Char)) : ∀ {walk : Walk}, walk.Rooted →
    segments.countP isDots < walk.cursor → (segments.foldl Walk.step walk).Rooted := by
  induction segments with
  | nil =>
      intro walk h _
      exact h
  | cons segment rest ih =>
      intro walk h hroom
      have hsplit : (segment :: rest).countP isDots = [segment].countP isDots + rest.countP isDots := by
        rw [← List.singleton_append, List.countP_append]
      have hcursor := h.cursor_step_le segment
      rcases h.step segment with ⟨-, hstep⟩ | ⟨hzero, -⟩
      · exact ih hstep (by omega)
      · omega

/-- The segments that lead back move the walk to the left one by one. -/
lemma cursor_foldl_isDots {back : List (List Char)} (hback : ∀ segment ∈ back, isDots segment = true) :
    ∀ {walk : Walk}, walk.segments.length ≤ walk.cursor + 1 →
      (back.foldl step walk).cursor = walk.cursor - back.length := by
  induction back with
  | nil =>
      intro walk _
      rfl
  | cons segment rest ih =>
      intro walk h
      obtain ⟨hdots, hrest⟩ := List.forall_mem_cons.mp hback
      obtain ⟨kept, -, hmax, hstep⟩ := step_back h hdots
      have hlength := List.length_take_le kept walk.segments
      have hend : (walk.step segment).segments.length ≤ (walk.step segment).cursor + 1 := by
        rw [hstep]
        dsimp only
        omega
      rw [List.foldl_cons, ih hrest hend, hstep, List.length_cons]
      dsimp only
      omega

/-- The walk from an absolute id has as much room to the left as the id has slashes. -/
lemma rooted_ofBase {base : List Char} (h : ['/'] <+: base) :
    (ofBase base).Rooted ∧ (ofBase base).cursor = base.count '/' := by
  obtain ⟨rest, rfl⟩ := h
  have hlength := length_segmentsOf (['/'] ++ rest)
  have hsegments : segmentsOf (['/'] ++ rest) = [] :: segmentsOf rest := segmentsOf_append_slash [] rest
  have hcursor : (ofBase (['/'] ++ rest)).cursor = (['/'] ++ rest).count '/' := by
    rw [ofBase]
    dsimp only
    omega
  have hpos : 0 < (['/'] ++ rest).count '/' := by simp
  refine ⟨⟨?_, by omega, ?_, ?_⟩, hcursor⟩
  · rw [ofBase, hsegments]
    rfl
  · rw [hcursor]
    exact hlength.le
  · rw [hcursor]
    exact (Nat.le_succ _).trans hlength.ge

end Walk

/-! ## Requests from absolute ids -/

section

variable {request base : String} (hrelative : isRelative request = true)

include hrelative

/-- What a relative request stands for is absolute if the walk ends with an empty first segment and
others behind it. -/
lemma resolve_startsWith_iff : (resolve request base).startsWith "/" = true ↔
    ((segmentsOf request.toList).foldl Walk.step (.ofBase base.toList)).segments.head? = some [] ∧
      1 < ((segmentsOf request.toList).foldl Walk.step (.ofBase base.toList)).segments.length := by
  have hrequest : ∀ segment ∈ segmentsOf request.toList, '/' ∉ segment := fun _ hmem =>
    slashless_of_mem_segmentsOf hmem
  have hstart : ∀ segment ∈ (Walk.ofBase base.toList).segments, '/' ∉ segment := fun _ hmem =>
    slashless_of_mem_segmentsOf hmem
  have hmark : "/".toList = ['/'] := rfl
  rw [String.startsWith_string_iff, resolve_of_isRelative hrelative, hmark, String.toList_ofList,
    slash_isPrefix_joinSegments_iff (Walk.slashless_foldl hrequest hstart)]

variable (hbase : base.startsWith "/" = true)

include hbase

/-- An absolute base stays absolute exactly if the walk is right of the first segment all the time, and
some other segment is left at its end. -/
lemma resolve_absolute_iff : (resolve request base).startsWith "/" = true ↔
    (∀ first, first <+: segmentsOf request.toList →
      0 < (first.foldl Walk.step (.ofBase base.toList)).cursor) ∧
    1 < ((segmentsOf request.toList).foldl Walk.step (.ofBase base.toList)).segments.length := by
  have hstart := (Walk.rooted_ofBase (String.startsWith_string_iff.mp hbase)).1
  rw [resolve_startsWith_iff hrelative]
  rcases hstart.foldl (segmentsOf request.toList) with ⟨hright, hend⟩ | ⟨⟨first, hfirst, hzero⟩, hend⟩
  · exact ⟨fun h => ⟨hright, h.2⟩, fun h => ⟨hend.first, h.2⟩⟩
  · constructor
    · rintro ⟨hhead, hlength⟩
      rw [(hend.bare hhead).1] at hlength
      exact absurd hlength (by decide)
    · rintro ⟨hright, -⟩
      exact absurd (hright first hfirst) (by omega)

/-- A request that ends with a name keeps the slash if the base has more slashes than the request has
segments that lead back. -/
lemma resolve_absolute_of_countP_lt {way : List (List Char)} {name : List Char}
    (hsegments : segmentsOf request.toList = way ++ [name]) (hname : Walk.isDots name = false)
    (hroom : way.countP Walk.isDots < base.toList.count '/') :
    (resolve request base).startsWith "/" = true := by
  obtain ⟨hstart, hcursor⟩ := Walk.rooted_ofBase (String.startsWith_string_iff.mp hbase)
  have hway := hstart.foldl_of_countP_lt way (by rwa [hcursor])
  rw [resolve_startsWith_iff hrelative, hsegments, List.foldl_append]
  obtain ⟨hend, hlength⟩ := hway.step_name hname
  exact ⟨hend.first, hlength⟩

/-- A request that starts with as many segments that lead back as the base has slashes loses the
slash. -/
lemma resolve_not_absolute_of_isDots {back rest : List (List Char)}
    (hsegments : segmentsOf request.toList = back ++ rest)
    (hback : ∀ segment ∈ back, Walk.isDots segment = true)
    (hroom : base.toList.count '/' ≤ back.length) :
    (resolve request base).startsWith "/" = false := by
  obtain ⟨hstart, hcursor⟩ := Walk.rooted_ofBase (String.startsWith_string_iff.mp hbase)
  have hzero : (back.foldl Walk.step (.ofBase base.toList)).cursor = 0 := by
    rw [Walk.cursor_foldl_isDots hback hstart.atEnd, hcursor]
    omega
  rw [Bool.eq_false_iff]
  intro habsolute
  have hright := ((resolve_absolute_iff hrelative hbase).mp habsolute).1 back (by simp [hsegments])
  omega

end

/-- The address of an absolute id takes nothing from a base but its site. -/
lemma moduleUrl_of_absolute {id : String} (hid : id.startsWith "/" = true) {url other : Url}
    (hsite : Url.SameSite url other) : moduleUrl url id = moduleUrl other id := by
  have htext : ['/'] <+: (id ++ ".js").toList := by
    rw [String.toList_append]
    exact (String.startsWith_string_iff.mp hid).trans (List.prefix_append _ _)
  rw [moduleUrl, moduleUrl, hsite.parse_of_slash htext]

/-- **When a request keeps the slash.**  From an absolute base, a relative request stands for an
absolute id exactly if its walk stays right of the empty first segment of the base, and ends with
another one behind it.  If the request ends with a name, it is enough that the base has more slashes
than the request has segments of one dot or two; it is not so if that many of those stand at the
start.  Where the slash is kept, what a module requests is found at the same address for all bases of
a site. -/
theorem resolve_absolute {request base : String} (hrelative : isRelative request = true)
    (hbase : base.startsWith "/" = true) :
    ((resolve request base).startsWith "/" = true ↔
      (∀ first, first <+: segmentsOf request.toList →
        0 < (first.foldl Walk.step (.ofBase base.toList)).cursor) ∧
      1 < ((segmentsOf request.toList).foldl Walk.step (.ofBase base.toList)).segments.length) ∧
    (∀ way name, segmentsOf request.toList = way ++ [name] → Walk.isDots name = false →
      way.countP Walk.isDots < base.toList.count '/' →
        (resolve request base).startsWith "/" = true) ∧
    (∀ back rest, segmentsOf request.toList = back ++ rest →
      (∀ segment ∈ back, Walk.isDots segment = true) → base.toList.count '/' ≤ back.length →
        (resolve request base).startsWith "/" = false) ∧
    ((resolve request base).startsWith "/" = true → ∀ url other, Url.SameSite url other →
      moduleUrl url (resolve request base) = moduleUrl other (resolve request base)) := by
  refine ⟨resolve_absolute_iff hrelative hbase, fun way name hsegments hname hroom => ?_,
    fun back rest hsegments hback hroom => ?_, fun habsolute url other hsite => ?_⟩
  · exact resolve_absolute_of_countP_lt hrelative hbase hsegments hname hroom
  · exact resolve_not_absolute_of_isDots hrelative hbase hsegments hback hroom
  · exact moduleUrl_of_absolute habsolute hsite

/-- The address of a directory of modules. -/
def modulesAddress (directory : String) : Url :=
  ⟨"http", "", "", some (.name "h"), none, .segments [directory, ""], none, none⟩

/-- Beside a module in a directory the slash is kept.  Beside a module at the top it is lost, so that a
module found at the top of a site asks for another one below the base. -/
theorem resolve_absolute_lost :
    isRelative "./x" = true ∧ "/lib/a".startsWith "/" = true ∧ "/a".startsWith "/" = true ∧
    (resolve "./x" "/lib/a").startsWith "/" = true ∧
    moduleUrl (modulesAddress "m") (resolve "./x" "/lib/a")
      = moduleUrl (modulesAddress "n") (resolve "./x" "/lib/a") ∧
    (resolve "./x" "/a").startsWith "/" = false ∧ resolve "./x" "/a" = "x" ∧
    (moduleUrl (modulesAddress "m") "/a").toOption.map Url.text = some "http://h/a.js" ∧
    (moduleUrl (modulesAddress "m") "x").toOption.map Url.text = some "http://h/m/x.js" := by
  have hrelative : isRelative "./x" = true := by decide +kernel
  have hdeep : "/lib/a".startsWith "/" = true := by decide +kernel
  have htop : "/a".startsWith "/" = true := by decide +kernel
  have hsite : Url.SameSite (modulesAddress "m") (modulesAddress "n") := ⟨.inl rfl, rfl, rfl, rfl⟩
  have hkept := (resolve_absolute hrelative hdeep).2.1 [['.']] ['x'] (by decide +kernel) (by decide)
    (by decide)
  have hlost := (resolve_absolute hrelative htop).2.2.1 [['.']] [['x']] (by decide +kernel) (by decide)
    (by decide)
  exact ⟨hrelative, hdeep, htop, hkept,
    (resolve_absolute hrelative hdeep).2.2.2 hkept _ _ hsite, hlost, by decide +kernel,
    by decide +kernel, by decide +kernel⟩

end ModuleRunner.Module
