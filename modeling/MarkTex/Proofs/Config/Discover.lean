import MarkTex.Config.Discover

/-!
# Which configuration is found

The search goes through candidates in one order: from the first directory outwards, in each the
files with names for configurations and then the project file, and at last the files with such names
in the home directory. It finds the first candidate that is usable. A project file is usable if it
holds a table for this program that is not empty; one that is no TOML, or whose tables hold nothing
for this program, is passed over. But the search is ended with a fault by a candidate whose path is
too long, by a project file whose text has no value, and by one whose `tool` is no table
(`found_discover`).

## Shape of the proof

The searches of directories come apart into those of single candidates (`discover_eq_first`). What
is found at one candidate is told from the tree (`Candidate.found_search_iff`,
`Candidate.fault_search_iff`), and what the whole search finds is what the first candidate gives
that does not let it go on (`Search.found_first_iff`).
-/

namespace MarkTex.Config

/-! ## Searches in order -/

namespace Search

/-- A search that found nothing goes on with the next one and keeps its notices. -/
theorem orElse_of_none {search : Search} (h : search.found = .ok none) (next : Search) :
    search.orElse next = ⟨search.notices ++ next.notices, next.found⟩ := by
  rw [orElse, h]

/-- A search that found something or broke ends there. -/
theorem orElse_of_ne {search : Search} (h : search.found ≠ .ok none) (next : Search) :
    search.orElse next = search := by
  rw [orElse]
  split
  · rename_i hnone
    exact absurd hnone h
  · rfl

/-- An empty search goes on with the next one. -/
theorem empty_orElse (search : Search) : orElse {} search = search :=
  rfl

/-- Nothing is added by an empty search behind another. -/
theorem orElse_empty (search : Search) : search.orElse {} = search := by
  by_cases h : search.found = .ok none
  · rw [orElse_of_none h, List.append_nil, ← h]
  · exact orElse_of_ne h {}

/-- Searches go on from each other in whatever way they are put together. -/
theorem orElse_assoc (a b c : Search) : (a.orElse b).orElse c = a.orElse (b.orElse c) := by
  by_cases ha : a.found = .ok none
  · rw [orElse_of_none ha, orElse_of_none ha]
    by_cases hb : b.found = .ok none
    · rw [orElse_of_none hb, orElse_of_none (by exact hb), List.append_assoc]
    · rw [orElse_of_ne hb, orElse_of_ne (by exact hb)]
  · rw [orElse_of_ne ha, orElse_of_ne ha, orElse_of_ne ha]

/-- Searching in two lists is searching in the one and then in the other. -/
theorem first_append (searches others : List Search) :
    first (searches ++ others) = (first searches).orElse (first others) := by
  induction searches with
  | nil => exact (empty_orElse _).symm
  | cons search searches ih => rw [List.cons_append, first, first, ih, orElse_assoc]

theorem first_singleton (search : Search) : first [search] = search :=
  orElse_empty search

/-- Searching in lists of searches is searching in each of them in turn. -/
theorem first_flatten (searches : List (List Search)) :
    first searches.flatten = first (searches.map first) := by
  induction searches with
  | nil => rfl
  | cons some rest ih => rw [List.flatten_cons, first_append, ih, List.map_cons, first]

/-- Searches find nothing if none of them does. -/
theorem found_first_none_iff {searches : List Search} :
    (first searches).found = .ok none ↔ ∀ search ∈ searches, search.found = .ok none := by
  induction searches with
  | nil => exact ⟨fun _ _ h => absurd h List.not_mem_nil, fun _ => rfl⟩
  | cons search searches ih =>
    rw [first, List.forall_mem_cons, ← ih]
    by_cases h : search.found = .ok none
    · rw [orElse_of_none h]
      exact ⟨fun hrest => ⟨h, hrest⟩, And.right⟩
    · rw [orElse_of_ne h]
      exact ⟨fun hfound => absurd hfound h, fun hboth => absurd hboth.1 h⟩

/-- Searches end as the first of them that ends. -/
theorem found_first_iff {searches : List Search} {outcome : Except LoadFault (Option Path)}
    (houtcome : outcome ≠ .ok none) :
    (first searches).found = outcome ↔
      ∃ before search after, searches = before ++ search :: after ∧
        (∀ earlier ∈ before, earlier.found = .ok none) ∧ search.found = outcome := by
  constructor
  · intro h
    induction searches with
    | nil => exact absurd h.symm houtcome
    | cons search searches ih =>
      rw [first] at h
      -- the outcome is that of the first search that does not let it go on
      by_cases hsearch : search.found = .ok none
      · rw [orElse_of_none hsearch] at h
        obtain ⟨before, ending, after, rfl, hbefore, hending⟩ := ih h
        exact ⟨search :: before, ending, after, rfl, List.forall_mem_cons.2 ⟨hsearch, hbefore⟩,
          hending⟩
      · rw [orElse_of_ne hsearch] at h
        exact ⟨[], search, searches, rfl, fun _ hmem => absurd hmem List.not_mem_nil, h⟩
  · rintro ⟨before, search, after, rfl, hbefore, rfl⟩
    rw [first_append, orElse_of_none (found_first_none_iff.2 hbefore), first,
      orElse_of_ne houtcome]

end Search

/-! ## Candidates -/

/-- A path where a configuration is searched for. -/
inductive Candidate where
  /-- A file with one of the names for configurations. -/
  | named (path : Path)
  /-- A project file. -/
  | project (path : Path)

/-- The path of a candidate. -/
def Candidate.path : Candidate → Path
  | named path => path
  | project path => path

/-- The files of a directory with names for configurations, first choice first. -/
def namedCandidates (dir : List String) : List Candidate :=
  fileNames.map fun name => .named ((Path.absolute dir).child name)

/-- The candidates of a directory, first choice first. -/
def candidatesOf (dir : List String) : List Candidate :=
  namedCandidates dir ++ [.project ((Path.absolute dir).child projectFile)]

/-- **All candidates, first choice first**: those of each directory from the first one outwards, and
the files with names for configurations in the home directory. -/
def candidates (home start : List String) : List Candidate :=
  (outwards start).flatMap candidatesOf ++ namedCandidates home

/-- The value of a project file. -/
def projectValue (content : Bytes) : Except Fault Value :=
  (decode content).bind Toml.read

/-- A project file holds a table for this program that is not empty. -/
def HoldsSection (content : Bytes) : Prop :=
  ∃ entries tools inner, projectValue content = .ok (.map entries) ∧
    Value.entry? "tool" entries = some (.map tools) ∧
    Value.entry? sectionName tools = some (.map inner) ∧ inner ≠ []

/-- The contents of a project file end the search with a fault. -/
inductive Breaks (content : Bytes) : LoadFault → Prop
  /-- The text follows the grammar and has no value. -/
  | value {cause : ValueFault} :
    projectValue content = .error (.value cause) → Breaks content (.value cause)
  /-- What should hold tables is none. -/
  | noTables {entries : Entries} {tools : Value} :
    projectValue content = .ok (.map entries) → Value.entry? "tool" entries = some tools →
    (∀ inner, tools ≠ .map inner) → Breaks content (.noTables tools.qualifiedTypeName)

namespace Candidate

/-- There is a file at the candidate, and it is no project file without a configuration. -/
def Usable (tree : FileTree) : Candidate → Prop
  | named path => ∃ content, tree.read [] path = .ok content
  | project path => ∃ content, tree.read [] path = .ok content ∧ HoldsSection content

/-- The candidate ends the search with a fault. -/
inductive Halts (tree : FileTree) : Candidate → LoadFault → Prop
  | tooLong {c : Candidate} :
    tree.locate [] c.path = .error .nameTooLong → Halts tree c (.unreachable c.path .nameTooLong)
  | project {path : Path} {content : Bytes} {fault : LoadFault} :
    tree.read [] path = .ok content → Breaks content fault → Halts tree (.project path) fault

/-- The search goes on behind the candidate. -/
def Passed (tree : FileTree) (c : Candidate) : Prop :=
  ¬ c.Usable tree ∧ ∀ fault, ¬ c.Halts tree fault

/-- The search at a candidate. -/
def search (tree : FileTree) : Candidate → Search
  | named path => searchNamed tree path
  | project path => searchProject tree path

end Candidate

/-- The search is that of its candidates one after the other. -/
theorem discover_eq_first (tree : FileTree) (home start : List String) :
    discover tree home start = .first ((candidates home start).map (Candidate.search tree)) := by
  have hnames (dir : List String) :
      .first ((namedCandidates dir).map (Candidate.search tree)) = searchNames tree dir := by
    rw [namedCandidates, List.map_map]
    rfl
  have hdirectory (dir : List String) :
      .first ((candidatesOf dir).map (Candidate.search tree)) = searchDirectory tree dir := by
    rw [candidatesOf, List.map_append, Search.first_append, hnames, List.map_singleton,
      Search.first_singleton]
    rfl
  have hall : Search.first ∘ (fun dir => (candidatesOf dir).map (Candidate.search tree)) =
      searchDirectory tree :=
    funext hdirectory
  rw [candidates, List.map_append, Search.first_append, hnames, List.map_flatMap, List.flatMap_def,
    Search.first_flatten, List.map_map, hall]
  rfl

/-! ## Single candidates -/

/-- The search at a path ends with what the contents of the file there make of it, or because the
path is too long. -/
theorem found_searchAt_iff {tree : FileTree} {path : Path} {judge : Bytes → Search}
    {outcome : Except LoadFault (Option Path)} (houtcome : outcome ≠ .ok none) :
    (searchAt tree path judge).found = outcome ↔
      (∃ content, tree.read [] path = .ok content ∧ (judge content).found = outcome) ∨
        (tree.locate [] path = .error .nameTooLong ∧
          .error (.unreachable path .nameTooLong) = outcome) := by
  rw [searchAt, FileTree.read]
  split
  · rename_i content hfile
    simp [hfile]
  · rename_i hfault
    simp [hfault]
  · rename_i hfile hfault
    refine ⟨fun h => absurd h.symm houtcome, ?_⟩
    -- a place that holds no file, and one that is reached by no path, are passed over without a
    -- fault
    rintro (⟨content, hread, -⟩ | ⟨hlong, -⟩)
    · split at hread
      · exact nomatch hread
      · rename_i hplace
        exact absurd hplace (hfile _ _)
      · exact nomatch hread
      · exact nomatch hread
    · exact absurd hlong hfault

/-- The value of a TOML text is a table. -/
theorem exists_of_projectValue {content : Bytes} {v : Value} (h : projectValue content = .ok v) :
    ∃ entries, v = .map entries := by
  rw [projectValue] at h
  cases htext : decode content with
  | error fault =>
    rw [htext] at h
    exact nomatch h
  | ok t =>
    rw [htext, Except.bind, Toml.read] at h
    cases hread : Toml.readLines ((Toml.dropReturns t).length + 1) {} (Toml.dropReturns t) with
    | error fault =>
      rw [hread] at h
      exact nomatch h
    | ok reading =>
      rw [hread] at h
      exact ⟨_, (Except.ok.inj h).symm⟩

section Project

variable {path : Path} {content : Bytes}

/-- A project file without a value is malformed, or could not be decoded. -/
theorem readProject_of_error {fault : Fault} (h : projectValue content = .error fault) :
    readProject path content = .error (fault.ofFile (.malformedProject path)) := by
  have hread : Format.toml.read (.malformedProject path) content =
      (projectValue content).mapError (Fault.ofFile (.malformedProject path)) :=
    rfl
  rw [readProject, hread, h]
  rfl

/-- A project file with a value gives the entries for the program that are in it. -/
theorem readProject_of_ok {v : Value} (h : projectValue content = .ok v) :
    readProject path content = projectEntries path v := by
  have hread : Format.toml.read (.malformedProject path) content =
      (projectValue content).mapError (Fault.ofFile (.malformedProject path)) :=
    rfl
  rw [readProject, hread, h]
  rfl

/-- A project file with a table for this program that is not empty is found. -/
theorem HoldsSection.found (h : HoldsSection content) :
    (judgeProject path content).found = .ok (some path) := by
  obtain ⟨entries, tools, inner, hvalue, htool, hsection, hne⟩ := h
  have hread : readProject path content = .ok inner := by
    rw [readProject_of_ok hvalue, projectEntries, htool, Option.getD_some]
    dsimp only
    rw [hsection, Option.getD_some]
  rw [judgeProject, hread]
  dsimp only
  rw [if_neg (by simpa using hne)]

/-- Judging a project file that breaks ends the search with its fault. -/
theorem Breaks.found {fault : LoadFault} (h : Breaks content fault) :
    (judgeProject path content).found = .error fault := by
  cases h with
  | value hvalue =>
    rw [judgeProject, readProject_of_error hvalue]
    rfl
  | @noTables entries tools hvalue htool hno =>
    have hread : readProject path content = .error (.noTables tools.qualifiedTypeName) := by
      rw [readProject_of_ok hvalue, projectEntries, htool, Option.getD_some]
      split
      · exact absurd rfl (hno _)
      · rfl
    rw [judgeProject, hread]
    rfl

/-- Any other project file gives an empty configuration or a fault that is reported. -/
theorem readProject_of_passed (hsection : ¬ HoldsSection content)
    (hbreaks : ∀ fault, ¬ Breaks content fault) :
    readProject path content = .ok [] ∨
      ∃ fault, readProject path content = .error fault ∧ fault.isReported = true := by
  cases hvalue : projectValue content with
  | error fault =>
    cases fault with
    | malformed => exact .inr ⟨_, readProject_of_error hvalue, rfl⟩
    | value cause => exact absurd (.value hvalue) (hbreaks _)
  | ok v =>
    obtain ⟨entries, rfl⟩ := exists_of_projectValue hvalue
    rw [readProject_of_ok hvalue, projectEntries]
    cases htool : Value.entry? "tool" entries with
    | none => exact .inl rfl
    | some tools =>
      rw [Option.getD_some]
      split
      · rename_i tools
        cases hinner : Value.entry? sectionName tools with
        | none => exact .inl rfl
        | some inner =>
          rw [Option.getD_some]
          split
          · rename_i inner
            -- a table that is not empty would be found
            have hempty : inner = [] := Classical.byContradiction fun hne =>
              hsection ⟨entries, tools, inner, hvalue, htool, hinner, hne⟩
            exact .inl (congrArg _ hempty)
          · exact .inr ⟨_, rfl, rfl⟩
      · rename_i hno
        exact absurd (.noTables hvalue htool hno) (hbreaks _)

/-- A project file that holds nothing for the program and breaks nothing is passed over. -/
theorem found_judgeProject_none (hsection : ¬ HoldsSection content)
    (hbreaks : ∀ fault, ¬ Breaks content fault) : (judgeProject path content).found = .ok none := by
  rw [judgeProject]
  rcases readProject_of_passed hsection hbreaks with hread | ⟨fault, hread, hreported⟩
  · rw [hread]
    rfl
  · rw [hread]
    dsimp only
    rw [if_pos hreported]

/-- What a project file makes of the search is told from its contents. -/
theorem found_judgeProject_iff {outcome : Except LoadFault (Option Path)}
    (houtcome : outcome ≠ .ok none) :
    (judgeProject path content).found = outcome ↔
      (HoldsSection content ∧ .ok (some path) = outcome) ∨
        ∃ fault, Breaks content fault ∧ .error fault = outcome := by
  constructor
  · rintro rfl
    -- a file for the program, a file that breaks, and any other
    by_cases hsection : HoldsSection content
    · exact .inl ⟨hsection, hsection.found.symm⟩
    by_cases hbreaks : ∃ fault, Breaks content fault
    · obtain ⟨fault, hfault⟩ := hbreaks
      exact .inr ⟨fault, hfault, hfault.found.symm⟩
    · exact absurd (found_judgeProject_none hsection (not_exists.1 hbreaks)) houtcome
  · rintro (⟨hsection, rfl⟩ | ⟨fault, hfault, rfl⟩)
    · exact hsection.found
    · exact hfault.found

end Project

namespace Candidate

variable {tree : FileTree} {c : Candidate}

/-- A search of one candidate finds it just if it is usable. -/
theorem found_search_iff {path : Path} :
    (c.search tree).found = .ok (some path) ↔ c.Usable tree ∧ c.path = path := by
  have hfound : Except.ok (some path) ≠ (.ok none : Except LoadFault (Option Path)) := by simp
  cases c with
  | named place =>
    rw [search, searchNamed, found_searchAt_iff hfound, Usable, Candidate.path]
    simp
  | project place =>
    rw [search, searchProject, found_searchAt_iff hfound, Usable, Candidate.path]
    simp [found_judgeProject_iff hfound, ← exists_and_right, and_assoc]

/-- A search of one candidate ends with a fault just if the candidate halts it. -/
theorem fault_search_iff {fault : LoadFault} :
    (c.search tree).found = .error fault ↔ c.Halts tree fault := by
  have hfault : Except.error fault ≠ (.ok none : Except LoadFault (Option Path)) := by simp
  constructor
  · intro h
    cases c with
    | named place =>
      rw [search, searchNamed, found_searchAt_iff hfault] at h
      rcases h with ⟨content, -, hfound⟩ | ⟨hlong, heq⟩
      · exact nomatch hfound
      · obtain rfl := Except.error.inj heq
        exact .tooLong hlong
    | project place =>
      rw [search, searchProject, found_searchAt_iff hfault] at h
      rcases h with ⟨content, hread, hfound⟩ | ⟨hlong, heq⟩
      · rcases (found_judgeProject_iff hfault).1 hfound with ⟨-, heq⟩ | ⟨other, hbreaks, heq⟩
        · exact nomatch heq
        · obtain rfl := Except.error.inj heq
          exact .project hread hbreaks
      · obtain rfl := Except.error.inj heq
        exact .tooLong hlong
  · intro h
    cases h with
    | tooLong hlong =>
      cases c with
      | named place => exact (found_searchAt_iff hfault).2 (.inr ⟨hlong, rfl⟩)
      | project place => exact (found_searchAt_iff hfault).2 (.inr ⟨hlong, rfl⟩)
    | project hread hbreaks =>
      exact (found_searchAt_iff hfault).2 (.inl ⟨_, hread, hbreaks.found⟩)

/-- A candidate is passed just if the search of it finds nothing. -/
theorem passed_iff : c.Passed tree ↔ (c.search tree).found = .ok none := by
  rw [Passed]
  constructor
  · rintro ⟨husable, hhalts⟩
    cases hfound : (c.search tree).found with
    | error fault => exact absurd (fault_search_iff.1 hfound) (hhalts fault)
    | ok result =>
      cases result with
      | none => rfl
      | some path => exact absurd (found_search_iff.1 hfound).1 husable
  · intro hnone
    refine ⟨fun husable => ?_, fun fault hhalts => ?_⟩
    · have hfound := found_search_iff.2 ⟨husable, rfl⟩
      rw [hnone] at hfound
      exact nomatch hfound
    · have hfound := fault_search_iff.2 hhalts
      rw [hnone] at hfound
      exact nomatch hfound

end Candidate

/-! ## The whole search -/

section Discover

variable {tree : FileTree} {home start : List String}

/-- The search comes to a candidate: each one before it is passed. -/
def Reaches (tree : FileTree) (home start : List String) (c : Candidate) : Prop :=
  ∃ before after, candidates home start = before ++ c :: after ∧
    ∀ earlier ∈ before, earlier.Passed tree

/-- The search ends at a candidate that it comes to and that does not let it go on. -/
theorem outcome_discover_iff {outcome : Except LoadFault (Option Path)}
    (houtcome : outcome ≠ .ok none) :
    (discover tree home start).found = outcome ↔
      ∃ c, Reaches tree home start c ∧ (c.search tree).found = outcome := by
  rw [discover_eq_first, Search.found_first_iff houtcome]
  constructor
  · rintro ⟨before, search, after, hsplit, hbefore, hfound⟩
    obtain ⟨earlier, rest, hcandidates, rfl, hrest⟩ := List.map_eq_append_iff.1 hsplit
    obtain ⟨c, later, rfl, rfl, -⟩ := List.map_eq_cons_iff.1 hrest
    exact ⟨c, ⟨earlier, later, hcandidates,
      fun d hd => Candidate.passed_iff.2 (hbefore _ (List.mem_map_of_mem hd))⟩, hfound⟩
  · rintro ⟨c, ⟨before, after, hsplit, hbefore⟩, hfound⟩
    refine ⟨_, _, _, by rw [hsplit, List.map_append, List.map_cons], ?_, hfound⟩
    -- a candidate is passed just if its search finds nothing
    intro search hsearch
    obtain ⟨d, hd, rfl⟩ := List.mem_map.1 hsearch
    exact Candidate.passed_iff.1 (hbefore d hd)

/-- A file is found just if a usable candidate with its path is reached. -/
theorem discover_eq_some_iff {path : Path} :
    (discover tree home start).found = .ok (some path) ↔
      ∃ c, Reaches tree home start c ∧ c.Usable tree ∧ c.path = path := by
  rw [outcome_discover_iff (by simp)]
  simp only [Candidate.found_search_iff]

/-- Nothing is found just if every candidate is passed. -/
theorem discover_eq_none_iff :
    (discover tree home start).found = .ok none ↔ ∀ c ∈ candidates home start, c.Passed tree := by
  rw [discover_eq_first, Search.found_first_none_iff, List.forall_mem_map]
  simp only [Candidate.passed_iff]

/-- The search ends with a fault just if a candidate that halts it is reached. -/
theorem discover_eq_error_iff {fault : LoadFault} :
    (discover tree home start).found = .error fault ↔
      ∃ c, Reaches tree home start c ∧ c.Halts tree fault := by
  rw [outcome_discover_iff (by simp)]
  simp only [Candidate.fault_search_iff]

/-- **The search finds the first usable candidate** unless one before that halts it. It ends with a
fault exactly if it comes to a candidate that halts it; if there is none, it always ends with the
first usable candidate, or with no file if no candidate is usable. -/
theorem found_discover (tree : FileTree) (home start : List String) :
    (∀ path, (discover tree home start).found = .ok (some path) ↔
      ∃ c, Reaches tree home start c ∧ c.Usable tree ∧ c.path = path) ∧
    ((discover tree home start).found = .ok none ↔
      ∀ c ∈ candidates home start, c.Passed tree) ∧
    (∀ fault, (discover tree home start).found = .error fault ↔
      ∃ c, Reaches tree home start c ∧ c.Halts tree fault) ∧
    ((∀ c ∈ candidates home start, ∀ fault, ¬ c.Halts tree fault) →
      ∃ result, (discover tree home start).found = .ok result ∧
        (∀ path, result = some path ↔
          ∃ before c after, candidates home start = before ++ c :: after ∧
            (∀ earlier ∈ before, ¬ earlier.Usable tree) ∧ c.Usable tree ∧ c.path = path) ∧
        (result = none ↔ ∀ c ∈ candidates home start, ¬ c.Usable tree)) := by
  refine ⟨fun _ => discover_eq_some_iff, discover_eq_none_iff, fun _ => discover_eq_error_iff,
    fun hhalts => ?_⟩
  -- without candidates that halt the search, passed is not usable
  have hpassed {c : Candidate} (hc : c ∈ candidates home start) :
      c.Passed tree ↔ ¬ c.Usable tree :=
    and_iff_left (hhalts c hc)
  cases hfound : (discover tree home start).found with
  | error fault =>
    obtain ⟨c, ⟨before, after, hsplit, -⟩, hc⟩ := discover_eq_error_iff.1 hfound
    exact absurd hc (hhalts c (by simp [hsplit]) fault)
  | ok result =>
    refine ⟨result, rfl, fun path => ?_, ?_⟩
    · rw [← Except.ok.injEq, ← hfound, discover_eq_some_iff]
      constructor
      · rintro ⟨c, ⟨before, after, hsplit, hbefore⟩, hc⟩
        exact ⟨before, c, after, hsplit, fun earlier hearlier => (hbefore earlier hearlier).1, hc⟩
      · rintro ⟨before, c, after, hsplit, hbefore, hc⟩
        refine ⟨c, ⟨before, after, hsplit, fun earlier hearlier => ?_⟩, hc⟩
        exact (hpassed (by simp [hsplit, hearlier])).2 (hbefore earlier hearlier)
    · rw [← Except.ok.injEq, ← hfound, discover_eq_none_iff]
      exact forall₂_congr fun c hc => hpassed hc

end Discover

/-- A project file of another program, and a configuration in the home directory. -/
def otherTree : FileTree where
  entries := [(["home"], .directory), (["home", ".md2latex.toml"], .file []),
    (["pyproject.toml"], .file [0x5b, 0x61, 0x5d])]

/-- A project file for other programs only: it is passed over, and the file in the home directory is
found. -/
theorem found_discover_other :
    (∀ c ∈ candidates ["home"] [], ∀ fault, ¬ c.Halts otherTree fault) ∧
      ∃ before c after, candidates ["home"] [] = before ++ c :: after ∧
        (∀ earlier ∈ before, ¬ earlier.Usable otherTree) ∧ c.Usable otherTree ∧
        c.path = (Path.absolute ["home"]).child ".md2latex.toml" := by
  have hsearch : ∀ c ∈ candidates ["home"] [], (c.search otherTree).found.toBool = true := by
    decide
  have hhalts : ∀ c ∈ candidates ["home"] [], ∀ fault, ¬ c.Halts otherTree fault := by
    intro c hc fault hfault
    have hc := hsearch c hc
    rw [Candidate.fault_search_iff.2 hfault] at hc
    exact nomatch hc
  obtain ⟨result, hfound, hfirst, -⟩ := (found_discover otherTree ["home"] []).2.2.2 hhalts
  have hresult : result = some ((Path.absolute ["home"]).child ".md2latex.toml") :=
    (Except.ok.inj hfound).symm
  exact ⟨hhalts, (hfirst _).1 hresult⟩

/-! ## Project files that end the search -/

/-- A project file whose `tool` is a list of tables, and a configuration in the home directory. -/
def listTree : FileTree where
  entries := [(["home"], .directory), (["home", ".md2latex.toml"], .file []),
    (["pyproject.toml"], .file [0x5b, 0x5b, 0x74, 0x6f, 0x6f, 0x6c, 0x5d, 0x5d])]

/-- A project file without a table for this program can end the search in front of a usable
candidate. -/
theorem not_found_discover_list :
    Candidate.Usable listTree (.named ((Path.absolute ["home"]).child ".md2latex.toml")) ∧
      (discover listTree ["home"] []).found = .error (.noTables "list") :=
  ⟨⟨[], rfl⟩, rfl⟩

end MarkTex.Config
