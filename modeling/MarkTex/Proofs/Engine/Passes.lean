import MarkTex.Engine.Compile
import MarkTex.Proofs.Text.Lines

/-!
# Runs of an engine

An engine is run until a run fails or the passes are through. Each run finds the files of those
before it, so that what is left is from the last run that left one (`leftBy`).

A compilation succeeds just if no run failed and the file that is left is not empty
(`compile_runs`). Nothing is run where the document cannot be written, since names are accepted for
its files that no file can have (`place_iff`, `not_compiled_nullName`). Nor is anything where the
message about the first run cannot show the passes; and no outcome comes of runs the last of which
ends in a way that its message cannot show (`prepare_eq_ok`, `compile_of_prepared`).

## Shape of the proof

`Reached` tells how far the runs have come: all but the last were fine, and the last failed unless
the passes are through. It holds of every run by induction on the passes that are left
(`reached_runFrom`), and the number of runs, their end and the file that is left follow from it
(`Reached.runs_eq`, `Reached.isFine_iff`, `Reached.pdf_outcome`).
-/

namespace MarkTex.Engine

/-! ## The runs that are made -/

section

variable {run : Nat → Run} {passes done : Nat}

/-- The first of some runs that fails or takes too long. -/
def firstFailed? (run : Nat → Run) (passes : Nat) : Option Nat :=
  (List.range passes).find? fun n => !(run n).ending.isFine

/-- How many runs are made: up to the first that fails, or all. -/
def runCount (run : Nat → Run) (passes : Nat) : Nat :=
  (firstFailed? run passes).elim passes (· + 1)

/-- What the last of some runs that left something left. -/
def lastLeft? (left : Run → Option Bytes) (run : Nat → Run) (count : Nat) : Option Bytes :=
  (List.range count).reverse.findSome? fun n => left (run n)

/-- The files that some runs have left. -/
def leftBy (run : Nat → Run) (count : Nat) : Left where
  log := lastLeft? Run.log run count
  pdf := lastLeft? Run.pdf run count

/-- What is left after one more run is what this run left, or else what was left before. -/
theorem lastLeft?_succ (left : Run → Option Bytes) (run : Nat → Run) (count : Nat) :
    lastLeft? left run (count + 1) = (left (run count)).or (lastLeft? left run count) := by
  rw [lastLeft?, List.range_succ, List.reverse_append, List.reverse_singleton,
    List.singleton_append, List.findSome?_cons]
  cases left (run count) <;> rfl

/-- One more run adds its files to those that are left. -/
theorem leftBy_after (run : Nat → Run) (done : Nat) :
    (leftBy run done).after (run done) = leftBy run (done + 1) := by
  rw [leftBy, leftBy, Left.after, lastLeft?_succ, lastLeft?_succ]
  cases (run done).log <;> cases (run done).pdf <;> rfl

/-- How far runs have come after `done` runs and up to `passes` in all. -/
structure Reached (run : Nat → Run) (passes done : Nat) (progress : Progress) : Prop where
  more : done < progress.runs
  atMost : progress.runs ≤ passes
  fine : ∀ n, done ≤ n → n + 1 < progress.runs → (run n).ending.isFine = true
  stopped : progress.runs < passes → (run (progress.runs - 1)).ending.isFine = false
  ending : progress.ending = (run (progress.runs - 1)).ending
  left : progress.left = leftBy run progress.runs

/-- The runs go on as long as all is fine. -/
theorem reached_runFrom (run : Nat → Run) (done more : Nat) :
    Reached run (done + more + 1) done (runFrom run done (leftBy run done) more) := by
  induction more generalizing done with
  | zero =>
    rw [runFrom, leftBy_after]
    exact {
      more := Nat.lt_succ_self done
      atMost := Nat.le_refl _
      fine := fun n hn hlast => by
        dsimp only at hlast
        omega
      stopped := fun h => absurd h (Nat.lt_irrefl _)
      ending := rfl
      left := rfl }
  | succ more ih =>
    rw [runFrom, leftBy_after]
    by_cases hfine : (run done).ending.isFine = true
    · rw [if_pos hfine]
      have hrest := ih (done + 1)
      rw [Nat.add_right_comm done 1 more] at hrest
      exact {
        more := Nat.lt_of_succ_lt hrest.more
        atMost := hrest.atMost
        -- the runs are fine up to the last: this one by `hfine`, the later ones by induction
        fine := fun n hn hlast => by
          rcases Nat.eq_or_lt_of_le hn with rfl | hlater
          · exact hfine
          · exact hrest.fine n hlater hlast
        stopped := hrest.stopped
        ending := hrest.ending
        left := hrest.left }
    · rw [if_neg hfine]
      exact {
        more := Nat.lt_succ_self done
        atMost := by dsimp only; omega
        fine := fun n hn hlast => by
          dsimp only at hlast
          omega
        stopped := fun _ => Bool.eq_false_iff.2 hfine
        ending := rfl
        left := rfl }

section

variable {progress : Progress} (h : Reached run passes 0 progress)
include h

/-- All runs were fine if the last was. -/
theorem Reached.firstFailed?_eq_none
    (hfine : (run (progress.runs - 1)).ending.isFine = true) : firstFailed? run passes = none := by
  rw [firstFailed?, List.find?_range_eq_none]
  intro n hn
  rw [Bool.not_not]
  -- runs stop early for a failure alone, so that a fine last run is that of the last pass
  have hruns : progress.runs = passes := by
    rcases Nat.eq_or_lt_of_le h.atMost with heq | hlt
    · exact heq
    · rw [h.stopped hlt] at hfine
      exact nomatch hfine
  rcases Nat.eq_or_lt_of_le (Nat.succ_le_of_lt (hruns ▸ hn)) with hlast | hbefore
  · rw [← hlast] at hfine
    exact hfine
  · exact h.fine n (Nat.zero_le n) hbefore

/-- The last run is the first that failed, if it did. -/
theorem Reached.firstFailed?_eq_some
    (hfailed : (run (progress.runs - 1)).ending.isFine = false) :
    firstFailed? run passes = some (progress.runs - 1) := by
  have hmore := h.more
  have hmost := h.atMost
  rw [firstFailed?, List.find?_range_eq_some]
  refine ⟨?_, List.mem_range.2 (by omega), fun n hn => ?_⟩
  · rw [hfailed]
    rfl
  · rw [Bool.not_not]
    exact h.fine n (Nat.zero_le n) (by omega)

/-- The number of runs is one up to the first that failed, or all passes. -/
theorem Reached.runs_eq : progress.runs = runCount run passes := by
  have hmore := h.more
  rw [runCount]
  cases hlast : (run (progress.runs - 1)).ending.isFine with
  | true =>
    rw [h.firstFailed?_eq_none hlast]
    rcases Nat.eq_or_lt_of_le h.atMost with heq | hlt
    · exact heq
    · rw [h.stopped hlt] at hlast
      exact nomatch hlast
  | false =>
    rw [h.firstFailed?_eq_some hlast, Option.elim_some]
    omega

/-- The last run was fine just if no run failed. -/
theorem Reached.isFine_iff :
    progress.ending.isFine = true ↔ firstFailed? run passes = none := by
  rw [h.ending]
  cases hlast : (run (progress.runs - 1)).ending.isFine with
  | true => exact iff_of_true rfl (h.firstFailed?_eq_none hlast)
  | false =>
    rw [h.firstFailed?_eq_some hlast]
    exact iff_of_false (nofun) (nofun)

end

end

/-! ## The document's file -/

/-- A text without slashes names a file of that name. -/
theorem documentName_eq {options : Options} (h : '/' ∉ options.job.toList) :
    options.documentName = ⟨"", [options.job ++ ".tex"]⟩ := by
  have htoList : (options.job ++ ".tex").toList = options.job.toList ++ ['.', 't', 'e', 'x'] :=
    String.toList_append
  have hslash : '/' ∉ (options.job ++ ".tex").toList := by
    rw [htoList, List.mem_append, not_or]
    exact ⟨h, by decide⟩
  -- a path is absolute by the slashes that it starts with
  have hroot : Path.rootOf (options.job ++ ".tex").toList = "" := by
    have hstart : (options.job ++ ".tex").toList.takeWhile (· == '/') = [] := by
      rw [List.takeWhile_eq_nil_iff]
      intro hne hfirst
      rw [beq_iff_eq] at hfirst
      exact hslash (hfirst ▸ List.getElem_mem hne)
    rw [Path.rootOf, hstart]
    rfl
  rw [Options.documentName, Path.ofString, Path.ofText, hroot, Text.splitAt_eq_singleton hslash]
  have hname : (!((options.job ++ ".tex").toList.isEmpty ||
      decide ((options.job ++ ".tex").toList = ['.']))) = true := by
    rw [htoList]
    cases options.job.toList with
    | nil => rfl
    | cons c t => simp
  rw [List.filter_cons_of_pos (p := fun part => !(part.isEmpty || decide (part = ['.']))) hname,
    List.filter_nil, List.map_singleton, String.ofList_toList]

/-- A single name as a path. -/
theorem toString_single (name : String) : (⟨"", [name]⟩ : Path).toString = name := by
  rw [Path.toString]
  change "" ++ "/".intercalate [name] = name
  rw [String.empty_append, String.intercalate_singleton]

/-- A name that is not that of the directory around can be written to in an empty directory, if it
is not too long and does not hold the character that ends names. -/
theorem write_single {name : String} (hparent : name ≠ "..") (content : Bytes) :
    ((FileTree.write {} [] ⟨"", [name]⟩ content).map fun _ => ()) = .ok () ↔
      '\x00' ∉ name.toList ∧ name.utf8ByteSize ≤ FileTree.longestName := by
  rw [FileTree.write, FileTree.modify, FileTree.locate, toString_single]
  dsimp only
  rw [List.any_cons, List.any_nil, Bool.or_false, FileTree.follow, if_neg hparent]
  -- the path has one name only, so what is refused is a null character or a name too long
  by_cases hnull : '\x00' ∈ name.toList
  · rw [if_pos (List.contains_iff_mem.2 hnull)]
    exact iff_of_false nofun fun h => h.1 hnull
  rw [if_neg fun h => hnull (List.contains_iff_mem.1 h)]
  by_cases hlong : FileTree.longestName < name.utf8ByteSize
  · rw [if_pos hlong]
    have hsize : ¬ ('\x00' ∉ name.toList ∧ name.utf8ByteSize ≤ FileTree.longestName) :=
      fun h => absurd h.2 (Nat.not_le_of_lt hlong)
    by_cases hpath : FileTree.longestPath < name.utf8ByteSize
    · rw [if_pos hpath]
      exact iff_of_false nofun hsize
    · rw [if_neg hpath]
      exact iff_of_false nofun hsize
  · have hpath : ¬ FileTree.longestPath < name.utf8ByteSize := fun h =>
      hlong (Nat.lt_trans (by decide) h)
    rw [if_neg hpath, if_neg hlong]
    exact iff_of_true rfl ⟨hnull, Nat.not_lt.1 hlong⟩

/-- **The document can be written just if its name is that of a file**: without the character that
ends names, and not too long. -/
theorem place_iff {options : Options} (h : '/' ∉ options.job.toList) :
    options.place = .ok () ↔
      '\x00' ∉ options.job.toList ∧
        (options.job ++ ".tex").utf8ByteSize ≤ FileTree.longestName := by
  have hparent : options.job ++ ".tex" ≠ ".." := by
    intro hdots
    -- the last characters differ: the name ends in `x`
    have hlast := congrArg (fun name : String => name.toList.getLast?) hdots
    simp [String.toList_append, List.getLast?_append] at hlast
  have hnull : '\x00' ∉ (options.job ++ ".tex").toList ↔ '\x00' ∉ options.job.toList := by
    rw [String.toList_append, List.mem_append, or_iff_left (by decide)]
  rw [Options.place, documentName_eq h, write_single hparent, hnull]

/-! ## Outcomes -/

/-- An outcome tells the runs of the progress it comes from. -/
theorem runs_outcome (options : Options) (progress : Progress) :
    (progress.outcome options).runs = progress.runs := by
  rw [Progress.outcome]
  cases progress.ending <;> rfl

/-- A printable file comes of runs that were all fine and left it, and left it not empty. -/
theorem Reached.pdf_outcome {run : Nat → Run} {passes : Nat} {progress : Progress}
    (h : Reached run passes 0 progress) (options : Options) (pdf : Bytes) :
    (progress.outcome options).pdf = .ok pdf ↔
      firstFailed? run passes = none ∧
        lastLeft? Run.pdf run (runCount run passes) = some pdf ∧ pdf ≠ [] := by
  have hleft : progress.left.pdf = lastLeft? Run.pdf run (runCount run passes) := by
    rw [h.left, h.runs_eq]
    rfl
  rw [← h.isFine_iff, ← hleft, Progress.outcome]
  cases progress.ending with
  | timeout => exact iff_of_false nofun nofun
  | exit status printed =>
    dsimp only
    rw [Ending.isFine, beq_iff_eq]
    -- a file counts only behind a run that was fine, and only if it is not empty
    by_cases hstatus : status = 0
    · subst hstatus
      rw [if_neg (by decide)]
      cases progress.left.pdf with
      | none => exact iff_of_false nofun nofun
      | some bytes =>
        cases bytes with
        | nil =>
          refine iff_of_false nofun fun hleft => ?_
          exact hleft.2.2 (Option.some.inj hleft.2.1).symm
        | cons b bytes =>
          refine ⟨fun hok => ?_, fun hok => ?_⟩
          · obtain rfl := Except.ok.inj hok
            exact ⟨rfl, rfl, nofun⟩
          · obtain rfl := Option.some.inj hok.2.1
            rfl
    · rw [if_pos (bne_iff_ne.2 hstatus)]
      exact iff_of_false nofun fun hok => hstatus hok.1

/-- The runs of an engine as the options ask for them. -/
theorem reached_runAll (options : Options) (run : Nat → Run) :
    Reached run options.passes.val 0 (runAll options run) := by
  have hpasses : 0 + (options.passes.val - 1) + 1 = options.passes.val := by
    have hpos := options.passes.property
    omega
  have hreached := reached_runFrom run 0 (options.passes.val - 1)
  rw [hpasses] at hreached
  exact hreached

/-- What the runs of an engine come to: their number, all of one command, and the printable file
that is left, if no run failed and it is not empty. -/
structure Settles (options : Options) (engine : Installed) (outcome : Outcome) : Prop where
  runs : outcome.runs = runCount engine.run options.passes.val
  commands (directory : Path) : commands options (some engine) directory (.ok outcome) =
    List.replicate (runCount engine.run options.passes.val)
      (command options engine.path directory (directory.join options.documentName))
  success_iff : outcome.success = true ↔
    firstFailed? engine.run options.passes.val = none ∧
      ∃ pdf, lastLeft? Run.pdf engine.run options.passes.val = some pdf ∧ pdf ≠ []
  pdf_eq : outcome.success = true →
    outcome.pdf? = lastLeft? Run.pdf engine.run options.passes.val

/-- A compilation succeeded if there is a file. -/
theorem success_iff_exists {outcome : Outcome} :
    outcome.success = true ↔ ∃ pdf, outcome.pdf = .ok pdf := by
  rw [Outcome.success]
  cases outcome.pdf with
  | ok pdf => exact iff_of_true rfl ⟨pdf, rfl⟩
  | error failure => exact iff_of_false nofun fun ⟨_, h⟩ => nomatch h

/-- The file of an outcome is the one that it holds. -/
theorem pdf?_eq_some {outcome : Outcome} {pdf : Bytes} :
    outcome.pdf? = some pdf ↔ outcome.pdf = .ok pdf := by
  rw [Outcome.pdf?]
  cases outcome.pdf with
  | ok bytes =>
    exact ⟨fun h => congrArg Except.ok (Option.some.inj h),
      fun h => congrArg some (Except.ok.inj h)⟩
  | error failure => exact iff_of_false nofun nofun

/-- What the runs come to settles the outcome. -/
theorem settles_runAll (options : Options) (engine : Installed) :
    Settles options engine ((runAll options engine.run).outcome options) := by
  have hreached := reached_runAll options engine.run
  have hpdf := hreached.pdf_outcome options
  -- the file that is left is that of all passes where none failed
  have hall (h : firstFailed? engine.run options.passes.val = none) :
      runCount engine.run options.passes.val = options.passes.val := by
    rw [runCount, h, Option.elim_none]
  have hruns : ((runAll options engine.run).outcome options).runs =
      runCount engine.run options.passes.val := by
    rw [runs_outcome, hreached.runs_eq]
  refine ⟨hruns, fun directory => ?_, ?_, fun hsuccess => ?_⟩
  · rw [commands, runsOf, hruns]
  · rw [success_iff_exists]
    refine ⟨fun ⟨pdf, hok⟩ => ?_, fun ⟨hfine, pdf, hleft, hne⟩ => ⟨pdf, ?_⟩⟩
    · obtain ⟨hfine, hleft, hne⟩ := (hpdf pdf).1 hok
      rw [hall hfine] at hleft
      exact ⟨hfine, pdf, hleft, hne⟩
    · refine (hpdf pdf).2 ⟨hfine, ?_, hne⟩
      rw [hall hfine]
      exact hleft
  · obtain ⟨pdf, hok⟩ := success_iff_exists.1 hsuccess
    obtain ⟨hfine, hleft, -⟩ := (hpdf pdf).1 hok
    rw [hall hfine] at hleft
    rw [hleft, pdf?_eq_some]
    exact hok

/-- What an outcome says of its success, its file and its error agrees. -/
structure Coherent (outcome : Outcome) : Prop where
  isSome_iff : outcome.pdf?.isSome = true ↔ outcome.success = true
  nonempty_iff : (∃ pdf, outcome.pdf? = some pdf ∧ pdf ≠ []) ↔ outcome.success = true
  error_iff : outcome.error? = none ↔ outcome.success = true

/-- An outcome is coherent if its file is not empty. -/
theorem coherent_of_nonempty {outcome : Outcome}
    (h : ∀ pdf, outcome.pdf = .ok pdf → pdf ≠ []) : Coherent outcome where
  isSome_iff := by
    rw [Option.isSome_iff_exists, success_iff_exists]
    exact exists_congr fun pdf => pdf?_eq_some
  nonempty_iff := by
    rw [success_iff_exists]
    refine exists_congr fun pdf => ?_
    rw [pdf?_eq_some]
    exact ⟨And.left, fun hok => ⟨hok, h pdf hok⟩⟩
  error_iff := by
    rw [Outcome.error?, success_iff_exists]
    cases outcome.pdf with
    | ok pdf => exact iff_of_true rfl ⟨pdf, rfl⟩
    | error failure => exact iff_of_false nofun fun ⟨_, h⟩ => nomatch h

/-- The failure of an outcome is the one that it holds. -/
theorem error?_eq_some {outcome : Outcome} {failure : Failure} :
    outcome.error? = some failure ↔ outcome.pdf = .error failure := by
  rw [Outcome.error?]
  cases outcome.pdf with
  | ok pdf => exact iff_of_false nofun nofun
  | error cause =>
    exact ⟨fun h => congrArg Except.error (Option.some.inj h),
      fun h => congrArg some (Except.error.inj h)⟩

theorem mapError_eq_ok {ε δ α : Type} {f : ε → δ} {result : Except ε α} {a : α} :
    result.mapError f = .ok a ↔ result = .ok a := by
  cases result with
  | ok b => exact ⟨fun h => congrArg _ (Except.ok.inj h), fun h => congrArg _ (Except.ok.inj h)⟩
  | error fault => exact iff_of_false nofun nofun

theorem mapError_eq_error {ε δ α : Type} {f : ε → δ} {result : Except ε α} {d : δ} :
    result.mapError f = .error d ↔ ∃ e, result = .error e ∧ f e = d := by
  cases result with
  | ok b => exact iff_of_false nofun fun ⟨_, h, _⟩ => nomatch h
  | error fault =>
    exact ⟨fun h => ⟨fault, rfl, Except.error.inj h⟩,
      fun ⟨_, h, hd⟩ => congrArg _ ((congrArg f (Except.error.inj h)).trans hd)⟩

/-- What is handed on of a compilation: its file or, if there is none, why. -/
structure HandsOn (options : Options) (engine : Option Installed) : Prop where
  ok_iff (pdf : Bytes) : produce options engine = .ok pdf ↔
    ∃ outcome, compile options engine = .ok outcome ∧ outcome.pdf? = some pdf
  missing_iff (name : Name) : produce options engine = .error (.missing name) ↔
    engine = none ∧ options.engine = name
  failed_iff (cause : Failure) (log : Text) :
    produce options engine = .error (.failed cause log) ↔
      engine ≠ none ∧ ∃ outcome, compile options engine = .ok outcome ∧
        outcome.error? = some cause ∧ outcome.log = log
  broken_iff (fault : Fault) : produce options engine = .error (.broken fault) ↔
    compile options engine = .error fault

/-- Without an engine the compilation is refused, and nothing is handed on. -/
theorem handsOn_none (options : Options) : HandsOn options none where
  ok_iff pdf := by
    refine iff_of_false nofun fun ⟨outcome, hcompile, hpdf⟩ => ?_
    obtain rfl := Except.ok.inj hcompile
    exact nomatch hpdf
  missing_iff name :=
    ⟨fun h => ⟨rfl, Refusal.missing.inj (Except.error.inj h)⟩, fun ⟨_, h⟩ => h ▸ rfl⟩
  failed_iff cause log := iff_of_false nofun fun h => h.1 rfl
  broken_iff fault := iff_of_false nofun nofun

/-- A compilation that breaks hands on its fault. -/
theorem handsOn_of_error {options : Options} {engine : Installed} {fault : Fault}
    (h : compile options (some engine) = .error fault) : HandsOn options (some engine) := by
  have hproduce : produce options (some engine) = .error (.broken fault) := by
    rw [produce, h]
  refine ⟨fun pdf => ?_, fun name => ?_, fun failure log => ?_, fun other => ?_⟩
  · rw [hproduce, h]
    exact iff_of_false nofun fun ⟨_, hok, _⟩ => nomatch hok
  · rw [hproduce]
    exact iff_of_false nofun fun hnone => nomatch hnone.1
  · rw [hproduce, h]
    exact iff_of_false nofun fun ⟨_, _, hok, _⟩ => nomatch hok
  · rw [hproduce, h]
    exact ⟨fun heq => congrArg _ (Refusal.broken.inj (Except.error.inj heq)),
      fun heq => congrArg _ (congrArg _ (Except.error.inj heq))⟩

/-- A compilation that comes to an outcome hands on the file, or the failure with the log. -/
theorem handsOn_of_ok {options : Options} {engine : Installed} {outcome : Outcome}
    (h : compile options (some engine) = .ok outcome) : HandsOn options (some engine) := by
  have hproduce : produce options (some engine) =
      outcome.pdf.mapError fun cause => .failed cause outcome.log := by
    rw [produce, h]
  refine ⟨fun pdf => ?_, fun name => ?_, fun failure log => ?_, fun fault => ?_⟩
  · rw [hproduce, h, mapError_eq_ok, ← pdf?_eq_some]
    exact ⟨fun hpdf => ⟨_, rfl, hpdf⟩, fun ⟨_, hok, hpdf⟩ => Except.ok.inj hok ▸ hpdf⟩
  · rw [hproduce, mapError_eq_error]
    exact iff_of_false (fun ⟨_, _, heq⟩ => nomatch heq) fun hnone => nomatch hnone.1
  · rw [hproduce, h, mapError_eq_error]
    refine ⟨fun ⟨cause, hpdf, heq⟩ => ?_, fun ⟨_, _, hok, herror, hlog⟩ => ?_⟩
    · obtain ⟨rfl, rfl⟩ := Refusal.failed.inj heq
      exact ⟨nofun, _, rfl, error?_eq_some.2 hpdf, rfl⟩
    · obtain rfl := Except.ok.inj hok
      exact ⟨failure, error?_eq_some.1 herror, congrArg _ hlog⟩
  · rw [hproduce, h, mapError_eq_error]
    -- an outcome is no fault, so no refusal is a broken one
    exact iff_of_false (fun ⟨_, _, heq⟩ => nomatch heq) nofun

/-! ## Whole compilations -/

/-- How the last of the runs ends that are made. -/
def lastEnding (options : Options) (engine : Installed) : Ending :=
  (engine.run (runCount engine.run options.passes.val - 1)).ending

/-- The runs end as the last of them does. -/
theorem ending_runAll (options : Options) (engine : Installed) :
    (runAll options engine.run).ending = lastEnding options engine := by
  have hreached := reached_runAll options engine.run
  rw [hreached.ending, hreached.runs_eq, lastEnding]

/-- The engine is run if the name of the files can be shown, the document can be written and the
number of passes can be shown. -/
theorem prepare_eq_ok {options : Options} :
    options.prepare = .ok () ↔ options.jobName.isShowable = true ∧ options.place = .ok () ∧
      (Value.int options.passes.val).isShowable = true := by
  rw [Options.prepare]
  cases options.jobName.isShowable with
  | false => exact iff_of_false nofun fun h => nomatch h.1
  | true =>
    rw [if_neg (by decide)]
    cases options.place with
    | error cause => exact iff_of_false nofun fun h => nomatch h.2.1
    | ok =>
      cases (Value.int options.passes.val).isShowable with
      | false => exact iff_of_false nofun fun h => nomatch h.2.2
      | true => exact iff_of_true rfl ⟨rfl, rfl, rfl⟩

/-- Where the engine is not run, no run came before the fault. -/
theorem runs_of_prepare {options : Options} {fault : Fault} (h : options.prepare = .error fault) :
    fault.runs = 0 := by
  rw [Options.prepare] at h
  split at h
  · obtain rfl := Except.error.inj h
    rfl
  split at h
  · obtain rfl := Except.error.inj h
    rfl
  split at h
  · cases h
  · obtain rfl := Except.error.inj h
    rfl

/-- A compilation that gets to its runs has an outcome, unless no message can show how the last of
them ended. -/
theorem compile_of_prepared {options : Options} (h : options.prepare = .ok ())
    (engine : Installed) :
    compile options (some engine) =
      if (lastEnding options engine).isShowable options then
        .ok ((runAll options engine.run).outcome options)
      else .error (.unshowable (runCount engine.run options.passes.val)) := by
  rw [compile, h]
  dsimp only
  rw [ending_runAll, (reached_runAll options engine.run).runs_eq]

/-- What a compilation comes to once its engine is run: all its runs are of one command, and if a
message can show how the last of them ended, there is an outcome. -/
structure Runs (options : Options) (engine : Installed) : Prop where
  commands (directory : Path) :
    commands options (some engine) directory (compile options (some engine)) =
      List.replicate (runCount engine.run options.passes.val)
        (command options engine.path directory (directory.join options.documentName))
  settles : (lastEnding options engine).isShowable options = true →
    ∃ outcome, compile options (some engine) = .ok outcome ∧ Settles options engine outcome
  faults : (lastEnding options engine).isShowable options = false →
    compile options (some engine) =
      .error (.unshowable (runCount engine.run options.passes.val))

/-- A compilation that was prepared runs the engine, and comes to an outcome if the end of the last
run can be shown. -/
theorem runs_of_prepared {options : Options} (h : options.prepare = .ok ())
    (engine : Installed) : Runs options engine := by
  have hcompile := compile_of_prepared h engine
  have hsettles := settles_runAll options engine
  -- the message about the last run is put together before the outcome is
  cases hshown : (lastEnding options engine).isShowable options with
  | true =>
    rw [hshown, if_pos rfl] at hcompile
    refine ⟨fun directory => ?_, fun _ => ⟨_, hcompile, hsettles⟩, fun hnot => ?_⟩
    · rw [hcompile]
      exact hsettles.commands directory
    · rw [hshown] at hnot
      cases hnot
  | false =>
    rw [hshown, if_neg Bool.false_ne_true] at hcompile
    refine ⟨fun directory => ?_, fun hnot => ?_, fun _ => hcompile⟩
    · rw [hcompile]
      rfl
    · rw [hshown] at hnot
      cases hnot

/-- An outcome is coherent, whatever the engine did. -/
theorem coherent_of_compile {options : Options} {engine : Option Installed} {outcome : Outcome}
    (h : compile options engine = .ok outcome) : Coherent outcome := by
  cases engine with
  | none =>
    obtain rfl := Except.ok.inj h
    exact coherent_of_nonempty fun pdf hpdf => nomatch hpdf
  | some installed =>
    cases hprepare : options.prepare with
    | error fault =>
      rw [compile, hprepare] at h
      cases h
    | ok =>
      rw [compile_of_prepared hprepare] at h
      split at h
      · obtain rfl := Except.ok.inj h
        exact coherent_of_nonempty fun pdf hpdf =>
          (((reached_runAll options installed.run).pdf_outcome options pdf).1 hpdf).2.2
      · cases h

/-- Every compilation hands on what it comes to. -/
theorem handsOn (options : Options) (engine : Option Installed) : HandsOn options engine := by
  cases engine with
  | none => exact handsOn_none options
  | some installed =>
    cases hcompile : compile options (some installed) with
    | error fault => exact handsOn_of_error hcompile
    | ok outcome => exact handsOn_of_ok hcompile

/-- **A compilation runs its engine until a run fails or the passes are through, and succeeds just
if no run failed and the file that is left is not empty.** Without an engine nothing is run. Nor is
anything if the document cannot be written, which the name of the files decides, or if the passes
are too many to be shown. And runs have no outcome if the last of them ended in a way that no
message can show. -/
theorem compile_runs (options : Options) (engine : Option Installed) :
    (engine = none → ∃ outcome, compile options engine = .ok outcome ∧ outcome.runs = 0 ∧
      outcome.success = false ∧
      ∀ directory, commands options engine directory (.ok outcome) = []) ∧
    (∀ installed, engine = some installed →
      (∀ fault, options.prepare = .error fault →
        compile options engine = .error fault ∧ fault.runs = 0) ∧
      (options.prepare = .ok () → Runs options installed)) ∧
    (options.prepare = .ok () ↔ options.jobName.isShowable = true ∧ options.place = .ok () ∧
      (Value.int options.passes.val).isShowable = true) ∧
    ('/' ∉ options.job.toList →
      (options.place = .ok () ↔ '\x00' ∉ options.job.toList ∧
        (options.job ++ ".tex").utf8ByteSize ≤ FileTree.longestName)) ∧
    (∀ outcome, compile options engine = .ok outcome → Coherent outcome) ∧
    HandsOn options engine := by
  refine ⟨?_, ?_, prepare_eq_ok, place_iff, fun _ => coherent_of_compile, handsOn options engine⟩
  · rintro rfl
    exact ⟨_, rfl, rfl, rfl, fun directory => rfl⟩
  · rintro installed rfl
    refine ⟨fun fault hprepare => ⟨?_, runs_of_prepare hprepare⟩, fun hprepare => ?_⟩
    · rw [compile, hprepare]
    · exact runs_of_prepared hprepare installed

/-- The files of a compilation can be given a name with the character that ends names. -/
theorem not_compiled_nullName :
    ¬ ∀ (changes : Fields) (options : Options) (engine : Installed),
      OptionSet.ofChanges changes = .ok options →
        ∃ outcome, compile options (some engine) = .ok outcome ∧ Settles options engine outcome := by
  intro h
  have hoptions : OptionSet.ofChanges [("job_name", .str "a\x00b")] =
      .ok ({ jobName := .str "a\x00b" } : Options) := by
    rfl
  obtain ⟨outcome, hcompile, -⟩ := h _ _ ⟨"/usr/bin/xelatex", [{ pdf := some [0x25] }]⟩ hoptions
  have hfails : ∀ engine : Installed, compile ({ jobName := .str "a\x00b" } : Options) (some engine)
      = .error (.unplaced .nullCharacter) := fun engine => by
    rfl
  rw [hfails] at hcompile
  exact nomatch hcompile

end MarkTex.Engine
