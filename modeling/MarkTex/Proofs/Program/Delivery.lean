import MarkTex.Proofs.CommandLine.Erase
import MarkTex.Proofs.Program.Carry

/-!
# What runs deliver

A run reads its command line, sets up the handling of records and carries out a job. From what the
job gives to files and prints follows what the run does, whatever its end (`run_delivers`):

* if it is refused or cannot convert its source, it prints nothing and changes no file;
* the printable file, if it goes elsewhere than the document, is what came of the compilation;
* if it succeeds, all that was asked for is there, and the document is that of the source.

The file for records is left out throughout. Where both files go to one place, the document is left
there by a run whose compilation is refused (`not_compiled_samePlace`).

## Shape of the proof

A run comes to settings or it ends before (`run_answered`). With settings it ends in one of three
ways (`Ends`), from each of which the parts of `Delivers` are read off.
-/

namespace MarkTex.Program

variable {c : Context} {log : Option (List String)} {s middle after : State}

/-! ## Runs with settings -/

/-- No failure ends with the status of success. -/
theorem status?_ne_zero (failure : Failure) : failure.status? ≠ some 0 := by
  rw [Failure.status?.eq_def]
  split
  all_goals first
    | decide
    | split <;> decide

/-- A run that fails puts out nothing more and leaves the files as they are. -/
theorem fail_eq {failure : Failure} {ending : Ending} (h : fail s failure = (after, ending)) :
    after.output = s.output ∧ after.files = s.files ∧
      ∀ status, ending = .exit status → failure.status? = some status := by
  rw [fail] at h
  split at h
  · rename_i n hstatus
    obtain ⟨rfl, rfl⟩ := Prod.mk.inj h
    exact ⟨rfl, rfl, fun _ heq => hstatus.trans (congrArg some (Ending.exit.inj heq))⟩
  · obtain ⟨rfl, rfl⟩ := Prod.mk.inj h
    exact ⟨rfl, rfl, fun _ heq => Ending.noConfusion heq⟩

/-- A run that fails does not end with the status of success. -/
theorem ne_exit_zero_of_fail {failure : Failure} {ending : Ending}
    (h : fail s failure = (after, ending)) : ending ≠ .exit 0 :=
  fun heq => status?_ne_zero failure ((fail_eq h).2.2 0 heq)

/-- Notes stay notes if neither the output nor the files change. -/
theorem Notes.of_eq (h : Notes log s middle) (houtput : after.output = middle.output)
    (hfiles : after.files = middle.files) : Notes log s after :=
  ⟨houtput.trans h.output, hfiles ▸ h.files⟩

/-- How a run with settings ends. -/
inductive Ends (c : Context) (emit : Table.Options → Conversion.Emitter) (settings : Fields)
    (input : Text) (log : Option (List String)) (s after : State) : Ending → Prop where
  /-- Nothing was made, or it was not written. -/
  | stopped {ending : Ending} (hnotes : Notes log s after) (hfailed : ending ≠ .exit 0) :
    Ends c emit settings input log s after ending
  /-- The document was written, and the printable file was not. -/
  | unfinished {ending : Ending} {job : Job} {document : Text}
      (hjob : Job.ofSettings settings = .ok job)
      (hlate : ∀ status, ending = .exit status → 3 ≤ status)
      (hgives : Gives log (givenAt c job.output (Text.encode document)) s after) :
    Ends c emit settings input log s after ending
  /-- All was written. -/
  | finished {job : Job} {read : FileTree} {source document : Text}
      (hjob : Job.ofSettings settings = .ok job) (hread : FileTree.AgreeOff log s.files read)
      (hsource : readSource c read input = .ok source)
      (hmade : (job.make emit source).2 = .ok document)
      (hgives : Gives log (job.given c document) s after)
      (hprinted : after.output = s.output ++ job.printed source document)
      (houtput : job.output.truthy = true → (place? c job.output).isSome = true)
      (hpdf : job.pdf.truthy = true →
        (place? c job.pdf).isSome = true ∧ (job.pdf? c).isSome = true) :
    Ends c emit settings input log s after (.exit 0)

/-- What is given stays so if the files do not change. -/
theorem Gives.of_files_eq {given : List String → Option Bytes} (h : Gives log given s middle)
    (heq : after.files = middle.files) : Gives log given s after := by
  intro place hplace
  rw [heq]
  exact h place hplace

/-- A run with settings ends as its job does, after the handling of records was set up. -/
theorem runWith_ends {emit : Table.Options → Conversion.Emitter} {config : Option Path}
    {settings : Fields} {input : Text} {ending : Ending}
    (h : runWith c emit config settings input s = (after, ending)) :
    Ends c emit settings input (logPlace? c (settings.get "log_file")) s after ending := by
  rw [runWith] at h
  split at h
  · rename_i hrecords
    obtain ⟨rfl, rfl⟩ := Prod.mk.inj h
    exact .stopped (notes_configureRecords hrecords).1 nofun
  · rename_i ready hrecords
    obtain ⟨hready, hlogs⟩ := notes_configureRecords hrecords
    have hlogs := hlogs rfl
    have hnotes := hready.trans (notes_recordAll hlogs c (config.toList.map configNotice))
    have hrecorded := hlogs.recordAll c (config.toList.map configNotice)
    rw [convert] at h
    -- the run ends as its job did, or with the status of the failure that it came to
    cases hjob : Job.ofSettings settings with
    | error failure =>
      rw [hjob] at h
      obtain ⟨houtput, hfiles, -⟩ := fail_eq h
      exact .stopped (hnotes.of_eq houtput hfiles) (ne_exit_zero_of_fail h)
    | ok job =>
      rw [hjob] at h
      dsimp only at h
      split at h
      · rename_i hrun
        obtain ⟨houtput, hfiles, hstatus⟩ := fail_eq h
        cases Job.run_carried hrecorded hrun with
        | stopped hstopped =>
          exact .stopped ((hnotes.trans hstopped).of_eq houtput hfiles) (ne_exit_zero_of_fail h)
        | unfinished hlate hgives =>
          have hgiven := (hnotes.trans_gives hgives).of_files_eq hfiles
          exact .unfinished hjob (fun status heq => hlate status (hstatus status heq)) hgiven
      · rename_i hrun
        obtain ⟨rfl, rfl⟩ := Prod.mk.inj h
        cases Job.run_carried hrecorded hrun with
        | finished hsource hmade hgives hprinted houtput hpdf =>
          rw [hnotes.output] at hprinted
          exact .finished hjob hnotes.files hsource hmade (hnotes.trans_gives hgives) hprinted
            houtput hpdf

/-! ## Runs -/

/-- The settings and the input that a command line asks for, with the defaults of a configuration
and of the environment. -/
def askedWith? (c : Context) (files : FileTree) (arguments : List Text) (config : Option Path) :
    Option (Fields × Text) :=
  match (configure c files CommandLine.grammar config).2 with
  | .error _ => none
  | .ok g => ((g.withVariables c.environment).1.read arguments).toOption

/-- The settings and the input that a command line asks for, with the defaults of the configuration
that it chooses and of the environment. -/
def asked? (c : Context) (files : FileTree) (arguments : List Text) : Option (Fields × Text) :=
  match CommandLine.selectionGrammar.readSettings arguments with
  | .error _ => none
  | .ok (selection, _) =>
    match (configPath c files selection).found with
    | .error _ => none
    | .ok config => askedWith? c files arguments config

/-- Where the file for records is that a command line asks for. -/
def askedLog? (c : Context) (files : FileTree) (arguments : List Text) : Option (List String) :=
  (asked? c files arguments).bind fun asked => logPlace? c (asked.1.get "log_file")

/-- Before the handling of records is set up, records change the error stream alone. -/
theorem recordAll_of_initial (h : s.log = {}) (c : Context) (records : List Log.Record) :
    ∃ t, s.recordAll c records = s.complain t := by
  rw [State.recordAll, h]
  exact ⟨_, rfl⟩

/-- Nothing but the error stream changed, from a state in which records are not yet set up. -/
structure Silent (s after : State) : Prop where
  output : after.output = s.output
  files : after.files = s.files
  log : after.log = {}

/-- Before records have a handling, they change nothing. -/
theorem silent_recordAll (h : s.log = {}) (c : Context) (records : List Log.Record) :
    Silent s (s.recordAll c records) := by
  obtain ⟨t, ht⟩ := recordAll_of_initial h c records
  rw [ht]
  exact ⟨rfl, rfl, h⟩

/-- How a run ends without settings: nothing changed, and it was asked for help or the version or
it failed. -/
structure Unasked (s after : State) (ending : Ending) : Prop where
  files : after.files = s.files
  shown : ending = .exit 0 → after.output = s.output ++ CommandLine.helpText.toList ∨
    after.output = s.output ++ CommandLine.versionText.toList
  failed : ending ≠ .exit 0 → after.output = s.output

/-- A run that stops at its command line asks for nothing. -/
theorem unasked_stop {cause : CommandLine.Stop} {ending : Ending}
    (h : stop s cause = (after, ending)) : Unasked s after ending := by
  cases cause with
  | help =>
    obtain ⟨rfl, rfl⟩ := Prod.mk.inj h
    exact ⟨rfl, fun _ => .inl rfl, fun hne => absurd rfl hne⟩
  | version =>
    obtain ⟨rfl, rfl⟩ := Prod.mk.inj h
    exact ⟨rfl, fun _ => .inr rfl, fun hne => absurd rfl hne⟩
  | fault cause =>
    obtain ⟨rfl, rfl⟩ := Prod.mk.inj h
    exact ⟨rfl, fun heq => absurd (Ending.exit.inj heq) (by decide), fun _ => rfl⟩

/-- A run that fails at its configuration asks for nothing. -/
theorem unasked_fail {failure : Failure} {ending : Ending} (h : fail s failure = (after, ending)) :
    Unasked s after ending := by
  obtain ⟨houtput, hfiles, -⟩ := fail_eq h
  exact ⟨hfiles, fun heq => absurd heq (ne_exit_zero_of_fail h), fun _ => houtput⟩

/-- Nothing is asked for whatever was silent before. -/
theorem Unasked.of_silent {ending : Ending} (h : Unasked middle after ending)
    (hsilent : Silent s middle) : Unasked s after ending where
  files := h.files.trans hsilent.files
  shown := hsilent.output ▸ h.shown
  failed := hsilent.output ▸ h.failed

/-- How a run ends that has read its command line, or has failed to. -/
def Answered (c : Context) (emit : Table.Options → Conversion.Emitter)
    (asked : Option (Fields × Text)) (s after : State) (ending : Ending) : Prop :=
  match asked with
  | none => Unasked s after ending
  | some (settings, input) =>
    ∃ config ready, Silent s ready ∧
      runWith c emit config settings input ready = (after, ending)

/-- A run with its configuration chosen answers to the settings it comes to. -/
theorem runConfigured_answered {emit : Table.Options → Conversion.Emitter}
    {arguments : List Text} {config : Option Path} {ending : Ending} (hinitial : s.log = {})
    (h : runConfigured c emit config arguments s = (after, ending)) :
    Answered c emit (askedWith? c s.files arguments config) s after ending := by
  rw [runConfigured] at h
  rw [askedWith?]
  cases hconfigure : configure c s.files CommandLine.grammar config with
  | mk notices result =>
    rw [hconfigure] at h
    cases result with
    | error failure =>
      exact (unasked_fail h).of_silent (silent_recordAll hinitial c notices)
    | ok g =>
      dsimp only at h ⊢
      -- no handling is set up before the settings are read, so the notices change nothing
      have hsilent := silent_recordAll hinitial c
        (notices ++ (g.withVariables c.environment).2)
      cases hread : (g.withVariables c.environment).1.read arguments with
      | error cause =>
        rw [hread] at h
        exact (unasked_stop h).of_silent hsilent
      | ok asked =>
        rw [hread] at h
        exact ⟨config, _, hsilent, h⟩

/-- A run reads its command line first. -/
theorem run_answered {emit : Table.Options → Conversion.Emitter} {arguments : List Text}
    {ending : Ending} (hinitial : s.log = {}) (h : run c emit arguments s = (after, ending)) :
    Answered c emit (asked? c s.files arguments) s after ending := by
  rw [run] at h
  rw [asked?]
  cases hselection : CommandLine.selectionGrammar.readSettings arguments with
  | error cause =>
    rw [hselection] at h
    exact unasked_stop h
  | ok selected =>
    rw [hselection] at h
    dsimp only at h ⊢
    have hsilent := silent_recordAll hinitial c (configPath c s.files selected.1).notices
    cases hfound : (configPath c s.files selected.1).found with
    | error cause =>
      rw [hfound] at h
      obtain ⟨rfl, rfl⟩ := Prod.mk.inj h
      exact ⟨hsilent.files, nofun, fun _ => hsilent.output⟩
    | ok config =>
      rw [hfound] at h
      dsimp only at h ⊢
      -- the configuration is chosen from the files as they were, since nothing was written
      have hconfigured := runConfigured_answered hsilent.log h
      rw [hsilent.files] at hconfigured
      cases hasked : askedWith? c s.files arguments config with
      | none =>
        rw [hasked] at hconfigured
        exact Unasked.of_silent hconfigured hsilent
      | some asked =>
        rw [hasked] at hconfigured
        obtain ⟨_, ready, hready, hrun⟩ := hconfigured
        exact ⟨_, ready, ⟨hready.output.trans hsilent.output, hready.files.trans hsilent.files,
          hready.log⟩, hrun⟩

/-! ## What is delivered -/

/-- What a job makes is the body of the source or the whole document of it. -/
theorem Job.make_eq (job : Job) (emit : Table.Options → Conversion.Emitter) (source : Text) :
    (job.make emit source).2 =
      if job.bodyOnly then
        (Conversion.render (emit job.table) job.markdown (.str (String.ofList source))).body.map
          fun body => body.text
      else
        (Conversion.toDocument (emit job.table) job.markdown job.document job.forExport
          (.str (String.ofList source))).2 := by
  rw [Job.make, Conversion.toDocument]
  dsimp only
  cases (Conversion.render (emit job.table) job.markdown (.str (String.ofList source))).body with
  | error failure => cases job.bodyOnly <;> rfl
  | ok body => cases job.bodyOnly <;> rfl

/-- What is delivered of a job: the document of the source that was read. -/
structure Job.Delivered (job : Job) (c : Context) (emit : Table.Options → Conversion.Emitter)
    (files : FileTree) (input : Text) (log : Option (List String)) (source document : Text)
    (s : State) : Prop where
  /-- The source is what was read after the handling of records was set up. -/
  reads : ∃ ready, FileTree.AgreeOff log files ready ∧ readSource c ready input = .ok source
  /-- Records apart, it is what was there before the run. -/
  source_eq : (∀ place, sourcePlace? c input = some place → log ≠ some place) →
    readSource c files input = .ok source
  body_eq : job.bodyOnly = true →
    ∃ body, (Conversion.render (emit job.table) job.markdown
      (.str (String.ofList source))).body = .ok body ∧ body.text = document
  document_eq : job.bodyOnly = false →
    (Conversion.toDocument (emit job.table) job.markdown job.document job.forExport
      (.str (String.ofList source))).2 = .ok document
  /-- The document is in the file that was asked for. -/
  output : job.output.truthy = true → ∃ place, place? c job.output = some place ∧
    (place? c job.pdf ≠ some place → log ≠ some place →
      s.files.find place = some (.file (Text.encode document)))
  /-- So is its printable file. -/
  pdf : job.pdf.truthy = true → ∃ place pdf, place? c job.pdf = some place ∧
    Engine.produce job.engine (c.engine job.engine.engine) = .ok pdf ∧
    (log ≠ some place → s.files.find place = some (.file pdf))
  /-- No other file changed. -/
  others : ∀ place, place? c job.output ≠ some place → place? c job.pdf ≠ some place →
    log ≠ some place → s.files.find place = files.find place
  /-- The document is printed if no file was asked for, and the counts may be otherwise. -/
  printed : s.output = job.printed source document

/-- What a run delivers, whatever its end. -/
structure Delivers (c : Context) (emit : Table.Options → Conversion.Emitter)
    (arguments : List Text) (files : FileTree) (s : State) (ending : Ending) : Prop where
  /-- A run that is refused or fails to convert leaves all but its records as it was. -/
  refused : ending = .exit 1 ∨ ending = .exit 2 → s.output = [] ∧
    ∀ place, askedLog? c files arguments ≠ some place → s.files.find place = files.find place
  /-- Where the printable file goes, there is what was there or what came of the compilation. -/
  compiled : ∀ settings input job place, asked? c files arguments = some (settings, input) →
    Job.ofSettings settings = .ok job → place? c job.pdf = some place →
    place? c job.output ≠ some place → askedLog? c files arguments ≠ some place →
    s.files.find place = files.find place ∨
      ∃ pdf, Engine.produce job.engine (c.engine job.engine.engine) = .ok pdf ∧
        s.files.find place = some (.file pdf)
  /-- A run that succeeds showed the options or the version, or it delivers its job. -/
  done : ending = .exit 0 →
    (asked? c files arguments = none ∧ s.files = files ∧
      (s.output = CommandLine.helpText.toList ∨ s.output = CommandLine.versionText.toList)) ∨
    ∃ settings input job source document, asked? c files arguments = some (settings, input) ∧
      Job.ofSettings settings = .ok job ∧
      job.Delivered c emit files input (askedLog? c files arguments) source document s

/-- The source is what it was before anything was written, if it stands elsewhere than the records.
-/
theorem readSource_of_agreeOff {before ready : FileTree} {input source : Text}
    (h : FileTree.AgreeOff log before ready)
    (hplace : ∀ place, sourcePlace? c input = some place → log ≠ some place)
    (hread : readSource c ready input = .ok source) : readSource c before input = .ok source := by
  rw [readSource] at hread ⊢
  by_cases hstream : input = ['-']
  · rw [if_pos hstream] at hread ⊢
    exact hread
  · rw [if_neg hstream] at hread ⊢
    rw [readText] at hread ⊢
    split at hread
    · cases hread
    rename_i bytes hbytes
    have hsame := h.read_eq (hplace _ (by rw [sourcePlace?, if_neg hstream])) hbytes
    rw [hsame]
    exact hread

/-- A target that is not asked for has no place. -/
theorem place?_eq_none {target : Value} (h : target.truthy = false) : place? c target = none := by
  rw [place?, h]
  rfl

/-- The printable file of a job is what the compilation gave. -/
theorem Job.pdf?_eq_some {job : Job} {pdf : Bytes} (h : job.pdf? c = some pdf) :
    Engine.produce job.engine (c.engine job.engine.engine) = .ok pdf := by
  rw [Job.pdf?] at h
  split at h
  · exact CommandLine.eq_ok_of_toOption h
  · cases h

section

variable {job : Job} {document : Text} {place : List String}

/-- Nothing is given to any place but that of the target. -/
theorem givenAt_of_ne {target : Value} (h : place? c target ≠ some place) (content : Bytes) :
    givenAt c target content place = none := by
  rw [givenAt, if_neg h]

/-- Elsewhere than at the printable file a job gives the document only. -/
theorem Job.given_of_ne (h : place? c job.pdf ≠ some place) (document : Text) :
    job.given c document place = givenAt c job.output (Text.encode document) place := by
  rw [Job.given, Job.givenPdf, if_neg h, Option.none_or]

/-- The file of the document holds it, if the printable file goes elsewhere. -/
theorem find_document (hgives : Gives log (job.given c document) s after)
    (hplace : place? c job.output = some place) (hpdf : place? c job.pdf ≠ some place)
    (hlog : log ≠ some place) :
    after.files.find place = some (.file (Text.encode document)) := by
  rw [hgives place hlog, Job.given_of_ne hpdf, givenAt, if_pos hplace]
  rfl

/-- The printable file is what came of the compilation. -/
theorem find_printable {pdf : Bytes} (hgives : Gives log (job.given c document) s after)
    (hplace : place? c job.pdf = some place) (hpdf : job.pdf? c = some pdf)
    (hlog : log ≠ some place) : after.files.find place = some (.file pdf) := by
  rw [hgives place hlog, Job.given, Job.givenPdf, if_pos hplace, hpdf]
  rfl

/-- Places that are neither a target nor that of the records keep what they hold. -/
theorem find_elsewhere (hgives : Gives log (job.given c document) s after)
    (houtput : place? c job.output ≠ some place) (hpdf : place? c job.pdf ≠ some place)
    (hlog : log ≠ some place) : after.files.find place = s.files.find place := by
  rw [hgives place hlog, Job.given_of_ne hpdf, givenAt_of_ne houtput]
  rfl

end

/-- A run that asks for a printable file elsewhere than its document changes its place to what came
of the compilation or not at all. -/
theorem Ends.find_pdf {emit : Table.Options → Conversion.Emitter} {settings : Fields} {input : Text}
    {ending : Ending} {job : Job} {place : List String}
    (h : Ends c emit settings input log s after ending) (hjob : Job.ofSettings settings = .ok job)
    (hplace : place? c job.pdf = some place) (houtput : place? c job.output ≠ some place)
    (hlog : log ≠ some place) :
    after.files.find place = s.files.find place ∨
      ∃ pdf, Engine.produce job.engine (c.engine job.engine.engine) = .ok pdf ∧
        after.files.find place = some (.file pdf) := by
  cases h with
  | stopped hnotes => exact .inl (hnotes.files.find_eq hlog)
  | unfinished hsame hlate hgives =>
    -- the document was written, which goes elsewhere
    obtain rfl := Except.ok.inj (hjob.symm.trans hsame)
    left
    rw [hgives place hlog, givenAt_of_ne houtput]
    rfl
  | finished hsame hread hsource hmade hgives hprinted hwanted hpdf =>
    obtain rfl := Except.ok.inj (hjob.symm.trans hsame)
    have htruthy : job.pdf.truthy = true := by
      cases hfalsy : job.pdf.truthy with
      | true => rfl
      | false =>
        rw [place?_eq_none hfalsy] at hplace
        cases hplace
    obtain ⟨pdf, hproduced⟩ := Option.isSome_iff_exists.1 (hpdf htruthy).2
    exact .inr ⟨pdf, Job.pdf?_eq_some hproduced, find_printable hgives hplace hproduced hlog⟩

/-- A run with settings that succeeds delivers its job. -/
theorem Ends.delivered {emit : Table.Options → Conversion.Emitter} {settings : Fields}
    {input : Text} (h : Ends c emit settings input log s after (.exit 0))
    (houtput : s.output = []) :
    ∃ job source document, Job.ofSettings settings = .ok job ∧
      job.Delivered c emit s.files input log source document after := by
  cases h with
  | stopped hnotes hfailed => exact absurd rfl hfailed
  -- a late failure has a status of its own, which is not zero
  | unfinished hjob hlate => exact absurd (hlate 0 rfl) (by decide)
  | finished hjob hread hsource hmade hgives hprinted hwanted hpdf =>
    rename_i job read source document
    rw [Job.make_eq] at hmade
    refine ⟨job, source, document, hjob, ?_⟩
    exact {
      reads := ⟨read, hread, hsource⟩
      source_eq := fun hplace => readSource_of_agreeOff hread hplace hsource
      body_eq := fun hbody => by
        rw [if_pos hbody] at hmade
        cases hrender : (Conversion.render (emit job.table) job.markdown
            (.str (String.ofList source))).body with
        | error failure =>
          rw [hrender] at hmade
          cases hmade
        | ok body =>
          rw [hrender] at hmade
          exact ⟨body, rfl, Except.ok.inj hmade⟩
      document_eq := fun hbody => by
        rw [hbody, if_neg Bool.false_ne_true] at hmade
        exact hmade
      output := fun htruthy => by
        obtain ⟨place, hplace⟩ := Option.isSome_iff_exists.1 (hwanted htruthy)
        exact ⟨place, hplace, fun hother hlog => find_document hgives hplace hother hlog⟩
      pdf := fun htruthy => by
        obtain ⟨hsome, hproduced⟩ := hpdf htruthy
        obtain ⟨place, hplace⟩ := Option.isSome_iff_exists.1 hsome
        obtain ⟨pdf, hproduced⟩ := Option.isSome_iff_exists.1 hproduced
        exact ⟨place, pdf, hplace, Job.pdf?_eq_some hproduced,
          fun hlog => find_printable hgives hplace hproduced hlog⟩
      others := fun place hother hpdf hlog => find_elsewhere hgives hother hpdf hlog
      printed := by
        rw [hprinted, houtput]
        rfl }

/-- The statuses of refusals are not that of success. -/
theorem ne_exit_zero_of_refused {ending : Ending} (h : ending = .exit 1 ∨ ending = .exit 2) :
    ending ≠ .exit 0 := by
  rintro rfl
  obtain heq | heq := h
  · exact absurd (Ending.exit.inj heq) (by decide)
  · exact absurd (Ending.exit.inj heq) (by decide)

/-- A run without settings delivers nothing, whatever its end. -/
theorem delivers_of_unasked {emit : Table.Options → Conversion.Emitter} {arguments : List Text}
    {files : FileTree} {ending : Ending} (hasked : asked? c files arguments = none)
    (h : Unasked { files := files } after ending) :
    Delivers c emit arguments files after ending where
  refused hstatus := by
    exact ⟨h.failed (ne_exit_zero_of_refused hstatus), fun place _ => by rw [h.files]⟩
  compiled settings input job place hsome := by
    rw [hasked] at hsome
    cases hsome
  done hdone := by
    have hempty : ({ files := files } : State).output = [] := rfl
    have hshown := h.shown hdone
    rw [hempty, List.nil_append, List.nil_append] at hshown
    exact .inl ⟨hasked, h.files, hshown⟩

/-- A run with settings delivers what its job does. -/
theorem delivers_of_ends {emit : Table.Options → Conversion.Emitter} {arguments : List Text}
    {files : FileTree} {settings : Fields} {input : Text} {ready : State} {ending : Ending}
    (hasked : asked? c files arguments = some (settings, input))
    (hready : Silent { files := files } ready)
    (h : Ends c emit settings input (askedLog? c files arguments) ready after ending) :
    Delivers c emit arguments files after ending where
  refused hstatus := by
    cases h with
    | stopped hnotes =>
      refine ⟨hnotes.output.trans hready.output, fun place hplace => ?_⟩
      rw [hnotes.files.find_eq hplace, hready.files]
    | unfinished _ hlate =>
      -- a job that failed late has no status of a refusal
      obtain heq | heq := hstatus
      · exact absurd (hlate 1 heq) (by decide)
      · exact absurd (hlate 2 heq) (by decide)
    | finished => exact absurd rfl (ne_exit_zero_of_refused hstatus)
  compiled others text job place hsome hjob hplace houtput hlog := by
    obtain ⟨rfl, rfl⟩ := Prod.mk.inj (Option.some.inj (hasked.symm.trans hsome))
    have hfind := h.find_pdf hjob hplace houtput hlog
    rw [hready.files] at hfind
    exact hfind
  done hdone := by
    subst hdone
    obtain ⟨job, source, document, hjob, hdelivered⟩ := h.delivered hready.output
    rw [hready.files] at hdelivered
    exact .inr ⟨settings, input, job, source, document, hasked, hjob, hdelivered⟩

/-- **What a run delivers.** A run that is refused or fails to convert prints nothing and changes no
file. A printable file that goes elsewhere than its document is what came of the compilation. A run
that succeeds delivers the document of its source, all that was asked for. -/
theorem run_delivers (c : Context) (emit : Table.Options → Conversion.Emitter)
    (arguments : List Text) (files : FileTree) :
    Delivers c emit arguments files (run c emit arguments { files := files }).1
      (run c emit arguments { files := files }).2 := by
  cases hrun : run c emit arguments { files := files } with
  | mk after ending =>
    have hanswered := run_answered rfl hrun
    -- a run that comes to no settings has nothing to deliver
    cases hasked : asked? c files arguments with
    | none =>
      rw [hasked] at hanswered
      exact delivers_of_unasked hasked hanswered
    | some asked =>
      obtain ⟨settings, input⟩ := asked
      rw [hasked] at hanswered
      obtain ⟨config, ready, hready, hwith⟩ := hanswered
      have hlog : askedLog? c files arguments = logPlace? c (settings.get "log_file") := by
        rw [askedLog?, hasked]
        rfl
      have hends := runWith_ends hwith
      rw [← hlog] at hends
      exact delivers_of_ends hasked hready hends

/-! ## One place for both files -/

/-- The empty source has no tokens. -/
theorem tokenize_nil (options : Markdown.Options) : Markdown.tokenize options [] = [] := by
  have hsoft (markup : Bool) : Markdown.tokenizeSoft markup [] = [] := by
    cases markup <;> cbv
  rw [Markdown.tokenize, hsoft]
  exact ite_self _

/-- The body of no tokens is empty. -/
theorem emitter_nil (options : Table.Options) : Conversion.emitter options [] = .ok {} := by
  rw [Conversion.emitter, Body.render, Body.renderBlocks.eq_def]
  rfl

/-- Where both files go to one place and no engine is installed, the document is left where the
printable file should be. The tokens of the source are emitted as the program emits them. -/
theorem not_compiled_samePlace :
    ¬ ∀ (c : Context) (emit : Table.Options → Conversion.Emitter) (arguments : List Text)
      (files : FileTree) (settings : Fields) (input source : Text) (job : Job)
      (place : List String),
      asked? c files arguments = some (settings, input) → Job.ofSettings settings = .ok job →
      readSource c files input = .ok source →
      emit job.table (Markdown.tokenize job.markdown source) =
        Conversion.emitter job.table (Markdown.tokenize job.markdown source) →
      place? c job.pdf = some place → askedLog? c files arguments ≠ some place →
      (run c emit arguments { files := files }).1.files.find place = files.find place ∨
        ∃ pdf, Engine.produce job.engine (c.engine job.engine.engine) = .ok pdf ∧
          (run c emit arguments { files := files }).1.files.find place = some (.file pdf) := by
  intro h
  let files : FileTree := ⟨[(["t.md"], .file [])]⟩
  let arguments : List Text :=
    ["--no-config", "t.md", "-o", "x.tex", "--pdf", "x.tex"].map String.toList
  let emit : Table.Options → Conversion.Emitter := fun _ _ => .ok {}
  have hjob : ((asked? {} files arguments).bind fun asked =>
      (Job.ofSettings asked.1).toOption.map fun job => (asked.2, place? {} job.pdf)) =
        some ("t.md".toList, some ["x.tex"]) := by
    decide +kernel
  have hsource : readSource {} files "t.md".toList = .ok [] := by
    rfl
  have hlog : askedLog? {} files arguments = none := by
    decide +kernel
  have hwritten : ((run {} emit arguments { files := files }).1.files.find ["x.tex"]).isSome =
      true := by
    decide +kernel
  obtain ⟨⟨settings, input⟩, hasked, hsettings⟩ := Option.bind_eq_some_iff.1 hjob
  obtain ⟨job, hok, hplaces⟩ := Option.map_eq_some_iff.1 hsettings
  obtain ⟨rfl, hplace⟩ := Prod.mk.inj hplaces
  have hemit : emit job.table (Markdown.tokenize job.markdown []) =
      Conversion.emitter job.table (Markdown.tokenize job.markdown []) := by
    rw [tokenize_nil, emitter_nil]
  have hnone : askedLog? {} files arguments ≠ some ["x.tex"] := by
    rw [hlog]
    nofun
  -- the file is new, and nothing came of the compilation
  obtain hsame | ⟨pdf, hproduce, -⟩ := h {} emit arguments files settings "t.md".toList [] job
    ["x.tex"] hasked (CommandLine.eq_ok_of_toOption hok) hsource hemit hplace hnone
  · rw [hsame] at hwritten
    cases hwritten
  · cases hproduce

end MarkTex.Program
