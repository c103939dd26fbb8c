import MarkTex.Proofs.Program.Notes

/-!
# How far a job is carried out

A job writes two files at most, besides that for records: its document and its printable file. Where
a file goes is told by its path alone (`place?`), and what the places hold afterwards by what the
job gives them (`Gives`, `Job.given`).

A job that fails has written nothing, or its document alone; one that does not has written all that
was asked for (`Job.run_carried`).

## Shape of the proof

Each step is told apart once: what it gives to places, what it prints, and that the failures it ends
in come late (`Failure.IsLate`), so that their exit status shows that all was read and converted.
What two steps give adds up, the later over the earlier (`Gives.trans`).
-/

namespace MarkTex.Program

variable {c : Context} {log : Option (List String)} {s middle after : State}

/-! ## Places -/

/-- Where the file is that a setting names, if it names one. -/
def place? (c : Context) (target : Value) : Option (List String) :=
  if target.truthy then (pathOf target).toOption.map fun path => path.resolve c.directory else none

/-- Where the file of a source is, if it is not the input stream. -/
def sourcePlace? (c : Context) (input : Text) : Option (List String) :=
  if input = ['-'] then none else some ((Path.ofText input).resolve c.directory)

/-- A failure that comes up when all is read and converted has no exit status of those before. -/
def Failure.IsLate (failure : Failure) : Prop :=
  ∀ status, failure.status? = some status → 3 ≤ status

/-- A failure that ends the run without a status is late. -/
theorem Failure.isLate_of_none {failure : Failure} (h : failure.status? = none) :
    failure.IsLate := by
  intro status hstatus
  rw [h] at hstatus
  exact nomatch hstatus

/-- A failure with a status from three on is late. -/
theorem Failure.isLate_of_some {failure : Failure} {status : Nat}
    (h : failure.status? = some status) (hlate : 3 ≤ status) : failure.IsLate := by
  intro other hstatus
  rw [h] at hstatus
  exact Option.some.inj hstatus ▸ hlate

/-- A file that cannot be written is a late failure. -/
theorem isLate_ofWriting (path : Path) (cause : FileFault) :
    (Failure.ofWriting path cause).IsLate := by
  cases cause with
  | nullCharacter => exact Failure.isLate_of_none rfl
  | _ => exact Failure.isLate_of_some rfl (by decide)

/-- A value that is no path is a late failure. -/
theorem isLate_pathOf {target : Value} {failure : Failure} (h : pathOf target = .error failure) :
    failure.IsLate := by
  rw [pathOf.eq_def] at h
  split at h
  · exact nomatch h
  · obtain rfl := Except.error.inj h
    exact Failure.isLate_of_none rfl
  · obtain rfl := Except.error.inj h
    exact Failure.isLate_of_none rfl

/-- A compilation that is refused, and one that breaks, is a late failure. -/
theorem isLate_ofRefusal (document : Path) (refusal : Engine.Refusal) :
    (Failure.ofRefusal document refusal).IsLate := by
  cases refusal with
  | broken fault =>
    cases fault with
    | unplaced cause => exact Failure.isLate_of_none rfl
    | unshowable runs => exact Failure.isLate_of_none rfl
  | _ => exact Failure.isLate_of_some rfl (by decide)

/-! ## Writing -/

/-- A file that is written holds what was written, and no file changes but this one and that for
records. -/
theorem writeTo_eq_ok {target : Value} {content : Bytes} (hlogs : s.LogsTo log)
    (htruthy : target.truthy = true) (h : s.writeTo c target content = .ok after) :
    after.output = s.output ∧ after.LogsTo log ∧
      ∃ written, place? c target = some written ∧ ∀ place, log ≠ some place →
        after.files.find place =
          if place = written then some (.file content) else s.files.find place := by
  rw [State.writeTo] at h
  split at h
  · exact nomatch h
  rename_i path hpath
  rw [State.writeFile] at h
  split at h
  · exact nomatch h
  rename_i files hwrite
  obtain rfl := Except.ok.inj h
  have hfiles : State.LogsTo { s with files := files } log := hlogs.of_log_eq rfl
  have hnotes := notes_recordAll hfiles c [writtenNotice logger path]
  -- the record of the writing comes after it, and may go to the file for records
  refine ⟨hnotes.output, hfiles.recordAll c _, path.resolve c.directory, ?_, fun place hplace => ?_⟩
  · rw [place?, if_pos htruthy, hpath]
    rfl
  · rw [← FileTree.write_eq_ok hwrite place]
    exact hnotes.files.find_eq hplace

/-- Whatever keeps a file from being written is a late failure. -/
theorem isLate_writeTo {target : Value} {content : Bytes} {failure : Failure}
    (h : s.writeTo c target content = .error failure) : failure.IsLate := by
  rw [State.writeTo] at h
  split at h
  · rename_i hpath
    obtain rfl := Except.error.inj h
    exact isLate_pathOf hpath
  rw [State.writeFile] at h
  split at h
  · obtain rfl := Except.error.inj h
    exact isLate_ofWriting _ _
  · exact nomatch h

/-- The trees differ in what some places are given at most, and in the file for records. -/
def Gives (log : Option (List String)) (given : List String → Option Bytes) (s after : State) :
    Prop :=
  ∀ place, log ≠ some place →
    after.files.find place = ((given place).map Entry.file).or (s.files.find place)

/-- What a place is given by a file that is written at a target. -/
def givenAt (c : Context) (target : Value) (content : Bytes) (place : List String) : Option Bytes :=
  if place? c target = some place then some content else none

/-- Notes give nothing to any place but that of the records. -/
theorem Notes.gives (h : Notes log s after) : Gives log (fun _ => none) s after :=
  fun _ hplace => h.files.find_eq hplace

/-- What two steps give adds up, the later over the earlier. -/
theorem Gives.trans {first second : List String → Option Bytes} (h₁ : Gives log first s middle)
    (h₂ : Gives log second middle after) :
    Gives log (fun place => (second place).or (first place)) s after := by
  intro place hplace
  rw [h₂ place hplace, h₁ place hplace, Option.map_or, Option.or_assoc]

/-- Notes in front of a step change nothing of what it gives. -/
theorem Notes.trans_gives {given : List String → Option Bytes} (h₁ : Notes log s middle)
    (h₂ : Gives log given middle after) : Gives log given s after := by
  intro place hplace
  rw [h₂ place hplace, h₁.files.find_eq hplace]

/-- Writing to a path gives the content to its place. -/
theorem gives_writeTo {target : Value} {content : Bytes} (hlogs : s.LogsTo log)
    (htruthy : target.truthy = true) (h : s.writeTo c target content = .ok after) :
    Gives log (givenAt c target content) s after := by
  obtain ⟨-, -, written, hwritten, hfind⟩ := writeTo_eq_ok hlogs htruthy h
  intro place hplace
  rw [hfind place hplace, givenAt, hwritten]
  by_cases hsame : place = written
  · rw [if_pos hsame, if_pos (congrArg some hsame.symm)]
    rfl
  · rw [if_neg hsame, if_neg fun heq => hsame (Option.some.inj heq).symm]
    rfl

/-- A target that is not asked for gives nothing. -/
theorem givenAt_of_falsy {target : Value} (h : target.truthy = false) (content : Bytes) :
    givenAt c target content = fun _ => none := by
  funext place
  rw [givenAt, place?, h]
  rfl

namespace Job

variable {job : Job}

/-! ## Steps of a job -/

/-- The document goes to its file or, without one and without a printable file, to the output. -/
theorem writeDocument_eq_ok {document : Text} (hlogs : s.LogsTo log)
    (h : job.writeDocument c document s = .ok after) :
    Gives log (givenAt c job.output (Text.encode document)) s after ∧ after.LogsTo log ∧
      after.output = s.output ++ (if job.printsDocument then endLine document else []) ∧
      (job.output.truthy = true → (place? c job.output).isSome = true) := by
  rw [writeDocument] at h
  by_cases htruthy : job.output.truthy = true
  · rw [if_pos htruthy] at h
    obtain ⟨houtput, hafter, written, hwritten, -⟩ := writeTo_eq_ok hlogs htruthy h
    refine ⟨gives_writeTo hlogs htruthy h, hafter, ?_, fun _ => ?_⟩
    · have hprints : job.printsDocument = false := by
        rw [printsDocument, htruthy]
        rfl
      rw [hprints, houtput]
      exact (List.append_nil _).symm
    · rw [hwritten]
      rfl
  · rw [if_neg htruthy] at h
    rw [Bool.not_eq_true] at htruthy
    obtain rfl := Except.ok.inj h
    rw [givenAt_of_falsy htruthy, htruthy]
    -- without a target the document is printed, unless the printable file is asked for
    split
    · exact ⟨fun _ _ => rfl, hlogs.of_log_eq rfl, rfl, nofun⟩
    · exact ⟨fun _ _ => rfl, hlogs, (List.append_nil _).symm, nofun⟩

/-- The printable file that a job asks for: none if it is not wanted, and what comes of the
compilation otherwise. -/
def pdf? (job : Job) (c : Context) : Option Bytes :=
  if job.pdf.truthy then
    (Engine.produce job.engine (c.engine job.engine.engine)).toOption
  else none

/-- What a place is given by the printable file. -/
def givenPdf (job : Job) (c : Context) (place : List String) : Option Bytes :=
  if place? c job.pdf = some place then job.pdf? c else none

/-- Without a target for the printable file nothing is compiled. -/
theorem writePdf_of_falsy (h : job.pdf.truthy = false) (c : Context) (s : State) :
    job.writePdf c s = (s, .ok ()) := by
  rw [writePdf, h]
  rfl

/-- What a job that asks for a printable file does: it records the compilation, and fails for what
the compilation is refused for, or writes the file. -/
theorem writePdf_of_truthy (h : job.pdf.truthy = true) (c : Context) (s : State) :
    job.writePdf c s =
      let engine := c.engine job.engine.engine
      let compiled := s.recordAll c (Engine.produceNotices job.engine engine)
      match Engine.produce job.engine engine with
      | .error refusal =>
        (compiled, .error (.ofRefusal (c.scratch.join job.engine.documentName) refusal))
      | .ok pdf =>
        match compiled.writeTo c job.pdf pdf with
        | .error failure => (compiled, .error failure)
        | .ok s => (s, .ok ()) := by
  rw [writePdf, h, Bool.not_true, if_neg Bool.false_ne_true, compile]
  dsimp only
  cases Engine.produce job.engine (c.engine job.engine.engine) <;> rfl

/-- A printable file that is written is the one that the job asks for. -/
theorem writePdf_written {pdf : Bytes} (hlogs : s.LogsTo log) (htruthy : job.pdf.truthy = true)
    (hproduce : Engine.produce job.engine (c.engine job.engine.engine) = .ok pdf)
    (h : s.writeTo c job.pdf pdf = .ok after) :
    Gives log (job.givenPdf c) s after ∧ after.output = s.output ∧ after.LogsTo log ∧
      (place? c job.pdf).isSome = true ∧ (job.pdf? c).isSome = true := by
  obtain ⟨houtput, hafter, written, hwritten, -⟩ := writeTo_eq_ok hlogs htruthy h
  have hpdf : job.pdf? c = some pdf := by
    rw [pdf?, if_pos htruthy, hproduce]
    rfl
  have hgiven : givenAt c job.pdf pdf = job.givenPdf c := by
    funext place
    rw [givenAt, givenPdf, hpdf]
  refine ⟨?_, houtput, hafter, ?_, ?_⟩
  · rw [← hgiven]
    exact gives_writeTo hlogs htruthy h
  · rw [hwritten]
    rfl
  · rw [hpdf]
    rfl

/-- The printable file is written, or the run fails and none is. -/
theorem writePdf_cases {result : Except Failure Unit} (hlogs : s.LogsTo log)
    (h : job.writePdf c s = (after, result)) :
    (∃ failure, result = .error failure ∧ failure.IsLate ∧ Notes log s after) ∨
    result = .ok () ∧ Gives log (job.givenPdf c) s after ∧ after.output = s.output ∧
      after.LogsTo log ∧
      (job.pdf.truthy = true → (place? c job.pdf).isSome = true ∧ (job.pdf? c).isSome = true) := by
  cases htruthy : job.pdf.truthy with
  | false =>
    rw [writePdf_of_falsy htruthy] at h
    obtain ⟨rfl, rfl⟩ := Prod.mk.inj h
    have hnone : job.givenPdf c = fun _ => none := by
      funext place
      rw [givenPdf, pdf?, htruthy, if_neg Bool.false_ne_true, ite_self]
    rw [hnone]
    exact .inr ⟨rfl, fun _ _ => rfl, rfl, hlogs, nofun⟩
  | true =>
    -- the runs of the engine are noted before anything is written
    have hnotes := notes_recordAll hlogs c
      (Engine.produceNotices job.engine (c.engine job.engine.engine))
    have hcompiled := hlogs.recordAll c
      (Engine.produceNotices job.engine (c.engine job.engine.engine))
    rw [writePdf_of_truthy htruthy] at h
    dsimp only at h
    split at h
    · obtain ⟨rfl, rfl⟩ := Prod.mk.inj h
      exact .inl ⟨_, rfl, isLate_ofRefusal _ _, hnotes⟩
    · rename_i pdf hproduce
      split at h
      · rename_i hwrite
        obtain ⟨rfl, rfl⟩ := Prod.mk.inj h
        exact .inl ⟨_, rfl, isLate_writeTo hwrite, hnotes⟩
      · rename_i written hwrite
        obtain ⟨rfl, rfl⟩ := Prod.mk.inj h
        obtain ⟨hgives, houtput, hafter, hwanted⟩ :=
          writePdf_written hcompiled htruthy hproduce hwrite
        exact .inr ⟨rfl, hnotes.trans_gives hgives, houtput.trans hnotes.output, hafter,
          fun _ => hwanted⟩

/-! ## Jobs -/

/-- What a place is given by a job that is carried out: the printable file goes over the document.
-/
def given (job : Job) (c : Context) (document : Text) (place : List String) : Option Bytes :=
  (job.givenPdf c place).or (givenAt c job.output (Text.encode document) place)

/-- What a job that is carried out prints: the document or, if it goes elsewhere, the counts. -/
def printed (job : Job) (source document : Text) : Text :=
  if job.printsDocument then endLine document
  else if job.stats then job.report source
  else []

/-- How far a job was carried out. -/
inductive Carried (job : Job) (c : Context) (emit : Table.Options → Conversion.Emitter)
    (input : Text) (log : Option (List String)) (s after : State) : Except Failure Unit → Prop where
  /-- Nothing was made, or it was not written. -/
  | stopped {failure : Failure} (hnotes : Notes log s after) :
    Carried job c emit input log s after (.error failure)
  /-- The document was written, and the printable file was not. -/
  | unfinished {failure : Failure} {document : Text} (hlate : failure.IsLate)
      (hgives : Gives log (givenAt c job.output (Text.encode document)) s after) :
    Carried job c emit input log s after (.error failure)
  /-- All was written. -/
  | finished {source document : Text} (hsource : readSource c s.files input = .ok source)
      (hmade : (job.make emit source).2 = .ok document)
      (hgives : Gives log (job.given c document) s after)
      (hprinted : after.output = s.output ++ job.printed source document)
      (houtput : job.output.truthy = true → (place? c job.output).isSome = true)
      (hpdf : job.pdf.truthy = true →
        (place? c job.pdf).isSome = true ∧ (job.pdf? c).isSome = true) :
    Carried job c emit input log s after (.ok ())

/-- The counts go to the stream that the document does not go to. -/
theorem writeStats_spec (hlogs : s.LogsTo log) (job : Job) (c : Context) (source : Text) :
    Gives log (fun _ => none) s (job.writeStats c source s) ∧
      (job.writeStats c source s).output =
        s.output ++ (if job.printsDocument then []
          else if job.stats then job.report source else []) := by
  rw [writeStats]
  -- where nothing is counted, nothing is printed or noted
  cases job.stats with
  | false =>
    rw [Bool.not_false, if_pos rfl]
    refine ⟨fun _ _ => rfl, ?_⟩
    rw [if_neg Bool.false_ne_true, ite_self, List.append_nil]
  | true =>
    rw [Bool.not_true, if_neg Bool.false_ne_true, if_pos rfl]
    have hnotes := notes_recordAll hlogs c (Conversion.countNotices job.markdown source)
    dsimp only
    split
    · refine ⟨hnotes.gives, ?_⟩
      rw [List.append_nil]
      exact hnotes.output
    · exact ⟨hnotes.gives, congrArg (· ++ _) hnotes.output⟩

/-- Publishing ends before anything is written, or with the document alone, or with all that was
asked for. -/
theorem publish_cases {source document : Text} {result : Except Failure Unit}
    (hlogs : s.LogsTo log) (h : job.publish c source document s = (after, result)) :
    (∃ failure, result = .error failure ∧ Notes log s after) ∨
    (∃ failure, result = .error failure ∧ failure.IsLate ∧
      Gives log (givenAt c job.output (Text.encode document)) s after) ∨
    result = .ok () ∧ Gives log (job.given c document) s after ∧
      after.output = s.output ++ job.printed source document ∧
      (job.output.truthy = true → (place? c job.output).isSome = true) ∧
      (job.pdf.truthy = true → (place? c job.pdf).isSome = true ∧ (job.pdf? c).isSome = true) := by
  rw [publish] at h
  split at h
  · obtain ⟨rfl, rfl⟩ := Prod.mk.inj h
    exact .inl ⟨_, rfl, .refl log s⟩
  · rename_i written hwrite
    obtain ⟨hdocument, hwritten, houtput, hplaced⟩ := writeDocument_eq_ok hlogs hwrite
    split at h
    · rename_i hpdf
      obtain ⟨rfl, rfl⟩ := Prod.mk.inj h
      obtain ⟨failure, heq, hlate, hnotes⟩ | ⟨hok, -⟩ := writePdf_cases hwritten hpdf
      · obtain rfl := Except.error.inj heq
        exact .inr (.inl ⟨_, rfl, hlate, hdocument.trans hnotes.gives⟩)
      · exact nomatch hok
    · rename_i compiled hpdf
      obtain ⟨rfl, rfl⟩ := Prod.mk.inj h
      obtain ⟨_, hfailed, -⟩ | ⟨-, hgives, hsame, hcompiled, hwanted⟩ :=
        writePdf_cases hwritten hpdf
      · exact nomatch hfailed
      · obtain ⟨hstats, hcounts⟩ := writeStats_spec hcompiled job c source
        -- the printable file is given after the document, the counts go to no file
        refine .inr (.inr ⟨rfl, (hdocument.trans hgives).trans hstats, ?_, hplaced, hwanted⟩)
        rw [hcounts, hsame, houtput, List.append_assoc, printed]
        cases job.printsDocument with
        | true => rw [if_pos rfl, if_pos rfl, if_pos rfl, List.append_nil]
        | false => rfl

/-- **A job is carried out as a whole, or its document at most is written, or nothing is.** -/
theorem run_carried {emit : Table.Options → Conversion.Emitter} {input : Text}
    {result : Except Failure Unit} (hlogs : s.LogsTo log)
    (h : job.run c emit input s = (after, result)) :
    job.Carried c emit input log s after result := by
  rw [run] at h
  split at h
  · obtain ⟨rfl, rfl⟩ := Prod.mk.inj h
    exact .stopped (.refl log s)
  · rename_i source hsource
    -- what stands in the source is read and converted before anything is written
    have hnotes := notes_recordAll hlogs c (job.make emit source).1
    have hrecorded := hlogs.recordAll c (job.make emit source).1
    dsimp only at h
    split at h
    · obtain ⟨rfl, rfl⟩ := Prod.mk.inj h
      exact .stopped hnotes
    · rename_i document hmade
      obtain ⟨_, rfl, hstopped⟩ | ⟨_, rfl, hlate, hgives⟩ | ⟨rfl, hgives, hprinted, hwanted⟩ :=
        publish_cases hrecorded h
      · exact .stopped (hnotes.trans hstopped)
      · exact .unfinished hlate (hnotes.trans_gives hgives)
      · rw [hnotes.output] at hprinted
        exact .finished hsource hmade (hnotes.trans_gives hgives) hprinted hwanted.1 hwanted.2

end Job

end MarkTex.Program
