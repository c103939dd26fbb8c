import MarkTex.Program.Run
import MarkTex.Proofs.Files.Tree

/-!
# What records change

Records go to the error stream and to the file that settings name for them. They change neither the
output nor any other file (`notes_recordAll`, `notes_configure`).
-/

namespace MarkTex.Program

/-- Where the file for records is that a value names. -/
def logPlace? (c : Context) (file : Value) : Option (List String) :=
  if file.truthy then (logPath? file).map fun path => (path.resolved c.directory).resolve []
  else none

/-- Nothing but the error stream and the file for records changed. -/
structure Notes (log : Option (List String)) (s after : State) : Prop where
  output : after.output = s.output
  files : FileTree.AgreeOff log s.files after.files

/-- All records go to the error stream or to the given file. -/
def State.LogsTo (s : State) (log : Option (List String)) : Prop :=
  ∀ h ∈ s.log.activeHandlers, ∀ names, h.target = .file names →
    log = some ((Path.absolute names).resolve [])

variable {c : Context} {log : Option (List String)} {s middle after : State}

theorem Notes.refl (log : Option (List String)) (s : State) : Notes log s s :=
  ⟨rfl, .refl log s.files⟩

theorem Notes.trans (h₁ : Notes log s middle) (h₂ : Notes log middle after) : Notes log s after :=
  ⟨h₂.output.trans h₁.output, h₁.files.trans h₂.files⟩

/-! ## Records -/

/-- Delivering one record to a handler is a note. -/
theorem notes_deliver {target : Log.Target}
    (h : ∀ names, target = .file names → log = some ((Path.absolute names).resolve []))
    (s : State) (t : Text) :
    Notes log s (s.deliver t target) ∧ (s.deliver t target).log = s.log := by
  cases target with
  | errors => exact ⟨⟨rfl, .refl log s.files⟩, rfl⟩
  | file names =>
    rw [State.deliver]
    cases happend : s.files.append [] (Path.absolute names) (Text.encode t) with
    | error fault => exact ⟨.refl log s, rfl⟩
    | ok files =>
      refine ⟨⟨rfl, ?_⟩, rfl⟩
      rw [h names rfl]
      exact FileTree.agreeOff_append happend

/-- Delivering one record to all handlers is a note. -/
theorem notes_deliverAll {handlers : List Log.Handler} (write : Log.Handler → Text)
    (h : ∀ handler ∈ handlers, ∀ names, handler.target = .file names →
      log = some ((Path.absolute names).resolve [])) (s : State) :
    Notes log s (handlers.foldl (fun state h => state.deliver (write h) h.target) s) ∧
      (handlers.foldl (fun state h => state.deliver (write h) h.target) s).log = s.log := by
  induction handlers generalizing s with
  | nil => exact ⟨.refl log s, rfl⟩
  | cons handler handlers ih =>
    rw [List.forall_mem_cons] at h
    obtain ⟨hfirst, hlog⟩ := notes_deliver h.1 s (write handler)
    obtain ⟨hrest, hlogs⟩ := ih h.2 (s.deliver (write handler) handler.target)
    exact ⟨hfirst.trans hrest, hlogs.trans hlog⟩

/-- **Records change the error stream and their file at most.** -/
theorem notes_recordAll (h : s.LogsTo log) (c : Context) (records : List Log.Record) :
    Notes log s (s.recordAll c records) :=
  (notes_deliverAll _ h s).1

/-- Records leave the handling of records as it is. -/
theorem log_recordAll (h : s.LogsTo log) (c : Context) (records : List Log.Record) :
    (s.recordAll c records).log = s.log :=
  (notes_deliverAll _ h s).2

/-- Records go to the same file as long as their handling is the same. -/
theorem State.LogsTo.of_log_eq (h : s.LogsTo log) (heq : after.log = s.log) : after.LogsTo log := by
  rw [LogsTo, heq]
  exact h

/-- Records go to the same file after any records. -/
theorem State.LogsTo.recordAll (h : s.LogsTo log) (c : Context) (records : List Log.Record) :
    (s.recordAll c records).LogsTo log :=
  h.of_log_eq (log_recordAll h c records)

/-- Where no handler writes to a file, no file is written to. -/
theorem logsTo_of_errors (h : ∀ handler ∈ s.log.activeHandlers, handler.target = .errors) :
    s.LogsTo log := by
  intro handler hmem names hfile
  rw [h handler hmem] at hfile
  exact nomatch hfile

/-! ## Setting up -/

/-- A path that was made absolute is resolved to the same place. -/
theorem resolve_absolute (path : Path) (here : List String) :
    (Path.absolute (path.resolved here).names).resolve [] = (path.resolved here).resolve [] := by
  rw [FileTree.resolve_eq_foldl, FileTree.resolve_eq_foldl, ite_self, ite_self]
  rfl

/-- The file that is opened for records is the one that they go to. -/
theorem notes_openLog {file : Value} {path : Path} {level : Value} {tracing : Bool}
    (hlog : s.log = Log.Setup.ofValue level tracing)
    (h : s.openLog c file path = .ok after) :
    Notes (some ((path.resolved c.directory).resolve [])) s after ∧
      after.LogsTo (some ((path.resolved c.directory).resolve [])) := by
  have herrors : ∀ log, s.LogsTo log := fun log => logsTo_of_errors fun handler hmem => by
    rw [hlog] at hmem
    obtain rfl := List.mem_singleton.1 hmem
    rfl
  rw [State.openLog] at h
  dsimp only at h
  split at h
  · rename_i files happend
    obtain rfl := Except.ok.inj h
    -- the file's handler is the only one that is not for the error stream
    have hopened : State.LogsTo
        { s with files := files, log := s.log.withFile (path.resolved c.directory).names }
        (some ((path.resolved c.directory).resolve [])) := by
      intro handler hmem names hfile
      rw [hlog] at hmem
      have hboth : handler ∈ [⟨.errors, _⟩, ⟨.file (path.resolved c.directory).names, _⟩] := hmem
      rw [List.mem_cons, List.mem_singleton] at hboth
      obtain rfl | rfl := hboth
      · exact nomatch hfile
      · obtain rfl := Log.Target.file.inj hfile
        rw [resolve_absolute]
    have hfile : Notes (some ((path.resolved c.directory).resolve [])) s
        { s with files := files, log := s.log.withFile (path.resolved c.directory).names } :=
      ⟨rfl, FileTree.agreeOff_append happend⟩
    exact ⟨hfile.trans (notes_recordAll hopened c [_]), hopened.recordAll c [_]⟩
  · exact nomatch h
  · obtain rfl := Except.ok.inj h
    exact ⟨notes_recordAll (herrors _) c [_], (herrors _).recordAll c [_]⟩

/-- **Setting up the handling of records changes the error stream and their file at most**, which is
where they go from then on. -/
theorem notes_configure {level file : Value} {tracing : Bool} {result : Except Failure Unit}
    (h : s.configure c level file tracing = (after, result)) :
    Notes (logPlace? c file) s after ∧ (result = .ok () → after.LogsTo (logPlace? c file)) := by
  rw [logPlace?]
  dsimp only [State.configure] at h
  by_cases htruthy : file.truthy = true
  · rw [if_pos htruthy]
    rw [htruthy, Bool.not_true, if_neg Bool.false_ne_true] at h
    -- a value that is no path ends this before any handling is changed
    cases hpath : logPath? file with
    | none =>
      rw [hpath] at h
      obtain ⟨rfl, rfl⟩ := Prod.mk.inj h
      exact ⟨⟨rfl, .refl _ _⟩, nofun⟩
    | some path =>
      rw [hpath] at h
      dsimp only at h
      rw [Option.map_some]
      split at h
      · rename_i opened hopen
        obtain ⟨rfl, rfl⟩ := Prod.mk.inj h
        obtain ⟨hnotes, hlogs⟩ := notes_openLog (by rfl) hopen
        exact ⟨⟨hnotes.output, hnotes.files⟩, fun _ => hlogs⟩
      · obtain ⟨rfl, rfl⟩ := Prod.mk.inj h
        exact ⟨⟨rfl, .refl _ _⟩, nofun⟩
  · rw [if_neg htruthy]
    rw [Bool.not_eq_true] at htruthy
    rw [htruthy, Bool.not_false, if_pos rfl] at h
    obtain ⟨rfl, rfl⟩ := Prod.mk.inj h
    refine ⟨⟨rfl, .refl _ _⟩, fun _ => logsTo_of_errors fun handler hmem => ?_⟩
    obtain rfl := List.mem_singleton.1 hmem
    rfl

/-- Setting up the records of a run is a note, and they go to the file that is named. -/
theorem notes_configureRecords {settings : Fields} {result : Except Failure Unit}
    (h : configureRecords c settings s = (after, result)) :
    Notes (logPlace? c (settings.get "log_file")) s after ∧
      (result = .ok () → after.LogsTo (logPlace? c (settings.get "log_file"))) := by
  rw [configureRecords] at h
  split at h
  · obtain ⟨rfl, rfl⟩ := Prod.mk.inj h
    exact ⟨.refl _ s, nofun⟩
  · exact notes_configure h

end MarkTex.Program
