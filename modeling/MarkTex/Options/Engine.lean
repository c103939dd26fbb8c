import MarkTex.Options.Basic

/-!
# Compilation options

The fields of the options for compiling a document: the engine, the number of its runs, the time
that each run may take, and the name that its files share.
-/

namespace MarkTex.Engine

/-- A typesetting engine. -/
inductive Name where
  | xelatex
  | pdflatex
  deriving DecidableEq, Repr

/-- The name of an engine's program. -/
def Name.program : Name → String
  | xelatex => "xelatex"
  | pdflatex => "pdflatex"

/-- A number of seconds, as a whole number or as a double. -/
inductive Seconds where
  | whole (n : Int)
  | fraction (x : Float)

/-- A number of seconds as a value. -/
def Seconds.toValue : Seconds → Value
  | whole n => .int n
  | fraction x => .float x

/-- How a document is compiled. The name of the files is the text of any value that is not empty and
does not hold a slash or backslash. -/
structure Options where
  engine : Name := .xelatex
  passes : Positive := ⟨2, by decide⟩
  timeout : Seconds := .fraction 60.0
  jobName : Value := .str "document"

instance : Inhabited Options := ⟨{}⟩

/-- The number of seconds above zero that a value is. -/
def readSeconds (field : String) (value : Value) : Except OptionFault Seconds :=
  let refused := OptionFault.showing (.notPositiveNumber field value) value
  match value with
  | .int n => if n ≤ 0 then .error refused else .ok (.whole n)
  | .float x => if x ≤ 0.0 then .error refused else .ok (.fraction x)
  | _ => .error refused

/-- Whether a value is a slash or a backslash. -/
def isSeparator : Value → Bool
  | .str s => s = "/" || s = "\\"
  | _ => false

/-- Whether a slash or a backslash is found in a value: in a text among its characters, in a
collection among its parts, and in a mapping among its keys. -/
def holdsSeparator (value : Value) : Except OptionFault Bool :=
  match value with
  | .str s => .ok (s.toList.contains '/' || s.toList.contains '\\')
  | .list items => .ok (items.any isSeparator)
  | .map entries => .ok (entries.any fun (key, _) => isSeparator key)
  | .set members => .ok (members.any isSeparator)
  | .pair first second => .ok (isSeparator first || isSeparator second)
  | v => .error (.noParts v.qualifiedTypeName)

/-- The value that names the files of a run. -/
def readJobName (value : Value) : Except OptionFault Value :=
  let refused := OptionFault.showing (.notStem value) value
  if !value.truthy then .error refused
  else
    match holdsSeparator value with
    | .ok false => .ok value
    | .ok true => .error refused
    | .error fault => .error fault

instance : OptionSet Options where
  className := "CompileOptions"
  fields o :=
    [("engine", .str o.engine.program), ("passes", .int o.passes.val),
      ("timeout", o.timeout.toValue), ("job_name", o.jobName)]
  ofFields fields := do
    let engine ← readChoice "engine" [.xelatex, .pdflatex] Name.program (fields.get "engine")
    let passes ← readPositive "passes" (fields.get "passes")
    let timeout ← readSeconds "timeout" (fields.get "timeout")
    let jobName ← readJobName (fields.get "job_name")
    return ⟨engine, passes, timeout, jobName⟩

end MarkTex.Engine
