import MarkTex.CommandLine.Grammar
import MarkTex.Options.Document
import MarkTex.Options.Engine
import MarkTex.Options.Table

/-!
# The options of the program

The grammar of the program's command line, the part of it that chooses the configuration, and the
text that shows the options.
-/

namespace MarkTex.CommandLine

/-- The name of the program. -/
def programName : String := "md2latex"

/-- The version of the program. -/
def programVersion : String := "0.1.0"

/-- A setting with an option of any value. -/
def textSetting (dest : String) (names : List String) (default : Value) : Parameter :=
  ⟨dest, names, .store .text [], default⟩

/-- A setting with an option of one of some values. -/
def choiceSetting (dest name : String) (choices : List String) (default : String) : Parameter :=
  ⟨dest, [name], .store .text choices, .str default⟩

/-- A setting that is off, with an option that turns it on. -/
def switch (dest : String) (names : List String) : Parameter :=
  ⟨dest, names, .flag true, .bool false⟩

/-- The names of the levels that can be chosen. -/
def levelNames : List String := ["DEBUG", "INFO", "WARNING", "ERROR", "CRITICAL"]

/-- The option for the configuration file. -/
def configParameter : Parameter :=
  textSetting "config" ["--config"] .null

/-- The option for no configuration file. -/
def noConfigParameter : Parameter :=
  switch "no_config" ["--no-config"]

/-- The parameters of the program. -/
def parameters : List Parameter :=
  [⟨"help", ["-h", "--help"], .help, .null⟩,
    textSetting "output" ["-o", "--output"] .null,
    configParameter,
    noConfigParameter,
    ⟨"version", ["--version"], .version, .null⟩,
    choiceSetting "document_class" "--document-class"
      ([Document.DocumentClass.article, .report, .book].map Document.DocumentClass.name) "article",
    choiceSetting "font_size" "--font-size"
      ([Document.FontSize.pt10, .pt11, .pt12].map Document.FontSize.name) "11pt",
    choiceSetting "page_size" "--page-size"
      ([Document.PageSize.a4, .letter, .a5].map Document.PageSize.name) "a4paper",
    textSetting "margin" ["--margin"] (.str "2.5cm"),
    switch "chinese" ["--chinese"],
    switch "toc" ["--toc"],
    switch "export" ["--export"],
    switch "body_only" ["--body-only"],
    choiceSetting "table_style" "--table-style"
      ([Table.Style.booktabs, .standard].map Table.Style.name) "booktabs",
    ⟨"wrap_threshold", ["--wrap-threshold"], .store .int [], .int 20⟩,
    ⟨"breaks", ["--no-breaks"], .flag false, .bool true⟩,
    textSetting "pdf" ["--pdf"] .null,
    choiceSetting "engine" "--engine"
      ([Engine.Name.xelatex, .pdflatex].map Engine.Name.program) "xelatex",
    ⟨"passes", ["--passes"], .store .int [], .int 2⟩,
    ⟨"compile_timeout", ["--compile-timeout"], .store .float [], .float 60.0⟩,
    switch "stats" ["--stats"],
    switch "rich" ["--rich"],
    choiceSetting "log_level" "--log-level" levelNames "WARNING",
    textSetting "log_file" ["--log-file"] .null,
    switch "verbose" ["-v", "--verbose"],
    switch "trace" ["--trace"]]

/-- The grammar of the program's command line. -/
def grammar : Grammar where
  parameters := parameters
  takesInput := true

/-- The part of the grammar that chooses the configuration. -/
def selectionGrammar : Grammar where
  parameters := [configParameter, noConfigParameter]
  takesInput := false

/-- The lines that show the options. -/
def helpLines : List String :=
  ["usage: md2latex [-h] [-o OUTPUT] [--config CONFIG] [--no-config] [--version]",
    "                [--document-class \x7barticle,report,book\x7d]",
    "                [--font-size \x7b10pt,11pt,12pt\x7d]",
    "                [--page-size \x7ba4paper,letterpaper,a5paper\x7d] [--margin MARGIN]",
    "                [--chinese] [--toc] [--export] [--body-only]",
    "                [--table-style \x7bbooktabs,standard\x7d]",
    "                [--wrap-threshold WRAP_THRESHOLD] [--no-breaks] [--pdf PDF]",
    "                [--engine \x7bxelatex,pdflatex\x7d] [--passes PASSES]",
    "                [--compile-timeout COMPILE_TIMEOUT] [--stats] [--rich]",
    "                [--log-level \x7bDEBUG,INFO,WARNING,ERROR,CRITICAL\x7d]",
    "                [--log-file LOG_FILE] [-v] [--trace]",
    "                input",
    "",
    "Convert Markdown to a compilable LaTeX document.",
    "",
    "positional arguments:",
    "  input                 Markdown file to convert, or '-' for standard input",
    "",
    "options:",
    "  -h, --help            show this help message and exit",
    "  -o OUTPUT, --output OUTPUT",
    "                        Write LaTeX to this file instead of standard output",
    "  --config CONFIG       Configuration file (TOML, YAML or JSON)",
    "  --no-config           Ignore configuration files",
    "  --version             show program's version number and exit",
    "",
    "document options:",
    "  --document-class \x7barticle,report,book\x7d",
    "  --font-size \x7b10pt,11pt,12pt\x7d",
    "  --page-size \x7ba4paper,letterpaper,a5paper\x7d",
    "  --margin MARGIN       Page margin on every side",
    "  --chinese             Always include CJK font support",
    "  --toc                 Insert a table of contents",
    "  --export              Reference system CJK fonts instead of the sandboxed",
    "                        font path",
    "  --body-only           Emit the LaTeX body without a preamble",
    "",
    "table options:",
    "  --table-style \x7bbooktabs,standard\x7d",
    "  --wrap-threshold WRAP_THRESHOLD",
    "                        Display width at which a table column wraps",
    "",
    "markdown options:",
    "  --no-breaks           Treat single newlines as spaces instead of line breaks",
    "",
    "compilation:",
    "  --pdf PDF             Compile the document and write the PDF here",
    "  --engine \x7bxelatex,pdflatex\x7d",
    "  --passes PASSES",
    "  --compile-timeout COMPILE_TIMEOUT",
    "",
    "reporting:",
    "  --stats               Print word and character counts",
    "  --rich                Use Rich formatting for terminal output",
    "  --log-level \x7bDEBUG,INFO,WARNING,ERROR,CRITICAL\x7d",
    "  --log-file LOG_FILE   Also write log messages to this file",
    "  -v, --verbose         Shortcut for --log-level DEBUG",
    "  --trace               Debug logging with timestamps and logger names",
    "",
    "Every option can also be set with an MD2LATEX_<OPTION_NAME> environment",
    "variable."]

/-- The text that shows the options. -/
def helpText : String :=
  String.join (helpLines.map (· ++ "\n"))

/-- The text that shows the version. -/
def versionText : String :=
  programName ++ " " ++ programVersion ++ "\n"

end MarkTex.CommandLine
