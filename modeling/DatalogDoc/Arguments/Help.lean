import DatalogDoc.Text

/-!
# What the program says about itself

The texts of the help and version options, line by line.
-/

namespace DatalogDoc.Help

def summary : List String :=
  ["Generate a Markdown API reference from a Datalog AST definition file",
   "",
   "Usage: dlref [OPTIONS] [INPUT]",
   "",
   "Arguments:",
   "  [INPUT]  Definition file to document [default: ../src/datalog/ast.dl]",
   "",
   "Options:",
   "  -p, --preprocessor <PROG>     Preprocessor program [default: mcpp]",
   "  -a, --preprocessor-arg <ARG>  Argument passed to the preprocessor before the input path (repeatable, replaces the default `-C -P`)",
   "      --no-default-args         Run the preprocessor without the default `-C -P` arguments",
   "  -o, --output <PATH>           Write the reference to a file instead of stdout",
   "  -m, --mode <MODE>             How section bodies are delimited [default: lazy] [possible values: lazy, balanced]",
   "      --title <TITLE>           Document title [default: \"AST API Reference\"]",
   "      --lang <TAG>              Language tag of the signature code fences [default: erlang]",
   "      --allow-empty             Succeed even when no sections are found",
   "  -v, --verbose                 Verbose logging",
   "  -h, --help                    Print help (see more with '--help')",
   "  -V, --version                 Print version"]

def full : List String :=
  ["Generate a Markdown API reference from a Datalog AST definition file",
   "",
   "Usage: dlref [OPTIONS] [INPUT]",
   "",
   "Arguments:",
   "  [INPUT]",
   "          Definition file to document",
   "          ",
   "          [default: ../src/datalog/ast.dl]",
   "",
   "Options:",
   "  -p, --preprocessor <PROG>",
   "          Preprocessor program",
   "          ",
   "          [default: mcpp]",
   "",
   "  -a, --preprocessor-arg <ARG>",
   "          Argument passed to the preprocessor before the input path (repeatable, replaces the default `-C -P`)",
   "",
   "      --no-default-args",
   "          Run the preprocessor without the default `-C -P` arguments",
   "",
   "  -o, --output <PATH>",
   "          Write the reference to a file instead of stdout",
   "",
   "  -m, --mode <MODE>",
   "          How section bodies are delimited",
   "",
   "          Possible values:",
   "          - lazy:     Lazy match up to the first `\x7d` (nested braces truncate the body)",
   "          - balanced: Match up to the brace that balances the section's opening brace",
   "          ",
   "          [default: lazy]",
   "",
   "      --title <TITLE>",
   "          Document title",
   "          ",
   "          [default: \"AST API Reference\"]",
   "",
   "      --lang <TAG>",
   "          Language tag of the signature code fences",
   "          ",
   "          [default: erlang]",
   "",
   "      --allow-empty",
   "          Succeed even when no sections are found",
   "",
   "  -v, --verbose",
   "          Verbose logging",
   "",
   "  -h, --help",
   "          Print help (see a summary with '-h')",
   "",
   "  -V, --version",
   "          Print version"]

def version : List String := ["dlref 0.1.0"]

def text (lines : List String) : Text := lines.flatMap fun line => line.toList ++ ['\n']

end DatalogDoc.Help
