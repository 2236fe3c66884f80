import DatalogDoc.Text

/-!
# How the editor is called

What is printed about the options, on request or when they are not understood.
-/

namespace DatalogDoc.Command.Sed

def usageLines : List String :=
  ["",
   "  -n, --quiet, --silent",
   "                 suppress automatic printing of pattern space",
   "      --debug",
   "                 annotate program execution",
   "  -e script, --expression=script",
   "                 add the script to the commands to be executed",
   "  -f script-file, --file=script-file",
   "                 add the contents of script-file to the commands to be executed",
   "  --follow-symlinks",
   "                 follow symlinks when processing in place",
   "  -i[SUFFIX], --in-place[=SUFFIX]",
   "                 edit files in place (makes backup if SUFFIX supplied)",
   "  -l N, --line-length=N",
   "                 specify the desired line-wrap length for the \x60l' command",
   "  --posix",
   "                 disable all GNU extensions.",
   "  -E, -r, --regexp-extended",
   "                 use extended regular expressions in the script",
   "                 (for portability use POSIX -E).",
   "  -s, --separate",
   "                 consider files as separate rather than as a single,",
   "                 continuous long stream.",
   "      --sandbox",
   "                 operate in sandbox mode (disable e/r/w commands).",
   "  -u, --unbuffered",
   "                 load minimal amounts of data from the input files and flush",
   "                 the output buffers more often",
   "  -z, --null-data",
   "                 separate lines by NUL characters",
   "      --help     display this help and exit",
   "      --version  output version information and exit",
   "",
   "If no -e, --expression, -f, or --file option is given, then the first",
   "non-option argument is taken as the sed script to interpret.  All",
   "remaining arguments are names of input files; if no input files are",
   "specified, then the standard input is read.",
   "",
   "GNU sed home page: <https://www.gnu.org/software/sed/>.",
   "General help using GNU software: <https://www.gnu.org/gethelp/>."]

def usage (name : Text) : Text :=
  "Usage: ".toList ++ name
    ++ " [OPTION]... \x7bscript-only-if-no-other-script\x7d [input-file]...\n".toList
    ++ usageLines.flatMap fun line => line.toList ++ ['\n']

def contact : Text := "E-mail bug reports to: <bug-sed@gnu.org>.\n".toList

end DatalogDoc.Command.Sed
