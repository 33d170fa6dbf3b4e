/-
  The texts that the program prints about itself.
-/

namespace GoEnum.CommandLine

/-- The text that `--help` prints. -/
def helpText : String :=
  "\n".intercalate [
    "Generates Go enum boilerplate (stringer, parser, validation) from the command line",
    "",
    "Usage: go-enumgen [OPTIONS] [ARGS]...",
    "",
    "Arguments:",
    "  [ARGS]...  <KIND> <ENUM_NAME> <VALUE>... where KIND is string, int or int:<type>",
    "",
    "Options:",
    "  -v, --verbose...     Turn debugging information on",
    "  -c, --config <FILE>  (json) Configuration with the header app name and defaults",
    "      --empty          Accept the empty string as the zero value when parsing",
    "      --dir <PATH>     Root directory receiving the <enum>/<enum>.gen.go file [default: .]",
    "  -h, --help           Print help",
    "  -V, --version        Print version",
    ""]

/-- The text that `--version` prints. -/
def versionText : String :=
  "go-enumgen 0.1.0\n"

end GoEnum.CommandLine
