import CInterface.CommandLine.Arguments

namespace CInterface.CommandLine

/-!
# The command line — help texts

What the program says about itself.
-/

/-- The program's name and version. -/
def versionText : Text := "ifacegen 0.1.0\n".toList

/-- What an artifact's command does. -/
def about : Artifact → Text
  | .symbols => "Write the JSON list of exported symbols".toList
  | .header => "Write a standalone C header".toList
  | .ffi => "Write the TypeScript cwrap bindings".toList

/-- How the program, or one artifact's command, is called. -/
def usageLine : Option Artifact → Text
  | none => "Usage: ifacegen [OPTIONS] <COMMAND>\n".toList
  | some a => "Usage: ifacegen ".toList ++ a.label ++ " [OPTIONS] <DESTINATION>\n".toList

/-- The flags with what they do, for the program or for one artifact's command. -/
def flagLines : Option Artifact → Text
  | none =>
    "  -v, --verbose          Enable verbose output\n".toList
      ++ "      --config <CONFIG>  Config file (defaults to ./ifacegen.toml when present)\n".toList
      ++ "  -h, --help             Print help\n".toList
      ++ "  -V, --version          Print version\n".toList
  | some a =>
    "      --interface <INTERFACE>  C interface source file\n".toList
      ++ "  -v, --verbose                Enable verbose output\n".toList
      ++ "      --config <CONFIG>        ".toList
      ++ "Config file (defaults to ./ifacegen.toml when present)\n".toList
      ++ (if a = .ffi then
          "      --ffi-types <FFI_TYPES>  ".toList
            ++ "TypeScript type declarations spliced into the module\n".toList
            ++ "      --export-types           ".toList
            ++ "Export the types of the spliced declarations\n".toList
            ++ "      --asyncify               Use the asyncify class and module names\n".toList
        else [])
      ++ "  -h, --help                   Print help\n".toList

/-- A help text. -/
def helpText : Option Artifact → Text
  | none =>
    "Export lists, headers and TypeScript bindings from a C interface\n\n".toList
      ++ usageLine none ++ "\nCommands:\n".toList
      ++ "  symbols  ".toList ++ about .symbols ++ "\n".toList
      ++ "  header   ".toList ++ about .header ++ "\n".toList
      ++ "  ffi      ".toList ++ about .ffi ++ "\n".toList
      ++ "  help     Print this message or the help of the given subcommand(s)\n".toList
      ++ "\nOptions:\n".toList ++ flagLines none
  | some a =>
    about a ++ "\n\n".toList ++ usageLine (some a)
      ++ "\nArguments:\n  <DESTINATION>  Output file, or `-` for stdout\n".toList
      ++ "\nOptions:\n".toList ++ flagLines (some a)

/-- What is said of arguments that make no sense. -/
def usageText : Text :=
  "error: invalid arguments\n\n".toList ++ usageLine none
    ++ "\nFor more information, try '--help'.\n".toList

end CInterface.CommandLine
