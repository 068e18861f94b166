/-!
# Help texts

The help of the program and of each of its commands, word for word and line by line.
-/

namespace BindingSync.Cli.Usage

/-- A text of lines, each of which is ended. -/
def ofLines (lines : List String) : String :=
  String.join (lines.map (· ++ "\n"))

/-- The help of the program. -/
def program : String :=
  ofLines [
    "usage: bromasync [-h] COMMAND ...",
    "",
    "bromasync - synchronize Broma bindings with a program database",
    "",
    "positional arguments:",
    "  COMMAND",
    "    check     Parse the binding files of a version",
    "    sync      Import addresses and signatures into a program database",
    "",
    "options:",
    "  -h, --help  show this help message and exit"]

/-- The help of the command that checks. -/
def check : String :=
  ofLines [
    "usage: bromasync check [-h] [--version VERSION] [--file FILE] [directory]",
    "",
    "Parse the binding files of a version and report what they declare.",
    "",
    "positional arguments:",
    "  directory          Workspace directory (default: current directory)",
    "",
    "options:",
    "  -h, --help         show this help message and exit",
    "  --version VERSION  Binding version to use (default: from workspace config,",
    "                     else the newest)",
    "  --file FILE        Binding file to use; may be repeated (default: the",
    "                     configured target files)"]

/-- The help of the command that synchronizes. -/
def sync : String :=
  ofLines [
    "usage: bromasync sync [-h] [--version VERSION] [--file FILE]",
    "                      [--platform PLATFORM]",
    "                      [--on-conflict \x7babort,ask,existing,incoming\x7d]",
    "                      [--image-base IMAGE_BASE]",
    "                      database [directory]",
    "",
    "Create missing functions at their declared addresses and update their",
    "signatures in a JSON program database. The database is created if it does not",
    "exist.",
    "",
    "positional arguments:",
    "  database              Path to the JSON program database",
    "  directory             Workspace directory (default: current directory)",
    "",
    "options:",
    "  -h, --help            show this help message and exit",
    "  --version VERSION     Binding version to use (default: from workspace",
    "                        config, else the newest)",
    "  --file FILE           Binding file to use; may be repeated (default: the",
    "                        configured target files)",
    "  --platform PLATFORM   Target platform: win or mac (default: from workspace",
    "                        config, else win)",
    "  --on-conflict \x7babort,ask,existing,incoming\x7d",
    "                        How to settle conflicts with user-defined signatures",
    "                        (default: ask)",
    "  --image-base IMAGE_BASE",
    "                        Image base used when creating a new database (default:",
    "                        0x400000)"]

end BindingSync.Cli.Usage
