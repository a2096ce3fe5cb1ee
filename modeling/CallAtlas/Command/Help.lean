import CallAtlas.Text.Basic

/-!
# Help
-/

namespace CallAtlas.Command

/-- The lines of the help text. -/
def helpLines : List String :=
  ["",
    "callmap - cross-language call map and call stack explorer",
    "",
    "Usage:",
    "  callmap [global-options] <command> <repo-dir> [command-options]",
    "",
    "Commands:",
    "  generate          Build (or reuse) the model for a directory",
    "  callstack         Call stack starting at --file/--line",
    "  lookup            Definitions carrying --name",
    "  show              Source of the definition at --line or named --name in --file",
    "  version           Show version information",
    "",
    "Global Options:",
    "  -c, --config PATH      Path to configuration file",
    "  --log-level LEVEL      Log level: debug, info, warn, error (default: info)",
    "  -o, --output PATH      Model file (default: callmap.json in the repo directory)",
    "  -f, --force            Regenerate even when the saved model is current",
    "  --json                 Print JSON instead of text",
    "  --ref REF              Ref the work tree must be at (default: HEAD)",
    "  -h, --help             Show this help message",
    "  -v, --version          Show version",
    "",
    " Generate Options:",
    "   --concurrency N       Files processed at once",
    "   --worker-threads      Parse in worker threads (needs a build)",
    "",
    " Callstack Options:",
    "   --file PATH           Repository-relative file (required)",
    "   --line N              1-based line (required)",
    "   --max-depth N         Expansion depth (default from config)",
    "",
    " Lookup Options:",
    "   --name NAME           Bare definition name (required)",
    "   --language ID         Only definitions in this language",
    "",
    " Show Options:",
    "   --file PATH           Repository-relative file (required)",
    "   --line N | --name NAME",
    "",
    " Examples:",
    "   callmap generate .",
    "   callmap callstack . --file src/app.py --line 12 --max-depth 4",
    "   callmap lookup . --name run --json",
    "   callmap show . --file src/app.py --name main",
    ""]

/-- The help text. -/
def helpText : Text := Text.join [Text.newline] (helpLines.map Text.ofString)

end CallAtlas.Command
