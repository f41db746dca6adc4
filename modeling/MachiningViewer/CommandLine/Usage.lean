import MachiningViewer.Terminal.Style

/-!
# The help text
-/

namespace MachiningViewer.CommandLine

open Terminal (Style)

/-- The help text, an empty line before it and after it. -/
def usage (styles : Bool) : String :=
  let heading := Style.bold.apply styles
  "\n".intercalate [
    "",
    heading "Toolview" ++ " - Inspect toolpaths and watch machining jobs",
    "",
    heading "USAGE:",
    "    toolview parse <FILE>",
    "    toolview watch <JOB_ID> [OPTIONS]",
    "    toolview download <JOB_ID> [-o <FILE>] [OPTIONS]",
    "",
    heading "COMMANDS:",
    "    parse       Interpret a local toolpath file and print a summary",
    "    watch       Follow a job: snapshot, toolpath, live progress",
    "    download    Save the job's toolpath text (default: job-<ID>.nc)",
    "",
    heading "OPTIONS:",
    "    -c, --config <PATH>    TOML config file (default: built-in defaults)",
    "    -a, --api <URL>        Job backend base URL (overrides config and env)",
    "    -o, --output <FILE>    Output file for download",
    "    -v, --verbose          Log progress of fetches and streams",
    "    -vv                    Debug logging",
    "    -h, --help             Print this help message",
    "",
    heading "ENVIRONMENT:",
    "    TOOLVIEW_API_BASE_URL      Job backend base URL",
    "    TOOLVIEW_MACHINE_BOUNDS    Machine envelope, e.g. " ++
      "\x7b\"x\":[0,300],\"y\":[0,300],\"z\":[-50,150]\x7d",
    "    RUST_LOG                   Log filter, overrides -v",
    ""]

end MachiningViewer.CommandLine
