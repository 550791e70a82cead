import CodeMarkup.Command.Switch
/-!
The texts that explain the command line.
-/

namespace CodeMarkup.Command

/-- The name of the command. -/
def commandName : String := "discussion-formatter"

/-- How the command is called. -/
def usage : String :=
  "usage: discussion-formatter [-h] [-t THEME] [-o OUTPUT]\n" ++
  "                            [--themes-dir THEMES_DIR] [--inline]\n" ++
  "                            [--list-themes] [--set-default-theme NAME]\n" ++
  "                            [-l \x7bDEBUG,INFO,WARNING,ERROR,CRITICAL\x7d]\n" ++
  "                            [--logfile LOGFILE] [--log-console]\n" ++
  "                            [--trace-themes]\n" ++
  "                            [source]\n"

/-- What the arguments mean. -/
def argumentHelp : String :=
  "positional arguments:\n" ++
  "  source                Source file to highlight ('-' or omitted reads stdin)\n" ++
  "\n" ++
  "options:\n" ++
  "  -h, --help            show this help message and exit\n" ++
  "  -t THEME, --theme THEME\n" ++
  "                        Theme or palette name (default: the 'theme' setting,\n" ++
  "                        else 'default')\n" ++
  "  -o OUTPUT, --output OUTPUT\n" ++
  "                        Write HTML to this file instead of stdout\n" ++
  "  --themes-dir THEMES_DIR\n" ++
  "                        Directory of external JSON themes (default: the\n" ++
  "                        'themes_dir' setting)\n" ++
  "  --inline              Treat input as prose and convert \x60code\x60 and\n" ++
  "                        \x60\x60\x60fenced\x60\x60\x60 snippets\n" ++
  "  --list-themes         List built-in palettes and external themes, then exit\n" ++
  "  --set-default-theme NAME\n" ++
  "                        Persist NAME as the default theme, then exit\n" ++
  "  -l \x7bDEBUG,INFO,WARNING,ERROR,CRITICAL\x7d, " ++
    "--loglevel \x7bDEBUG,INFO,WARNING,ERROR,CRITICAL\x7d\n" ++
  "                        Set logging level (default: WARNING). DEBUG writes to\n" ++
  "                        /tmp/discussion_formatter.log\n" ++
  "  --logfile LOGFILE     Log file path (default: /tmp/discussion_formatter.log)\n" ++
  "  --log-console         Also log to console (stderr)\n" ++
  "  --trace-themes        Include per-lookup theme and style debug lines in the\n" ++
  "                        log\n"

/-- The help text. -/
def help : String :=
  usage ++ "\n" ++ "Render Java-like source as syntax-highlighted, inline-styled HTML\n" ++ "\n" ++
    argumentHelp

/-- What a wrong command line is answered with. -/
def UsageError.report (error : UsageError) : String :=
  usage ++ commandName ++ ": error: " ++ error.message ++ "\n"

end CodeMarkup.Command
