/-
SchemaSemver.CommandLine.Help — what the program says about itself, line by line.
-/
import SchemaSemver.CommandLine.Options

namespace SchemaSemver.CommandLine

/-- How the program is called. -/
def usage : String :=
  "Usage: graphql-semver-bump [OPTIONS] BASE_REF HEAD_REF SCHEMA_FILE SEMVER_FILE"

/-- The answer to a request for help. -/
def help : List String :=
  [usage,
   "",
   "  Check that SEMVER_FILE at HEAD_REF reflects the GraphQL schema change since",
   "  BASE_REF.",
   "",
   "Options:",
   "  --version                       Show the version and exit.",
   "  --config PATH                   Optional YAML settings file (git, schema and",
   "                                  report sections)",
   "  --log-level [debug|info|warning|error]",
   "                                  Verbosity of diagnostics written to stderr",
   "                                  [default: WARNING]",
   "  -h, --help                      Show this message and exit."]

/-- The answer to a request for the version. -/
def version : List String := ["graphql-semver-bump, version 0.1.0"]

/-- What is said when the number of arguments is not four. -/
def wrongArguments : List String :=
  ["Wrong number of arguments. Usage:",
   "\tgraphql-semver-bump [main] [some-branch] [schema.graphql] [schema.ver]"]

/-- What is said about a wrong option. -/
def OptionFault.report (fault : OptionFault) : List String :=
  let frame :=
    if fault.showsUsage then [usage, "Try 'graphql-semver-bump --help' for help.", ""] else []
  frame ++ ["Error: " ++ fault.message]

end SchemaSemver.CommandLine
