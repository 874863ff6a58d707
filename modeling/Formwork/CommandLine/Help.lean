import Formwork.CommandLine.Command

/-!
# Help texts
-/

namespace Formwork.CommandLine

/-- The version of the program. -/
def version : String := "0.1.0"

/-- The name of the program and its version. -/
def versionText : String := "formify " ++ version ++ "\n"

/-- The help on a level. -/
def HelpPage.text : HelpPage → String
  | main => "Generate HTML forms and React components from field descriptions

Usage: formify [OPTIONS] <COMMAND>

Commands:
  generate   Generate form code from a field description
  templates  List the built-in templates
  check      Parse a field description and print the fields and validation rules as JSON
  help       Print this message or the help of the given subcommand(s)

Options:
  -c, --config <CONFIG>  Config file (defaults to ./formify.toml when present)
  -v, --verbose...       More log output (-v debug, -vv trace)
  -q, --quiet            Only log errors
  -h, --help             Print help
  -V, --version          Print version
"
  | generate => "Generate form code from a field description

Usage: formify generate [OPTIONS]

Options:
  -c, --config <CONFIG>                  Config file (defaults to ./formify.toml when present)
  -f, --format <FORMAT>                  Output format: html or react (jsx/tsx accepted)
  -i, --input <INPUT>                    Field description file (reads stdin when omitted)
  -v, --verbose...                       More log output (-v debug, -vv trace)
  -o, --output <OUTPUT>                  Write the generated code here (templates default to " ++
    "<KEY>.<html|tsx>, descriptions to stdout)
  -q, --quiet                            Only log errors
  -t, --template <TEMPLATE>              Use a built-in template instead of a description
  -n, --component-name <COMPONENT_NAME>  React component name
      --strict                           Reject fields whose state keys collide
  -h, --help                             Print help
"
  | templates => "List the built-in templates

Usage: formify templates [OPTIONS]

Options:
  -c, --config <CONFIG>  Config file (defaults to ./formify.toml when present)
  -v, --verbose...       More log output (-v debug, -vv trace)
  -q, --quiet            Only log errors
  -h, --help             Print help
"
  | check => "Parse a field description and print the fields and validation rules as JSON

Usage: formify check [OPTIONS]

Options:
  -c, --config <CONFIG>  Config file (defaults to ./formify.toml when present)
  -i, --input <INPUT>    Field description file (reads stdin when omitted)
  -v, --verbose...       More log output (-v debug, -vv trace)
  -q, --quiet            Only log errors
  -h, --help             Print help
"
  | help => "Print this message or the help of the given subcommand(s)

Usage: formify help [COMMAND]...

Arguments:
  [COMMAND]...  Print help for the subcommand(s)
"

end Formwork.CommandLine
