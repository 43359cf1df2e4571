/-!
# Pages

The command line has an overview and three commands.  Each has a page of help, the first paragraph
of which says how it is used, and a set of options.

## Main definitions

* `Use`: the options, by what they are for.
* `Page`: the pages.
* `Page.uses`: the options of a page.
* `Page.usage`, `Page.help`: the texts of a page.
-/

namespace KeyCall
namespace CommandLine

/-- The options. -/
inductive Use
  /-- Show a page of help. -/
  | help
  /-- Show the log. -/
  | verbose
  /-- Load a registry module. -/
  | registry
  /-- Choose a layout for the output. -/
  | output
  deriving DecidableEq, Repr, Inhabited

namespace Use

/-- The names of an option. -/
def names : Use → List String
  | help => ["-h", "--help"]
  | verbose => ["--verbose", "-v"]
  | registry => ["--registry", "-r"]
  | output => ["--output", "-o"]

/-- An option as messages name it. -/
def title (u : Use) : String := "/".intercalate u.names

/-- Whether an option takes a value. -/
def takesValue : Use → Bool
  | help | verbose => false
  | registry | output => true

end Use

/-- The overview and the three commands. -/
inductive Page
  /-- What comes in front of a command. -/
  | overview
  /-- Process a collection. -/
  | process
  /-- Validate a collection. -/
  | validate
  /-- Read a template. -/
  | parse
  deriving DecidableEq, Repr, Inhabited

namespace Page

/-- The name of the program. -/
def programName : String := "datadecorator"

/-- The names of the commands. -/
def commandNames : List String := ["process", "validate", "parse"]

/-- The command of a name. -/
def ofName? : String → Option Page
  | "process" => some process
  | "validate" => some validate
  | "parse" => some parse
  | _ => none

/-- The program with the command, as messages name it. -/
def program : Page → String
  | overview => programName
  | process => programName ++ " process"
  | validate => programName ++ " validate"
  | parse => programName ++ " parse"

/-- The name of what a command works on. -/
def operandName : Page → String
  | overview => "command"
  | process => "file"
  | validate => "file"
  | parse => "template"

/-- The options of a page. -/
def uses : Page → List Use
  | overview => [.help, .verbose]
  | process => [.help, .registry, .output]
  | validate => [.help]
  | parse => [.help]

/-- The option of a page that has the given name. -/
def useOf? (p : Page) (name : String) : Option Use := p.uses.find? (·.names.contains name)

/-- The names of all options of a page. -/
def optionNames (p : Page) : List String := p.uses.flatMap Use.names

/-- The lines that say how a page is used. -/
def usageLines : Page → List String
  | overview => ["usage: datadecorator [-h] [--verbose] \x7bprocess,validate,parse\x7d ..."]
  | process =>
    ["usage: datadecorator process [-h] [--registry REGISTRY]",
      "                             [--output \x7bjson,pretty\x7d]",
      "                             file"]
  | validate => ["usage: datadecorator validate [-h] file"]
  | parse => ["usage: datadecorator parse [-h] template"]

/-- The lines of help behind those. -/
def helpLines : Page → List String
  | overview =>
    ["",
      "DataDecorator - post-process collections with key templates",
      "",
      "positional arguments:",
      "  \x7bprocess,validate,parse\x7d",
      "                        Commands",
      "    process             Process a JSON or YAML collection",
      "    validate            Check every template key parses",
      "    parse               Show the capture groups of a template",
      "",
      "options:",
      "  -h, --help            show this help message and exit",
      "  --verbose, -v         Enable debug logging"]
  | process =>
    ["",
      "positional arguments:",
      "  file                  Path to collection file",
      "",
      "options:",
      "  -h, --help            show this help message and exit",
      "  --registry REGISTRY, -r REGISTRY",
      "                        Python file registering template targets (repeatable,",
      "                        also $DATADECORATOR_REGISTRY)",
      "  --output \x7bjson,pretty\x7d, -o \x7bjson,pretty\x7d",
      "                        Output format"]
  | validate =>
    ["",
      "positional arguments:",
      "  file        Path to collection file",
      "",
      "options:",
      "  -h, --help  show this help message and exit"]
  | parse =>
    ["",
      "positional arguments:",
      "  template    Template key, e.g. '$\x7bCar(\x7bname: ?\x7d).presentUrl()\x7d:url'",
      "",
      "options:",
      "  -h, --help  show this help message and exit"]

/-- Lines with their ends. -/
def textOf (lines : List String) : String := String.join (lines.map (· ++ "\n"))

/-- How a page is used. -/
def usage (p : Page) : String := textOf p.usageLines

/-- The page of help. -/
def help (p : Page) : String := textOf (p.usageLines ++ p.helpLines)

end Page
end CommandLine
end KeyCall
