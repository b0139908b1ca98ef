import VueWrap.Command.Flag

/-! # Help

The text that a part of the command line is explained by.
-/

namespace VueWrap.Command

def programHelp : List String :=
  ["usage: dx-vue-generator [-h] [--version] [--verbose]",
    "                        \x7bgenerate,inspect,init-config\x7d ...",
    "",
    "Generate Vue wrapper components from widget metadata",
    "",
    "positional arguments:",
    "  \x7bgenerate,inspect,init-config\x7d",
    "    generate            Generate component modules for all widgets",
    "    inspect             Show the intermediate representation of one widget",
    "    init-config         Write an example configuration file",
    "",
    "options:",
    "  -h, --help            show this help message and exit",
    "  --version             show program's version number and exit",
    "  --verbose, -v         Enable debug logging"]

def runFlagsHelp : List String :=
  ["options:",
    "  -h, --help            show this help message and exit",
    "  --metadata FILE, -m FILE",
    "                        Metadata JSON file",
    "  --url URL             Metadata JSON URL",
    "",
    "generation options:",
    "  --config FILE         JSON configuration file for generation",
    "  --components-dir DIR  Output directory",
    "  --index-file FILE     Index module path",
    "  --base-component-path PATH",
    "                        Module exporting createComponent",
    "  --config-component-path PATH",
    "                        Module exporting createConfigurationComponent",
    "  --widgets-package NAME",
    "                        Package the widgets are imported from",
    "  --vue-version \x7b2,3\x7d   Target Vue major version",
    "  --generate-reexports, --no-generate-reexports",
    "                        Emit type re-exports and common re-export modules",
    "                        (overrides the config file)"]

def generateUsage : List String :=
  ["usage: dx-vue-generator generate [-h] (--metadata FILE | --url URL)",
    "                                 [--config FILE] [--components-dir DIR]",
    "                                 [--index-file FILE]",
    "                                 [--base-component-path PATH]",
    "                                 [--config-component-path PATH]",
    "                                 [--widgets-package NAME]",
    "                                 [--vue-version \x7b2,3\x7d]",
    "                                 [--generate-reexports | --no-generate-reexports]",
    ""]

def inspectUsage : List String :=
  ["usage: dx-vue-generator inspect [-h] (--metadata FILE | --url URL)",
    "                                [--config FILE] [--components-dir DIR]",
    "                                [--index-file FILE]",
    "                                [--base-component-path PATH]",
    "                                [--config-component-path PATH]",
    "                                [--widgets-package NAME] [--vue-version \x7b2,3\x7d]",
    "                                [--generate-reexports | --no-generate-reexports]",
    "                                widget",
    "",
    "positional arguments:",
    "  widget                Widget name (e.g. dxButton or Button)",
    ""]

def initHelp : List String :=
  ["usage: dx-vue-generator init-config [-h] FILE",
    "",
    "positional arguments:",
    "  FILE        Target JSON file",
    "",
    "options:",
    "  -h, --help  show this help message and exit"]

def Part.help : Part → List String
  | program => programHelp
  | command .generate => generateUsage ++ runFlagsHelp
  | command .inspect => inspectUsage ++ runFlagsHelp
  | command .initConfig => initHelp

def edition : String := "dx-vue-generator 0.1.0"

end VueWrap.Command
