/-!
# `HashIf.Command.Help`: the texts that explain the command line

Every topic has a usage paragraph, which also stands in front of an error, and the rest of its
help text.
-/

namespace HashIf.Command

/-- What help is about. -/
inductive Topic where
  | program | parse | names | tokens
  deriving DecidableEq, Repr

namespace Topic

/-- How the topic is called on the command line. -/
def title : Topic → String
  | program => "cppcondition"
  | parse => "cppcondition parse"
  | names => "cppcondition variables"
  | tokens => "cppcondition tokens"

/-- The options that both interpreting commands share. -/
def sharedOptions : List String :=
  ["positional arguments:",
   "  expression            Condition text, e.g. 'defined(A) && B > 2'",
   "",
   "options:",
   "  -h, --help            show this help message and exit",
   "  --non-boolean         Keep literals, macros and non-Boolean operators",
   "                        instead of translating to a strict Boolean formula",
   "  --fuzzy               Encode comparisons and bare variables as synthesized",
   "                        variables (Boolean mode only)",
   "  --linux-macros        Translate IS_ENABLED, IS_MODULE and IS_BUILTIN",
   "  --invalid \x7bexception,true,error_variable\x7d",
   "                        How to handle invalid conditions in Boolean mode",
   "                        (default: exception)",
   "  --config CONFIG       Settings file (.toml/.json) or inline TOML/JSON",
   "                        settings"]

/-- The lines of the usage paragraph. -/
def usageLines : Topic → List String
  | program =>
    ["usage: cppcondition [-h] [-v] \x7bparse,variables,tokens\x7d ..."]
  | parse =>
    ["usage: cppcondition parse [-h] [--non-boolean] [--fuzzy] [--linux-macros]",
     "                          [--invalid \x7bexception,true,error_variable\x7d]",
     "                          [--config CONFIG] [-f \x7btext,json,graphml,dot\x7d]",
     "                          [--show-ast]",
     "                          expression"]
  | names =>
    ["usage: cppcondition variables [-h] [--non-boolean] [--fuzzy] [--linux-macros]",
     "                              [--invalid \x7bexception,true,error_variable\x7d]",
     "                              [--config CONFIG]",
     "                              expression"]
  | tokens =>
    ["usage: cppcondition tokens [-h] expression"]

/-- The lines of the help text below the usage paragraph. -/
def bodyLines : Topic → List String
  | program =>
    ["cppcondition - C preprocessor condition parser",
     "",
     "positional arguments:",
     "  \x7bparse,variables,tokens\x7d",
     "                        Available commands",
     "    parse               Parse a condition and print the resulting formula",
     "    variables           Print the variables a condition depends on",
     "    tokens              Print the lexer tokens of a condition",
     "",
     "options:",
     "  -h, --help            show this help message and exit",
     "  -v, --verbose         Enable verbose logging"]
  | parse => sharedOptions ++
    ["  -f \x7btext,json,graphml,dot\x7d, --format \x7btext,json,graphml,dot\x7d",
     "                        Output format (default: text)",
     "  --show-ast            Print the resolved expression tree before the formula"]
  | names => sharedOptions
  | tokens =>
    ["positional arguments:",
     "  expression  Condition text",
     "",
     "options:",
     "  -h, --help  show this help message and exit"]

/-- The usage paragraph. -/
def usage (t : Topic) : String := String.join (t.usageLines.map (· ++ "\n"))

/-- The help text. -/
def help (t : Topic) : String := t.usage ++ "\n" ++ String.join (t.bodyLines.map (· ++ "\n"))

end Topic

end HashIf.Command
