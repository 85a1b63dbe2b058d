import TopicRouting.CommandLine.Arguments

/-! The texts that explain the program and its commands. -/
namespace TopicRouting.CommandLine

def withEnds (lines : List Text) : Text := lines.flatMap (· ++ ['\n'])

def helpOption : List Text :=
  ["options:",
    "  -h, --help  show this help message and exit"]

def Command.helpLines : Command → List Text
  | showTopic =>
      ["usage: topicbus topic [-h] pattern",
        "",
        "positional arguments:",
        "  pattern     Topic pattern, e.g. devices/+deviceId/status"]
  | matchTopic =>
      ["usage: topicbus match [-h] pattern topic",
        "",
        "positional arguments:",
        "  pattern     Topic pattern",
        "  topic       Concrete topic"]
  | buildTopic =>
      ["usage: topicbus build [-h] pattern [params ...]",
        "",
        "positional arguments:",
        "  pattern     Topic pattern",
        "  params      name=value pairs; # values are split on /"]

def Command.help (c : Command) : Text := withEnds (c.helpLines ++ [[]] ++ helpOption)

def programHelp : Text := withEnds
  ["usage: topicbus [-h] [--format \x7bpretty,json\x7d] \x7btopic,match,build\x7d ...",
    "",
    "topicbus pattern tool",
    "",
    "positional arguments:",
    "  \x7btopic,match,build\x7d   Commands",
    "    topic               Print the subscribable topic of a pattern",
    "    match               Match a topic and print extracted parameters",
    "    build               Build a concrete topic from parameters",
    "",
    "options:",
    "  -h, --help            show this help message and exit",
    "  --format \x7bpretty,json\x7d",
    "                        Output format"]

def helpOf : Option Command → Text
  | some command => command.help
  | none => programHelp

end TopicRouting.CommandLine
