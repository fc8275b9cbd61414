/-!
# Parameters of the command line

What can be said about the making of a site without a configuration file: by flags on the command
line, or by variables of the environment. A parameter is a text or a switch. A text follows its
flag; a switch has two flags that stand alone, one for each of its positions.
-/

set_option autoImplicit false

namespace StaticSite.CommandLine

/-- A parameter that is a text. -/
inductive TextParameter where
  | root
  | configuration
  | template
  | pageExtension
  | feedExtension
  | style
deriving DecidableEq, Repr

/-- A parameter that is on or off. -/
inductive Switch where
  | clean
  | highlight
  | verbose
deriving DecidableEq, Repr

/-- A flag of the command line. -/
inductive Flag where
  | text (parameter : TextParameter)
  | switch (switch : Switch) (on : Bool)
deriving DecidableEq, Repr

/-- The words that name a text. -/
def TextParameter.words : TextParameter → List String
  | root => ["root"]
  | configuration => ["config"]
  | template => ["template"]
  | pageExtension => ["dist", "ext"]
  | feedExtension => ["feed", "ext"]
  | style => ["pygments", "style"]

/-- The word that names a switch. -/
def Switch.word : Switch → String
  | clean => "clean"
  | highlight => "highlight"
  | verbose => "verbose"

namespace Flag

/-- The words that a flag is written with. -/
def words : Flag → List String
  | text parameter => parameter.words
  | switch s true => [s.word]
  | switch s false => ["no", s.word]

/-- A flag as it stands on the command line. -/
def spelling (flag : Flag) : String :=
  "--" ++ String.intercalate "-" flag.words

/-- What the names of all variables begin with. -/
def variableStart : String := "PAGONG_"

/-- The variable of the environment that stands for a flag. -/
def variableName (flag : Flag) : String :=
  variableStart ++ (String.intercalate "_" flag.words).toUpper

/-- All flags. -/
def all : List Flag :=
  [.text .root, .text .configuration, .text .template, .text .pageExtension, .text .feedExtension,
   .text .style, .switch .clean true, .switch .clean false, .switch .highlight true,
   .switch .highlight false, .switch .verbose true, .switch .verbose false]

theorem mem_all (flag : Flag) : flag ∈ all := by
  rcases flag with p | ⟨s, on⟩
  · cases p <;> decide
  · cases s <;> cases on <;> decide

/-- The flag that is spelled like this. -/
def ofSpelling? (s : String) : Option Flag :=
  all.find? (·.spelling = s)

/-- The flag that a word stands for, where an underscore counts as a hyphen. -/
def ofWord? (word : String) : Option Flag :=
  ofSpelling? (word.map fun c => if c = '_' then '-' else c)

/-- The flag that a variable stands for. -/
def ofVariable? (name : String) : Option Flag :=
  all.find? (·.variableName = name)

/-- A flag is known by its spelling. -/
theorem ofSpelling?_spelling (flag : Flag) : ofSpelling? flag.spelling = some flag := by
  rcases flag with p | ⟨s, on⟩
  · cases p <;> decide +kernel
  · cases s <;> cases on <;> decide +kernel

end Flag

end StaticSite.CommandLine
