import AllowPolicy.Text.Split

namespace AllowPolicy.Command

/-- What an option is about. -/
inductive Topic where
  | help
  | version
  | config
  | database
  | json
  | disabled
  | check
  | disable
  | allow
  | clear
  | context
  | default
  | count
  | interval
  deriving DecidableEq, Repr

/-- What an option says about its topic: yes or no by its name alone, or the text behind it. -/
inductive Form where
  | flag (value : Bool)
  | text
  deriving DecidableEq, Repr

/-- An option as a command knows it. -/
structure Choice where
  name : String
  topic : Topic
  form : Form
  deriving DecidableEq, Repr

/-- An option as it was given. -/
inductive Given where
  | flag (value : Bool)
  | text (s : String)
  deriving DecidableEq, Repr

/-- The options of a command line in order, and what is left of it. -/
structure Reading where
  options : List (Topic × Given) := []
  operands : List String := []
  deriving DecidableEq, Repr

namespace Reading

/-- The reading with options before it. -/
def after (options : List (Topic × Given)) (reading : Reading) : Reading :=
  { reading with options := options ++ reading.options }

/-- The reading with an operand before it. -/
def behind (operand : String) (reading : Reading) : Reading :=
  { reading with operands := operand :: reading.operands }

/-- The last option on a topic. -/
def last? (reading : Reading) (topic : Topic) : Option Given := reading.options.reverse.lookup topic

def text? (reading : Reading) (topic : Topic) : Option String :=
  match reading.last? topic with
  | some (.text s) => some s
  | _ => none

def flag? (reading : Reading) (topic : Topic) : Option Bool :=
  match reading.last? topic with
  | some (.flag value) => some value
  | _ => none

end Reading

/-- What one argument gives: options, and perhaps a topic whose text is the next argument. -/
structure Step where
  options : List (Topic × Given) := []
  open? : Option Topic := none

/-- Reads short options that share one dash. The text of one that takes a text is all that follows
    it, if anything does. -/
def readShort (choices : List Choice) : List Char → Option Step
  | [] => some {}
  | letter :: rest => do
    let choice ← choices.find? (·.name.toList = ['-', letter])
    match choice.form with
    | .text =>
      if rest.isEmpty then pure { open? := some choice.topic }
      else pure { options := [(choice.topic, .text (.ofList rest))] }
    | .flag value =>
      let step ← readShort choices rest
      pure { step with options := (choice.topic, .flag value) :: step.options }

/-- Reads a long option, which may have its text behind an equals sign. -/
def readLong (choices : List Choice) (arg : List Char) : Option Step := do
  let (name, given) := Text.cut '=' arg
  let choice ← choices.find? (·.name.toList = name)
  match choice.form, given with
  | .text, some text => pure { options := [(choice.topic, .text (.ofList text))] }
  | .text, none => pure { open? := some choice.topic }
  | .flag value, none => pure { options := [(choice.topic, .flag value)] }
  | .flag _, some _ => none

/-- Reads one argument that starts with a dash. -/
def readOption (choices : List Choice) : List Char → Option Step
  | '-' :: '-' :: name => readLong choices ('-' :: '-' :: name)
  | '-' :: letters => readShort choices letters
  | _ => none

/-- The argument is an option. A dash alone is none. -/
def isOption (arg : String) : Bool := arg.toList.head? = some '-' && arg != "-"

/-- Reads the arguments of a command; nothing if they break its rules. Two dashes end the options,
    and so does, unless they are `mixed`, the first operand. -/
def read? (choices : List Choice) (mixed : Bool) : List String → Option Reading
  | [] => some {}
  | arg :: rest =>
    if arg = "--" then some { operands := rest }
    else if isOption arg then
      match readOption choices arg.toList, rest with
      | none, _ => none
      | some ⟨options, none⟩, rest => (·.after options) <$> read? choices mixed rest
      | some ⟨options, some topic⟩, text :: rest =>
        (·.after (options ++ [(topic, .text text)])) <$> read? choices mixed rest
      | some ⟨_, some _⟩, [] => none
    else if mixed then (·.behind arg) <$> read? choices mixed rest
    else some { operands := arg :: rest }

end AllowPolicy.Command
