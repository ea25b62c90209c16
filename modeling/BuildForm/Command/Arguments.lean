import BuildForm.Text.Search

/-
  The arguments of the command line.

  Key definitions include:
    * `Flag`
    * `Conclusion`
    * `Arguments`
    * `Arguments.Fault`
    * `Arguments.Reading`
    * `Arguments.read`
-/

namespace BuildForm

------------------------------------------------------------
-- Flags
------------------------------------------------------------

/- The flags that may be given. -/
inductive Flag where
  | store
  | query
  | user
  | admin
  | set
  | submit
  | approve
  | reject
  | review
  | pretty
  | help
  | version
deriving DecidableEq, Repr

namespace Flag

def all : List Flag :=
  [.store, .query, .user, .admin, .set, .submit, .approve,
   .reject, .review, .pretty, .help, .version]

/- The name that follows two hyphens. -/
def name : Flag → String
  | .store => "store"
  | .query => "query"
  | .user => "user"
  | .admin => "admin"
  | .set => "set"
  | .submit => "submit"
  | .approve => "approve"
  | .reject => "reject"
  | .review => "review"
  | .pretty => "pretty"
  | .help => "help"
  | .version => "version"

/- The letter that follows a single hyphen. -/
def letter? : Flag → Option Char
  | .store => some 's'
  | .query => some 'q'
  | .user => some 'u'
  | .help => some 'h'
  | .version => some 'V'
  | _ => none

/- Whether a value belongs to the flag. -/
def takesValue : Flag → Bool
  | .store | .query | .user | .admin | .set | .reject => true
  | _ => false

/- Whether the flag may be given more than once. -/
def isRepeatable : Flag → Bool
  | .admin | .set => true
  | _ => false

/- The flag as it is shown to the user. -/
def shown (flag : Flag) : String :=
  "--" ++ flag.name

/- The flag with a name; names are not abbreviated. -/
def ofName? (name : List Char) : Option Flag :=
  all.find? fun flag => flag.name.toList = name

/- The flag with a letter. -/
def ofLetter? (letter : Char) : Option Flag :=
  all.find? fun flag => flag.letter? = some letter

end Flag

------------------------------------------------------------
-- Arguments
------------------------------------------------------------

/- What happens to the form after the edits. -/
inductive Conclusion where
  | keep
  | submit
  | approve
  | reject (reason : String)
deriving DecidableEq, Repr

/- What the command is asked to do. -/
structure Arguments where
  store : String
  query : String := ""
  user : String := "anonymous"
  administrators : List String := []
  edits : List String := []
  conclusion : Conclusion := .keep
  review : Bool := false
  pretty : Bool := false
deriving DecidableEq, Repr

namespace Arguments

/- Why arguments are refused. -/
inductive Fault where
  | unexpected (argument : String)
  | valueMissing (flag : Flag)
  | valueUnexpected (flag : Flag)
  | repeated (flag : Flag)
  | conflicting (flag other : Flag)
  | storeMissing
deriving DecidableEq, Repr

def Fault.message : Fault → String
  | .unexpected argument =>
      "unexpected argument '" ++ argument ++ "' found"
  | .valueMissing flag =>
      "a value is required for '" ++ flag.shown ++
      "' but none was supplied"
  | .valueUnexpected flag =>
      "unexpected value for '" ++ flag.shown ++ "' found"
  | .repeated flag =>
      "the argument '" ++ flag.shown ++
      "' cannot be used multiple times"
  | .conflicting flag other =>
      "the argument '" ++ flag.shown ++
      "' cannot be used with '" ++ other.shown ++ "'"
  | .storeMissing =>
      "the argument '" ++ Flag.store.shown ++
      "' was not provided"

/-
  What becomes of the arguments: they ask for a run, or for
  nothing but the help or the version.
-/
inductive Reading where
  | run (arguments : Arguments)
  | help
  | version
deriving DecidableEq, Repr

------------------------------------------------------------
-- Flags with Their Values
------------------------------------------------------------

/- A flag that was given, with its value or an empty one. -/
structure Setting where
  flag : Flag
  value : String
deriving DecidableEq, Repr

/- How one argument reads, before any other is looked at. -/
inductive Token where
  | flag (flag : Flag)
  | assigned (flag : Flag) (value : String)
  | separator
  | unknown (argument : String)
deriving DecidableEq, Repr

namespace Token

/- An argument with two hyphens at its start. -/
def ofLong (body : List Char) : Token :=
  let (name, value) := match Text.cutAt? '=' body with
    | none => (body, none)
    | some (name, value) => (name, some value)
  match Flag.ofName? name, value with
  | none, _ => .unknown (String.ofList ('-' :: '-' :: body))
  | some named, none => .flag named
  | some named, some value =>
      .assigned named (String.ofList value)

/-
  An argument with one hyphen at its start: a letter, and the
  value directly after it or after an equals sign. What
  follows a letter without a value is not looked at, because
  such flags end the reading.
-/
def ofShort (letter : Char) (rest : List Char) : Token :=
  match Flag.ofLetter? letter with
  | none => .unknown (String.ofList ('-' :: letter :: rest))
  | some named =>
      if named.takesValue ∧ rest ≠ [] then
        .assigned named (String.ofList
          ((Text.dropLead? ['='] rest).getD rest))
      else
        .flag named

/- How an argument reads. A lone hyphen is no flag. -/
def ofArgument (argument : String) : Token :=
  match argument.toList with
  | ['-', '-'] => .separator
  | '-' :: '-' :: body => ofLong body
  | '-' :: letter :: rest => ofShort letter rest
  | _ => .unknown argument

end Token

/- Whether an argument can be the value of the one before. -/
def isValue (argument : String) : Bool :=
  argument = "-" || argument.toList.head? ≠ some '-'

/- Where the reading of the flags ends. -/
inductive Scan where
  | settings (settings : List Setting)
  | help
  | version
deriving DecidableEq, Repr

/- Note a flag, unless it was given before and may not be. -/
def note
    (given : List Setting)
    (flag : Flag)
    (value : String) : Except Fault (List Setting) :=
  if !flag.isRepeatable ∧ given.any (·.flag = flag) then
    .error (.repeated flag)
  else if flag = .store ∧ value = "" then
    .error (.valueMissing .store)
  else
    .ok (given ++ [⟨flag, value⟩])

/-
  Read the flags from the left. The first fault, or the first
  request for help or the version, ends the reading; after a
  separator no flag may follow, nor anything else.
-/
def scan
    (given : List Setting) :
    List String → Except Fault Scan
  | [] => .ok (.settings given)
  | [argument] =>
      match Token.ofArgument argument with
      | .unknown shown => .error (.unexpected shown)
      | .separator => .ok (.settings given)
      | .flag .help => .ok .help
      | .flag .version => .ok .version
      | .flag flag =>
          if flag.takesValue then
            .error (.valueMissing flag)
          else
            (note given flag "").map .settings
      | .assigned flag value =>
          if flag.takesValue then
            (note given flag value).map .settings
          else
            .error (.valueUnexpected flag)
  | argument :: next :: rest =>
      match Token.ofArgument argument with
      | .unknown shown => .error (.unexpected shown)
      | .separator => .error (.unexpected next)
      | .flag .help => .ok .help
      | .flag .version => .ok .version
      | .flag flag =>
          if !flag.takesValue then
            match note given flag "" with
            | .error fault => .error fault
            | .ok given => scan given (next :: rest)
          else if isValue next then
            match note given flag next with
            | .error fault => .error fault
            | .ok given => scan given rest
          else
            .error (.valueMissing flag)
      | .assigned flag value =>
          if flag.takesValue then
            match note given flag value with
            | .error fault => .error fault
            | .ok given => scan given (next :: rest)
          else
            .error (.valueUnexpected flag)

------------------------------------------------------------
-- Reading
------------------------------------------------------------

/- The values of a flag, in order. -/
def valuesOf
    (settings : List Setting)
    (flag : Flag) : List String :=
  (settings.filter (·.flag = flag)).map Setting.value

/- The pairs of flags that exclude each other. -/
def conflicts : List (Flag × Flag) :=
  [(.submit, .approve), (.submit, .reject),
   (.approve, .reject)]

/- The arguments that the flags make up. -/
def ofSettings
    (settings : List Setting) : Except Fault Arguments :=
  let isGiven (flag : Flag) :=
    settings.any (·.flag = flag)
  let value? (flag : Flag) := (valuesOf settings flag).head?
  match conflicts.find? fun (flag, other) =>
      isGiven flag && isGiven other with
  | some (flag, other) => .error (.conflicting flag other)
  | none =>
      match value? .store with
      | none => .error .storeMissing
      | some store =>
          .ok
            { store
              query := (value? .query).getD ""
              user := (value? .user).getD "anonymous"
              administrators := valuesOf settings .admin
              edits := valuesOf settings .set
              conclusion :=
                if isGiven .submit then
                  .submit
                else if isGiven .approve then
                  .approve
                else
                  match value? .reject with
                  | some reason => .reject reason
                  | none => .keep
              review := isGiven .review
              pretty := isGiven .pretty }

/- What a list of arguments asks for. -/
def read (arguments : List String) : Except Fault Reading :=
  match scan [] arguments with
  | .error fault => .error fault
  | .ok .help => .ok .help
  | .ok .version => .ok .version
  | .ok (.settings settings) =>
      (ofSettings settings).map .run

end Arguments

end BuildForm
