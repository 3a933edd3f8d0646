/-!
Taking the words of a command line apart.

An option has a long name behind two dashes and may have a letter behind one.
Its value stands behind an equals sign, behind the letter, or in the next word,
which may not look like an option itself. Two dashes alone end the options. The
first word that is no option and no value is a command, and what follows it is
its own affair.

A value is judged when the next option comes up; one that stands in front of
the command waits until the command has been read. Whoever asks for help is
answered at once, unless something before was wrong.

* `CommandLine.scan` collects options up to the first command, and
  `Scanned.finish` judges what was left.
-/

namespace ChainElection.CommandLine

/-- What an option is for: to take a value, once or several times, to be there, or to ask about the
program itself. -/
inductive OptionRole where
  | value (accepts : String → Bool)
  | values (accepts : String → Bool)
  | mark
  | inquiry

/-- Does the option take values? -/
def OptionRole.takesValue : OptionRole → Bool
  | .value _ => true
  | .values _ => true
  | _ => false

/-- Does the option take this value? -/
def OptionRole.accepts (r : OptionRole) (text : String) : Bool :=
  match r with
  | .value accepts => accepts text
  | .values accepts => accepts text
  | _ => true

/-- May the option be there more than once? -/
def OptionRole.repeats : OptionRole → Bool
  | .values _ => true
  | _ => false

/-- The role of an option whose value can be read in some way. -/
def OptionRole.reading {α : Type} (read : String → Option α) : OptionRole :=
  .value fun s => (read s).isSome

/-- The form of an option. -/
structure OptionForm where
  long : String
  short : Option Char
  role : OptionRole

/-- The option that asks for help. -/
def OptionForm.help : OptionForm := ⟨"help", some 'h', .inquiry⟩

/-- The option that asks which version the program is. -/
def OptionForm.version : OptionForm := ⟨"version", some 'V', .inquiry⟩

/-- Why the words of a command line make no sense, or that help is asked for instead. -/
inductive ArgumentFault where
  | unknown (word : String)
  | unexpected (word : String)
  | missingValue (option : String)
  | strayValue (option : String)
  | repeated (option : String)
  | badValue (option text : String)
  | missingOption (option : String)
  | missingCommand
  | helpWanted
  deriving DecidableEq, Repr

/-- What is said of the fault. -/
def ArgumentFault.message : ArgumentFault → String
  | .unknown word => s!"unknown option: {word}"
  | .unexpected word => s!"unexpected argument: {word}"
  | .missingValue option => s!"--{option} needs a value"
  | .strayValue option => s!"--{option} takes no value"
  | .repeated option => s!"--{option} is given twice"
  | .badValue option text => s!"--{option} does not take {text}"
  | .missingOption option => s!"--{option} is missing"
  | .missingCommand => "a command is missing"
  | .helpWanted => "help is wanted"

/-- What a word is: the end of the options, an option by name or by letter, maybe with a value, or
neither. -/
inductive WordKind where
  | separator
  | long (name : List Char) (value : Option (List Char))
  | short (letter : Char) (value : Option (List Char))
  | plain
  deriving DecidableEq, Repr

/-- The kind of a word. -/
def kind (word : String) : WordKind :=
  match word.toList with
  | ['-', '-'] => .separator
  | '-' :: '-' :: s =>
    .long (s.takeWhile (· ≠ '='))
      (match s.dropWhile (· ≠ '=') with
        | [] => none
        | _ :: v => some v)
  | ['-', c] => .short c none
  | '-' :: c :: '=' :: v => .short c (some v)
  | '-' :: c :: v => .short c (some v)
  | _ => .plain

/-- What has been collected: options with their values, an option whose value has not been judged yet,
and the first command with what follows it. -/
structure Scanned where
  values : List (String × String)
  pending : Option (OptionForm × String)
  command : Option (String × List String)

/-- The option that a word stands for, and the value that the word has with it. -/
def recognize (forms : List OptionForm) (word : String) :
    WordKind → Except ArgumentFault (OptionForm × Option String)
  | .long name value =>
    match forms.find? fun f => f.long.toList == name with
    | some f => .ok (f, value.map String.ofList)
    | none => .error (.unknown word)
  | .short letter value =>
    match forms.find? fun f => f.short == some letter with
    | some f => .ok (f, if f.role.takesValue then value.map String.ofList else none)
    | none => .error (.unknown word)
  | _ => .error (.unexpected word)

/-- Notes an option, which has to take its value and may have to be the first of its kind. -/
def noted (seen : List (String × String)) (f : OptionForm) (value : String) :
    Except ArgumentFault (List (String × String)) :=
  if !f.role.repeats && seen.any fun p => p.1 == f.long then .error (.repeated f.long)
  else if f.role.accepts value then .ok (seen ++ [(f.long, value)])
  else .error (.badValue f.long value)

/-- Notes the option that is left, if there is one. -/
def settle (seen : List (String × String)) :
    Option (OptionForm × String) → Except ArgumentFault (List (String × String))
  | none => .ok seen
  | some (f, value) => noted seen f value

/-- All options with their values, once the command has been read. -/
def Scanned.finish (s : Scanned) : Except ArgumentFault (List (String × String)) :=
  settle s.values s.pending

/-- Takes an option that wants no value. -/
def takeMark (seen : List (String × String)) (f : OptionForm) :
    Except ArgumentFault (List (String × String)) :=
  match f.role with
  | .inquiry => .error .helpWanted
  | _ => noted seen f ""

/-- Collects options up to the first command; `seen` have been collected already, `pending` has not
been judged yet. -/
def scan (forms : List OptionForm) (seen : List (String × String))
    (pending : Option (OptionForm × String)) : List String → Except ArgumentFault Scanned
  | [] => .ok ⟨seen, pending, none⟩
  | word :: rest =>
    match kind word with
    | .plain => .ok ⟨seen, pending, some (word, rest)⟩
    | .separator =>
      match rest with
      | [] => .ok ⟨seen, pending, none⟩
      | w :: _ => .error (.unexpected w)
    | k =>
      match recognize forms word k, settle seen pending with
      | .error e, _ => .error e
      | _, .error e => .error e
      | .ok (f, value), .ok seen =>
        match f.role.takesValue, value with
        | false, some _ => .error (.strayValue f.long)
        | false, none =>
          match takeMark seen f with
          | .error e => .error e
          | .ok seen => scan forms seen none rest
        | true, some v =>
          match noted seen f v with
          | .error e => .error e
          | .ok seen => scan forms seen none rest
        | true, none =>
          match rest with
          | [] => .error (.missingValue f.long)
          | v :: rest =>
            if kind v = .plain then scan forms seen (some (f, v)) rest
            else .error (.missingValue f.long)

end ChainElection.CommandLine
