import Chip8.CommandLine.Argument

namespace Chip8.CommandLine

inductive Shape where
  -- Two dashes alone: no option follows.
  | separator
  | long (name : String) (value? : Option String)
  | short (letter : Char)
  | plain
  deriving DecidableEq, Repr

-- A single dash is plain. A long option is cut at its first equals sign.
def Shape.of (argument : String) : Shape :=
  match argument.toList with
  | ['-', '-'] => .separator
  | '-' :: '-' :: rest =>
    let name := String.ofList (rest.takeWhile (· ≠ '='))
    match rest.dropWhile (· ≠ '=') with
    | [] => .long name none
    | _ :: value => .long name (some (String.ofList value))
  | '-' :: letter :: _ => .short letter
  | _ => .plain

inductive Item where
  -- A value, absent when the option is followed by none. An attached value
  -- stands in the same argument as its option.
  | value (target : Target) (text? : Option String) (attached : Bool)
  | help
  | refused (error : ArgumentError)
  deriving DecidableEq, Repr

def unanswered (waiting : Option OptionName) : List Item :=
  waiting.toList.map fun name => .value (.option name) none false

def scanPlain (programGiven : Bool) : List String → List Item
  | [] => []
  | argument :: rest =>
    if programGiven then [.refused (.notUnderstood argument)]
    else .value .program (some argument) false :: scanPlain true rest

-- The items of the arguments. The option that waits for its value takes the
-- next argument, if that is plain. Nothing follows an item that is an error.
def scan (waiting : Option OptionName) (programGiven : Bool) : List String → List Item
  | [] => unanswered waiting
  | argument :: rest =>
    match Shape.of argument with
    | .separator => unanswered waiting ++ scanPlain programGiven rest
    | .short letter =>
      unanswered waiting ++
        [if letter = 'h' then .help else .refused (.notUnderstood argument)]
    | .long name value? =>
      unanswered waiting ++
        match OptionName.ofText? name, value? with
        | some option, some value =>
          .value (.option option) (some value) true :: scan none programGiven rest
        | some option, none => scan (some option) programGiven rest
        | none, some _ =>
          [.refused (if name = "help" then .unexpectedValue argument else .notUnderstood argument)]
        | none, none => [if name = "help" then .help else .refused (.notUnderstood argument)]
    | .plain =>
      match waiting with
      | some option =>
        .value (.option option) (some argument) false :: scan none programGiven rest
      | none =>
        if programGiven then [.refused (.notUnderstood argument)]
        else .value .program (some argument) false :: scan none true rest

end Chip8.CommandLine
