import ZigbeeBridge.Cli.Level

/-!
Reading the arguments, one after another. An argument is the name of a command, an option, or a
word; an option may hold its value, or the next argument is it. The first argument that cannot be
read ends the reading, and so does an option that asks for help or for the version.
-/
namespace ZigbeeBridge.Cli

open Data

inductive Reading where
  | order (options : Options) (order : Order)
  | help (level : Level)
  | version (level : Level)
  | refused
  deriving DecidableEq, Repr

/-- Where the reading stands: options that came at this level, how many words, and whether only
words may follow. -/
structure Scan where
  level : Level
  draft : Draft
  seen : List String
  words : Nat
  onlyWords : Bool

namespace Scan

def start : Scan := ⟨.program, {}, [], 0, false⟩

def descend (s : Scan) (level : Level) : Scan := ⟨level, s.draft, [], 0, false⟩

/-- Takes a word. -/
def word? (s : Scan) (arg : String) : Option Scan := do
  let set ← s.level.words[s.words]?
  let draft ← set arg s.draft
  some { s with draft, words := s.words + 1 }

/-- Notes that an option came; most of them may come only once. -/
def note? (s : Scan) (flag : Flag) : Option Scan :=
  if s.seen.contains flag.long then none else some { s with seen := flag.long :: s.seen }

def give? (s : Scan) (flag : Flag) (set : String → Draft → Option Draft) (value : String) :
    Option Scan := do
  let s ← s.note? flag
  let draft ← set value s.draft
  some { s with draft }

def mark? (s : Scan) (flag : Flag) (set : Draft → Draft) : Option Scan :=
  (s.note? flag).map fun s => { s with draft := set s.draft }

end Scan

/-- What an argument does to the reading: it goes on, waits for a value, or is over. -/
inductive Step where
  | next (scan : Scan)
  | wait (scan : Scan) (take : String → Option Scan)
  | finished (reading : Reading)

namespace Step

def ofScan? : Option Scan → Step
  | some s => next s
  | none => finished .refused

/-- A long option, with the value that it holds. -/
def long (s : Scan) (name : String) (value : Option String) : Step :=
  match s.level.flags.find? (·.long = name), value with
  | none, _ => finished .refused
  | some flag, value =>
    match flag.effect, value with
    | .help, none => finished (.help s.level)
    | .version, none => finished (.version s.level)
    | .verbose, none => next s
    | .mark set, none => ofScan? (s.mark? flag set)
    | .value set, some value => ofScan? (s.give? flag set value)
    | .value set, none => wait s (s.give? flag set)
    | _, some _ => finished .refused

/-- Options by their letters, one after another; one that takes a value takes what is left. -/
def letters (s : Scan) : List Char → Step
  | [] => next s
  | c :: cs =>
    match s.level.flags.find? (·.letter = some c) with
    | none => finished .refused
    | some flag =>
      match flag.effect with
      | .help => finished (.help s.level)
      | .version => finished (.version s.level)
      | .verbose => letters s cs
      | .mark set =>
        match s.mark? flag set with
        | some s => letters s cs
        | none => finished .refused
      | .value set =>
        match cs with
        | [] => wait s (s.give? flag set)
        | '=' :: value | value => ofScan? (s.give? flag set (String.ofList value))

def ofArgument (s : Scan) (arg : String) : Step :=
  if s.onlyWords then ofScan? (s.word? arg)
  else
    match arg.toList with
    | ['-', '-'] => next { s with onlyWords := true }
    | '-' :: '-' :: cs =>
      let name := String.ofList (cs.takeWhile (· ≠ '='))
      match cs.dropWhile (· ≠ '=') with
      | _ :: value => long s name (some (String.ofList value))
      | [] => long s name none
    | '-' :: c :: cs => letters s (c :: cs)
    | _ => ofScan? (s.word? arg)

end Step

/-- An option does not take another one for its value. -/
def looksLikeOption (arg : String) : Bool :=
  match arg.toList with
  | '-' :: _ :: _ => true
  | _ => false

/-- Help for the command that the names lead to. -/
def helpOn : Level → List String → Reading
  | level, [] => .help level
  | level, name :: names =>
    match level.children.get? name with
    | some child => helpOn child names
    | none => .refused

/-- What a variable says where no option does. -/
def Draft.options (d : Draft) (environment : Entries String) : Options :=
  { profile := d.profile.or (environment.get? "DECONZ_PROFILE")
    address := d.address.or (environment.get? "DECONZ_ADDRESS")
    token := d.token.or (environment.get? "DECONZ_TOKEN")
    timeout := d.timeout
    insecure := d.insecure
    format := d.format
    quiet := d.quiet }

def Scan.finish (s : Scan) (environment : Entries String) : Reading :=
  if s.words < s.level.words.length then .refused
  else match s.level.order? s.draft with
    | some order => .order (s.draft.options environment) order
    | none => .refused

def scan (environment : Entries String) : List String → Scan → Reading
  | [], s => s.finish environment
  | arg :: args, s =>
    match if s.onlyWords then none else s.level.children.get? arg with
    | some .help => helpOn s.level args
    | some level => scan environment args (s.descend level)
    | none =>
      match Step.ofArgument s arg, args with
      | .next s, args => scan environment args s
      | .finished reading, _ => reading
      | .wait _ _, [] => .refused
      | .wait _ take, value :: args =>
        if looksLikeOption value then .refused
        else match take value with
          | some s => scan environment args s
          | none => .refused

/-- What the arguments of the program order. -/
def readArguments (environment : Entries String) (args : List String) : Reading :=
  scan environment args .start

end ZigbeeBridge.Cli
