import SymbolFootprint.SizeText
import SymbolFootprint.Text.Affix

/-!
The words of a command line: options with or without a value, and arguments.

An option has a long name, after two hyphens, and may have a letter, after one. Letters can share a
hyphen. A value is a word of its own that does not look like an option, or stands in the same word
after an equals sign; after a letter the sign may be left out. After a word of two hyphens all words
are arguments.
-/

namespace SymbolFootprint.CommandLine

/-- How an option is written, and whether it may be given more than once. -/
structure Spelling (α : Type) where
  option : α
  name : String
  letter : Option Char := none
  takesValue : Bool := false
  repeatable : Bool := false

/-- What a word or two of a command line mean. -/
inductive Meaning (α : Type) where
  | option (option : α) (value : Option String)
  | argument (text : String)
deriving DecidableEq

/-- What a command line means, up to the first word that cannot be understood, if there is one. -/
structure Reading (α : Type) where
  meanings : List (Meaning α)
  complete : Bool
deriving DecidableEq

namespace Reading

variable {α : Type}

/-- A command line that cannot be understood from here on. -/
def broken : Reading α := ⟨[], false⟩

def cons (meaning : Meaning α) (reading : Reading α) : Reading α :=
  { reading with meanings := meaning :: reading.meanings }

end Reading

/-- Does a word look like an option? A single hyphen does not. -/
def looksLikeOption (word : List Char) : Bool :=
  match word with
  | '-' :: _ :: _ => true
  | _ => false

structure Cluster (α : Type) where
  meanings : List (Meaning α)
  /-- An option whose value is the next word. -/
  waiting : Option α
  complete : Bool
deriving DecidableEq

namespace Cluster

variable {α : Type}

def broken : Cluster α := ⟨[], none, false⟩

def cons (meaning : Meaning α) (cluster : Cluster α) : Cluster α :=
  { cluster with meanings := meaning :: cluster.meanings }

def skipEquals : List Char → List Char
  | '=' :: rest => rest
  | rest => rest

/-- Reads letters. What follows the letter of an option with a value is the value. -/
def read (spellings : List (Spelling α)) : List Char → Cluster α
  | [] => ⟨[], none, true⟩
  | c :: rest =>
    match spellings.find? (·.letter = some c) with
    | none => broken
    | some spelling =>
      if !spelling.takesValue then cons (.option spelling.option none) (read spellings rest)
      else if rest.isEmpty then ⟨[], some spelling.option, true⟩
      else
        ⟨[.option spelling.option (some (String.ofList (skipEquals rest)))], none, true⟩

end Cluster

namespace Reading

variable {α : Type}

/-- What a word after two hyphens means: an option, with its value or still without it. -/
def ofName (spellings : List (Spelling α)) (word : List Char) : Cluster α :=
  let (name, value) :=
    match Text.cut? ['='] word with
    | some (name, value) => (name, some value)
    | none => (word, none)
  match spellings.find? (·.name.toList = name) with
  | none => .broken
  | some spelling =>
    match spelling.takesValue, value with
    | true, some value => ⟨[.option spelling.option (some (String.ofList value))], none, true⟩
    | true, none => ⟨[], some spelling.option, true⟩
    | false, some _ => .broken
    | false, none => ⟨[.option spelling.option none], none, true⟩

def ofWord (spellings : List (Spelling α)) (word : String) : Cluster α :=
  match word.toList with
  | '-' :: '-' :: name => ofName spellings name
  | '-' :: c :: rest => Cluster.read spellings (c :: rest)
  | _ => ⟨[.argument word], none, true⟩

/-- Reads the words of a command line. An option may be waiting for its value. -/
def ofWords (spellings : List (Spelling α)) (waiting : Option α) : List String → Reading α
  | [] => ⟨[], waiting.isNone⟩
  | word :: rest =>
    match waiting with
    | some option =>
      if looksLikeOption word.toList then broken
      else cons (.option option (some word)) (ofWords spellings none rest)
    | none =>
      if word = "--" then ⟨rest.map .argument, true⟩
      else
        let first := ofWord spellings word
        if first.complete then
          let later := ofWords spellings first.waiting rest
          { later with meanings := first.meanings ++ later.meanings }
        else ⟨first.meanings, false⟩

variable [DecidableEq α]

/-- The meanings up to the first option that stands there again although it may not, if there is
such an option. -/
def untilRepetition? (repeatable : α → Bool) (seen : List α) :
    List (Meaning α) → Option (List (Meaning α))
  | [] => none
  | .argument text :: rest => (untilRepetition? repeatable seen rest).map (.argument text :: ·)
  | .option option value :: rest =>
    if option ∈ seen ∧ !repeatable option then some []
    else (untilRepetition? repeatable (option :: seen) rest).map (.option option value :: ·)

def ofCommandLine (spellings : List (Spelling α)) (words : List String) : Reading α :=
  let reading := ofWords spellings none words
  let repeatable (option : α) : Bool := spellings.any fun spelling =>
    spelling.option = option && spelling.repeatable
  match untilRepetition? repeatable [] reading.meanings with
  | some meanings => ⟨meanings, false⟩
  | none => reading

end Reading

/-- Why a command line is not carried out as it stands. -/
inductive Interruption where
  | misuse
  | help
  | version
deriving DecidableEq

/-- Takes up the meanings one after the other. What has been misunderstood counts only after all
that precedes it. -/
def Reading.collect {α σ : Type} (take : σ → Meaning α → Except Interruption σ) (start : σ)
    (reading : Reading α) : Except Interruption σ :=
  match reading.meanings.foldlM take start with
  | .error interruption => .error interruption
  | .ok result => if reading.complete then .ok result else .error .misuse

/-- A number as the value of an option: decimal digits, after an optional plus sign. -/
def number? (text : String) : Option Nat :=
  (Size.ofDigits 10 text.toList).toOption.map Size.bytes

structure Outcome where
  code : Nat
  output : String := ""
  errors : String := ""
deriving DecidableEq

end SymbolFootprint.CommandLine
