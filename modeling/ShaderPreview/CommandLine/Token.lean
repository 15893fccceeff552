import ShaderPreview.CommandLine.Complaint

/-!
# Tokens of a Command Line

Each argument is looked at on its own first, before any of them takes effect. It is a flag, perhaps
abbreviated and perhaps with a value attached; something that looks like a flag and is none; the
separator, after which all arguments are plain; or a plain text. A negative number and a text with a
space in it are plain although they start with a dash, and so is a single dash.

## Main definitions

* `Token`: the kinds.
* `Token.ofArgument`: the kind of one argument before the separator.
* `Token.ofArguments`: the tokens of a command line.
-/

namespace ShaderPreview

/-- A value **attached to a flag**, and whether the flag is spelled as a single letter. -/
structure Attached where
  value : List Char
  short : Bool
  deriving DecidableEq, Repr

/-- A **token** of a command line. -/
inductive Token where
  | plain (text : String)
  | separator
  | flag (f : Flag) (attached : Option Attached)
  | unknown (text : String)
  deriving DecidableEq, Repr

namespace Token

/-- After this argument all others are plain. -/
def separatorText : String := "--"

/-- A text cut at its first equals sign. -/
def cutAtEquals (s : List Char) : List Char × Option (List Char) :=
  match Text.cut? ['='] s with
  | some (before, after) => (before, some after)
  | none => (s, none)

/-- Whether all of a text is decimal digits, of which there is at least one. -/
def isDigits (s : List Char) : Bool := !s.isEmpty && s.all fun c => (Numeral.digit? c).isSome

/-- Whether a text is a **negative number**: a dash, and digits with or without a point before the
last of them. A line feed may follow. -/
def isNegativeNumber (s : List Char) : Bool :=
  match s with
  | '-' :: rest =>
    let body := if rest.getLast? = some '\n' then rest.dropLast else rest
    let whole := body.takeWhile (· != '.')
    match body.dropWhile (· != '.') with
    | [] => isDigits whole
    | _ :: fraction => (whole.isEmpty || isDigits whole) && isDigits fraction
  | _ => false

/-- Whether a spelling is a **single letter** behind a single dash. -/
def isShort (spelling : List Char) : Bool := spelling.length == 2

/-- The **flags that an argument may mean**, each with its spelling. A double dash may be followed
by an abbreviation of a spelling; a single dash is followed by one letter and what is attached to
it. -/
def candidates (s : List Char) : List (String × Flag × Option Attached) :=
  match s with
  | '-' :: '-' :: _ =>
    let (stem, value) := cutAtEquals s
    let attached := value.map fun v => ⟨v, false⟩
    (Flag.table.filter fun e => stem.isPrefixOf e.1.toList).map fun e => (e.1, e.2, attached)
  | '-' :: c :: rest =>
    (Flag.table.filter fun e => e.1.toList == ['-', c]).map fun e => (e.1, e.2, some ⟨rest, true⟩)
  | _ => []

/-- The flag that an argument **spells out**, with what follows an equals sign. -/
def spelledOut? (s : List Char) : Option Token :=
  match Flag.ofSpelling? (String.ofList s) with
  | some f => some (.flag f none)
  | none =>
    match cutAtEquals s with
    | (stem, some value) =>
      (Flag.ofSpelling? (String.ofList stem)).map fun f =>
        .flag f (some ⟨value, isShort stem⟩)
    | (_, none) => none

/-- The **kind of an argument** that is not the separator. -/
def ofArgument (text : String) : Except Complaint Token :=
  let s := text.toList
  if s.head? != some '-' || s == ['-'] then .ok (.plain text)
  else
    match spelledOut? s with
    | some token => .ok token
    | none =>
      match candidates s with
      | [(_, f, attached)] => .ok (.flag f attached)
      | [] =>
        if isNegativeNumber s || s.contains ' ' then .ok (.plain text) else .ok (.unknown text)
      | several => .error (.ambiguous text (several.map (·.1)))

/-- The **tokens of a command line**. -/
def ofArguments : List String → Except Complaint (List Token)
  | [] => .ok []
  | text :: rest =>
    if text = separatorText then .ok (.separator :: rest.map .plain)
    else do
      let token ← ofArgument text
      let tokens ← ofArguments rest
      return token :: tokens

end Token

end ShaderPreview
