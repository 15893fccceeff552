import ShaderPreview.Text.Search
import ShaderPreview.Text.Word

/-!
# Mending Fragment Shaders

A generated fragment shader often lacks the **precision statement** that has to come first, or the
declarations of the inputs it uses. Mending puts both in. A text that already starts with a
precision statement and declares what it uses is in **normal form** and comes back unchanged.

The mending looks at text, not at meaning: an identifier that occurs in a comment counts as used. A
version directive stays the very first line.

## Main definitions

* `Precision.find?`: the leftmost precision statement of a text and what stands around it.
* `Declaration`: an input with its statement, and `Declaration.declaredIn`.
* `Repair`: the mended text and what was done to it.
* `Repair.mend`: mends a fragment shader.
-/

namespace ShaderPreview

/-- The qualifiers of precision. -/
def precisionWords : List (List Char) := ["lowp".toList, "mediump".toList, "highp".toList]

/-! ### Precision statements -/

namespace Precision

/-- What follows a **precision statement** that starts here: the word `precision`, a qualifier and
the type `float`, with blanks between them, and a semicolon. -/
def after? (s : List Char) : Option (List Char) := do
  let s ← Text.eat "precision".toList s
  let s ← Text.eatBlanks s
  let s ← Text.eatOne precisionWords s
  let s ← Text.eatBlanks s
  let s ← Text.eat "float".toList s
  Text.eat [';'] (Text.trimStart s)

/-- A text cut around its leftmost precision statement. -/
structure Cut where
  before : List Char
  statement : List Char
  rest : List Char
  deriving DecidableEq, Repr

/-- The **leftmost precision statement**. -/
def find? : List Char → Option Cut
  | [] => none
  | c :: s =>
    match after? (c :: s) with
    | some rest =>
      some { before := [], statement := (c :: s).take ((c :: s).length - rest.length), rest }
    | none => (find? s).map fun cut => { cut with before := c :: cut.before }

/-- The statement of a given precision. -/
def statement (qualifier : String) : List Char :=
  "precision ".toList ++ qualifier.toList ++ " float;".toList

end Precision

/-! ### Declarations -/

/-- A **declaration** of a shader input: the storage words that may introduce it, of which the first
is used to write it, its type, and its identifier. -/
structure Declaration where
  storage : List String
  type : String
  identifier : String
  deriving DecidableEq, Repr

namespace Declaration

/-- The statement that makes the declaration. -/
def statement (d : Declaration) : String :=
  d.storage.headD "" ++ " " ++ d.type ++ " " ++ d.identifier ++ ";"

/-- Takes a precision qualifier and the blanks after it off the front, if they are there. -/
def skipQualifier (s : List Char) : List Char :=
  match Text.eatOne precisionWords s with
  | some rest => (Text.eatBlanks rest).getD s
  | none => s

/-- Whether a text goes on with a word character. -/
def startsWord : List Char → Bool
  | [] => false
  | c :: _ => Text.isWord c

/-- Whether the declaration is made here: a storage word, blanks, a qualifier or none, the type,
blanks, and the identifier as a whole word. -/
def madeHere (d : Declaration) (s : List Char) : Bool :=
  let rest := do
    let s ← Text.eatOne (d.storage.map String.toList) s
    let s ← Text.eatBlanks s
    let s ← Text.eat d.type.toList (skipQualifier s)
    let s ← Text.eatBlanks s
    Text.eat d.identifier.toList s
  match rest with
  | some rest => !startsWord rest
  | none => false

/-- Whether the declaration is made in a text, given whether a word character stands before it. -/
def madeAfter (d : Declaration) (afterWord : Bool) : List Char → Bool
  | [] => false
  | c :: s => (!afterWord && d.madeHere (c :: s)) || d.madeAfter (Text.isWord c) s

/-- Whether a text **makes the declaration** anywhere, starting at a whole word. -/
def declaredIn (d : Declaration) (s : List Char) : Bool := d.madeAfter false s

/-- Whether the identifier occurs in a text. -/
def usedIn (d : Declaration) (s : List Char) : Bool := Text.contains d.identifier.toList s

/-- The **recognized inputs**, in the order in which missing ones are put in. -/
def recognized : List Declaration := [
  ⟨["uniform"], "float", "time"⟩,
  ⟨["uniform"], "vec2", "resolution"⟩,
  ⟨["varying", "in"], "vec3", "vNormal"⟩,
  ⟨["varying", "in"], "vec3", "vPosition"⟩]

/-- The recognized inputs that a text uses and does not declare. -/
def pending (s : List Char) : List Declaration :=
  recognized.filter fun d => d.usedIn s && !d.declaredIn s

end Declaration

/-! ### Mending -/

/-- What mending did with the precision statement. -/
inductive PrecisionAction where
  | kept
  | inserted
  | relocated
  deriving DecidableEq, Repr

/-- The word for an action. -/
def PrecisionAction.name : PrecisionAction → String
  | .kept => "kept"
  | .inserted => "inserted"
  | .relocated => "relocated"

/-- The **outcome of mending**: the text, what became of the precision statement, and the
declarations that were put in. -/
structure Repair where
  source : String
  precision : PrecisionAction := .kept
  declarations : List Declaration := []
  deriving DecidableEq, Repr

namespace Repair

/-- The statements that were put in. -/
def statements (r : Repair) : List String := r.declarations.map (·.statement)

/-- Whether anything was done. -/
def changed (r : Repair) : Bool := r.precision != .kept || !r.declarations.isEmpty

/-- The **version line** of a trimmed text, without the blanks at its end, and the code below it.
Without a version directive the line is empty. -/
def versionSplit (s : List Char) : List Char × List Char :=
  if "#version".toList.isPrefixOf s then
    let (line, rest) := Text.splitLine s
    (Text.trimEnd line, Text.trimStart rest)
  else ([], s)

/-- A code below its version line, if there is one. -/
def underVersion (version code : List Char) : List Char :=
  if version.isEmpty then code else version ++ '\n' :: code

/-- The statements of declarations, one to a line. -/
def statementLines (ds : List Declaration) : List (List Char) := ds.map (·.statement.toList)

/-- The mending of a text that **starts with a precision statement**: missing declarations go in
under it, and the layout of the rest stays. -/
def splice (source : String) (version : List Char) (cut : Precision.Cut) : Repair :=
  let code := cut.statement ++ cut.rest
  let pending := Declaration.pending (version ++ '\n' :: code)
  if pending.isEmpty then { source }
  else
    let onNewLine := cut.rest.isEmpty || "\n".toList.isPrefixOf cut.rest
    let gap := if onNewLine then [] else ['\n']
    let code := Text.joinLines (cut.statement :: statementLines pending) ++ gap ++ cut.rest
    { source := String.ofList (underVersion version code), declarations := pending }

/-- The mending of a text that does not: a precision statement and the missing declarations go on
top of the body. -/
def rebuild (version precision body : List Char) (action : PrecisionAction) : Repair :=
  let pending := Declaration.pending (version ++ '\n' :: precision ++ '\n' :: body)
  let parts := [precision, Text.joinLines (statementLines pending), body]
  let code := Text.joinLines (parts.filter (!·.isEmpty))
  { source := String.ofList (underVersion version code)
    precision := action
    declarations := pending }

/-- **Mends a fragment shader**. A precision statement further down moves to the top; where there is
none, one of the given precision goes in. -/
def mend (source : String) (precision : String := "mediump") : Repair :=
  let (version, code) := versionSplit (Text.trim source.toList)
  match Precision.find? code with
  | some cut =>
    if cut.before.isEmpty then splice source version cut
    else rebuild version cut.statement (Text.trim (cut.before ++ cut.rest)) .relocated
  | none => rebuild version (Precision.statement precision) code .inserted

end Repair

end ShaderPreview
