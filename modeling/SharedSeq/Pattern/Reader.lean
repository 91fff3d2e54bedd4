import SharedSeq.Pattern
import SharedSeq.Text.Alphanumeric
import SharedSeq.Text.Blank

/-!
# Reading patterns

`Pattern.read?` reads a pattern from a text. A reader for a part takes the text behind the sign that begins
the part and gives back the text behind the part; in a verbose pattern white space and comments are left out.
A counted repetition, and a name or a number between braces, are not read.
-/

namespace SharedSeq.Pattern

/-! ## White space and comments -/

/-- The text behind white space and comments. A comment goes from a number sign to the end of its line. -/
def skipSpace : (inComment : Bool) → List Char → List Char
  | _, [] => []
  | true, c :: cs => skipSpace (c != '\n') cs
  | false, c :: cs =>
    if Text.isBlank c then skipSpace false cs
    else if c == '#' then skipSpace true cs
    else c :: cs

/-- The text from the next sign on. -/
def skip (verbose : Bool) (cs : List Char) : List Char := if verbose then skipSpace false cs else cs

/-- The first character that is neither white space nor the number sign of a comment. -/
def seek : (inComment : Bool) → List Char → Option Char
  | _, [] => none
  | inComment, c :: cs =>
    if Text.isBlank c then seek inComment cs
    else if c == '#' && !inComment then seek true cs
    else some c

/-- The character that decides whether a hyphen before it makes a range. A comment is not passed over. -/
def peek (verbose : Bool) (cs : List Char) : Option Char :=
  if verbose then (seek false cs).or cs.head? else cs.head?

/-! ## Escapes -/

def hexDigit? (c : Char) : Option Nat :=
  if c.isDigit then some (c.toNat - '0'.toNat)
  else if 'a' ≤ c ∧ c ≤ 'f' then some (c.toNat - 'a'.toNat + 10)
  else if 'A' ≤ c ∧ c ≤ 'F' then some (c.toNat - 'A'.toNat + 10)
  else none

/-- Reads `count` hexadecimal digits behind the number `n`. -/
def readHex (verbose : Bool) : (count n : Nat) → List Char → Option (Nat × List Char)
  | 0, n, cs => some (n, cs)
  | count + 1, n, cs =>
    match skip verbose cs with
    | [] => none
    | c :: cs => (hexDigit? c).bind fun d => readHex verbose count (16 * n + d) cs

/-- Reads a character that is spelled by its code point. -/
def readCodePoint (verbose : Bool) (count : Nat) (cs : List Char) : Option (Primitive × List Char) := do
  let (n, cs) ← readHex verbose count 0 cs
  if n.isValidChar then return (.literal ⟨Char.ofNat n, count == 2⟩, cs) else none

def readProperty (verbose : Bool) (cs : List Char) : Option (Primitive × List Char) :=
  match skip verbose cs with
  | [] => none
  | c :: cs => if c = '\\' ∨ c = '\x7b' then none else some (.property, cs)

def controls : List (Char × Char) :=
  [('a', '\x07'), ('f', '\x0c'), ('t', '\t'), ('n', '\n'), ('r', '\r'), ('v', '\x0b')]

/-- What a single character behind a backslash stands for. A sign of ASCII stands for itself. -/
def escaped? (c : Char) : Option Primitive :=
  if ['d', 's', 'w'].contains c then some (.shorthand false)
  else if ['D', 'S', 'W'].contains c then some (.shorthand true)
  else if ['A', 'z'].contains c then some .edge
  else if ['b', 'B', '<', '>'].contains c then some .wordEdge
  else if c.toNat < 0x80 && !c.isAlphanum then some (.literal ⟨c, false⟩)
  else (controls.lookup c).map fun control => .literal ⟨control, false⟩

def readEscape (verbose : Bool) : List Char → Option (Primitive × List Char)
  | [] => none
  | 'x' :: cs => readCodePoint verbose 2 cs
  | 'u' :: cs => readCodePoint verbose 4 cs
  | 'U' :: cs => readCodePoint verbose 8 cs
  | 'p' :: cs | 'P' :: cs => readProperty verbose cs
  | c :: cs => (escaped? c).map fun p => (p, cs)

/-! ## Classes -/

def classNames : List String :=
  ["alnum", "alpha", "ascii", "blank", "cntrl", "digit", "graph", "lower", "print", "punct", "space", "upper",
    "word", "xdigit"]

/-- Reads a class with a name: whether it is negated, and the text behind it. -/
def readNamed? : List Char → Option (Bool × List Char)
  | ':' :: cs =>
    let negated := cs.head? == some '^'
    let cs := if negated then cs.drop 1 else cs
    match cs.dropWhile (· != ':') with
    | ':' :: ']' :: rest =>
      if classNames.contains (String.ofList (cs.takeWhile (· != ':'))) then some (negated, rest) else none
    | _ => none
  | _ => none

/-- The hyphens at the start of a class, and the text behind them. -/
def readHyphens (verbose : Bool) : (fuel : Nat) → List ClassSet → List Char → List ClassSet × List Char
  | fuel + 1, items, '-' :: cs =>
    readHyphens verbose fuel (.literal ⟨'-', false⟩ :: items) (skip verbose cs)
  | _, items, cs => (items, cs)

/-- Reads the start of a class: whether it is negated, its first items, and the text behind them. Hyphens,
or else a closing bracket, are characters of the class there. -/
def readOpening (verbose : Bool) (cs : List Char) : Bool × List ClassSet × List Char :=
  let cs := skip verbose cs
  let negated := cs.head? == some '^'
  let cs := if negated then skip verbose (cs.drop 1) else cs
  match readHyphens verbose cs.length [] cs with
  | ([], ']' :: rest) => (negated, [.literal ⟨']', false⟩], rest)
  | (items, rest) => (negated, items, rest)

def readClassChar (verbose : Bool) : List Char → Option (Primitive × List Char)
  | [] => none
  | '\\' :: cs => readEscape verbose cs
  | c :: cs => some (.literal ⟨c, false⟩, cs)

def classItem? : Primitive → Option ClassSet
  | .literal l => some (.literal l)
  | .shorthand negated => some (.shorthand negated)
  | .property => some .property
  | _ => none

/-- Reads an item of a class. A hyphen behind a character makes a range, unless the class ends there or
another hyphen follows. -/
def readItem (verbose : Bool) (cs : List Char) : Option (ClassSet × List Char) := do
  let (first, cs) ← readClassChar verbose cs
  match skip verbose cs with
  | [] => none
  | '-' :: rest =>
    if [some ']', some '-'].contains (peek verbose rest) then return (← classItem? first, '-' :: rest)
    else
      let (last, rest) ← readClassChar verbose (skip verbose rest)
      match first, last with
      | .literal first, .literal last =>
        if first.char ≤ last.char then return (.range first last, rest) else none
      | _, _ => none
  | rest => return (← classItem? first, rest)

/-- The class of some items, the last first. -/
def ofItems : List ClassSet → ClassSet
  | [] => .none
  | [item] => item
  | items => .union items.reverse

/-- The class of some items behind an operation. -/
def operate (left : Option ClassSet) (items : List ClassSet) : ClassSet :=
  match left with
  | some left => .operation left (ofItems items)
  | none => ofItems items

/-- Reads a class up to its closing bracket, behind the given items and the left side of an operation. Each
turn takes at least one character, so that fuel above the length of the text is no restriction. -/
def readSet (verbose : Bool) :
    (fuel : Nat) → Option ClassSet → List ClassSet → List Char → Option (ClassSet × List Char)
  | 0, _, _, _ => none
  | fuel + 1, left, items, cs =>
    match skip verbose cs with
    | [] => none
    | '[' :: cs =>
      match readNamed? cs with
      | some (negated, cs) => readSet verbose fuel left (.named negated :: items) cs
      | none => do
        let (negated, opening, cs) := readOpening verbose cs
        let (inner, cs) ← readSet verbose fuel none opening cs
        readSet verbose fuel left (.bracket negated inner :: items) cs
    | ']' :: cs => some (operate left items, cs)
    | '&' :: '&' :: cs | '-' :: '-' :: cs | '~' :: '~' :: cs =>
      readSet verbose fuel (some (operate left items)) [] cs
    | cs => do
      let (item, cs) ← readItem verbose cs
      readSet verbose fuel left (item :: items) cs

/-! ## Groups -/

def Settings.unchanged : Settings := ⟨none, none, none⟩

/-- The settings with the one that a letter names turned on or off. -/
def Settings.set (s : Settings) (letter : Char) (value : Bool) : Settings :=
  match letter with
  | 'i' => { s with ignoreCase := some value }
  | 'u' => { s with unicode := some value }
  | 'x' => { s with verbose := some value }
  | _ => s

def settingLetters : List Char := ['i', 'm', 's', 'U', 'u', 'R', 'x']

/-- Reads settings up to the sign that ends them. Each letter may occur once, and one hyphen, behind which
letters turn settings off and at least one has to stand. -/
def readSettings (seen : List Char) (s : Settings) : List Char → Option (List Char × Settings × List Char)
  | [] => none
  | c :: cs =>
    if c = ':' ∨ c = ')' then if seen.head? == some '-' then none else some (seen, s, c :: cs)
    else if seen.contains c then none
    else if c = '-' then readSettings (c :: seen) s cs
    else if settingLetters.contains c then readSettings (c :: seen) (s.set c (!seen.contains '-')) cs
    else none

/-- Reads the name of a group up to the angle bracket that ends it. -/
def readName (cs : List Char) : Option (List Char × List Char) :=
  let name := cs.takeWhile (· != '>')
  match name, cs.dropWhile (· != '>') with
  | c :: rest, _ :: cs =>
    let isInner (c : Char) := ['_', '.', '[', ']'].contains c || Text.isAlphanumeric c
    if (c == '_' || Text.isAlphabetic c) && rest.all isInner then some (name, cs) else none
  | _, _ => none

/-- What the start of a group says. -/
inductive Opening
  | settings (s : Settings)
  /-- It opens a group, perhaps with a name. -/
  | group (s : Settings) (name : Option (List Char))
  deriving DecidableEq, Repr

def readExtension : List Char → Option (Opening × List Char)
  | '=' :: _ | '!' :: _ | '<' :: '=' :: _ | '<' :: '!' :: _ => none
  | 'P' :: '<' :: cs | '<' :: cs => (readName cs).map fun (name, cs) => (.group .unchanged (some name), cs)
  | cs =>
    match readSettings [] .unchanged cs with
    | some (_, s, ':' :: cs) => some (.group s none, cs)
    | some (_ :: _, s, _ :: cs) => some (.settings s, cs)
    | _ => none

def readGroup (verbose : Bool) (cs : List Char) : Option (Opening × List Char) :=
  match skip verbose cs with
  | '?' :: cs => readExtension cs
  | cs => some (.group .unchanged none, cs)

/-! ## Patterns -/

def ofParts : List Pattern → Pattern
  | [] => .empty
  | [p] => p
  | ps => .sequence ps.reverse

/-- The pattern of some alternatives, the last first. -/
def ofAlternatives : List Pattern → Pattern
  | [] => .empty
  | [p] => p
  | ps => .alternation ps.reverse

/-- The parts with the last one repeated. There has to be one, and it must not be a change of settings. -/
def repeatLast? : List Pattern → Option (List Pattern)
  | [] | settings _ :: _ => none
  | p :: ps => some (repetition p :: ps)

/-- A pattern, the names of the groups so far, and the text behind it. -/
abbrev Result := Pattern × List (List Char) × List Char

/-- Reads a pattern up to the end of its group or of the text, behind the given alternatives and parts. The
names of groups must differ. Each turn takes at least one character, so that fuel above the length of the
text is no restriction. -/
def readParts : (fuel : Nat) → (verbose : Bool) → (names : List (List Char)) → (alternatives parts : List Pattern) →
    List Char → Option Result
  | 0, _, _, _, _, _ => none
  | fuel + 1, verbose, names, alternatives, parts, cs =>
    let add (p : Pattern) (cs : List Char) := readParts fuel verbose names alternatives (p :: parts) cs
    match skip verbose cs with
    | [] => some (ofAlternatives (ofParts parts :: alternatives), names, [])
    | ')' :: cs => some (ofAlternatives (ofParts parts :: alternatives), names, ')' :: cs)
    | '|' :: cs => readParts fuel verbose names (ofParts parts :: alternatives) [] cs
    | '(' :: cs => do
      match ← readGroup verbose cs with
      | (.settings s, cs) =>
        readParts fuel (s.verbose.getD verbose) names alternatives (settings s :: parts) cs
      | (.group s name, cs) =>
        if name.any names.contains then none
        else
          let (inner, names, cs) ← readParts fuel (s.verbose.getD verbose) (name.toList ++ names) [] [] cs
          match cs with
          | ')' :: cs => readParts fuel verbose names alternatives (group s inner :: parts) cs
          | _ => none
    | '[' :: cs => do
      let (negated, opening, cs) := readOpening verbose cs
      let (set, cs) ← readSet verbose (cs.length + 1) none opening cs
      add (bracket negated set) cs
    | '\\' :: cs => do
      let (p, cs) ← readEscape verbose cs
      add (primitive p) cs
    | '\x7b' :: _ => none
    | c :: cs =>
      if c = '*' ∨ c = '+' ∨ c = '?' then do
        let parts ← repeatLast? parts
        readParts fuel verbose names alternatives parts (if cs.head? = some '?' then cs.drop 1 else cs)
      else if c = '.' then add (primitive .any) cs
      else if c = '^' ∨ c = '$' then add (primitive .edge) cs
      else add (primitive (.literal ⟨c, false⟩)) cs

def read? (cs : List Char) : Option Pattern :=
  match readParts (cs.length + 1) false [] [] [] cs with
  | some (p, _, []) => some p
  | _ => none

def isUsable (cs : List Char) : Bool := (read? cs).any isSupported

end SharedSeq.Pattern
