import SharedSeq.Log
import SharedSeq.Pattern.Reader
import SharedSeq.Text.Alphanumeric
import SharedSeq.Text.Blank
import SharedSeq.Text.Cut

/-!
# Directives of a log filter

A `Directive` says up to which level the events of some target are logged. It is written in one of these
forms, where a level is a name or a number and all is logged if none is given:

* a level, which holds for every target, or else a target;
* a target, an equals sign and a level;
* a target or nothing, a span between brackets, and then an equals sign and a level or nothing. Inside of
  the brackets stands the name of the span, or a field between braces, or both.

`Directive.read` reads the three forms. It looks for the signs in the text without white space at its ends
and counts in bytes where they stand; the parts are then cut out of the text as it is written. Without white
space at the front these are the parts between the signs (`read_directive`); with it every cut is shifted.
-/

namespace SharedSeq

/-- Up to which level some events are logged. -/
structure Directive where
  /-- What the target of the events begins with. -/
  target : List Char
  /-- Whether it is only about what happens inside of a span with a certain name or value. -/
  inSpan : Bool
  fields : List (List Char)
  /-- The least important level that is logged, or none if nothing is. -/
  level : Option Level
  deriving DecidableEq, Repr

inductive FilterFault
  | invalid
  /-- One of its parts would begin or end inside of a character. -/
  | split (fault : Text.SplitCharacter)
  deriving DecidableEq, Repr

namespace Directive

/-! ## Levels -/

def levels : List (String × Option Level) :=
  [("off", none), ("error", some .error), ("warn", some .warn), ("info", some .info),
    ("debug", some .debug), ("trace", some .trace)]

/-- The number that digits stand for, perhaps after a plus sign. -/
def number? (cs : List Char) : Option Nat :=
  let ds := match cs with
    | '+' :: ds => ds
    | ds => ds
  if !ds.isEmpty && ds.all Char.isDigit then some (ds.foldl (fun n d => 10 * n + (d.toNat - '0'.toNat)) 0)
  else none

/-- The level that a word names: by its place from `off` on, or by its name, in which the case of the
letters does not matter. -/
def level? (word : List Char) : Option (Option Level) :=
  match number? word with
  | some n => (levels.map Prod.snd)[n]?
  | none => levels.lookup (String.ofList (word.map Char.toLower))

def isFirst (c : Char) : Bool := Text.isAlphanumeric c || c == '_' || c == ':' || c == '-'

/-! ## The three forms -/

/-- A directive about all events whose target begins with a text. -/
def ofTarget (target : List Char) (level : Option Level) : Directive := ⟨target, false, [], level⟩

/-- A directive without signs: a level, or else a target. -/
def bare (text : List Char) : Directive :=
  match level? text with
  | some level => ofTarget [] level
  | none => ofTarget text (some .trace)

def withLevel (d : Directive) (word : List Char) : Except FilterFault Directive :=
  if word.isEmpty then .ok { d with level := some .trace }
  else
    match level? word with
    | some level => .ok { d with level }
    | none => .error .invalid

/-- Reads the level that stands in the text from a byte on. -/
def readLevel (text : List Char) (d : Directive) (place : Nat) : Except FilterFault Directive := do
  let word ← (Text.after place text).mapError .split
  d.withLevel word

/-- Reads what follows the bracket that closes a span: nothing, or a level. -/
def readEnd (text : List Char) (d : Directive) (place : Nat) : List Char → Except FilterFault Directive
  | [] => .ok d
  | '=' :: _ => readLevel text d (place + 1)
  | _ => .error .invalid

/-- Whether a text is a number without a sign: digits, perhaps with a decimal point among or beside them, and
then perhaps an exponent. -/
def isDecimal (cs : List Char) : Bool :=
  let whole := cs.takeWhile Char.isDigit
  let rest := cs.dropWhile Char.isDigit
  let (fraction, rest) := match rest with
    | '.' :: rest => (rest.takeWhile Char.isDigit, rest.dropWhile Char.isDigit)
    | rest => ([], rest)
  let isExponent (cs : List Char) := !cs.isEmpty && cs.all Char.isDigit
  !(whole ++ fraction).isEmpty && match rest with
    | [] => true
    | e :: '+' :: cs | e :: '-' :: cs => e.toLower == 'e' && isExponent cs
    | e :: cs => e.toLower == 'e' && isExponent cs

def isNumber (cs : List Char) : Bool :=
  let cs := match cs with
    | '+' :: cs | '-' :: cs => cs
    | cs => cs
  isDecimal cs || ["inf", "infinity", "nan"].contains (String.ofList (cs.map Char.toLower))

/-- The value that a field is to have, between its first equals sign and the next. -/
def value? (field : List Char) : Option (List Char) :=
  match field.dropWhile (· != '=') with
  | [] => none
  | _ :: rest => some (rest.takeWhile (· != '='))

/-- The directive for a field, which is not empty. A value is a number or a pattern, and a directive that
has one is about spans only. -/
def withField (d : Directive) (field : List Char) : Except FilterFault Directive :=
  let name := field.takeWhile (· != '=')
  if field.isEmpty then .error .invalid
  else
    match value? field with
    | none => .ok { d with fields := [name] }
    | some value =>
      if isNumber value || Pattern.isUsable value then .ok { d with inSpan := true, fields := [name] }
      else .error .invalid

def readField (text : List Char) (d : Directive) (place : Nat) (rest : List Char) :
    Except FilterFault Directive := do
  let stop := place + Text.byteSize (rest.takeWhile (· != '\x7d'))
  match rest.dropWhile (· != '\x7d') with
  | [] => throw .invalid
  | _ :: rest =>
    let field ← (Text.between place stop text).mapError .split
    let d ← d.withField field
    match rest with
    | ']' :: rest => readEnd text d (stop + 2) rest
    | _ => throw .invalid

/-- Reads what stands behind the bracket that opens a span. -/
def readSpan (text target : List Char) (place : Nat) (rest : List Char) : Except FilterFault Directive := do
  let name := rest.takeWhile fun c => c != ']' && c != '\x7b'
  let stop := place + Text.byteSize name
  match rest.dropWhile fun c => c != ']' && c != '\x7b' with
  | [] => throw .invalid
  | sign :: rest =>
    let _ ← (Text.between place stop text).mapError .split
    if sign = ']' then readEnd text ⟨target, true, [], some .trace⟩ (stop + 1) rest
    else readField text ⟨target, !name.isEmpty, [], some .trace⟩ (stop + 1) rest

def read (text : List Char) : Except FilterFault Directive :=
  match Text.trim text with
  | [] => .error .invalid
  | '[' :: rest => readSpan text [] 1 rest
  | c :: cs =>
    if isFirst c then
      let body := c :: cs
      let place := Text.byteSize (body.takeWhile fun c => c != '=' && c != '[')
      match body.dropWhile fun c => c != '=' && c != '[' with
      | [] => .ok (bare text)
      | sign :: rest => do
        let target ← (Text.before place text).mapError .split
        if sign = '=' then readLevel text (ofTarget target none) (place + 1)
        else readSpan text target (place + 1) rest
    else .error .invalid

/-- A target and a level with an equals sign between them are read as such. -/
theorem read_directive {c : Char} {cs word : List Char} (hfirst : isFirst c = true)
    (hblank : Text.isBlank c = false) (hsigns : ∀ a ∈ c :: cs, a ≠ '=' ∧ a ≠ '[') :
    read (c :: cs ++ '=' :: word) = (ofTarget (c :: cs) none).withLevel word := by
  obtain ⟨tail, htrim⟩ : ∃ tail, Text.trim (c :: cs ++ '=' :: word) = c :: (cs ++ '=' :: tail) :=
    Text.trim_append_cons cs word hblank (by decide)
  have hc := hsigns c (by simp)
  have hother : ∀ a ∈ c :: cs, (a != '=' && a != '[') = true := by
    intro a ha
    simp [hsigns a ha]
  have htake : (c :: (cs ++ '=' :: tail)).takeWhile (fun a => a != '=' && a != '[') = c :: cs := by
    rw [← List.cons_append, List.takeWhile_append_of_pos hother]
    simp
  have hdrop : (c :: (cs ++ '=' :: tail)).dropWhile (fun a => a != '=' && a != '[') = '=' :: tail := by
    rw [← List.cons_append, List.dropWhile_append_of_pos hother]
    simp
  have hfront : Text.before (Text.byteSize (c :: cs)) (c :: cs ++ '=' :: word) = .ok (c :: cs) :=
    Text.before_byteSize _ _
  have hback : Text.after (Text.byteSize (c :: cs) + 1) (c :: cs ++ '=' :: word) = .ok word := by
    have hsize : Text.byteSize (c :: cs) + 1 = Text.byteSize (c :: cs ++ ['=']) := by
      rw [Text.byteSize_append]
      rfl
    have hlist : c :: cs ++ '=' :: word = (c :: cs ++ ['=']) ++ word := by simp
    rw [hsize, hlist, Text.after_byteSize]
  rw [read, htrim]
  split
  · contradiction
  · rename_i heq
    exact absurd (List.cons.inj heq).1 hc.2
  · rename_i heq
    obtain ⟨rfl, rfl⟩ := List.cons.inj heq
    simp only [hfirst, ↓reduceIte, htake, hdrop, hfront, readLevel, hback]
    rfl

/-! ## Events -/

/-- Whether an event is one that the directive is about. -/
def concerns (d : Directive) (e : LogEvent) : Bool :=
  !d.inSpan && d.target.isPrefixOf e.target.toList &&
    d.fields.all fun name => e.fields.contains (String.ofList name)

/-- Whether a directive is at least as specific as another: its target is longer, or else it has more fields,
or else as many and these come later in the alphabet or are the same. -/
def atLeastAs (d other : Directive) : Bool :=
  let length := Text.byteSize d.target
  let otherLength := Text.byteSize other.target
  if length ≠ otherLength then otherLength < length
  else if d.fields.length ≠ other.fields.length then other.fields.length < d.fields.length
  else ¬ d.fields < other.fields

end Directive

end SharedSeq
