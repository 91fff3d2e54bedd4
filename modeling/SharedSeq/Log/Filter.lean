import SharedSeq.Log.Directive

/-!
# Log filters

A `LogFilter` is a list of directives, written with commas between them. Whether an event is logged is up to
the most specific directive that concerns it (`LogFilter.enables`). A text that is no filter stands for the
default (`LogFilter.ofText`).
-/

namespace SharedSeq

structure LogFilter where
  directives : List Directive
  deriving DecidableEq, Repr

namespace LogFilter

/-- The parts of a text between its commas. -/
def parts : List Char → List (List Char)
  | [] => [[]]
  | c :: cs =>
    if c = ',' then [] :: parts cs
    else
      match parts cs with
      | [] => [[c]]
      | part :: rest => (c :: part) :: rest

theorem parts_of_not_mem {cs : List Char} (h : ',' ∉ cs) : parts cs = [cs] := by
  induction cs with
  | nil => rfl
  | cons c cs ih =>
    rw [List.mem_cons, not_or] at h
    rw [parts, if_neg (fun e => h.1 e.symm), ih h.2]

/-- The filter of some directives. Without any, only errors are logged. -/
def ofDirectives : List Directive → LogFilter
  | [] => ⟨[.ofTarget [] (some .error)]⟩
  | ds => ⟨ds⟩

/-- The filter that a text stands for. Empty parts are left out. -/
def read (text : String) : Except FilterFault LogFilter :=
  ofDirectives <$> ((parts text.toList).filter (!·.isEmpty)).mapM Directive.read

def default : LogFilter := ⟨[.ofTarget "pyc_runtime".toList (some .warn)]⟩

/-- The filter that a text stands for, and the default for a text that is no filter. There is neither
if a part would begin or end inside of a character. -/
def ofText (text : String) : Except Text.SplitCharacter LogFilter :=
  match read text with
  | .ok f => .ok f
  | .error .invalid => .ok default
  | .error (.split fault) => .error fault

/-- The most specific of some directives; of several such, the last. -/
def mostSpecific? (ds : List Directive) : Option Directive :=
  ds.foldl (fun best d =>
    match best with
    | none => some d
    | some best => some (if d.atLeastAs best then d else best)) none

def enables (f : LogFilter) (e : LogEvent) : Bool :=
  match mostSpecific? (f.directives.filter (·.concerns e)) with
  | some ⟨_, _, _, some level⟩ => e.level.rank ≤ level.rank
  | _ => false

end LogFilter

end SharedSeq
