import SharedSeq.Text.Blank

/-!
# Configuration

Two settings, each read from a variable by its name: what happens at a fault, and which events are
logged. A setting that is missing or says nothing has its default.
-/

namespace SharedSeq

inductive FaultAction
  /-- The fault is kept until it is asked for, and the call has a neutral result. -/
  | report
  /-- The program tells the fault and stops. -/
  | exit
  deriving DecidableEq, Repr

def FaultAction.label : FaultAction → String
  | report => "Report"
  | exit => "Exit"

structure Config where
  onFault : FaultAction
  logFilter : String
  deriving DecidableEq, Repr

namespace Config

/-- The filter that stands for a missing one. -/
def defaultLogFilter : String := "pyc_runtime=warn"

/-- The action that a text names. White space around the word and the case of its letters do not
matter. Folding the ASCII letters is enough: no other character has a lower case that is made of the
letters of these words. -/
def faultAction (text : String) : FaultAction :=
  let word := String.ofList ((Text.trim text.toList).map Char.toLower)
  if word = "exit" ∨ word = "abort" then .exit else .report

/-- The settings that the variables give. A filter of white space alone counts as missing. -/
def ofLookup (lookup : String → Option String) : Config where
  onFault := ((lookup "PYC_ON_ERROR").map faultAction).getD .report
  logFilter :=
    ((lookup "PYC_LOG").filter fun text => !(Text.trim text.toList).isEmpty).getD defaultLogFilter

def default : Config := ofLookup fun _ => none

end Config

end SharedSeq
