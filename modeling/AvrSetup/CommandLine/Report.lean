/-!
# Reports of failure

A failed run reports what went wrong, and behind that the chain of its causes. A single
cause stands indented, several are numbered, and the lines of one cause are aligned.
-/

namespace AvrSetup

/-- What went wrong. -/
structure Report where
  /-- The failure as a whole. -/
  message : String
  /-- What lies behind it, the deepest cause last. -/
  causes : List String
  deriving DecidableEq, Repr

namespace Report

/-- A failure without causes. -/
def plain (message : String) : Report := ⟨message, []⟩

/-- The report with a wider failure in front. -/
def within (report : Report) (message : String) : Report :=
  ⟨message, report.message :: report.causes⟩

/-- A text after a lead, with its further lines moved in by a number of blanks. -/
def aligned (lead : String) (width : Nat) (text : String) : String :=
  let indented (c : Char) : List Char :=
    if c = '\n' then '\n' :: List.replicate width ' ' else [c]
  lead ++ .ofList (text.toList.flatMap indented)

/-- A number and the cause that has it. -/
def numbered (index : Nat) (cause : String) : String :=
  let number := toString index
  aligned (.ofList (List.replicate (5 - number.length) ' ') ++ number ++ ": ") 7 cause

/-- The lines about the causes. -/
def causeLines (causes : List String) : List String :=
  match causes with
  | [cause] => [aligned "    " 4 cause]
  | causes => causes.mapIdx numbered

/-- A report as text. -/
def text (report : Report) : String :=
  if report.causes.isEmpty then report.message
  else report.message ++ "\n\nCaused by:\n" ++ String.intercalate "\n" (causeLines report.causes)

end Report

end AvrSetup
