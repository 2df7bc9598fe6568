import ServiceClause.NameSet

/-!
# Query templates

A query written with gaps for the variables that it is to select.

## Main definitions

* `ServiceClause.fillTemplate` — a template with every gap filled.
-/

set_option autoImplicit false

namespace ServiceClause

/-- What marks a gap. -/
def templateGap : List Char := "%VARS%".toList

/-- The text with `filling` in the place of every gap. -/
def fillGaps (filling : List Char) : List Char → List Char
  | [] => []
  | c :: cs =>
    if templateGap.isPrefixOf (c :: cs) then
      filling ++ fillGaps filling ((c :: cs).drop templateGap.length)
    else c :: fillGaps filling cs
termination_by cs => cs.length
decreasing_by
  · have : 0 < templateGap.length := by decide
    simp only [List.length_drop, List.length_cons]
    omega
  · simp

/-- The query that selects the variables of `projection`. -/
def fillTemplate (template : String) (projection : NameSet) : String :=
  let filling := " ".intercalate (projection.toList.map fun n => "?" ++ n)
  String.ofList (fillGaps filling.toList template.toList)

end ServiceClause
