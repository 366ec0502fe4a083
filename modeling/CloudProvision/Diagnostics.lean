import CloudProvision.AttributePath

/-!
# Diagnostics

The errors and warnings that an operation reports, in the order in which they were recorded.
-/

namespace CloudProvision

/-- An error or a warning about an attribute, or about the whole resource. -/
structure Diagnostic where
  summary : String
  detail : String
  path : AttributePath
  deriving DecidableEq

namespace Diagnostic

/-- A diagnostic on an attribute, without details. -/
def short (summary : String) (path : AttributePath) : Diagnostic :=
  ⟨summary, "", path⟩

/-- A diagnostic on the whole resource. -/
def onRoot (summary detail : String) : Diagnostic :=
  ⟨summary, detail, .root⟩

end Diagnostic

/-- What has been reported so far. -/
structure Diagnostics where
  errors : List Diagnostic
  warnings : List Diagnostic
  deriving DecidableEq

namespace Diagnostics

/-- Nothing has been reported. -/
def none : Diagnostics := ⟨[], []⟩

/-- Record an error. -/
def error (d : Diagnostics) (e : Diagnostic) : Diagnostics :=
  { d with errors := d.errors ++ [e] }

/-- Record several errors. -/
def addErrors (d : Diagnostics) (es : List Diagnostic) : Diagnostics :=
  { d with errors := d.errors ++ es }

/-- Record a warning. -/
def warning (d : Diagnostics) (w : Diagnostic) : Diagnostics :=
  { d with warnings := d.warnings ++ [w] }

/-- Whether an error has been recorded. -/
def hasErrors (d : Diagnostics) : Bool :=
  !d.errors.isEmpty

/-- Record an internal error, unless an error explains the failure already. -/
def internalError (d : Diagnostics) : Diagnostics :=
  if d.hasErrors then d else d.error (.onRoot "Internal error" "")

end Diagnostics

end CloudProvision
