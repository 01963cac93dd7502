/-!
# Reports

Not everything that is wrong with a document ends its reading. What can be read on is
reported, as a *warning* or as an *error*, and in the end the last report decides: after
an error the document is refused, but a warning that comes later takes the error back.
Only so many reports of either kind are taken.

## Main definitions

* `Linkage.Markup.Severity`, `Linkage.Markup.Reports`, `Linkage.Markup.Reports.add`.
* `Linkage.Markup.Reports.isAccepted`: whether a document is accepted after its reports.
-/

namespace Linkage.Markup

/-- How grave a report is. -/
inductive Severity where
  | warning
  | error
  deriving Repr, DecidableEq, Inhabited

/-- **The reports so far**: how many of either kind were taken, and the last of them. -/
structure Reports where
  warnings : Nat
  errors : Nat
  last? : Option Severity
  deriving Repr, DecidableEq, Inhabited

/-- How many reports of one kind are taken. -/
def maxReports : Nat := 100

namespace Reports

/-- No reports. -/
def none : Reports := ⟨0, 0, .none⟩

/-- **One more report**, if it is still taken. -/
def add (r : Reports) : Severity → Reports
  | .warning =>
    if r.warnings < maxReports then ⟨r.warnings + 1, r.errors, some .warning⟩ else r
  | .error => if r.errors < maxReports then ⟨r.warnings, r.errors + 1, some .error⟩ else r

/-- Whether a document is accepted: its last report is no error. -/
def isAccepted (r : Reports) : Bool := r.last? != some .error

/-- Without a report a document is accepted. -/
@[simp]
theorem isAccepted_none : none.isAccepted = true := rfl

/-- A warning that is taken leaves the document accepted, whatever came before. -/
theorem isAccepted_add_warning {r : Reports} (h : r.warnings < maxReports) :
    (r.add .warning).isAccepted = true := by
  simp [add, h, isAccepted]

/-- An error that is taken leaves the document refused. -/
theorem isAccepted_add_error {r : Reports} (h : r.errors < maxReports) :
    (r.add .error).isAccepted = false := by
  simp [add, h, isAccepted]

end Reports

end Linkage.Markup
