import Mathlib.Tactic.Basic

namespace AppStream

inductive AsReleaseKind
  | unknown
  | stable
  | development
  deriving DecidableEq, Repr

inductive AsUrgencyKind
  | unknown
  | low
  | medium
  | high
  | critical
  deriving DecidableEq, Repr

inductive AsReleaseUrlKind
  | unknown
  | details
  deriving DecidableEq, Repr

inductive AsFormatStyle
  | unknown
  | metainfo
  | catalog
  deriving DecidableEq, Repr

def asReleaseKindToString : AsReleaseKind → String
  | .stable => "stable"
  | .development => "development"
  | .unknown => "unknown"

/-- A `NULL` argument compares unequal to every literal under `g_strcmp0`. -/
def asReleaseKindFromString (kindStr : Option String) : AsReleaseKind :=
  if kindStr = some "stable" then .stable
  else if kindStr = some "development" then .development
  else .unknown

def asUrgencyKindToString : AsUrgencyKind → String
  | .low => "low"
  | .medium => "medium"
  | .high => "high"
  | .critical => "critical"
  | .unknown => "unknown"

def asUrgencyKindFromString (urgencyKind : Option String) : AsUrgencyKind :=
  if urgencyKind = some "low" then .low
  else if urgencyKind = some "medium" then .medium
  else if urgencyKind = some "high" then .high
  else if urgencyKind = some "critical" then .critical
  else .unknown

def asReleaseUrlKindToString : AsReleaseUrlKind → String
  | .details => "details"
  | .unknown => "unknown"

/-- Unlike its siblings, a missing kind string defaults to `details`. -/
def asReleaseUrlKindFromString (kindStr : Option String) : AsReleaseUrlKind :=
  if kindStr = none then .details
  else if kindStr = some "details" then .details
  else .unknown

@[simp] theorem asReleaseKindFromString_toString (k : AsReleaseKind) :
    asReleaseKindFromString (some (asReleaseKindToString k)) = k := by
  cases k <;> decide

@[simp] theorem asUrgencyKindFromString_toString (u : AsUrgencyKind) :
    asUrgencyKindFromString (some (asUrgencyKindToString u)) = u := by
  cases u <;> decide

@[simp] theorem asReleaseUrlKindFromString_toString (k : AsReleaseUrlKind) :
    asReleaseUrlKindFromString (some (asReleaseUrlKindToString k)) = k := by
  cases k <;> decide

end AppStream
