import FenceCheck.Datum.Shown
import FenceCheck.Schema.Basic

/-!
Checking a value against a schema: all violations in the order of the demands, and the one that is
reported. A violation nearer to the root counts more; among those equally near the last part counts
most; then one whose value is not even of the right kind; then the first.
-/

namespace FenceCheck

namespace Demand

def kindsOf : Schema → Option (List Kind)
  | [] => none
  | kinds allowed :: _ => some allowed
  | _ :: rest => kindsOf rest

def ofRightKind (schema : Schema) (value : Datum) : Bool :=
  match kindsOf schema with
  | none => false
  | some allowed => allowed.any (·.admits value.opened)

def unexpectedKeys (named : List Text) (entries : List (Datum × Datum)) : List Datum :=
  let keys := entries.filterMap fun entry =>
    match entry.1 with
    | .text t => if named.contains t then none else some entry.1
    | key => some key
  keys.mergeSort fun a b => Text.le a.plain b.plain

def isBelow (limit : Int) : Datum → Bool
  | .int n => n < limit
  | .float x => x.ltInt limit
  | _ => false

/-- Equality that keeps truth values apart from numbers. -/
def isConstant (constant value : Datum) : Bool :=
  match constant, value with
  | .bool a, .bool b => a = b
  | .bool _, _ => false
  | _, .bool _ => false
  | a, b => a.same b

def lackOf (demand : Demand) (value : Datum) : Option Lack :=
  match demand, value.opened with
  | kinds allowed, whole =>
      if allowed.any (·.admits whole) then none else some (.wrongKind value allowed)
  | closed named, .mapping entries =>
      match unexpectedKeys named entries with
      | [] => none
      | keys => some (.unexpected keys)
  | minItems count, .list values =>
      if values.length < count then some (.short value count) else none
  | minLength count, .text t => if t.length < count then some (.short value count) else none
  | minimum limit, whole => if isBelow limit whole then some (.small value limit) else none
  | form wanted, .text t => if wanted.admits t then none else some (.misformed value wanted.shown)
  | constant expected, whole =>
      if isConstant expected whole then none else some (.otherThan expected)
  | among values, whole =>
      if values.any (isConstant · whole) then none else some (.notAmong value values)
  | _, _ => none

def Violation.under (step : Step) (violation : Violation) : Violation :=
  { violation with path := step :: violation.path }

mutual

/-- The violations of one demand, where `rightKind` says whether the value is of the kind that the
whole schema asks for. -/
def violationsOf (rightKind : Bool) : Demand → Datum → List Violation
  | fields schemas, value =>
      match value.opened with
      | .mapping entries => fieldViolations entries schemas
      | _ => []
  | required names, value =>
      match value.opened with
      | .mapping entries =>
          (names.filter fun name => (Datum.lookupName entries name).isNone).map fun name =>
            ⟨[], rightKind, .missing name⟩
      | _ => []
  | items schema, value =>
      match value.opened with
      | .list values =>
          values.zipIdx.flatMap fun entry =>
            (violations (ofRightKind schema entry.1) schema entry.1).map
              (Violation.under (.index entry.2))
      | _ => []
  | demand, value => ((lackOf demand value).map (⟨[], rightKind, ·⟩)).toList

def violations (rightKind : Bool) : Schema → Datum → List Violation
  | [], _ => []
  | demand :: rest, value => violationsOf rightKind demand value ++ violations rightKind rest value

def fieldViolations (entries : List (Datum × Datum)) :
    List (Text × List Demand) → List Violation
  | [] => []
  | (name, schema) :: rest =>
      (match Datum.lookupName entries name with
        | none => []
        | some value =>
            (violations (ofRightKind schema value) schema value).map
              (Violation.under (.name name))) ++
        fieldViolations entries rest

end

end Demand

namespace Lack

def message : Lack → Text
  | wrongKind value allowed =>
      value.shown ++ Text.ofString " is not of type " ++
        Text.join ", " (allowed.map fun kind => Text.quoted kind.name)
  | unexpected names =>
      Text.ofString "Additional properties are not allowed (" ++
        Text.join ", " (names.map Datum.shown) ++
        (if names.length = 1 then Text.ofString " was unexpected)"
          else Text.ofString " were unexpected)")
  | missing name => Text.quoted name ++ Text.ofString " is a required property"
  | short value count =>
      value.shown ++
        if count = 1 then Text.ofString " should be non-empty" else Text.ofString " is too short"
  | small value limit =>
      value.shown ++ Text.ofString " is less than the minimum of " ++ Text.ofInt limit
  | misformed value form =>
      value.shown ++ Text.ofString " does not match " ++ Text.quoted form
  | otherThan constant => constant.shown ++ Text.ofString " was expected"
  | notAmong value values =>
      value.shown ++ Text.ofString " is not one of " ++ (Datum.list values).shown

/-- Whether the message about a lack can be written. -/
def isShowable : Lack → Bool
  | wrongKind value _ => value.isShowable
  | unexpected names => Datum.areShowable names
  | missing _ => true
  | short value _ => value.isShowable
  | small value _ => value.isShowable
  | misformed value _ => value.isShowable
  | otherThan constant => constant.isShowable
  | notAmong value values => value.isShowable && Datum.areShowable values

end Lack

namespace Violation

def countsLess (a b : Violation) : Bool :=
  if a.path.length ≠ b.path.length then b.path.length < a.path.length
  else if a.path ≠ b.path then Step.pathLe a.path b.path
  else a.rightKind && !b.rightKind

def weightiest : List Violation → Option Violation
  | [] => none
  | violation :: rest =>
      some (rest.foldl (fun best next => if best.countsLess next then next else best) violation)

def location (violation : Violation) : Text :=
  match Text.join "/" (violation.path.map Step.toText) with
  | [] => "<root>"
  | path => path

end Violation

namespace Schema

def violations (schema : Schema) (value : Datum) : List Violation :=
  Demand.violations (Demand.ofRightKind schema value) schema value

def firstViolation (schema : Schema) (value : Datum) : Option Violation :=
  Violation.weightiest (schema.violations value)

end Schema

end FenceCheck
