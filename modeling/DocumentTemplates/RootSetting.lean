/-!
# Root names

Whether a result is wrapped under a name, and under which.
-/

namespace DocumentTemplates

/-- Off, on with the name that the data suggests, or on with a given name. -/
inductive RootSetting where
  | enabled (on : Bool)
  | named (name : String)
  deriving DecidableEq, Inhabited

namespace RootSetting

def isEnabled : RootSetting → Bool
  | .enabled on => on
  | .named _ => true

def explicitName? : RootSetting → Option String
  | .named name => some name
  | .enabled _ => none

/-- The name to wrap a result under, where the data suggests `derived`. -/
def resolve? (setting : RootSetting) (derived : Option String) : Option String :=
  match setting with
  | .named name => some name
  | .enabled true => derived
  | .enabled false => none

end RootSetting

end DocumentTemplates
