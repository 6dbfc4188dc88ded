import FeatureFlags.Regex.Reach
import FeatureFlags.Regex.Read

namespace FeatureFlags.Regex

def matchesPattern (expression value : String) : Bool :=
  match Pattern.ofExpression? expression with
  | some p => p.occursIn value
  | none => false

end FeatureFlags.Regex
