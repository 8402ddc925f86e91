import ObjectMetrics.Adapter.Basic
import ObjectMetrics.Text.Split
/-!
The settings of an adapter process, their defaults, and what makes them unusable.
-/
namespace ObjectMetrics

inductive SettingsFlaw where
  | malformed
  | zeroInterval
  /-- A setting's index points before the start of its list, or too far behind its end. -/
  | unplaced
deriving DecidableEq, Repr

def SettingsFlaw.message : SettingsFlaw → String
  | malformed => "Invalid adapter configuration"
  | zeroInterval => "discovery_interval_secs must be greater than zero"
  | unplaced => "list index out of range"

structure Settings where
  name : String
  apiPort : UInt16
  interval : UInt64
  preferredGroups : List String
  preferCore : Bool
  retryOnMiss : Bool
  ingestion : Bool
  message : String
deriving DecidableEq, Repr

namespace Settings

def standard (pod : Option String) : Settings where
  name := pod.getD "metrics-adapter"
  apiPort := 8080
  interval := 600
  preferredGroups := []
  preferCore := true
  retryOnMiss := true
  ingestion := true
  message := "Starting custom metrics adapter"

def names : List String :=
  ["instance", "api_port", "discovery_interval_secs", "preferred_groups", "prefer_core_group",
    "retry_on_miss", "enable_ingestion", "message"]

def validate (s : Settings) : Except SettingsFlaw Settings :=
  if s.interval = 0 then .error .zeroInterval else .ok s

def addGroup (groups : List String) (group : String) : List String :=
  if groups.contains group then groups else groups ++ [group]

/-- The preferred groups without blanks around them and without repetitions, the core group first if
it is preferred. -/
def effectiveGroups (s : Settings) : List String :=
  (s.preferredGroups.map Text.trim).foldl addGroup (if s.preferCore then [""] else [])

def toAdapter (s : Settings) : AdapterSettings where
  name := s.name
  inflection := .builtin
  preferredGroups := s.effectiveGroups
  retryOnMiss := s.retryOnMiss
  ingestion := s.ingestion
  external := .samples

end Settings
end ObjectMetrics
