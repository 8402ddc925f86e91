import ObjectMetrics.Order.Sorted
import ObjectMetrics.Settings.Basic
import ObjectMetrics.Settings.Tree
/-!
Settings from environment variables. A variable counts if its name begins with a fixed word, in any
case of its letters; the rest of the name is the path of a setting. Of several variables for one place
the last in the order of characters counts.
-/
namespace ObjectMetrics

abbrev Environment := List (String × String)

namespace Environment

def named? (env : Environment) (name : String) : Option String :=
  (env.find? fun v => v.1 = name).map Prod.snd

/-- What the name of a variable begins with, in small letters, if it holds a setting. -/
def mark : String := "adapter_"

def settingName? (variableName : String) : Option String :=
  let name := (Text.lowerKelvin variableName).toList
  if mark.toList.isPrefixOf name then some (String.ofList (name.drop mark.length)) else none

/-- What a variable sets. Only the setting that is a list of names takes a list, between commas. -/
def content (name raw : String) : SettingTree :=
  match SettingValue.ofText raw with
  | .text s =>
    if name = "preferred_groups" then
      .ofItems ((Text.split ',' s).map fun piece => .value (.text piece))
    else .value (.text s)
  | v => .value v

def tree? (env : Environment) : Option SettingTree :=
  (Order.sortStable Prod.fst env).foldlM
    (fun t v =>
      match settingName? v.1 with
      | some name => t.place? (.ofName name) (content name v.2)
      | none => some t)
    (.table [])

def read {α : Type} (t : SettingTree) (name : String) (convert : SettingTree → Option α)
    (fallback : α) : Except SettingsFlaw α :=
  match t.member? name with
  | none => .ok fallback
  | some x =>
    match convert x with
    | some a => .ok a
    | none => .error .malformed

end Environment

open Environment in
def Settings.ofEnvironment (env : Environment) : Except SettingsFlaw Settings := do
  let d := Settings.standard (env.named? "POD_NAME")
  let t ← match env.tree? with
    | some t => pure t
    | none => .error .unplaced
  let settings : Settings :=
    { name := ← read t "instance" SettingTree.toText? d.name
      apiPort := ← read t "api_port" SettingTree.toCount16? d.apiPort
      interval := ← read t "discovery_interval_secs" SettingTree.toCount? d.interval
      preferredGroups := ← read t "preferred_groups" SettingTree.toNames? d.preferredGroups
      preferCore := ← read t "prefer_core_group" SettingTree.toFlag? d.preferCore
      retryOnMiss := ← read t "retry_on_miss" SettingTree.toFlag? d.retryOnMiss
      ingestion := ← read t "enable_ingestion" SettingTree.toFlag? d.ingestion
      message := ← read t "message" SettingTree.toText? d.message }
  settings.validate

end ObjectMetrics
