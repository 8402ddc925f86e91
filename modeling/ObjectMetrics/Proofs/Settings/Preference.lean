import ObjectMetrics.Proofs.Order.Keyed
import ObjectMetrics.Settings.Basic

/-! The groups that settings prefer. They are the configured ones without repetitions, in the order in
which each comes first, and a choice among candidates falls as if nothing had been left out. -/
namespace ObjectMetrics.Settings

def trimmedGroups (s : Settings) : List String := s.preferredGroups.map Text.trim

/-- The groups as they are configured, with the core group before them if it is preferred. -/
def statedGroups (s : Settings) : List String :=
  (if s.preferCore then [""] else []) ++ s.trimmedGroups

variable (s : Settings)

theorem addGroup_eq (groups : List String) (group : String) :
    addGroup groups group = Order.put id group groups := by
  rw [addGroup,Order.put_id]
  simp only [List.contains_iff_mem]

theorem effectiveGroups_eq : s.effectiveGroups = Order.putAll id s.statedGroups [] := by
  have step : addGroup = fun groups group => Order.put id group groups :=
    funext fun groups => funext (addGroup_eq groups)
  rw [effectiveGroups,step,statedGroups,Order.putAll,List.foldl_append]
  cases s.preferCore <;> rfl

theorem nodup_effectiveGroups : s.effectiveGroups.Nodup := by
  have start : (([] : List String).map id).Nodup := List.nodup_nil
  have once := Order.nodup_keys_putAll id s.statedGroups start
  rwa [List.map_id,← effectiveGroups_eq] at once

theorem mem_effectiveGroups {s : Settings} {g : String} :
    g ∈ s.effectiveGroups ↔ g ∈ s.statedGroups := by
  have member : g ∈ (Order.putAll id s.statedGroups []).map id ↔ _ := Order.mem_keys_putAll id
  simpa [← effectiveGroups_eq] using member

theorem ordered_effectiveGroups :
    s.effectiveGroups.Pairwise fun g h => s.statedGroups.idxOf g < s.statedGroups.idxOf h := by
  have ordered := Order.ordered_keys_putAll id s.statedGroups
  rwa [List.map_id,← effectiveGroups_eq] at ordered

theorem head?_effectiveGroups {s : Settings} (core : s.preferCore) :
    s.effectiveGroups.head? = some "" := by
  obtain ⟨rest,parts⟩ := Order.prefix_putAll s.trimmedGroups [""]
  have first : s.effectiveGroups = Order.putAll id s.trimmedGroups [""] := by
    rw [effectiveGroups_eq,statedGroups,if_pos core]
    rfl
  rw [first,← parts]
  rfl

/-- The core group, where it is preferred, does not count among the stated groups' places. -/
theorem idxOf_trimmedGroups {s : Settings} {g h : String}
    (before : s.statedGroups.idxOf g < s.statedGroups.idxOf h) :
    (s.preferCore ∧ g = "") ∨ s.trimmedGroups.idxOf g < s.trimmedGroups.idxOf h := by
  rw [statedGroups] at before
  split at before
  · rename_i core
    rw [List.singleton_append,List.idxOf_cons,List.idxOf_cons] at before
    by_cases seeded : g = ""
    · exact .inl ⟨core,seeded⟩
    · grind
  · exact .inr before

theorem resolve_effectiveGroups (c : Catalog) (ref : ResourceReference) :
    c.resolve s.effectiveGroups ref = c.resolve s.statedGroups ref := by
  simp only [Catalog.resolve,effectiveGroups_eq,Order.findSome?_putAll,List.findSome?_nil,Option.none_or]

/-- The preferred groups are the stated ones without repetitions, in the order in which each comes
first, and a name is resolved with them as with the stated ones. -/
theorem effectiveGroups_faithful (s : Settings) :
    s.effectiveGroups.Nodup ∧
    (∀ g, g ∈ s.effectiveGroups ↔
      (s.preferCore ∧ g = "") ∨ ∃ configured ∈ s.preferredGroups, Text.trim configured = g) ∧
    (s.preferCore → s.effectiveGroups.head? = some "") ∧
    (s.effectiveGroups.Pairwise fun g h =>
      (s.preferCore ∧ g = "") ∨ s.trimmedGroups.idxOf g < s.trimmedGroups.idxOf h) ∧
    ∀ (c : Catalog) ref, c.resolve s.effectiveGroups ref = c.resolve s.statedGroups ref := by
  refine ⟨s.nodup_effectiveGroups,?_,head?_effectiveGroups,
    s.ordered_effectiveGroups.imp idxOf_trimmedGroups,s.resolve_effectiveGroups⟩
  intro g
  rw [mem_effectiveGroups,statedGroups,List.mem_append,trimmedGroups,List.mem_map]
  cases s.preferCore <;> simp

theorem effectiveGroups_faithful_blanks :
    let s : Settings := { standard none with preferredGroups := [" apps","\u3000","batch","apps\t",""] }
    let m : Mapping := ⟨"apps","jobs","job","Job",.namespaced,"v1",[]⟩
    let other : Mapping := ⟨"batch","jobs","job","Job",.namespaced,"v1",[]⟩
    let c : Catalog := ⟨1,[other,m],[("jobs",other.groupResource),("jobs",m.groupResource)],[]⟩
    s.preferCore ∧ s.effectiveGroups = ["","apps","batch"] ∧ s.effectiveGroups.head? = some "" ∧
    s.statedGroups = ["","apps","","batch","apps",""] ∧
    c.resolve s.statedGroups ⟨"","","Jobs"⟩ = .ok m := by
  intro s m other c
  obtain ⟨_,_,first,_,resolved⟩ := effectiveGroups_faithful s
  exact ⟨by decide,by decide +kernel,first (by decide),by decide +kernel,
    (resolved c ⟨"","","Jobs"⟩).symm.trans (by decide +kernel)⟩

end ObjectMetrics.Settings
