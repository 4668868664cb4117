import SiteProbe.Rule.Store

/-!
# Groups of probes

Probes that one page can answer form a group: probes of pages that share the path and the shape of the request
(`Store.groups`), and script probes that share the path (`Store.scriptGroups`). Groups come in the order of what they
share; in a group, technologies come in the order of their names and probes in the order of their declaration.
-/

namespace SiteProbe

namespace Grouping

variable {κ π : Type}

/-- Put a probe of a technology behind those that are there, to those of its technology if it is the last one. -/
def enter (name : String) (probe : π) : List (String × List π) → List (String × List π)
  | [] => [(name, [probe])]
  | [(last, probes)] => if last = name then [(last, probes ++ [probe])] else [(last, probes), (name, [probe])]
  | t :: u :: rest => t :: enter name probe (u :: rest)

variable [Ord κ] [Std.TransOrd κ] [Std.LawfulEqOrd κ]

/-- Put a declared probe into the group that shares its key. -/
def add (key : π → κ) (groups : Dict κ (List (String × List π))) (declared : String × π) :
    Dict κ (List (String × List π)) :=
  groups.insert (key declared.2) (enter declared.1 declared.2 ((groups.get? (key declared.2)).getD []))

/-- The groups of declared probes. -/
def gather (key : π → κ) (declared : List (String × π)) : Dict κ (List (String × List π)) :=
  declared.foldl (add key) .empty

end Grouping

/-- What the probes of a group share. -/
structure GroupKey where
  path : String
  shape : String
  deriving DecidableEq, Repr

namespace GroupKey

instance : Ord GroupKey := ⟨compareLex (compareOn path) (compareOn shape)⟩

instance : Std.TransOrd GroupKey := inferInstanceAs (Std.TransCmp (compareLex (compareOn path) (compareOn shape)))

instance : Std.LawfulEqOrd GroupKey where
  compare_self {a} := Std.ReflCmp.compare_self
  eq_of_compare {a b} h := by
    have hc : (compare a.path b.path).then (compare a.shape b.shape) = .eq := h
    rw [Ordering.then_eq_eq] at hc
    cases a
    cases b
    simp only [Std.LawfulEqCmp.compare_eq_iff_eq] at hc
    simp [hc.1, hc.2]

end GroupKey

/-- Probes that one page can answer, by technology, and the request for the page. -/
structure Group where
  path : String
  request : Request
  technologies : List (String × List Probe)

/-- Script probes that run on one page, by technology. -/
structure ScriptGroup where
  path : String
  technologies : List (String × List ScriptProbe)
  deriving DecidableEq, Repr

namespace Probe

/-- What a probe shares with those of its group. -/
def key (p : Probe) : GroupKey := ⟨p.path, p.requestOrPlain.shapeKey⟩

end Probe

namespace Group

/-- The group of probes that share a key; its request is the one of the first probe. -/
def ofEntry (e : GroupKey × List (String × List Probe)) : Group where
  path := e.1.path
  request := ((e.2.flatMap (·.2)).head?.map (·.requestOrPlain)).getD .plain
  technologies := e.2

end Group

namespace Store

/-- The probes of pages in a store, under the names of their technologies. -/
def declaredProbes (s : Store) : List (String × Probe) :=
  s.toList.flatMap fun (name, f) => f.paths.map fun p => (name, p)

/-- The script probes in a store, under the names of their technologies. -/
def declaredScripts (s : Store) : List (String × ScriptProbe) :=
  s.toList.flatMap fun (name, f) => f.scripts.map fun p => (name, p)

/-- The groups of the probes of pages. -/
def groups (s : Store) : List Group := (Grouping.gather Probe.key s.declaredProbes).toList.map Group.ofEntry

/-- The groups of the script probes. -/
def scriptGroups (s : Store) : List ScriptGroup :=
  (Grouping.gather (·.path) s.declaredScripts).toList.map fun (path, technologies) => ⟨path, technologies⟩

end Store
end SiteProbe
