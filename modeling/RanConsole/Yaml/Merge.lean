import RanConsole.Yaml.Basic

/-!
# Merging mappings

Laying one mapping over another: where both have a mapping at a key the two are merged, and otherwise the value of the upper one
counts. Keys of the lower mapping keep their places, new ones follow.
-/

namespace RanConsole.Yaml

mutual

/-- An upper value laid over what a lower mapping has at the same key. -/
def layered (lower : Option Yaml) : Yaml → Yaml
  | .map upper =>
    match lower with
    | some (.map entries) => .map (mergeEntries entries upper)
    | _ => .map upper
  | v => v

/-- The upper entries laid over the lower ones. -/
def mergeEntries (lower : Entries) : Entries → Entries
  | [] => lower
  | (key, v) :: upper => mergeEntries (Mapping.put key (layered (Mapping.get? key lower) v) lower) upper

end

end RanConsole.Yaml
