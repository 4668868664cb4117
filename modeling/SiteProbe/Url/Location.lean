import SiteProbe.Text.Blank
import SiteProbe.Url.Parser

/-!
# Locations

Where a redirect leads (`Url.resolve?`), and the address of a probe's path on a target (`probeAddress`).
-/

namespace SiteProbe.Url

/-- Where a location leads from a URL, if that is on the web proper. -/
def resolve? (current : Url) (location : String) : Option Url :=
  let location := Text.trim location
  if location = "" then none
  else
    match current.join location with
    | .ok next => if next.isHttp then some next else none
    | .error _ => none

/-- The address of a path on a target. One slash at the end of the target gives way, and a path that does not start
with a slash gets one. -/
def probeAddress (target path : String) : String :=
  let target := if target.toList.getLast? = some '/' then String.ofList target.toList.dropLast else target
  match path.toList with
  | [] => target ++ path
  | '/' :: _ => target ++ path
  | _ => target ++ "/" ++ path

end SiteProbe.Url
