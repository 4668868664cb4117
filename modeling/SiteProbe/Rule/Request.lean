import SiteProbe.Json.Decode
import SiteProbe.Json.Printer
import SiteProbe.Text.Blank
import SiteProbe.Unicode.Case

/-!
# Requests of probes

What a probe asks for besides its path: a method, headers and a body. Probes with one path and one `shapeKey` share a
request.
-/

namespace SiteProbe

/-- How a probe wants its path to be requested. -/
structure Request where
  method : Option String
  headers : Dict String String
  body : Option Json
  deriving Inhabited

namespace Request

/-- A plain request. -/
def plain : Request := ⟨none, .empty, none⟩

/-- The method in capital letters; without one it is `GET`. -/
def methodName (r : Request) : String :=
  match r.method.map Text.trim with
  | none => "GET"
  | some "" => "GET"
  | some m => Unicode.Case.upper m

/-- The text of a body; null is no body. -/
def bodyText (r : Request) : String :=
  match r.body with
  | none => ""
  | some .null => ""
  | some v => v.compress

/-- A text that requests for one answer have in common. -/
def shapeKey (r : Request) : String :=
  let headers := r.headers.toList.map fun (k, v) => Unicode.Case.lower k ++ "=" ++ v
  r.methodName ++ " " ++ "&".intercalate headers ++ " " ++ r.bodyText

/-- The request as a JSON value, without what is not given. -/
def toJson (r : Request) : Json :=
  let method := r.method.toList.map fun m => ("method", Json.string m)
  let headers :=
    if r.headers.isEmpty then []
    else [("headers", Json.object (r.headers.toList.map fun (k, v) => (k, Json.string v)))]
  let body := r.body.toList.map fun v => ("body", v)
  .object (method ++ headers ++ body)

/-- The fields of a request that have been read. -/
structure Fields where
  method : Option (Option String)
  headers : Option (Dict String String)
  body : Option (Option Json)

/-- Take up a field. -/
def Fields.take (room : Nat) (s : Fields) (name : String) (d : Json.Draft) : Except Json.Error Fields :=
  match name with
  | "method" => return { s with method := ← Json.Draft.once s.method name (d.optional Json.Draft.text) }
  | "headers" =>
    return { s with headers := ← Json.Draft.once s.headers name (d.dict (fun _ d => d.text) room) }
  | _ => return { s with body := ← Json.Draft.once s.body name (d.optional (Json.Draft.toJson room)) }

/-- Read a request. -/
def ofDraft (room : Nat) (d : Json.Draft) : Except Json.Error Request := do
  let s ← d.record "RequestConfig" ["method", "headers", "body"] [] Fields.take ⟨none, none, none⟩ room
  return ⟨s.method.join, s.headers.getD .empty, s.body.join⟩

end Request
end SiteProbe
