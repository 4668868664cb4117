import SiteProbe.Web.Fetch

/-!
# No network

The web as it is seen from a host without a network: nobody answers (`Web.offline`).
-/

namespace SiteProbe

namespace Url

/-- The user name and the password that log in to a server, if they are text. -/
def login? (u : Url) : Option (String × Option String) :=
  let plain (s : String) : Option String := Utf8.decode? (percentDecode (Utf8.encode s))
  match plain u.username, u.password.bind plain with
  | some "", none => none
  | some name, password => some (name, password)
  | none, _ => none

/-- The URL as it is spoken of, without what logs in. -/
def withoutLogin (u : Url) : Url := if u.login?.isSome then { u with username := "", password := none } else u

end Url

namespace Web

/-- Why nobody can be reached. -/
def unreachable : String := "tcp connect error: Network is unreachable (os error 101)"

/-- What a secure connection fails at, which leads through a tunnel. -/
def tunnel (u : Url) : String :=
  if u.scheme = "https" then "tunnel error: failed to create underlying connection: " else ""

/-- How an exchange fails without a network. -/
def noNetwork (u : Url) : Failure where
  timedOut := false
  chain := "error sending request for url (" ++ u.withoutLogin.text ++ "): client error (Connect): " ++ tunnel u
    ++ unreachable

/-- The web of a host without a network. -/
def offline {m : Type → Type} [Monad m] : Web m := fun u _ => return .error (noNetwork u)

end Web
end SiteProbe
