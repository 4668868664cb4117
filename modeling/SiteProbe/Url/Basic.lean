import SiteProbe.Url.Address

/-!
# URLs

A URL in its parts, and its text. The host is written in small letters where it is a domain of the web, so that two
URLs have one host if their host texts are the same without regard to ASCII case (`Url.sameHost`).
-/

namespace SiteProbe

/-- What is wrong with a text that is no URL. -/
inductive Url.Error where
  | emptyHost
  | badDomain
  | badPort
  | badIpv4
  | badIpv6
  | badDomainCharacter
  | relativeWithoutBase
  | relativeToOpaque
  deriving DecidableEq, Repr

/-- The words of an error. -/
def Url.Error.message : Url.Error → String
  | .emptyHost => "empty host"
  | .badDomain => "invalid international domain name"
  | .badPort => "invalid port number"
  | .badIpv4 => "invalid IPv4 address"
  | .badIpv6 => "invalid IPv6 address"
  | .badDomainCharacter => "invalid domain character"
  | .relativeWithoutBase => "relative URL without a base"
  | .relativeToOpaque => "relative URL with a cannot-be-a-base base"

/-- Where a URL leads. A domain can be empty outside of the web. -/
inductive Url.Host where
  | domain (name : String)
  | ipv4 (address : Nat)
  | ipv6 (pieces : List Nat)
  deriving DecidableEq, Repr

/-- The text of a host. -/
def Url.Host.text : Url.Host → String
  | .domain name => name
  | .ipv4 a => Url.Ipv4.render a
  | .ipv6 ps => Url.Ipv6.render ps

/-- The path of a URL: segments, each behind a slash, or a text that means nothing to the URL. -/
inductive Url.Path where
  | literal (text : String)
  | segments (segments : List String)
  deriving DecidableEq, Repr

/-- The text of a path. -/
def Url.Path.text : Url.Path → String
  | .literal t => t
  | .segments ss => String.join (ss.map ("/" ++ ·))

/-- A URL. -/
structure Url where
  scheme : String
  username : String
  password : Option String
  host : Option Url.Host
  port : Option Nat
  path : Url.Path
  query : Option String
  fragment : Option String
  deriving DecidableEq, Repr

namespace Url

/-- The user name and password as they stand before the host. -/
def userText (u : Url) : String :=
  match u.username, u.password with
  | "", none => ""
  | name, none => name ++ "@"
  | name, some password => name ++ ":" ++ password ++ "@"

/-- The port behind the host, if it is not the one of the scheme. -/
def portText (u : Url) : String := ((u.port.map fun p => ":" ++ toString p).getD "")

/-- What stands before the path. Without a host, a path that starts with two slashes is kept from looking like one. -/
def authorityText (u : Url) : String :=
  match u.host with
  | some h => "//" ++ u.userText ++ h.text ++ u.portText
  | none =>
    match u.path with
    | .segments ("" :: _ :: _) => "/."
    | _ => ""

/-- The text of a URL. -/
def text (u : Url) : String :=
  u.scheme ++ ":" ++ u.authorityText ++ u.path.text ++ (u.query.map ("?" ++ ·)).getD ""
    ++ (u.fragment.map ("#" ++ ·)).getD ""

/-- The text of the host, if it is not empty. -/
def hostText? (u : Url) : Option String := (u.host.map Host.text).filter (· ≠ "")

/-- Whether a scheme is one of the web proper. -/
def isHttp (u : Url) : Bool := u.scheme = "http" || u.scheme = "https"

/-- Whether two URLs lead to one host; ports and schemes may differ. -/
def sameHost (u v : Url) : Bool :=
  match u.hostText?, v.hostText? with
  | some a, some b => a.toLower == b.toLower
  | _, _ => false

end Url
end SiteProbe
