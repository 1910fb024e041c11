import Scaffold.Source.Host

/-! # Addresses of repositories

  Which texts are addresses of repositories: web addresses with `https`, and
  addresses with `git`. An address that is not well formed is none at all. Which
  hosts an address may have is left open.
-/

namespace Scaffold.Source

/-! ### Schemes -/

/-- The text without control characters and spaces around it, and without tabs and line ends. -/
def cleaned (s : String) : List Char :=
  let isOuter (c : Char) : Bool := c.toNat ≤ 32
  let inner := ((s.toList.dropWhile isOuter).reverse.dropWhile isOuter).reverse
  inner.filter fun c => c != '\t' && c != '\n' && c != '\r'

/-- A letter or digit of ASCII, or a mark that schemes may hold. -/
def isSchemeChar (c : Char) : Bool :=
  c.isAlphanum || c == '+' || c == '-' || c == '.'

/-- The scheme in small letters and the text behind its colon. -/
def schemeOf (cs : List Char) : Option (String × List Char) :=
  if !cs.head?.any Char.isAlpha then none
  else match cs.dropWhile isSchemeChar with
    | ':' :: rest =>
      some (String.ofList ((cs.takeWhile isSchemeChar).map Char.toLower), rest)
    | _ => none

/-! ### Authorities -/

/-- The characters behind an authority. In web addresses a backslash counts as a slash. -/
def endsAuthority (web : Bool) (c : Char) : Bool :=
  c == '/' || c == '?' || c == '#' || (web && c == '\\')

/-- The user's part of an authority, if there is one, and the rest. -/
def splitUser (authority : List Char) : Option (List Char) × List Char :=
  match authority.reverse.span (· != '@') with
  | (_, []) => (none, authority)
  | (rest, _ :: user) => (some user.reverse, rest.reverse)

/-- The host of an authority and what follows it; a colon between brackets is part of it. -/
def splitHost (inside : Bool) : List Char → List Char × List Char
  | [] => ([], [])
  | c :: rest =>
    if c == ':' && !inside then ([], c :: rest)
    else
      let (host, after) := splitHost ((inside || c == '[') && c != ']') rest
      (c :: host, after)

/-- The greatest number that may stand behind a host. -/
def hostNumberMax : Nat := 65535

/-- Whether what follows a host is nothing, or a colon and a number, behind which a backslash
may start a path. -/
def isHostNumber (cs : List Char) : Bool :=
  match cs with
  | [] => true
  | _ :: rest =>
    let digits := rest.takeWhile Char.isDigit
    (rest.dropWhile Char.isDigit).head?.all (· == '\\') &&
      (digits.isEmpty || (inBase? 10 digits).any (· ≤ hostNumberMax))

/-- Whether a host can be missing: not in web addresses, nor beside a user or a number. A colon
without a user before it and a password behind it is nothing. -/
def mayBeEmpty (web : Bool) (user : Option (List Char)) (number : List Char) : Bool :=
  !web && (user.all fun name => name.isEmpty || name == [':']) && number.isEmpty

/-- Whether an authority is well formed; `final` tells that nothing follows it. -/
def isAuthority (hosts : HostRules) (web final : Bool) (authority : List Char) : Bool :=
  let (user, rest) := splitUser authority
  let (host, number) := splitHost false rest
  if user == some [] && rest.isEmpty && !final then false
  else if host.isEmpty then mayBeEmpty web user number
  else (if web then hosts.web host else hosts.plain host) && isHostNumber number

/-- Whether the text behind two slashes starts with a well-formed authority. -/
def hasAuthority (hosts : HostRules) (web : Bool) (cs : List Char) : Bool :=
  let authority := cs.takeWhile (!endsAuthority web ·)
  isAuthority hosts web (cs.length == authority.length) authority

/-! ### Addresses -/

/-- Whether a text is the address of a repository by its scheme. -/
def isRepositoryAddress (hosts : HostRules) (s : String) : Bool :=
  match schemeOf (cleaned s) with
  | some ("https", rest) => hasAuthority hosts true (rest.dropWhile fun c => c == '/' || c == '\\')
  | some ("git", '/' :: '/' :: rest) => hasAuthority hosts false rest
  | some ("git", _) => true
  | _ => false

end Scaffold.Source
