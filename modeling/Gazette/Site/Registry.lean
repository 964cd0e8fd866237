import Gazette.Site.Broadcasters
import Gazette.Site.Extraction
import Gazette.Site.Newspapers
import Gazette.Site.Online
import Gazette.Text.Quoted

/-!
# Registries

A `Registry` knows which site claims a domain. Letters of either case are the same in a domain.
`Registry.register` takes domains from other sites, `Registry.register?` does not. `Registry.guid` and
`Registry.extract` go by the site that claims the host of an address.
-/

namespace Gazette

/-- Sites under the domains that they claim, in lower case. -/
structure Registry where
  /-- The sites. -/
  sites : Table Site

namespace Registry

/-- The registry without sites. -/
def empty : Registry := ⟨Table.empty⟩

/-- The site that claims a host. -/
def get? (r : Registry) (host : String) : Option Site := r.sites.get? (Text.asciiLower host)

/-- Whether a site claims a host. -/
def supports (r : Registry) (host : String) : Bool := (r.get? host).isSome

/-- The registry `r` with one more site, which takes its domains from those that claimed them before. -/
def register (r : Registry) (site : Site) : Registry :=
  ⟨r.sites.insertAll (site.domains.map fun domain ↦ (Text.asciiLower domain, site))⟩

/-- The first domain of `site` that another site claims, and that site. -/
def claimed? (r : Registry) (site : Site) : Option (String × Site) :=
  site.domains.findSome? fun domain ↦ (r.get? domain).map fun other ↦ (domain, other)

/-- The registry `r` with one more site, if all of its domains are free: `claimed?` finds none. -/
def register? (r : Registry) (site : Site) : Except Failure Registry :=
  match r.claimed? site with
  | some (domain, other) => .error (.conflicting domain other.name site.name)
  | none => .ok (r.register site)

/-- The domains that are claimed, in order. -/
def domains (r : Registry) : List String := r.sites.keys

/-- The number of domains. -/
def size (r : Registry) : Nat := r.sites.size

/-- Whether no domain is claimed. -/
def isEmpty (r : Registry) : Bool := r.sites.isEmpty

/-- The registry of some sites, later ones winning. -/
def ofSites (sites : List Site) : Registry := sites.foldl register empty

/-- All known sites. -/
def knownSites : List Site :=
  [.newsAgency, .chinaTimes, .ettoday, .libertyTimes, .unitedDaily, .bbc, .newYorkTimes,
    .publicTelevision, .radioFrance, .setn, .tvbs, .upMedia]

/-- The registry of all known sites. -/
def known : Registry := ofSites knownSites

/-- The host of an address as text; empty if it has none. -/
def hostOf (u : Url) : String := String.ofList (u.hostText?.getD [])

/-- The site that claims the host of an address, `hostOf`. -/
def siteOf (r : Registry) (u : Url) : Except Failure Site :=
  match r.get? (hostOf u) with
  | some site => .ok site
  | none => .error (.unclaimed u.href (hostOf u))

/-- The identifier of an address by `Site.guid` of its site, or its path. -/
def guid (r : Registry) (u : Url) : String :=
  match u.hostText?.bind fun host ↦ r.get? (String.ofList host) with
  | some site => site.guid u
  | none => String.ofList u.path

/-- The record of the page `html` by `Site.extract` of the site that claims its address. -/
def extract (r : Registry) (u : Url) (html : String) : Except Failure Extraction :=
  (r.siteOf u).map fun site ↦ site.extract html u

/-- A registry as the list of its domains. -/
def display (r : Registry) : String :=
  "Registry \x7b domains: [" ++ Text.joinWith ", " (r.domains.map Text.quoted) ++ "] \x7d"

end Registry

end Gazette
