import OfflineWebArchiver.Archive.RouteMap

/-!
# A sample archive

Unicode tables and a URL parser for plain ASCII, and pages that use nothing else.
-/

namespace OfflineWebArchiver.Sample

/-- On ASCII the normal form is the string itself. -/
def ascii : Unicode := { nfc := id, lower := List.map Char.toLower }

/-- `http://host/path?search#hash` and the same with `https`. -/
def parseUrl (value : JsString) : Option Url := do
  let (protocol, rest) ←
    if "https://".toList.isPrefixOf value then some ("https:".toList, value.drop 8)
    else if "http://".toList.isPrefixOf value then some ("http:".toList, value.drop 7)
    else none
  let host := rest.takeWhile fun c => c != '/' && c != '?' && c != '#'
  let rest := rest.drop host.length
  let path := rest.takeWhile fun c => c != '?' && c != '#'
  let pathname := if path.isEmpty then ['/'] else path
  let rest := rest.drop path.length
  let search := rest.takeWhile (· != '#')
  let hash := rest.drop search.length
  let origin := protocol ++ "//".toList ++ host
  if host.isEmpty then none
  else
    some { href := origin ++ pathname ++ search ++ hash, origin, protocol, username := [],
           password := [], pathname, search, hash }

/-- An absolute URL, or a path from the root of the base. -/
def resolveUrl (value base : JsString) : Option Url :=
  (parseUrl value).or do
    let base ← parseUrl base
    if value.head? = some '/' then parseUrl (base.origin ++ value) else none

def urls : UrlApi :=
  { parse := parseUrl, resolve := resolveUrl,
    hrefWithoutHash := fun url => url.origin ++ url.pathname ++ url.search }

/-- A page of the sample site. -/
def page (id route resource : String) : PageRouteMappingInput :=
  { projectId := ['p'], runId := ['r'], projectRevisionId := ['v'], pageId := id.toList,
    originalUrl := ("http://x.y/" ++ id).toList, normalizedUrl := ("http://x.y/" ++ id).toList,
    identityHash := id.toList, localRoute := route.toList, localResource := resource.toList,
    routeType := none, spaFallback := none }

def archive (pages : List PageRouteMappingInput) : RouteMapInput :=
  { pages, projectId := ['p'], runId := ['r'], projectRevisionId := ['v'] }

/-- The Route Map of pages that are accepted. -/
def mapOf (pages : List PageRouteMappingInput) : RouteMap :=
  match generateRouteMap ascii urls (archive pages) with
  | .ok map => map
  | .error _ => ⟨[], [], [], [], []⟩

end OfflineWebArchiver.Sample
