import Mathlib.Data.Bool.AllAny
import MizanSDK.Go.BaseURL
import MizanSDK.Python.BaseURL

/-!
# Base URLs

Both constructors look at the base URL as it is parsed, and both parsers report a query
or a fragment that is empty as if there were none.  A base that ends in a lone delimiter
is accepted, and the API path behind it is read as a query or as a fragment.  The Python
client moreover decodes percent escapes in a host that it accepted as it is written.

Main results:

- Theorem `baseURL_addresses_iff`: which accepted bases address the right endpoints.
- Theorem `delimiter_swallows`: a base with a lone delimiter does not.
-/

namespace MizanSDK.Agreement

open Endpoints
open Python (PyStr PyError str)

/-- An accepted base addresses the right endpoints in Go exactly when neither delimiter is
in it, and in Python exactly when, moreover, it begins with white space at most, holds no tab
or line break behind that, and has no percent escape in its network location. -/
theorem baseURL_addresses_iff (net : Go.NetURL) (checkNetloc : PyStr → Except PyError Unit) :
    (∀ baseURL token c, Go.newClient net baseURL token = .ok c →
      ∀ p, Go.ApiPath p →
        (net.Addresses c.baseURL p ↔ '?' ∉ baseURL.toList ∧ '#' ∉ baseURL.toList)) ∧
    ∀ args c, Python.MizanClient.init checkNetloc args = .ok c →
      ∀ p, Go.ApiPath p →
        ((∃ base, Python.urlsplit checkNetloc args.baseUrl = .ok base ∧ c.Addresses base p) ↔
          Python.PlainURL args.baseUrl) := by
  refine ⟨?_, ?_⟩
  · intro baseURL token c h p hp
    exact Go.newClient_addresses_iff h hp
  · intro args c h p hp
    exact Python.init_addresses_iff h hp.toTarget

/-- A parser of authorities with user information. -/
def simpleURL : Go.NetURL where
  parseAuthority authority :=
    if '@' ∈ authority then some (some (cut '@' authority).1, (cut '@' authority).2)
    else some (none, authority)
  parseError raw := "parse " ++ String.ofList raw ++ ": invalid URI for request"

/-- No network location is refused. -/
def anyNetloc (_ : PyStr) : Except PyError Unit := .ok ()

/-- The arguments of a client of this base. -/
def argumentsFor (baseUrl : String) : Python.ClientArguments where
  baseUrl := str baseUrl
  token := str "secret"
  businessId := none
  nonPositiveTimeout := false
  maxAttempts := 3

/-- The path of the catalog is an API path. -/
theorem catalog_apiPath : Go.ApiPath "/v1/catalog" := by
  refine ⟨⟨by decide, List.all_iff_forall_prop.mp (by decide)⟩, by decide⟩

/-- Both clients accept a plain base and address the catalog below it. -/
theorem plain_base_addresses :
    (∃ c, Go.newClient simpleURL "https://billing.test/base/" "secret" = .ok c ∧
      simpleURL.Addresses c.baseURL "/v1/catalog") ∧
    ∃ c, Python.MizanClient.init anyNetloc (argumentsFor "https://billing.test/base/") = .ok c ∧
      ∃ base, Python.urlsplit anyNetloc (str "https://billing.test/base/") = .ok base ∧
        c.Addresses base "/v1/catalog" := by
  have hgo : ∃ c, Go.newClient simpleURL "https://billing.test/base/" "secret" = .ok c :=
    ⟨_, rfl⟩
  have hpython : ∃ c, Python.MizanClient.init anyNetloc
      (argumentsFor "https://billing.test/base/") = .ok c := ⟨_, rfl⟩
  have hplain : Python.PlainURL (str "https://billing.test/base/") :=
    ⟨⟨by decide, by decide, by decide, by decide⟩, by decide⟩
  rcases hgo with ⟨c, hc⟩
  rcases hpython with ⟨d, hd⟩
  refine ⟨⟨c, hc, ?_⟩, d, hd, ?_⟩
  · exact ((baseURL_addresses_iff simpleURL anyNetloc).1 _ _ c hc _ catalog_apiPath).mpr
      (by decide)
  · exact ((baseURL_addresses_iff simpleURL anyNetloc).2 _ d hd _ catalog_apiPath).mpr hplain

/-- Both clients accept the base, and neither addresses the catalog below it. -/
def Swallows (base : String) : Prop :=
  (∃ c, Go.newClient simpleURL base "secret" = .ok c ∧
    ¬ simpleURL.Addresses c.baseURL "/v1/catalog") ∧
  ∃ c, Python.MizanClient.init anyNetloc (argumentsFor base) = .ok c ∧
    ¬ ∃ parts, Python.urlsplit anyNetloc (str base) = .ok parts ∧
      c.Addresses parts "/v1/catalog"

/-- An accepted base with a delimiter in it swallows the path. -/
theorem swallows_of_delimiter {base : String}
    (hgo : ∃ c, Go.newClient simpleURL base "secret" = .ok c)
    (hpython : ∃ c, Python.MizanClient.init anyNetloc (argumentsFor base) = .ok c)
    (hdelimiter : '?' ∈ base.toList ∨ '#' ∈ base.toList) : Swallows base := by
  rcases hgo with ⟨c, hc⟩
  rcases hpython with ⟨d, hd⟩
  refine ⟨⟨c, hc, ?_⟩, d, hd, ?_⟩
  · rw [Go.newClient_addresses_iff hc catalog_apiPath]
    rintro ⟨hquestion, hhash⟩
    exact hdelimiter.elim hquestion hhash
  · intro haddresses
    have hplain := (Python.init_addresses_iff hd catalog_apiPath.toTarget).mp haddresses
    rcases hdelimiter with hquestion | hhash
    · exact hplain.noQuestion (List.mem_map_of_mem hquestion)
    · exact hplain.noHash (List.mem_map_of_mem hhash)

/-- A lone delimiter at the end of the base swallows the path. -/
theorem delimiter_swallows :
    Swallows "https://billing.test/base?" ∧ Swallows "https://billing.test/base#" := by
  constructor
  · exact swallows_of_delimiter ⟨_, rfl⟩ ⟨_, rfl⟩ (by decide)
  · exact swallows_of_delimiter ⟨_, rfl⟩ ⟨_, rfl⟩ (by decide)

end MizanSDK.Agreement
