import RestConnector.Proofs.Endpoint.Expansion
import RestConnector.Proofs.Survey.Composition

/-!
# What discovery finds

Discovery asks for a document, then for customary paths, and completes what is known together with what
was found (`discover_eq`).  With a network that never crashes it ends with a list of endpoints, whatever
is answered.  The known endpoints come first in this list, no key comes twice, there are the keys of all
three sources with those of the siblings that they call for, and no sibling is missing
(`discover_isMerged`).
-/

namespace RestConnector.Survey

open RestConnector.Endpoint Exchange

/-- What discovery makes of the known endpoints, those of a document and those at customary paths. -/
structure IsMerged (known documented found endpoints : List Endpoint) : Prop where
  nodup : (keys endpoints).Nodup
  known_first : distinct known <+: endpoints
  mem_keys_iff : ∀ k, k ∈ keys endpoints ↔ k ∈ keys known ∨ k ∈ keys documented ∨ k ∈ keys found ∨
    k ∈ impliedKeys (known ++ documented ++ found)
  /-- With an endpoint that lists a resource there are those that create, read, change and delete one. -/
  siblings_there : ∀ endpoint ∈ endpoints, Text.upper endpoint.method = "GET" →
    '\x7b' ∉ endpoint.path.toList → ':' ∉ endpoint.path.toList →
    ∀ k ∈ siblingKeys endpoint.path, k ∈ keys endpoints
  expansion_eq_nil : expansion endpoints = []

lemma isMerged_complete (known documented found : List Endpoint) :
    IsMerged known documented found (complete (known ++ documented ++ found)) := by
  have hclosed : IsComplete (complete (known ++ documented ++ found)) := isComplete_complete _
  refine ⟨nodup_keys_complete _, ?_, fun k => ?_, ?_, expansion_eq_nil_iff.2 hclosed⟩
  · rw [List.append_assoc]
    exact distinct_prefix_complete known _
  · rw [mem_keys_complete, keys_append, keys_append, List.mem_append, List.mem_append, or_assoc,
      or_assoc]
  · intro endpoint hmem hget hbrace hcolon k hk
    have hlisting : endpoint.isListing := isListing_iff.2 ⟨hget, hbrace, hcolon⟩
    exact hclosed k (mem_impliedKeys.2 ⟨endpoint, hmem, hlisting, hk⟩)

variable {network : Network} {timeout : Int} {baseUrl : String}

/-- Discovery completes what its two searches have found. -/
lemma discover_eq {documented found : List Endpoint} {sent middle last : List Request}
    (hdocument : fromDocument timeout (withoutSlashes baseUrl) network sent = (.ok documented, middle))
    (hpaths : fromCommonPaths timeout (withoutSlashes baseUrl) network middle = (.ok found, last))
    (known : List Endpoint) :
    discover timeout baseUrl known network sent =
      (.ok (complete (known ++ documented ++ found)), last) := by
  simp only [discover, bind_apply, hdocument, hpaths, pure_apply]

/-- Without crashes, discovery merges what it knows with what it finds. -/
theorem discover_isMerged (h : NeverCrashes network) (timeout : Int) (baseUrl : String)
    (known : List Endpoint) (sent : List Request) :
    ∃ documented found endpoints middle last,
      fromDocument timeout (withoutSlashes baseUrl) network sent = (.ok documented, middle) ∧
      fromCommonPaths timeout (withoutSlashes baseUrl) network middle = (.ok found, last) ∧
      discover timeout baseUrl known network sent = (.ok endpoints, last) ∧
      IsMerged known documented found endpoints := by
  obtain ⟨documented, middle, hdocument⟩ :=
    (isComposed_fromDocument timeout (withoutSlashes baseUrl)).completes h sent
  obtain ⟨found, last, hpaths⟩ :=
    (isComposed_fromCommonPaths timeout (withoutSlashes baseUrl)).completes h middle
  exact ⟨documented, found, _, middle, last, hdocument, hpaths, discover_eq hdocument hpaths known,
    isMerged_complete known documented found⟩

/-- A network with a document that lists users, and with nothing at the customary paths. -/
def usersNetwork : Network :=
  Script.network
    { routes := [("https://shop.example/openapi.json",
        [.answered { body := "\x7b\"paths\": \x7b\"/users\": \x7b\"get\": \x7b\x7d\x7d\x7d\x7d" }])] }

lemma neverCrashes_usersNetwork : NeverCrashes usersNetwork :=
  neverCrashes_network (by simp) nofun

/-- Orders are known; users are found in a document, and both get their siblings. -/
theorem discover_users :
    NeverCrashes usersNetwork ∧ ∃ documented found endpoints last,
      discover 30 "https://shop.example/" [{ method := "get", path := "/orders" }] usersNetwork [] =
        (.ok endpoints, last) ∧
      IsMerged [{ method := "get", path := "/orders" }] documented found endpoints ∧
      keys endpoints = [("GET", "/orders"), ("GET", "/users"), ("POST", "/orders"),
        ("GET", "/orders/\x7bid\x7d"), ("PUT", "/orders/\x7bid\x7d"), ("PATCH", "/orders/\x7bid\x7d"),
        ("DELETE", "/orders/\x7bid\x7d"), ("POST", "/users"), ("GET", "/users/\x7bid\x7d"),
        ("PUT", "/users/\x7bid\x7d"), ("PATCH", "/users/\x7bid\x7d"),
        ("DELETE", "/users/\x7bid\x7d")] := by
  have hkeys : ((discover 30 "https://shop.example/" [{ method := "get", path := "/orders" }]
      usersNetwork []).1.toOption.map keys) = some [("GET", "/orders"), ("GET", "/users"),
        ("POST", "/orders"), ("GET", "/orders/\x7bid\x7d"), ("PUT", "/orders/\x7bid\x7d"),
        ("PATCH", "/orders/\x7bid\x7d"), ("DELETE", "/orders/\x7bid\x7d"), ("POST", "/users"),
        ("GET", "/users/\x7bid\x7d"), ("PUT", "/users/\x7bid\x7d"), ("PATCH", "/users/\x7bid\x7d"),
        ("DELETE", "/users/\x7bid\x7d")] := by
    decide +kernel
  obtain ⟨documented, found, endpoints, -, last, -, -, hdiscover, hmerged⟩ :=
    discover_isMerged neverCrashes_usersNetwork 30 "https://shop.example/"
      [{ method := "get", path := "/orders" }] []
  rw [hdiscover] at hkeys
  exact ⟨neverCrashes_usersNetwork, documented, found, endpoints, last, hdiscover, hmerged,
    Option.some.inj hkeys⟩

end RestConnector.Survey
