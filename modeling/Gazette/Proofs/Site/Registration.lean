import Gazette.Proofs.Failure.Issues
import Gazette.Site.Registry
import Mathlib.Data.List.Basic

/-!
# Registration

A registry has its sites from a row of calls (`Registry.Call`), some of which take domains from other sites
while some are refused where a domain is not free. `accepted` lists the sites of the calls that were not
refused, and all answers of `Registry.run` follow from this list: a host belongs to the last site of the list
that `claims` it (`get?_run`). Where an address has no host, a page is read by the rules of the site that claims
the empty domain, should there be one, while the identifier of the address is its path all the same
(`placeless`).
-/

namespace Gazette

namespace Table

variable {α : Type}

theorem pairwise_keys (t : Table α) : t.keys.Pairwise (· < ·) := List.pairwise_map.2 t.sorted

theorem size_eq_length_keys (t : Table α) : t.size = t.keys.length := (List.length_map _).symm

/-- A table with one value under several more keys answers with it for these keys, and else as before. -/
theorem get?_insertAll_map (t : Table α) (keys : List String) (value : α) (key : String) :
    (t.insertAll (keys.map fun k ↦ (k, value))).get? key =
      if key ∈ keys then some value else t.get? key := by
  induction keys generalizing t with
  | nil => rfl
  | cons k keys ih =>
    have filled : t.insertAll ((k :: keys).map fun k ↦ (k, value)) =
        (t.insert k value).insertAll (keys.map fun k ↦ (k, value)) := rfl
    rw [filled, ih, get?_insert]
    by_cases here : key = k
    · simp [here]
    · simp [here]

end Table

/-! ## Claims -/

/-- Whether a host is among the domains of a site; letters of either case are the same. -/
def Site.claims (site : Site) (host : String) : Bool :=
  site.domains.any fun domain ↦ Text.asciiLower domain == Text.asciiLower host

theorem Site.claims_iff {site : Site} {host : String} :
    site.claims host ↔ ∃ domain ∈ site.domains, Text.asciiLower domain = Text.asciiLower host := by
  simp [claims]

namespace Registry

variable (r : Registry) (site : Site)

/-- `register` puts a site under its domains in lower case. -/
theorem sites_register :
    (r.register site).sites =
      r.sites.insertAll ((site.domains.map Text.asciiLower).map fun key ↦ (key, site)) := by
  rw [register, List.map_map]
  rfl

/-- `register` gives a site the hosts that it `claims`; the other ones stay with their sites. -/
theorem get?_register (host : String) :
    (r.register site).get? host = if site.claims host then some site else r.get? host := by
  unfold get?
  rw [sites_register, Table.get?_insertAll_map]
  simp only [List.mem_map, Site.claims_iff]

theorem mem_domains_register {domain : String} :
    domain ∈ (r.register site).domains ↔
      (∃ d ∈ site.domains, Text.asciiLower d = domain) ∨ domain ∈ r.domains := by
  unfold domains
  rw [sites_register, Table.mem_keys_iff, Table.mem_keys_iff, Table.get?_insertAll_map]
  split
  next own => simp [List.mem_map.1 own]
  next other =>
    rw [List.mem_map] at other
    simp [other]

/-- `claimed?` finds nothing exactly if no domain of the site is taken. -/
theorem claimed?_eq_none_iff :
    r.claimed? site = none ↔ ∀ domain ∈ site.domains, r.get? domain = none := by
  simp [claimed?]

/-- `register?` refuses a site for a conflict, where one of its domains is taken, or does what `register` does. -/
theorem register?_cases :
    (∃ failure, r.register? site = .error failure ∧ failure.kind = .conflict ∧
      ∃ domain ∈ site.domains, (r.get? domain).isSome) ∨
    (r.register? site = .ok (r.register site) ∧ ∀ domain ∈ site.domains, r.get? domain = none) := by
  unfold register?
  cases found : r.claimed? site with
  | none => exact .inr ⟨rfl, (r.claimed?_eq_none_iff site).1 found⟩
  | some claim =>
    obtain ⟨domain, other⟩ := claim
    obtain ⟨own, mem, claimed⟩ := List.exists_of_findSome?_eq_some found
    obtain ⟨holder, held, -⟩ := Option.map_eq_some_iff.1 claimed
    exact .inl ⟨_, rfl, rfl, own, mem, Option.isSome_iff_exists.2 ⟨holder, held⟩⟩

/-! ## Calls -/

/-- A call that puts a site into a registry. -/
inductive Call
  /-- The site takes its domains, whoever claimed them before. -/
  | register (site : Site)
  /-- The site takes its domains if all of them are free. -/
  | registerFree (site : Site)

/-- The registry after a call. After one that is refused it is as before. -/
def apply : Call → Registry
  | .register site => r.register site
  | .registerFree site =>
    match r.register? site with
    | .ok more => more
    | .error _ => r

/-- The site of a call, unless the call is refused. -/
def accepted? : Call → Option Site
  | .register site => some site
  | .registerFree site =>
    match r.register? site with
    | .ok _ => some site
    | .error _ => none

/-- `apply` registers the site that is `accepted?`, or changes nothing. -/
theorem apply_eq (call : Call) : r.apply call = (r.accepted? call).toList.foldl register r := by
  cases call with
  | register site => rfl
  | registerFree site =>
    rcases r.register?_cases site with ⟨failure, refused, -⟩ | ⟨free, -⟩
    · simp only [apply, accepted?, refused, Option.toList_none, List.foldl_nil]
    · simp only [apply, accepted?, free, Option.toList_some, List.foldl_cons, List.foldl_nil]

/-- The sites of the calls that are not refused, in their order. -/
def accepted (r : Registry) : List Call → List Site
  | [] => []
  | call :: calls => (r.accepted? call).toList ++ (r.apply call).accepted calls

/-- The registry after some calls, from the empty one on. -/
def run (calls : List Call) : Registry := calls.foldl apply empty

/-- `apply` of some calls registers the sites that are `accepted`. -/
theorem foldl_apply (calls : List Call) :
    calls.foldl apply r = (r.accepted calls).foldl register r := by
  induction calls generalizing r with
  | nil => rfl
  | cons call calls ih => rw [List.foldl_cons, ih, accepted, List.foldl_append, ← apply_eq]

/-- Of several registered sites the last one that `claims` a host has it. -/
theorem get?_foldl_register (sites : List Site) (host : String) :
    (sites.foldl register r).get? host =
      ((sites.filter (·.claims host)).getLast?).or (r.get? host) := by
  induction sites generalizing r with
  | nil => rfl
  | cons site sites ih =>
    rw [List.foldl_cons, ih, get?_register, List.filter_cons]
    split
    next own =>
      rw [List.getLast?_cons]
      cases (sites.filter (·.claims host)).getLast? <;> rfl
    next => rfl

theorem mem_domains_foldl_register (sites : List Site) {domain : String} :
    domain ∈ (sites.foldl register r).domains ↔
      (∃ site ∈ sites, ∃ d ∈ site.domains, Text.asciiLower d = domain) ∨ domain ∈ r.domains := by
  induction sites generalizing r with
  | nil => simp
  | cons site sites ih =>
    rw [List.foldl_cons, ih, mem_domains_register, or_left_comm, ← or_assoc]
    simp only [List.mem_cons, exists_eq_or_imp]

section Runs

variable (calls : List Call)

/-- After `run` a host belongs to the last site of `accepted` that `claims` it. -/
theorem get?_run (host : String) :
    (run calls).get? host = ((accepted empty calls).filter (·.claims host)).getLast? := by
  have none : empty.get? host = Option.none := rfl
  rw [run, foldl_apply, get?_foldl_register, none, Option.or_none]

/-- After `run` a host belongs to no site exactly if no site of `accepted` `claims` it. -/
theorem get?_run_eq_none_iff (host : String) :
    (run calls).get? host = none ↔ ∀ site ∈ accepted empty calls, ¬ site.claims host := by
  rw [get?_run, List.getLast?_eq_none_iff, List.filter_eq_nil_iff]

/-- After `run` the domains are those of the sites of `accepted`, in lower case. -/
theorem mem_domains_run {domain : String} :
    domain ∈ (run calls).domains ↔
      ∃ site ∈ accepted empty calls, ∃ d ∈ site.domains, Text.asciiLower d = domain := by
  have none : domain ∉ empty.domains := List.not_mem_nil
  rw [run, foldl_apply, mem_domains_foldl_register, or_iff_left none]

end Runs

/-! ## Addresses -/

/-- The host of an address as text, where it has one. -/
def host? (u : Url) : Option String := u.hostText?.map String.ofList

/-- `Registry.extract` is `Site.extract` by the site that claims the host of the address, or fails. -/
theorem extract_eq (u : Url) (html : String) :
    r.extract u html =
      match r.get? (hostOf u) with
      | some site => .ok (site.extract html u)
      | none => .error (.unclaimed u.href (hostOf u)) := by
  unfold extract siteOf
  cases r.get? (hostOf u) <;> rfl

/-- `Registry.extract` fails exactly if the host is unclaimed, and the failure names the host. -/
theorem extract_eq_error_iff {u : Url} {html : String} {failure : Failure} :
    r.extract u html = .error failure ↔
      r.get? (hostOf u) = none ∧ failure = .unclaimed u.href (hostOf u) := by
  rw [extract_eq]
  cases r.get? (hostOf u) <;> simp [eq_comm]

theorem exists_extract_eq_error_iff {u : Url} {html : String} :
    (∃ failure, r.extract u html = .error failure) ↔ r.get? (hostOf u) = none := by
  simp [extract_eq_error_iff]

/-- `Registry.guid` is `Site.guid` by the site that claims the host, or the path. -/
theorem guid_eq (u : Url) :
    r.guid u = (((host? u).bind r.get?).map (·.guid u)).getD (String.ofList u.path) := by
  have host : (host? u).bind r.get? = u.hostText?.bind fun host ↦ r.get? (String.ofList host) :=
    Option.bind_map
  unfold guid
  rw [host]
  cases u.hostText?.bind fun host ↦ r.get? (String.ofList host) <;> rfl

section Runs

variable (calls : List Call)

/-- After `run`, `extract` fails exactly if no site of `accepted` claims the `host?`, but for an address that has
no host while some site claims the empty domain. -/
theorem extract_run_eq_error_iff (u : Url) (html : String) :
    ((∃ failure, (run calls).extract u html = .error failure) ↔
      ∀ host, host? u = some host → ∀ site ∈ accepted empty calls, ¬ site.claims host) ↔
    ¬ (host? u = none ∧ ∃ site ∈ accepted empty calls, site.claims "") := by
  have hostOf_eq : hostOf u = (host? u).getD "" := by
    unfold hostOf host?
    cases u.hostText? <;> rfl
  rw [exists_extract_eq_error_iff, get?_run_eq_none_iff, hostOf_eq]
  cases host? u with
  | some host => simp
  | none => simp

/-- After `run` of any calls a host belongs to the last site of `accepted` that `claims` it. `register?` refuses a
site exactly if one of its domains is claimed, for a conflict and without a change; otherwise it registers the
site. `domains` are those of the sites of `accepted`, in lower case and in order. `extract` reads a page unless
its host is unclaimed, and `guid` identifies its address by the site that claims the host, or else by the path;
only where an address has no host, and some site claims the empty domain, the page is read all the same. -/
theorem answers_run :
    (∀ host, (run calls).get? host = ((accepted empty calls).filter (·.claims host)).getLast?) ∧
    (∀ site,
      ((∃ failure, (run calls).register? site = .error failure) ↔
        ∃ domain ∈ site.domains, ∃ other ∈ accepted empty calls, other.claims domain) ∧
      (∀ failure, (run calls).register? site = .error failure →
        failure.kind = .conflict ∧ (run calls).apply (.registerFree site) = run calls) ∧
      (∀ more, (run calls).register? site = .ok more →
        (run calls).apply (.registerFree site) = more ∧ more = (run calls).register site)) ∧
    (run calls).domains.Pairwise (· < ·) ∧
    (∀ domain, domain ∈ (run calls).domains ↔
      ∃ site ∈ accepted empty calls, ∃ d ∈ site.domains, Text.asciiLower d = domain) ∧
    (run calls).size = (run calls).domains.length ∧
    (∀ u html,
      (((∃ failure, (run calls).extract u html = .error failure) ↔
          ∀ host, host? u = some host → ∀ site ∈ accepted empty calls, ¬ site.claims host) ↔
        ¬ (host? u = none ∧ ∃ site ∈ accepted empty calls, site.claims "")) ∧
      ∀ failure, (run calls).extract u html = .error failure → failure = .unclaimed u.href (hostOf u)) ∧
    ∀ u, (run calls).guid u =
      (((host? u).bind fun host ↦ ((accepted empty calls).filter (·.claims host)).getLast?).map
        (·.guid u)).getD (String.ofList u.path) := by
  refine ⟨get?_run calls, fun site ↦ ⟨?_, ?_, ?_⟩, (run calls).sites.pairwise_keys,
    fun domain ↦ mem_domains_run calls, (run calls).sites.size_eq_length_keys,
    fun u html ↦ ⟨extract_run_eq_error_iff calls u html, ?_⟩, fun u ↦ ?_⟩
  · have claimed (domain : String) :
        (∃ other ∈ accepted empty calls, other.claims domain) ↔ (run calls).get? domain ≠ none := by
      rw [Ne, get?_run_eq_none_iff]
      simp
    simp only [claimed]
    rcases (run calls).register?_cases site with ⟨failure, refused, -, domain, mem, held⟩ | ⟨done, free⟩
    · exact iff_of_true ⟨failure, refused⟩ ⟨domain, mem, Option.isSome_iff_ne_none.1 held⟩
    · refine iff_of_false ?_ ?_
      · rintro ⟨failure, refused⟩
        rw [done] at refused
        cases refused
      · rintro ⟨domain, mem, held⟩
        exact held (free domain mem)
  · intro failure refused
    rcases (run calls).register?_cases site with ⟨other, same, kind, -⟩ | ⟨done, -⟩
    · cases refused.symm.trans same
      exact ⟨kind, by simp only [apply, refused]⟩
    · cases refused.symm.trans done
  · intro more allowed
    rcases (run calls).register?_cases site with ⟨other, refused, -⟩ | ⟨done, -⟩
    · cases allowed.symm.trans refused
    · cases allowed.symm.trans done
      exact ⟨by simp only [apply, done], rfl⟩
  · intro failure failed
    exact (((run calls).extract_eq_error_iff).1 failed).2
  · rw [guid_eq]
    congr 3
    funext host
    exact get?_run calls host

end Runs

/-! ## An address without a host -/

/-- A site that claims the empty domain. -/
def placeless : Site where
  name := "S"
  domains := [""]
  guid := fun u ↦ "S:" ++ String.ofList u.path
  fromHead := fun _ _ draft ↦ (draft, none)
  fromBody := fun _ a ↦ (a, Table.empty)

/-- An address that has no host. -/
def mailbox : Url := ⟨"mailto".toList, none, ['a'], none, none⟩

/-- The page at `mailbox` is read by the rules of `placeless`, but the address is identified by its path. -/
theorem answers_run_placeless :
    host? mailbox = none ∧
      (∃ e, (run [.register placeless]).extract mailbox "" = .ok e) ∧
      (run [.register placeless]).guid mailbox = "a" := by
  have answers := answers_run [.register placeless]
  obtain ⟨get, -, -, -, -, -, guid⟩ := answers
  refine ⟨rfl, ?_, (guid mailbox).trans rfl⟩
  refine ⟨placeless.extract "" mailbox, ?_⟩
  have held : (run [.register placeless]).get? (hostOf mailbox) = some placeless :=
    (get (hostOf mailbox)).trans rfl
  rw [extract_eq, held]

/-- So a page may be read although its address has no host that a site could claim. -/
theorem not_forall_extract_eq_error_iff :
    ¬ ∀ (calls : List Call) (u : Url) (html : String),
      (∃ failure, (run calls).extract u html = .error failure) ↔
        ∀ host, host? u = some host → ∀ site ∈ accepted empty calls, ¬ site.claims host := by
  intro always
  refine (extract_run_eq_error_iff [.register placeless] mailbox "").1
    (always [.register placeless] mailbox "") ⟨rfl, placeless, ?_, ?_⟩
  · exact List.mem_cons_self
  · exact Site.claims_iff.2 ⟨"", List.mem_cons_self, rfl⟩

end Registry

end Gazette
