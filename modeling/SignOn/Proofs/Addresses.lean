import SignOn.Operation
import Mathlib.Data.List.DropRight

/-!
Where the requests of a client go. Accepted settings have an endpoint with a
scheme of the web and two slashes; what is left of it depends on what stands
behind them.

* `Text.dropEnd_append_of_any`, `Text.dropEnd_append_of_all`: how far dropping
  from the end of a text reaches;
* `Address.firstSegment_append`, `Address.firstSegment_of_nameless`: where the
  host of an address is found;
* `base_kept_exactly`: when the scheme and the host of the endpoint are kept;
* `path_taken_for_host`: an accepted endpoint that does not keep them.
-/

namespace SignOn

namespace Text

variable {p : Char → Bool} {a b : List Char}

/-- What is dropped from the end does not reach beyond a character that stays. -/
theorem dropEnd_append_of_any (h : ∃ c ∈ b, ¬ p c) : dropEnd p (a ++ b) = a ++ dropEnd p b := by
  have hne : ¬ ∀ c ∈ b.reverse, p c := by
    obtain ⟨c, hc, hp⟩ := h
    exact fun hall => hp (hall c (List.mem_reverse.mpr hc))
  rw [← List.dropWhile_eq_nil_iff, ← List.isEmpty_iff] at hne
  rw [dropEnd, dropEnd, List.reverse_append, List.dropWhile_append, if_neg hne,
    List.reverse_append, List.reverse_reverse]

theorem dropEnd_append_of_all (h : ∀ c ∈ b, p c) : dropEnd p (a ++ b) = dropEnd p a := by
  rw [dropEnd, dropEnd, List.reverse_append, List.dropWhile_append_of_pos]
  intro c hc
  exact h c (List.mem_reverse.mp hc)

theorem mem_of_mem_dropEnd {c : Char} (h : c ∈ dropEnd p a) : c ∈ a :=
  List.mem_reverse.mp ((List.dropWhile_suffix _).subset (List.mem_reverse.mp h))

/-- A text is what is left of it, with the dropped characters behind it. -/
theorem dropEnd_append_dropped (p : Char → Bool) (a : List Char) :
    ∃ dropped, a = dropEnd p a ++ dropped ∧ (∀ c ∈ dropped, p c) ∧
      ∀ c, (dropEnd p a).getLast? = some c → ¬ p c := by
  refine ⟨a.rtakeWhile p, List.rdropWhile_append_rtakeWhile.symm, ?_, ?_⟩
  · intro c hc
    exact List.mem_rtakeWhile_imp hc
  · intro c hc
    obtain ⟨hne, rfl⟩ := List.mem_getLast?_eq_getLast hc
    exact List.rdropWhile_last_not p a hne

end Text

/-! ## The host of an address -/

namespace Address

/-- A character that can stand in the name of a host. -/
def Names (c : Char) : Prop := ¬ isSlash c ∧ ¬ isSkipped c

/-- What stands between the first slashes of a text and the next end, but for
user information. -/
def firstSegment (text : List Char) : String :=
  String.ofList (host ((text.filter (!isSkipped ·)).dropWhile isSlash))

theorem split?_web {scheme : String} (h : scheme ∈ schemes) (rest : String) :
    split? (scheme ++ rest) = some (scheme, rest.toList.filter (!isSkipped ·)) := by
  simp only [schemes, List.mem_cons, List.not_mem_nil, or_false] at h
  rcases h with rfl | rfl
  · rw [split?, String.toList_append, List.filter_append]
    rfl
  · rw [split?, String.toList_append, List.filter_append]
    rfl

theorem host?_web {scheme : String} (h : scheme ∈ schemes) (rest : String) :
    host? (scheme ++ rest) = some (firstSegment rest.toList) := by
  rw [host?, split?_web h]
  rfl

variable {a b : List Char}

/-- Slashes in front of a segment do not count. -/
theorem firstSegment_of_nameless (h : ∀ c ∈ a, ¬ Names c) :
    firstSegment (a ++ b) = firstSegment b := by
  have hslash : ∀ c ∈ a.filter (!isSkipped ·), isSlash c := by
    intro c hc
    obtain ⟨hmem, hskip⟩ := List.mem_filter.mp hc
    by_contra hs
    exact h c hmem ⟨hs, by simpa using hskip⟩
  rw [firstSegment, firstSegment, List.filter_append, List.dropWhile_append_of_pos hslash]

/-- A segment ends before a slash. -/
theorem firstSegment_append (h : ∃ c ∈ a, Names c) (hb : b.head? = none ∨ b.head? = some '/') :
    firstSegment (a ++ b) = firstSegment a := by
  have hne : ¬ ((a.filter (!isSkipped ·)).dropWhile isSlash).isEmpty := by
    obtain ⟨c, hc, hs, hk⟩ := h
    rw [List.isEmpty_iff, List.dropWhile_eq_nil_iff]
    intro hall
    exact hs (hall c (List.mem_filter.mpr ⟨hc, by simpa using hk⟩))
  have hend : (b.filter (!isSkipped ·)).takeWhile (!endsHost ·) = [] := by
    cases b with
    | nil => rfl
    | cons c b =>
      obtain rfl : c = '/' := by simpa using hb
      rfl
  have hauthority : authority (((a ++ b).filter (!isSkipped ·)).dropWhile isSlash) =
      authority ((a.filter (!isSkipped ·)).dropWhile isSlash) := by
    rw [authority, authority, List.filter_append, List.dropWhile_append, if_neg hne,
      List.takeWhile_append, hend]
    split
    · next hlen => rw [List.append_nil, (List.takeWhile_prefix _).eq_of_length hlen]
    · rfl
  rw [firstSegment, firstSegment, host, host, hauthority]

theorem mem_of_mem_host {text : List Char} {c : Char} (h : c ∈ host text) : c ∈ authority text :=
  List.mem_reverse.mp ((List.takeWhile_sublist _).subset (List.mem_reverse.mp h))

theorem not_endsHost_of_mem {text : List Char} {c : Char} (h : c ∈ authority text) :
    (!endsHost c) = true :=
  List.mem_takeWhile_imp (p := (!endsHost ·)) h

/-- The host ends where the text does, or before a character that ends hosts. -/
theorem authority_host_append (text : List Char) :
    authority (host text ++ text.dropWhile (!endsHost ·)) = host text := by
  have hhost : ∀ c ∈ host text, (!endsHost c) = true :=
    fun c hc => not_endsHost_of_mem (mem_of_mem_host hc)
  have hrest : (text.dropWhile (!endsHost ·)).takeWhile (!endsHost ·) = [] := by
    rw [List.takeWhile_eq_nil_iff]
    intro hlt
    exact List.dropWhile_get_zero_not _ _ hlt
  rw [authority, List.takeWhile_append_of_pos hhost, hrest, List.append_nil]

theorem mem_of_mem_sansUser {text : List Char} {c : Char} (h : c ∈ sansUser text) : c ∈ text := by
  unfold sansUser at h
  split at h
  · rcases List.mem_append.mp h with h | h
    · exact (List.takeWhile_prefix _).subset (mem_of_mem_host h)
    · exact (List.dropWhile_suffix _).subset h
  · exact h

/-- Without its user information a text has the same host. -/
theorem host_sansUser (text : List Char) : host (sansUser text) = host text := by
  unfold sansUser
  split
  · rw [host, authority_host_append, host, List.reverse_reverse, List.takeWhile_takeWhile]
    simp only [and_self, Bool.decide_eq_true]
  · rfl

/-- It begins with the host, so not with a slash. -/
theorem dropWhile_sansUser {text : List Char} (h : text.dropWhile isSlash = text) :
    (sansUser text).dropWhile isSlash = sansUser text := by
  unfold sansUser
  split
  · next hc =>
    simp only [Bool.and_eq_true, Bool.not_eq_true', List.isEmpty_eq_false_iff] at hc
    obtain ⟨c, rest, hcons⟩ := List.exists_cons_of_ne_nil hc.1
    have hmem : c ∈ host text := hcons ▸ List.mem_cons_self
    have hends := not_endsHost_of_mem (mem_of_mem_host hmem)
    have hslash : isSlash c = false := by
      simp only [endsHost, Bool.not_or, Bool.and_eq_true, Bool.not_eq_true'] at hends
      exact hends.1.1
    rw [hcons, List.cons_append, List.dropWhile_cons_of_neg (by simp [hslash])]
  · exact h

/-- An address as it is read has the same host. -/
theorem host?_canonical (address : String) : host? (canonical address) = host? address := by
  unfold canonical
  cases hsplit : split? address with
  | none => rfl
  | some p =>
    obtain ⟨scheme, rest⟩ := p
    have hkeep : ∀ c ∈ rest, !isSkipped c := by
      obtain ⟨s, _, hs⟩ := Option.map_eq_some_iff.mp hsplit
      cases hs
      intro c hc
      exact (List.mem_filter.mp (List.mem_of_mem_drop hc)).2
    have hscheme : scheme ∈ schemes := by
      obtain ⟨s, hs, heq⟩ := Option.map_eq_some_iff.mp hsplit
      cases heq
      exact List.mem_of_find?_eq_some hs
    let text := rest.dropWhile isSlash
    have hsub : ∀ c ∈ sansUser text, c ∈ rest := by
      intro c hc
      exact (List.dropWhile_suffix _).subset (mem_of_mem_sansUser hc)
    have hfilter : (sansUser text).filter (!isSkipped ·) = sansUser text :=
      List.filter_eq_self.mpr fun c hc => hkeep c (hsub c hc)
    have hslashes : ∀ c ∈ "//".toList, ¬ Names c := by simp [Names, isSlash]
    simp only [String.append_assoc]
    rw [host?_web hscheme, String.toList_append, firstSegment_of_nameless hslashes,
      String.toList_ofList, firstSegment, hfilter, dropWhile_sansUser (List.dropWhile_idempotent ..),
      host_sansUser, host?, hsplit]
    rfl

/-- User information does not come without its sign. -/
theorem userInfo?_of_plain {address : String} (h : '@' ∉ address.toList) :
    userInfo? address = none := by
  unfold userInfo?
  split
  · next scheme rest hsplit =>
    obtain ⟨_, _, hrest⟩ := Option.map_eq_some_iff.mp hsplit
    cases hrest
    have hall : ∀ c ∈ authority ((List.drop scheme.length
        (address.toList.filter (!isSkipped ·))).dropWhile isSlash), (c != '@') = true := by
      intro c hc
      have htext := (List.dropWhile_suffix _).subset ((List.takeWhile_prefix _).subset hc)
      have hmem : c ∈ address.toList := (List.mem_filter.mp (List.mem_of_mem_drop htext)).1
      rw [bne_iff_ne]
      rintro rfl
      exact h hmem
    have huser : Text.dropEnd (· != '@') (authority ((List.drop scheme.length
        (address.toList.filter (!isSkipped ·))).dropWhile isSlash)) = [] :=
      Text.dropEnd_append_of_all (a := []) hall
    simp only [user, huser, List.dropLast_nil]
    split
    · rfl
    · rfl
  · rfl

end Address

/-! ## Accepted endpoints -/

namespace Config

variable {config : Config}

/-- The endpoint without blanks around it is a scheme of the web with two
slashes, and the rest. -/
def Endpoint (config : Config) (scheme rest : String) : Prop :=
  scheme ∈ Address.schemes ∧ Text.trim config.endpoint = scheme ++ "//" ++ rest

theorem endpoint_of_prefix (scheme : String) {endpoint : String}
    (h : (scheme ++ "//").toList.isPrefixOf endpoint.toList) :
    ∃ rest, endpoint = scheme ++ "//" ++ rest := by
  obtain ⟨rest, hrest⟩ := List.isPrefixOf_iff_prefix.mp h
  refine ⟨String.ofList rest, ?_⟩
  rw [← String.toList_inj, String.toList_append, String.toList_ofList]
  exact hrest.symm

/-- Accepted settings have such an endpoint. -/
theorem endpoint_of_check (h : config.check = .ok ()) :
    ∃ scheme rest, config.Endpoint scheme rest := by
  simp only [check] at h
  split at h
  · cases h
  · split at h
    · cases h
    · next hscheme =>
      simp only [Bool.not_eq_true', Bool.not_eq_false, Bool.or_eq_true] at hscheme
      rcases hscheme with hp | hp
      · obtain ⟨rest, hrest⟩ := endpoint_of_prefix "http:" hp
        exact ⟨"http:", rest, by simp [Address.schemes], hrest⟩
      · obtain ⟨rest, hrest⟩ := endpoint_of_prefix "https:" hp
        exact ⟨"https:", rest, by simp [Address.schemes], hrest⟩

variable {scheme rest : String}

/-- Something other than a slash behind the scheme: only what follows it is
dropped from the end. -/
theorem baseUrl_of_named (h : config.Endpoint scheme rest) (hrest : ∃ c ∈ rest.toList, c ≠ '/') :
    config.baseUrl = scheme ++ "//" ++ String.ofList (Text.dropEnd (· == '/') rest.toList) := by
  rw [baseUrl, h.2, ← String.toList_inj, String.toList_append, String.toList_append,
    Text.dropEnd_append_of_any (by simpa using hrest)]
  simp

/-- Nothing but slashes behind the scheme: its own two are dropped as well. -/
theorem baseUrl_of_nameless (h : config.Endpoint scheme rest)
    (hrest : ∀ c ∈ rest.toList, c = '/') : config.baseUrl = scheme := by
  have hall : ∀ c ∈ "//".toList ++ rest.toList, (c == '/') = true := by
    simpa using hrest
  obtain ⟨hscheme, htrim⟩ := h
  rw [baseUrl, htrim, String.toList_append, String.toList_append, List.append_assoc,
    Text.dropEnd_append_of_all hall]
  simp only [Address.schemes, List.mem_cons, List.not_mem_nil, or_false] at hscheme
  rcases hscheme with rfl | rfl
  · rfl
  · rfl

/-- Without its trailing slashes, what stands behind the scheme goes before the
path. -/
theorem url_of_named (h : config.Endpoint scheme rest) (hrest : ∃ c ∈ rest.toList, c ≠ '/') :
    ∃ kept slashes, rest = kept ++ slashes ∧ (∀ c ∈ slashes.toList, c = '/') ∧
      kept.toList.getLast? ≠ some '/' ∧
      ∀ path, config.url path = scheme ++ "//" ++ kept ++ path := by
  obtain ⟨slashes, hsplit, hslashes, hlast⟩ := Text.dropEnd_append_dropped (· == '/') rest.toList
  refine ⟨String.ofList (Text.dropEnd (· == '/') rest.toList), String.ofList slashes, ?_, ?_, ?_, ?_⟩
  · rw [← String.ofList_append, ← hsplit, String.ofList_toList]
  · simpa using hslashes
  · intro hc
    rw [String.toList_ofList] at hc
    exact hlast '/' hc rfl
  · intro path
    rw [url, baseUrl_of_named h hrest]

theorem host_eq (hscheme : scheme ∈ Address.schemes) (text : String) :
    Address.host? (scheme ++ "//" ++ text) = some (Address.firstSegment text.toList) := by
  have hslashes : ∀ c ∈ "//".toList, ¬ Address.Names c := by simp [Address.Names, Address.isSlash]
  rw [String.append_assoc, Address.host?_web hscheme, String.toList_append,
    Address.firstSegment_of_nameless hslashes]

/-- A host that the endpoint names is the host of all its addresses. -/
theorem host_of_named (h : config.Endpoint scheme rest)
    (hrest : ∃ c ∈ rest.toList, Address.Names c) {path : String}
    (hpath : path.toList.head? = some '/') :
    Address.host? (config.url path) = Address.host? (Text.trim config.endpoint) := by
  obtain ⟨c, hc, hname⟩ := hrest
  have hne : c ≠ '/' := by
    rintro rfl
    exact hname.1 rfl
  obtain ⟨kept, slashes, rfl, hslashes, _, hurl⟩ := url_of_named h ⟨c, hc, hne⟩
  rw [String.toList_append] at hc
  have hkept : ∃ c ∈ kept.toList, Address.Names c := by
    rcases List.mem_append.mp hc with hc | hc
    · exact ⟨c, hc, hname⟩
    · exact absurd (hslashes c hc) hne
  have hhead : slashes.toList.head? = none ∨ slashes.toList.head? = some '/' := by
    cases hs : slashes.toList with
    | nil => exact Or.inl rfl
    | cons d ds => exact Or.inr (congrArg some (hslashes d (hs ▸ List.mem_cons_self)))
  rw [hurl, h.2, String.append_assoc, host_eq h.1, host_eq h.1, String.toList_append,
    String.toList_append, Address.firstSegment_append hkept (Or.inr hpath),
    Address.firstSegment_append hkept hhead]

/-- If it names none, the first segment of the path is taken for the host. -/
theorem host_of_nameless (h : config.Endpoint scheme rest)
    (hrest : ∀ c ∈ rest.toList, ¬ Address.Names c) (path : String) :
    Address.host? (config.url path) = some (Address.firstSegment path.toList) := by
  by_cases hslash : ∃ c ∈ rest.toList, c ≠ '/'
  · obtain ⟨kept, slashes, rfl, _, _, hurl⟩ := url_of_named h hslash
    have hkept : ∀ c ∈ kept.toList, ¬ Address.Names c := by
      intro c hc
      exact hrest c (by simp [hc])
    rw [hurl, String.append_assoc, host_eq h.1, String.toList_append,
      Address.firstSegment_of_nameless hkept]
  · have hall : ∀ c ∈ rest.toList, c = '/' := by simpa using hslash
    rw [url, baseUrl_of_nameless h hall, Address.host?_web h.1]

end Config

/-- An endpoint without user information adds no credentials to an operation. -/
theorem Config.credentials_of_plain {config : Config} (h : '@' ∉ config.endpoint.toList)
    (op : Operation) : config.credentials op.path = none := by
  have hpath : '@' ∉ op.path.toList := by cases op <;> simp [Operation.path]
  have hbase : '@' ∉ config.baseUrl.toList := by
    intro hc
    rw [baseUrl, String.toList_ofList] at hc
    have htrim := Text.mem_of_mem_dropEnd hc
    rw [Text.trim, String.toList_ofList] at htrim
    exact h ((List.dropWhile_suffix _).subset (Text.mem_of_mem_dropEnd htrim))
  have hurl : '@' ∉ (config.url op.path).toList := by
    rw [url, String.toList_append, List.mem_append]
    exact not_or.mpr ⟨hbase, hpath⟩
  rw [credentials, Address.userInfo?_of_plain hurl, Option.map_none]

/-- A request goes to the host of the address that the settings give. -/
theorem Operation.request_host (config : Config) (op : Operation) (token : Option String) :
    Address.host? (op.request config token).url = Address.host? (config.url op.path) := by
  rw [request, Config.request, Address.host?_canonical]

/-- **When the endpoint is kept.** Accepted settings have an endpoint with a
scheme of the web and two slashes. All their addresses begin with these exactly
if something other than slashes stands behind them; then that, without its
trailing slashes, goes between them and the path. Otherwise the two slashes are
lost with the rest. The host is that of the endpoint, for every path that begins
with a slash, exactly if the endpoint names one; if it does not, the first
segment of the path stands in its place. -/
theorem base_kept_exactly (config : Config) (h : config.check = .ok ()) :
    ∃ scheme rest, config.Endpoint scheme rest ∧
      ((scheme ++ "//").toList.isPrefixOf config.baseUrl.toList ↔
        ∃ c ∈ rest.toList, c ≠ '/') ∧
      ((∃ c ∈ rest.toList, c ≠ '/') →
        ∃ kept slashes, rest = kept ++ slashes ∧ (∀ c ∈ slashes.toList, c = '/') ∧
          kept.toList.getLast? ≠ some '/' ∧
          ∀ path, config.url path = scheme ++ "//" ++ kept ++ path) ∧
      ((∀ c ∈ rest.toList, c = '/') → ∀ path, config.url path = scheme ++ path) ∧
      ((∃ c ∈ rest.toList, Address.Names c) → ∀ path, path.toList.head? = some '/' →
        Address.host? (config.url path) = Address.host? (Text.trim config.endpoint)) ∧
      ((∀ c ∈ rest.toList, ¬ Address.Names c) → ∀ path,
        Address.host? (config.url path) = some (Address.firstSegment path.toList)) ∧
      ∀ op token, Address.host? (Operation.request config op token).url =
        Address.host? (config.url op.path) := by
  obtain ⟨scheme, rest, he⟩ := Config.endpoint_of_check h
  refine ⟨scheme, rest, he, ⟨?_, ?_⟩, Config.url_of_named he, ?_,
    fun hrest path => Config.host_of_named he hrest, Config.host_of_nameless he,
    Operation.request_host config⟩
  · intro hp
    by_contra hslash
    have hall : ∀ c ∈ rest.toList, c = '/' := by simpa using hslash
    rw [Config.baseUrl_of_nameless he hall] at hp
    -- the scheme alone is too short
    have hlen := (List.isPrefixOf_iff_prefix.mp hp).length_le
    rw [String.toList_append, List.length_append] at hlen
    have htwo : "//".toList.length = 2 := rfl
    omega
  · intro hrest
    rw [Config.baseUrl_of_named he hrest, List.isPrefixOf_iff_prefix]
    exact ⟨_, (String.toList_append).symm⟩
  · intro hall path
    rw [Config.url, Config.baseUrl_of_nameless he hall]

/-- An endpoint with slashes in excess and a port keeps its host. -/
theorem base_kept_exactly_port :
    let config : Config := { endpoint := " https:///id.example:8443/sso// ", clientId := "app" }
    config.check = .ok () ∧ ∀ path, path.toList.head? = some '/' →
      Address.host? (config.url path) = some "id.example:8443" := by
  intro config
  have h : config.check = .ok () := by decide +kernel
  obtain ⟨scheme, rest, _, _, _, _, hnamed, hnameless, _⟩ := base_kept_exactly config h
  refine ⟨h, ?_⟩
  intro path hpath
  have hrest : ∃ c ∈ rest.toList, Address.Names c := by
    by_contra hn
    have hx := hnameless (by simpa using hn) "/x"
    exact absurd hx (by decide +kernel)
  rw [hnamed hrest path hpath]
  decide +kernel

/-- An endpoint without a host is accepted. Its two slashes are lost, and the
password goes to a host that is named by the path. -/
theorem path_taken_for_host :
    let config : Config := { endpoint := "http://", clientId := "app" }
    let request := (Operation.login ⟨"u@x.com", "p", none⟩).request config none
    config.check = .ok () ∧ ¬ "http://".toList.isPrefixOf config.baseUrl.toList ∧
      config.url "/api/v1/auth/login" = "http:/api/v1/auth/login" ∧
      request.url = "http://api/v1/auth/login" ∧ Address.host? request.url = some "api" := by
  intro config request
  decide +kernel

end SignOn
