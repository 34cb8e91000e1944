import SignOn.Dispatch
import SignOn.Proofs.Addresses

/-!
Ways to write an endpoint. Blanks around it and slashes behind it are dropped, the
blanks first, so that a blank before a slash stays.

* `Text.trim_surrounded`, `Text.trim_slashed`: what trimming leaves of a text with
  blanks around it, or with slashes behind it;
* `Text.dropEnd_dropEnd_iff`: when one of two droppings from the end does nothing;
* `Text.slashesAt_append`: how many slashes stand where two texts meet;
* `Config.url_respelt_iff`: which slashes may be written behind an endpoint;
* `endpoint_respelt`: the addresses of an endpoint, and that other ways to write it
  change nothing.
-/

namespace SignOn

namespace Text

/-- White space and nothing else. -/
def Blanks (s : String) : Prop := ∀ c ∈ s.toList, isBlank c

instance (s : String) : Decidable (Blanks s) :=
  decidable_of_iff (s.toList.all isBlank) List.all_eq_true

/-- A text without white space at its ends. -/
structure Trimmed (s : String) : Prop where
  head : ∀ c, s.toList.head? = some c → ¬ isBlank c
  last : ∀ c, s.toList.getLast? = some c → ¬ isBlank c

theorem trimmed_iff {s : String} :
    Trimmed s ↔ s.toList.head?.all (!isBlank ·) ∧ s.toList.getLast?.all (!isBlank ·) := by
  have hall : ∀ o : Option Char, o.all (!isBlank ·) ↔ ∀ c, o = some c → ¬ isBlank c := by
    intro o
    simp [Option.all_eq_true]
  rw [hall, hall]
  exact ⟨fun h => ⟨h.head, h.last⟩, fun h => ⟨h.1, h.2⟩⟩

instance (s : String) : Decidable (Trimmed s) := decidable_of_iff' _ trimmed_iff

def slashes (n : Nat) : String := String.ofList (List.replicate n '/')

theorem slashes_toList (n : Nat) : (slashes n).toList = List.replicate n '/' :=
  String.toList_ofList

theorem isBlank_ne_slash {c : Char} (h : isBlank c) : c ≠ '/' := by
  rintro rfl
  exact absurd h (by decide)

theorem eq_slashes {l : List Char} (h : ∀ c ∈ l, c = '/') : String.ofList l = slashes l.length := by
  rw [slashes, ← List.eq_replicate_length.mpr h]

/-! ## Dropping from the end -/

variable {p q : Char → Bool} {a : List Char}

theorem dropEnd_eq_self_iff : dropEnd p a = a ↔ ∀ c, a.getLast? = some c → ¬ p c := by
  have hself : dropEnd p a = a ↔ ∀ hl : a ≠ [], ¬ p (a.getLast hl) := List.rdropWhile_eq_self_iff
  rw [hself]
  constructor
  · intro h c hc
    obtain ⟨hne, rfl⟩ := List.mem_getLast?_eq_getLast hc
    exact h hne
  · intro h hne
    exact h _ (List.getLast?_eq_some_getLast hne)

/-- Before the dropping of other characters, dropping changes the outcome if it does
anything: what it uncovers is less than what would have stayed. -/
theorem dropEnd_dropEnd_iff (hpq : ∀ c, p c → ¬ q c) :
    dropEnd q (dropEnd p a) = dropEnd q a ↔ dropEnd p a = a := by
  constructor
  · intro h
    by_contra hne
    obtain ⟨c, hc, hp⟩ : ∃ c, a.getLast? = some c ∧ p c := by
      simpa using dropEnd_eq_self_iff.not.mp hne
    have hq : dropEnd q a = a := by
      refine dropEnd_eq_self_iff.mpr fun d hd => ?_
      obtain rfl : c = d := Option.some.inj (hc.symm.trans hd)
      exact hpq c hp
    have hprefix : a <+: dropEnd p a := by
      have h' : dropEnd q (dropEnd p a) <+: dropEnd p a := List.rdropWhile_prefix q _
      rwa [h, hq] at h'
    have hback : dropEnd p a <+: a := List.rdropWhile_prefix p _
    exact hne (hback.eq_of_length_le hprefix.length_le)
  · intro h
    rw [h]

/-- What is dropped from the start of a text does not change how it ends, unless all of
it is dropped. -/
theorem last_dropWhile_iff :
    (∀ c, (a.dropWhile p).getLast? = some c → ¬ p c) ↔
      (∀ c ∈ a, p c) ∨ ∀ c, a.getLast? = some c → ¬ p c := by
  by_cases hall : ∀ c ∈ a, p c
  · have hnil : a.dropWhile p = [] := List.dropWhile_eq_nil_iff.mpr hall
    refine iff_of_true ?_ (Or.inl hall)
    simp [hnil]
  · have hne : a.dropWhile p ≠ [] := fun hnil => hall (List.dropWhile_eq_nil_iff.mp hnil)
    have hlast : (a.dropWhile p).getLast? = a.getLast? := by
      conv_rhs => rw [← List.takeWhile_append_dropWhile (p := p) (l := a)]
      exact (List.getLast?_append_of_ne_nil _ hne).symm
    rw [hlast, or_iff_right hall]

/-! ## Trimming -/

variable {before behind s : String}

/-- Blanks around a text do not count. -/
theorem trim_surrounded (hbefore : Blanks before) (hbehind : Blanks behind) (s : String) :
    trim (before ++ s ++ behind) = trim s := by
  have hstart : (before ++ s ++ behind).toList.dropWhile isBlank =
      (s.toList ++ behind.toList).dropWhile isBlank := by
    rw [String.append_assoc, String.toList_append, String.toList_append,
      List.dropWhile_append_of_pos hbefore]
  rw [trim, trim, hstart, List.dropWhile_append]
  split
  · next hall => rw [List.dropWhile_eq_nil_iff.mpr hbehind, List.isEmpty_iff.mp hall]
  · rw [dropEnd_append_of_all hbehind]

/-- Slashes behind a text keep the blanks at its end: only those at the start are dropped. -/
theorem trim_slashed (s : String) (n : Nat) :
    (trim (s ++ slashes (n + 1))).toList =
      s.toList.dropWhile isBlank ++ List.replicate (n + 1) '/' := by
  have hslash : ¬ isBlank '/' := fun h => isBlank_ne_slash h rfl
  have hstart : (s ++ slashes (n + 1)).toList.dropWhile isBlank =
      s.toList.dropWhile isBlank ++ List.replicate (n + 1) '/' := by
    rw [String.toList_append, slashes_toList, List.dropWhile_append]
    split
    · next hall =>
      rw [List.isEmpty_iff.mp hall, List.nil_append, List.replicate_succ,
        List.dropWhile_cons_of_neg hslash]
    · rfl
  have hend : dropEnd isBlank (List.replicate (n + 1) '/') = List.replicate (n + 1) '/' := by
    refine dropEnd_eq_self_iff.mpr fun c hc => ?_
    obtain rfl : c = '/' := List.eq_of_mem_replicate (List.mem_of_getLast? hc)
    exact hslash
  rw [trim, String.toList_ofList, hstart,
    dropEnd_append_of_any ⟨'/', List.mem_replicate.mpr ⟨n.succ_ne_zero, rfl⟩, hslash⟩, hend]

theorem Trimmed.trim_eq (h : Trimmed s) : trim s = s := by
  have hstart : s.toList.dropWhile isBlank = s.toList := by
    cases hs : s.toList with
    | nil => rfl
    | cons c cs => exact List.dropWhile_cons_of_neg (h.head c (by rw [hs]; rfl))
  rw [trim, hstart, dropEnd_eq_self_iff.mpr h.last, String.ofList_toList]

/-! ## Slashes at a joint -/

/-- The slashes around a position of a text, as far as nothing else stands between. -/
def slashesAt (i : Nat) (s : String) : Nat :=
  ((s.toList.take i).reverse.takeWhile (· == '/')).length +
    ((s.toList.drop i).takeWhile (· == '/')).length

/-- Behind a text that does not end in a slash, the slashes are those that the next text
begins with. -/
theorem slashesAt_append {kept : String} (h : kept.toList.getLast? ≠ some '/') (path : String) :
    slashesAt kept.length (kept ++ path) = (path.toList.takeWhile (· == '/')).length := by
  have hnone : kept.toList.reverse.takeWhile (· == '/') = [] := by
    rw [← List.head?_reverse] at h
    cases hr : kept.toList.reverse with
    | nil => rfl
    | cons c cs =>
      rw [hr] at h
      exact List.takeWhile_cons_of_neg (by simpa using h)
  rw [slashesAt, String.toList_append, ← String.length_toList, List.take_left, List.drop_left,
    hnone, List.length_nil, Nat.zero_add]

theorem one_slash_iff (l : List Char) :
    (l.takeWhile (· == '/')).length = 1 ↔
      "/".toList.isPrefixOf l ∧ ¬ "//".toList.isPrefixOf l := by
  cases l with
  | nil => simp
  | cons c l =>
    by_cases hc : c = '/'
    · subst hc
      cases l with
      | nil => simp
      | cons d l =>
        by_cases hd : d = '/'
        · simp [hd]
        · simp [hd, Ne.symm hd]
    · simp [hc, Ne.symm hc]

end Text

open Text (Blanks Trimmed slashes)

namespace Config

variable {config : Config} {before behind : String}

/-- The same settings, with slashes behind the endpoint and other texts around both. -/
def respelt (config : Config) (before : String) (n : Nat) (behind : String) : Config :=
  { config with endpoint := before ++ config.endpoint ++ slashes n ++ behind }

/-! ## The base of all addresses -/

theorem trim_respelt (hbefore : Blanks before) (hbehind : Blanks behind) (n : Nat) :
    Text.trim (config.respelt before n behind).endpoint =
      Text.trim (config.endpoint ++ slashes n) := by
  have hassoc : before ++ config.endpoint ++ slashes n ++ behind =
      before ++ (config.endpoint ++ slashes n) ++ behind := by
    simp only [String.append_assoc]
  show Text.trim (before ++ config.endpoint ++ slashes n ++ behind) = _
  rw [hassoc, Text.trim_surrounded hbefore hbehind]

/-- Behind slashes, only the blanks at the start are missing. -/
theorem baseUrl_respelt_succ (hbefore : Blanks before) (hbehind : Blanks behind) (n : Nat) :
    (config.respelt before (n + 1) behind).baseUrl =
      String.ofList (Text.dropEnd (· == '/') (config.endpoint.toList.dropWhile Text.isBlank)) := by
  rw [baseUrl, trim_respelt hbefore hbehind, Text.trim_slashed, Text.dropEnd_append_of_all]
  intro c hc
  exact beq_iff_eq.mpr (List.eq_of_mem_replicate hc)

/-- **Which slashes may be written behind an endpoint.** Blanks around it never count,
and slashes do not count unless they stand behind a blank that would otherwise be
dropped. -/
theorem url_respelt_iff (hbefore : Blanks before) (hbehind : Blanks behind) (n : Nat) :
    (∀ path, (config.respelt before n behind).url path = config.url path) ↔
      n = 0 ∨ Blanks config.endpoint ∨
        ∀ c, config.endpoint.toList.getLast? = some c → ¬ Text.isBlank c := by
  have hbase : (∀ path, (config.respelt before n behind).url path = config.url path) ↔
      (config.respelt before n behind).baseUrl = config.baseUrl := by
    constructor
    · intro h
      simpa [url] using h ""
    · intro h path
      rw [url, url, h]
  have hslash : ∀ c, Text.isBlank c → ¬ (c == '/') := by
    intro c hc h
    exact Text.isBlank_ne_slash hc (beq_iff_eq.mp h)
  rw [hbase]
  cases n with
  | zero =>
    have hnone : config.endpoint ++ slashes 0 = config.endpoint := String.append_empty
    refine iff_of_true ?_ (Or.inl rfl)
    rw [baseUrl, trim_respelt hbefore hbehind, hnone, baseUrl]
  | succ n =>
    rw [or_iff_right n.succ_ne_zero, baseUrl_respelt_succ hbefore hbehind, baseUrl, Text.trim,
      String.toList_ofList, String.ofList_inj, eq_comm, Text.dropEnd_dropEnd_iff hslash,
      Text.dropEnd_eq_self_iff, Text.last_dropWhile_iff]
    rfl

/-- A blank that a slash is written behind stays in the address. -/
example :
    let config : Config := { endpoint := "http://id ", clientId := "app" }
    config.url "/x" = "http://id/x" ∧ (config.respelt "" 1 "").url "/x" = "http://id /x" := by
  decide +kernel

/-- An endpoint without blanks at its ends is the base, but for its trailing slashes. -/
theorem baseUrl_of_trimmed (h : Trimmed config.endpoint) :
    ∃ m, config.endpoint = config.baseUrl ++ slashes m ∧
      config.baseUrl.toList.getLast? ≠ some '/' := by
  obtain ⟨dropped, hsplit, hdropped, hlast⟩ :=
    Text.dropEnd_append_dropped (· == '/') config.endpoint.toList
  have hbase : config.baseUrl = String.ofList (Text.dropEnd (· == '/') config.endpoint.toList) := by
    rw [baseUrl, h.trim_eq]
  refine ⟨dropped.length, ?_, ?_⟩
  · rw [hbase, ← Text.eq_slashes (by simpa using hdropped), ← String.ofList_append, ← hsplit,
      String.ofList_toList]
  · intro hc
    rw [hbase, String.toList_ofList] at hc
    exact hlast '/' hc rfl

/-! ## What is sent -/

section

variable {n : Nat} (h : ∀ path, (config.respelt before n behind).url path = config.url path)
include h

theorem request_respelt : (config.respelt before n behind).request = config.request := by
  funext method path bearer body
  rw [request, request, credentials, credentials, h]
  rfl

theorem send_respelt : Scene.send (config.respelt before n behind) = Scene.send config := by
  funext method path bearer payload s
  rw [Scene.send, Scene.send, request_respelt h]
  rfl

theorem perform_respelt :
    Scene.perform (config.respelt before n behind) = Scene.perform config := by
  funext op s
  have hrequest : ∀ token, op.request (config.respelt before n behind) token =
      op.request config token := by
    intro token
    rw [Operation.request, Operation.request, request_respelt h]
    rfl
  have hstart : op.start (config.respelt before n behind) s.session =
      op.start config s.session := by
    rw [Operation.start, Operation.start, hrequest]
    rfl
  rw [Scene.perform, Scene.perform, hstart]

end

end Config

/-- **The spelling of the endpoint does not matter**, if it has no blanks at its ends.
Without its trailing slashes it goes before each path, and exactly one slash is at the
joint for the paths that begin with one; the address so made is the one requested, as it
is read. With any blanks around it, and any number of slashes behind it, all addresses are
the same, and whatever is sent or done with them. -/
theorem endpoint_respelt (config : Config) (h : Trimmed config.endpoint) :
    ∃ kept m, config.endpoint = kept ++ slashes m ∧ kept.toList.getLast? ≠ some '/' ∧
      (∀ path, config.url path = kept ++ path ∧
        (Text.slashesAt kept.length (config.url path) = 1 ↔
          "/".toList.isPrefixOf path.toList ∧ ¬ "//".toList.isPrefixOf path.toList) ∧
        ∀ method bearer body, (config.request method path bearer body).url =
          Address.canonical (kept ++ path)) ∧
      ∀ before n behind, Blanks before → Blanks behind →
        let respelt := config.respelt before n behind
        (∀ path, respelt.url path = kept ++ path) ∧
          respelt.request = config.request ∧
          Scene.send respelt = Scene.send config ∧
          Scene.perform respelt = Scene.perform config := by
  obtain ⟨m, hm, hlast⟩ := Config.baseUrl_of_trimmed h
  refine ⟨config.baseUrl, m, hm, hlast, ?_, ?_⟩
  · intro path
    refine ⟨rfl, ?_, ?_⟩
    · rw [Config.url, Text.slashesAt_append hlast, Text.one_slash_iff]
    · intro method bearer body
      rw [Config.request, Config.url]
  · intro before n behind hbefore hbehind respelt
    have hurl : ∀ path, respelt.url path = config.url path :=
      (Config.url_respelt_iff hbefore hbehind n).mpr (Or.inr (Or.inr h.last))
    exact ⟨hurl, Config.request_respelt hurl, Config.send_respelt hurl,
      Config.perform_respelt hurl⟩

/-- An endpoint with a slash at its end, with two more and blanks of several kinds. -/
theorem endpoint_respelt_padded :
    let config : Config := { endpoint := "https://id.example/sso/", clientId := "app" }
    let respelt := config.respelt "\t\u3000" 2 "\u2028\n"
    let base := "https://id.example/sso"
    Trimmed config.endpoint ∧ Blanks "\t\u3000" ∧ Blanks "\u2028\n" ∧
      respelt.endpoint = "\t\u3000https://id.example/sso///\u2028\n" ∧
      respelt.url "/oauth2/token" = "https://id.example/sso/oauth2/token" ∧
      Text.slashesAt base.length "https://id.example/sso/oauth2/token" = 1 ∧
      Scene.perform respelt = Scene.perform config := by
  intro config respelt base
  have htrimmed : Trimmed config.endpoint := by decide +kernel
  have hbefore : Blanks "\t\u3000" := by decide
  have hbehind : Blanks "\u2028\n" := by decide
  obtain ⟨kept, m, _, _, hurl, hrespelt⟩ := endpoint_respelt config htrimmed
  obtain ⟨hsame, _, _, hperform⟩ := hrespelt _ 2 _ hbefore hbehind
  obtain rfl : base = kept := by
    have hbase : config.url "" = base := by decide +kernel
    rw [← hbase, (hurl "").1, String.append_empty]
  obtain ⟨hjoined, hjoint, _⟩ := hurl "/oauth2/token"
  rw [hjoined] at hjoint
  exact ⟨htrimmed, hbefore, hbehind, by decide, hsame _, hjoint.mpr ⟨by decide, by decide⟩,
    hperform⟩

end SignOn
