import CloudInventory.Client.Basic
import CloudInventory.Client.Message
import CloudInventory.Proofs.Decode.Sequence
import CloudInventory.Proofs.Text.Numeral

/-!
# Endpoints

An accepted endpoint is a scheme with a text behind it. The URL of a path is the endpoint
without the slashes at its end, a slash, and the path without the slashes at its start, so
slashes where the two meet make no difference. The host of the URL is that of the endpoint,
whatever the path is, if the endpoint has one. It need not have one to be accepted, though:
of an endpoint that is only a scheme the slashes of the scheme are cut off as well, and then
the path is read as the host.

Results:
1. `Config.Accepted.exists_parts`: what an accepted endpoint consists of.
2. `Config.url_of_base` and `Config.url_of_no_base`: the URL of a path, with and without a
   text behind the scheme.
3. `Config.authorityChars_url` and `Config.authorityChars_url_of_not_hosted`: the host that
   the URL is read with.
4. `Config.url_exact`: when the endpoint stays the target of every request.
-/

namespace CloudInventory

/-! ## The authority of a URL -/

namespace Url

variable {p : Char → Bool} {c : Char} {cs : List Char}

/-- What stands at the start of a text is dropped as far as the text has something else. -/
theorem dropWhile_append_of_exists (other : ∃ c ∈ cs, p c = false) (ds : List Char) :
    (cs ++ ds).dropWhile p = cs.dropWhile p ++ ds := by
  have left : ¬ (cs.dropWhile p).isEmpty = true := by
    rw [List.isEmpty_iff, List.dropWhile_eq_nil_iff]
    intro all
    obtain ⟨c, member, different⟩ := other
    rw [all c member] at different
    cases different
  rw [List.dropWhile_append, if_neg left]

/-- A run ends at the latest where a character stands that is not of its class. -/
theorem takeWhile_append_cons (other : p c = false) (cs ds : List Char) :
    (cs ++ c :: ds).takeWhile p = cs.takeWhile p := by
  induction cs with
  | nil => exact List.takeWhile_cons_of_neg (by rw [other]; exact Bool.false_ne_true)
  | cons first cs ih => rw [List.cons_append, List.takeWhile_cons, List.takeWhile_cons, ih]

/-- Nothing more is dropped from there on. -/
theorem dropWhile_append_cons (other : p c = false) (cs ds : List Char) :
    (cs ++ c :: ds).dropWhile p = cs.dropWhile p ++ c :: ds := by
  rw [List.dropWhile_append, List.dropWhile_cons_of_neg (by rw [other]; exact Bool.false_ne_true)]
  split
  next dropped => rw [List.isEmpty_iff.1 dropped, List.nil_append]
  next => rfl

theorem readChars_append (cs ds : List Char) :
    readChars (cs ++ ds) = readChars cs ++ readChars ds :=
  List.filter_append ..

theorem readChars_cons (kept : isIgnored c = false) (cs : List Char) :
    readChars (c :: cs) = c :: readChars cs :=
  List.filter_cons_of_pos (by rw [kept]; rfl)

theorem mem_readChars : c ∈ readChars cs ↔ c ∈ cs ∧ isIgnored c = false := by
  rw [readChars, List.mem_filter, Bool.not_eq_true']

/-- URLs with the same text behind their schemes have the same authority. -/
theorem authorityChars_congr {url other : List Char}
    (same : (afterScheme (readChars url)).takeWhile isAuthorityChar =
      (afterScheme (readChars other)).takeWhile isAuthorityChar) :
    authorityChars url = authorityChars other := by
  rw [authorityChars, authorityChars, same]

end Url

namespace Config

/-! ## Accepted configurations -/

/-- The schemes of endpoints, each with its slashes. -/
def schemes : List String := ["http://", "https://"]

/-- The configuration is found usable, it is read from the environment, or a client is made
of it. -/
inductive Accepted (config : Config) : Prop
  | validated (valid : config.validate = .ok ())
  | environment {lookup : String → Option String} (read : fromEnvironment lookup = .ok config)
  | connected {client : Client} (made : Client.connect config = .ok client)

variable {config : Config}

theorem validate_of_fromEnvironment {lookup : String → Option String}
    (read : fromEnvironment lookup = .ok config) : config.validate = .ok () := by
  unfold fromEnvironment at read
  obtain ⟨username, -, read⟩ := bind_eq_ok_iff.1 read
  obtain ⟨password, -, read⟩ := bind_eq_ok_iff.1 read
  obtain ⟨timeout, -, read⟩ := bind_eq_ok_iff.1 read
  obtain ⟨⟨⟩, valid, made⟩ := bind_eq_ok_iff.1 read
  cases made
  exact valid

theorem validate_of_connect {client : Client} (made : Client.connect config = .ok client) :
    config.validate = .ok () := by
  unfold Client.connect at made
  split at made
  next valid => exact valid
  next => cases made

/-- However a configuration is accepted, it has been found usable. -/
theorem Accepted.validate_eq (accepted : config.Accepted) : config.validate = .ok () := by
  cases accepted with
  | validated valid => exact valid
  | environment read => exact validate_of_fromEnvironment read
  | connected made => exact validate_of_connect made

theorem Accepted.isHttpUrl (accepted : config.Accepted) : isHttpUrl config.endpoint = true := by
  have valid := accepted.validate_eq
  unfold validate at valid
  split at valid
  next => cases valid
  next usable => rwa [Bool.not_eq_true', Bool.not_eq_false] at usable

/-! ## The parts of an endpoint -/

def slashes (n : Nat) : String :=
  String.ofList (List.replicate n '/')

/-- An endpoint is a scheme, a text that does not end in a slash, and slashes. -/
structure Parts (endpoint scheme base : String) (n : Nat) : Prop where
  listed : scheme ∈ schemes
  text : endpoint = scheme ++ base ++ slashes n
  trimmed : base.toList.getLast? ≠ some '/'

/-- The endpoint has something in the place of a host: behind the scheme there is a character
that is neither a separator nor dropped. -/
def Hosted (config : Config) : Prop :=
  ∃ scheme ∈ schemes, ∃ rest : String, config.endpoint = scheme ++ rest ∧
    ∃ c ∈ rest.toList, Url.isSeparator c = false ∧ Url.isIgnored c = false

theorem isSlash_of_mem_replicate (n : Nat) : ∀ c ∈ List.replicate n '/', isSlash c = true :=
  fun _ member => List.eq_of_mem_replicate member ▸ rfl

theorem isSeparator_of_mem_replicate (n : Nat) :
    ∀ c ∈ List.replicate n '/', Url.isSeparator c = true :=
  fun _ member => List.eq_of_mem_replicate member ▸ rfl

theorem trimSlashes_append_slashes (cs : List Char) (n : Nat) :
    trimSlashes (cs ++ List.replicate n '/') = trimSlashes cs := by
  rw [trimSlashes, trimSlashes, List.reverse_append, List.reverse_replicate,
    List.dropWhile_append_of_pos (isSlash_of_mem_replicate n)]

theorem trimSlashes_of_trimmed {cs : List Char} (trimmed : cs.getLast? ≠ some '/') :
    trimSlashes cs = cs := by
  have kept : cs.reverse.dropWhile isSlash = cs.reverse := by
    rw [← List.head?_reverse] at trimmed
    cases back : cs.reverse with
    | nil => rfl
    | cons c back' =>
      rw [back] at trimmed
      refine List.dropWhile_cons_of_neg fun slash => trimmed ?_
      rw [isSlash, beq_iff_eq] at slash
      rw [slash, List.head?_cons]
  rw [trimSlashes, kept, List.reverse_reverse]

/-- A text is what is left without the slashes at its end, and these slashes. -/
theorem exists_slashes (cs : List Char) :
    ∃ n, cs = trimSlashes cs ++ List.replicate n '/' ∧ (trimSlashes cs).getLast? ≠ some '/' := by
  have all : ∀ c ∈ cs.reverse.takeWhile isSlash, c = '/' := by
    intro c member
    have slash := List.mem_takeWhile_imp member
    exact beq_iff_eq.1 slash
  have run := List.eq_replicate_of_mem all
  refine ⟨(cs.reverse.takeWhile isSlash).length, ?_, ?_⟩
  · rw [trimSlashes, ← List.reverse_replicate, ← run, ← List.reverse_append,
      List.takeWhile_append_dropWhile, List.reverse_reverse]
  · rw [trimSlashes, List.getLast?_reverse]
    intro slash
    have head := List.head?_dropWhile_not isSlash cs.reverse
    rw [slash] at head
    exact absurd head (by decide)

theorem exists_scheme {endpoint : String} (http : Config.isHttpUrl endpoint = true) :
    ∃ scheme ∈ schemes, ∃ rest, endpoint.toList = scheme.toList ++ rest := by
  rw [Config.isHttpUrl, Bool.or_eq_true, List.isPrefixOf_iff_prefix, List.isPrefixOf_iff_prefix]
    at http
  rcases http with ⟨rest, chars⟩ | ⟨rest, chars⟩
  · exact ⟨"http://", List.mem_cons_self, rest, chars.symm⟩
  · exact ⟨"https://", List.mem_cons_of_mem _ List.mem_cons_self, rest, chars.symm⟩

/-- An accepted endpoint has the three parts. -/
theorem Accepted.exists_parts (accepted : config.Accepted) :
    ∃ scheme base n, Parts config.endpoint scheme base n := by
  obtain ⟨scheme, listed, rest, chars⟩ := exists_scheme accepted.isHttpUrl
  obtain ⟨n, split, trimmed⟩ := exists_slashes rest
  refine ⟨scheme, String.ofList (trimSlashes rest), n, listed, ?_, ?_⟩
  · rw [← String.toList_inj, chars, String.toList_append, String.toList_append, slashes,
      String.toList_ofList, String.toList_ofList, List.append_assoc, ← split]
  · rwa [String.toList_ofList]

/-! ## The URL of a path -/

section

variable {scheme base : String} {n : Nat}

theorem dropWhile_slashes_append (m : Nat) (path : String) :
    (slashes m ++ path).toList.dropWhile isSlash = path.toList.dropWhile isSlash := by
  rw [slashes, String.toList_append, String.toList_ofList,
    List.dropWhile_append_of_pos (isSlash_of_mem_replicate m)]

/-- The slashes at the start of a path are cut off. -/
theorem dropWhile_slashes {path : String} (relative : path.toList.head? ≠ some '/') (m : Nat) :
    (slashes m ++ path).toList.dropWhile isSlash = path.toList := by
  rw [dropWhile_slashes_append]
  cases chars : path.toList with
  | nil => rfl
  | cons c cs =>
    rw [chars] at relative
    refine List.dropWhile_cons_of_neg fun slash => relative ?_
    rw [isSlash, beq_iff_eq] at slash
    rw [slash, List.head?_cons]

theorem Parts.toList_eq (parts : Parts config.endpoint scheme base n) :
    config.endpoint.toList = scheme.toList ++ base.toList ++ List.replicate n '/' := by
  rw [parts.text, String.toList_append, String.toList_append, slashes, String.toList_ofList]

theorem Parts.trimSlashes_of_base (parts : Parts config.endpoint scheme base n)
    (filled : base ≠ "") :
    trimSlashes config.endpoint.toList = scheme.toList ++ base.toList := by
  have nonempty : base.toList ≠ [] := fun empty => filled (String.toList_eq_nil_iff.1 empty)
  rw [parts.toList_eq, trimSlashes_append_slashes]
  refine trimSlashes_of_trimmed ?_
  rw [List.getLast?_append_of_ne_nil _ nonempty]
  exact parts.trimmed

theorem Parts.trimSlashes_of_no_base (parts : Parts config.endpoint scheme "" n) :
    trimSlashes config.endpoint.toList = trimSlashes scheme.toList := by
  rw [parts.toList_eq, trimSlashes_append_slashes, String.toList_empty, List.append_nil]

/-- With a text behind the scheme the URL of a path is made of scheme, text and path. -/
theorem url_of_base (parts : Parts config.endpoint scheme base n) (filled : base ≠ "") (m : Nat)
    {path : String} (relative : path.toList.head? ≠ some '/') :
    config.url (slashes m ++ path) = scheme ++ base ++ "/" ++ path := by
  have slash : "/".toList = ['/'] := rfl
  rw [url, dropWhile_slashes relative, parts.trimSlashes_of_base filled, ← String.toList_inj,
    String.toList_ofList]
  simp only [String.toList_append, slash, List.append_assoc, List.singleton_append]

/-- Without one the slashes of the scheme are missing. -/
theorem url_of_no_base (parts : Parts config.endpoint scheme "" n) (m : Nat) {path : String}
    (relative : path.toList.head? ≠ some '/') :
    config.url (slashes m ++ path) =
      String.ofList (trimSlashes scheme.toList) ++ "/" ++ path := by
  have slash : "/".toList = ['/'] := rfl
  rw [url, dropWhile_slashes relative, parts.trimSlashes_of_no_base, ← String.toList_inj,
    String.toList_ofList]
  simp only [String.toList_append, String.toList_ofList, slash, List.append_assoc,
    List.singleton_append]

/-! ## The host of a path -/

theorem afterScheme_scheme (listed : scheme ∈ schemes) (cs : List Char) :
    Url.afterScheme (Url.readChars (scheme.toList ++ cs)) =
      (Url.readChars cs).dropWhile Url.isSeparator := by
  simp only [schemes, List.mem_cons, List.not_mem_nil, or_false] at listed
  rcases listed with rfl | rfl <;> rfl

theorem afterScheme_bare (listed : scheme ∈ schemes) (cs : List Char) :
    Url.afterScheme (Url.readChars (trimSlashes scheme.toList ++ cs)) =
      (Url.readChars cs).dropWhile Url.isSeparator := by
  simp only [schemes, List.mem_cons, List.not_mem_nil, or_false] at listed
  rcases listed with rfl | rfl <;> rfl

/-- What the URL of a path has behind its scheme, whether there is a text there or not. -/
theorem afterScheme_url (parts : Parts config.endpoint scheme base n) (path : String) :
    Url.afterScheme (Url.readChars (config.url path).toList) =
      (Url.readChars base.toList ++
        '/' :: Url.readChars (path.toList.dropWhile isSlash)).dropWhile Url.isSeparator := by
  rw [url, String.toList_ofList]
  by_cases filled : base = ""
  · subst filled
    rw [parts.trimSlashes_of_no_base, afterScheme_bare parts.listed, Url.readChars_cons (by decide)]
    rfl
  · rw [parts.trimSlashes_of_base filled, List.append_assoc, afterScheme_scheme parts.listed,
      Url.readChars_append, Url.readChars_cons (by decide)]

theorem afterScheme_endpoint (parts : Parts config.endpoint scheme base n) :
    Url.afterScheme (Url.readChars config.endpoint.toList) =
      (Url.readChars base.toList ++ List.replicate n '/').dropWhile Url.isSeparator := by
  have kept : Url.readChars (List.replicate n '/') = List.replicate n '/' :=
    List.filter_eq_self.2 fun c member => List.eq_of_mem_replicate member ▸ rfl
  rw [parts.toList_eq, List.append_assoc, afterScheme_scheme parts.listed, Url.readChars_append,
    kept]

/-- The host stands in the text behind the scheme, if anywhere. -/
theorem Parts.hosted_iff (parts : Parts config.endpoint scheme base n) :
    config.Hosted ↔ ∃ c ∈ Url.readChars base.toList, Url.isSeparator c = false := by
  constructor
  · rintro ⟨other, listed, rest, text, c, member, visible, kept⟩
    have same := afterScheme_endpoint parts
    rw [text, String.toList_append, afterScheme_scheme listed] at same
    have inRest : c ∈ Url.readChars rest.toList := Url.mem_readChars.2 ⟨member, kept⟩
    by_contra none
    -- Otherwise nothing is left of either text when its separators are dropped.
    have all : ∀ d ∈ Url.readChars base.toList ++ List.replicate n '/',
        Url.isSeparator d = true := by
      intro d inEither
      rcases List.mem_append.1 inEither with inBase | slash
      · exact Bool.not_eq_false _ ▸ fun other => none ⟨d, inBase, other⟩
      · exact isSeparator_of_mem_replicate n d slash
    rw [List.dropWhile_eq_nil_iff.2 all] at same
    rw [List.dropWhile_eq_nil_iff.1 same c inRest] at visible
    cases visible
  · rintro ⟨c, member, visible⟩
    obtain ⟨inBase, kept⟩ := Url.mem_readChars.1 member
    refine ⟨scheme, parts.listed, base ++ slashes n, ?_, c, ?_, visible, kept⟩
    · rw [parts.text, String.append_assoc]
    · rw [String.toList_append]
      exact List.mem_append_left _ inBase

/-- The host of an endpoint is the host of the URL of every path. -/
theorem authorityChars_url (parts : Parts config.endpoint scheme base n)
    (hosted : config.Hosted) (path : String) :
    Url.authorityChars (config.url path).toList = Url.authorityChars config.endpoint.toList := by
  have other := parts.hosted_iff.1 hosted
  have slash : Url.isAuthorityChar '/' = false := rfl
  refine Url.authorityChars_congr ?_
  rw [afterScheme_url parts, afterScheme_endpoint parts, Url.dropWhile_append_of_exists other,
    Url.dropWhile_append_of_exists other, Url.takeWhile_append_cons slash]
  cases n with
  | zero => rw [List.replicate_zero, List.append_nil]
  | succ n => rw [List.replicate_succ, Url.takeWhile_append_cons slash]

theorem Parts.separators (parts : Parts config.endpoint scheme base n)
    (unhosted : ¬ config.Hosted) : ∀ c ∈ Url.readChars base.toList, Url.isSeparator c = true := by
  intro c member
  by_contra other
  rw [Bool.not_eq_true] at other
  exact unhosted (parts.hosted_iff.2 ⟨c, member, other⟩)

/-- Without a host in the endpoint the path is read as if it stood behind the scheme. -/
theorem authorityChars_url_of_not_hosted (parts : Parts config.endpoint scheme base n)
    (unhosted : ¬ config.Hosted) (path : String) :
    Url.authorityChars (config.url path).toList =
      Url.authorityChars ("http://" ++ path).toList := by
  have front : ∀ c ∈ Url.readChars (path.toList.takeWhile isSlash), Url.isSeparator c = true := by
    intro c member
    have slash := List.mem_takeWhile_imp (Url.mem_readChars.1 member).1
    rw [isSlash, beq_iff_eq] at slash
    exact slash ▸ rfl
  have whole : Url.readChars path.toList = Url.readChars (path.toList.takeWhile isSlash) ++
      Url.readChars (path.toList.dropWhile isSlash) := by
    rw [← Url.readChars_append, List.takeWhile_append_dropWhile]
  refine Url.authorityChars_congr ?_
  rw [afterScheme_url parts, List.dropWhile_append_of_pos (parts.separators unhosted),
    List.dropWhile_cons_of_pos (by decide), String.toList_append,
    afterScheme_scheme List.mem_cons_self, whole, List.dropWhile_append_of_pos front]

theorem authorityChars_endpoint_of_not_hosted (parts : Parts config.endpoint scheme base n)
    (unhosted : ¬ config.Hosted) : Url.authorityChars config.endpoint.toList = [] := by
  have nothing : Url.afterScheme (Url.readChars config.endpoint.toList) = [] := by
    rw [afterScheme_endpoint parts, List.dropWhile_append_of_pos (parts.separators unhosted),
      List.dropWhile_eq_nil_iff.2 (isSeparator_of_mem_replicate n)]
  rw [Url.authorityChars, nothing]
  rfl

end

/-! ## Endpoints and paths -/

theorem url_congr {other : Config} {path otherPath : String}
    (endpoint : trimSlashes config.endpoint.toList = trimSlashes other.endpoint.toList)
    (same : path.toList.dropWhile isSlash = otherPath.toList.dropWhile isSlash) :
    config.url path = other.url otherPath := by
  rw [url, url, endpoint, same]

/-- What becomes of an accepted endpoint and a path. The endpoint is a scheme, a text and
slashes. The URL of a path is the scheme, the text, a slash and the path without the slashes
at its start, exactly if there is a text. More slashes at the end of the endpoint or at the
start of the path make no difference. Every URL has the host of the endpoint exactly if the
endpoint has a host; if it has none, the host is the one that the path begins with. -/
theorem url_exact (accepted : config.Accepted) :
    (∃ scheme base n, Parts config.endpoint scheme base n) ∧
    (∀ scheme base n, Parts config.endpoint scheme base n →
      ∀ m path, path.toList.head? ≠ some '/' →
        (config.url (slashes m ++ path) = scheme ++ base ++ "/" ++ path ↔ base ≠ "")) ∧
    (∀ k m path, url { config with endpoint := config.endpoint ++ slashes k } (slashes m ++ path) =
      config.url path) ∧
    ((∀ path, Url.authorityChars (config.url path).toList =
        Url.authorityChars config.endpoint.toList) ↔ config.Hosted) ∧
    (¬ config.Hosted → ∀ path, Url.authorityChars (config.url path).toList =
      Url.authorityChars ("http://" ++ path).toList) := by
  obtain ⟨scheme, base, n, parts⟩ := accepted.exists_parts
  refine ⟨⟨scheme, base, n, parts⟩, ?_, ?_, ⟨?_, authorityChars_url parts⟩,
    authorityChars_url_of_not_hosted parts⟩
  · intro scheme base n parts m path relative
    refine ⟨?_, fun filled => url_of_base parts filled m relative⟩
    rintro same rfl
    -- Without a text two characters of the scheme are missing.
    rw [url_of_no_base parts m relative, String.append_empty, String.append_left_inj,
      String.append_left_inj] at same
    have listed := parts.listed
    simp only [schemes, List.mem_cons, List.not_mem_nil, or_false] at listed
    rcases listed with rfl | rfl <;> exact absurd same (by decide)
  · intro k m path
    refine url_congr ?_ (dropWhile_slashes_append m path)
    rw [String.toList_append, slashes, String.toList_ofList, trimSlashes_append_slashes]
  · intro kept
    by_contra unhosted
    have host := (authorityChars_url_of_not_hosted parts unhosted "servers/").symm.trans
      ((kept "servers/").trans (authorityChars_endpoint_of_not_hosted parts unhosted))
    exact absurd host (by decide)

/-! ## An endpoint with a host, and one without -/

namespace EndpointExamples

/-- The variables of an account in another region. -/
def environment : List (String × String) := [
  ("CLOUDSIGMA_USERNAME", "ops@example.com"),
  ("CLOUDSIGMA_PASSWORD", "secret"),
  ("CLOUDSIGMA_ENDPOINT", "https://lvs.cloudsigma.com/api/2.0//")]

/-- The configuration that they describe. -/
def regional : Config where
  endpoint := "https://lvs.cloudsigma.com/api/2.0//"
  username := "ops@example.com"
  password := "secret"
  timeoutSeconds := 30

/-- A configuration with a scheme for an endpoint. -/
def schemeOnly : Config :=
  { regional with endpoint := "https://" }

/-- The client of an account at the usual endpoint. -/
def client : Client where
  config := { Config.default with username := "ops@example.com", password := "secret" }
  valid := by decide

end EndpointExamples

open EndpointExamples in
/-- Slashes do not add up, and a path that looks like an authority stays a path. -/
theorem url_exact_regional :
    regional.Accepted ∧ regional.Hosted ∧
      regional.url "//servers/" = "https://lvs.cloudsigma.com/api/2.0/servers/" ∧
      regional.url "servers/" = regional.url "//servers/" ∧
      Url.authorityChars (regional.url "//user@host/").toList =
        "lvs.cloudsigma.com".toList := by
  have read : fromEnvironment (fun name => environment.lookup name) = .ok regional := rfl
  have accepted : regional.Accepted := .environment read
  have parts : Parts regional.endpoint "https://" "lvs.cloudsigma.com/api/2.0" 2 :=
    ⟨by decide, by decide, by decide⟩
  have hosted : regional.Hosted :=
    ⟨"https://", by decide, "lvs.cloudsigma.com/api/2.0//", by decide, 'l', by decide, by decide⟩
  obtain ⟨-, urls, slashed, hosts, -⟩ := url_exact accepted
  refine ⟨accepted, hosted, ?_, ?_, ?_⟩
  · exact (urls _ _ _ parts 2 "servers/" (by decide)).2 (by decide)
  · exact (slashed 0 2 "servers/").symm
  · exact hosts.2 hosted "//user@host/"

open EndpointExamples in
/-- A scheme is an endpoint that is accepted, and no URL of it begins with the scheme: what is
asked for is read as the host, which gets the credentials. -/
theorem path_read_as_host :
    schemeOnly.validate = .ok () ∧
      schemeOnly.url "servers/detail/" = "https:/servers/detail/" ∧
      isHttpUrl (schemeOnly.url "servers/detail/") = false ∧
      schemeOnly.url "servers/detail/" ≠ "https://" ++ "" ++ "/" ++ "servers/detail/" ∧
      Url.host schemeOnly.endpoint = "" ∧
      Url.host (schemeOnly.url "servers/detail/") = "servers" := by
  decide

end Config

end CloudInventory
