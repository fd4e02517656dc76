import Froglet.Lib.Addresses
import Froglet.Provider.Workloads

/-!
# HTTP requests of a module

A module in the sandbox asks its host for an HTTP request. The host checks the address
against the provider's policy, sends the request itself and follows redirects, with the
checks repeated for every address it is sent on to.
-/

namespace Froglet.WasmHttp

open List Option

open ManagedDeployment (stripText)
variable {host a b : String} {port : ℕ} {granted : List String}

/-! ## Policies and requests -/

structure Url where
  scheme : String
  host : Option String
  port : Option ℕ
  path : String
variable {url : Url}

def Url.portOrKnownDefault (url : Url) : Option ℕ :=
  url.port.or (
    if url.scheme == "http" || url.scheme == "ws" then some 80
    else if url.scheme == "https" || url.scheme == "wss" then some 443
    else if url.scheme == "ftp" then some 21
    else none)

structure AuthProfile where
  (scheme host : String)
  port : ℕ
  (pathPrefix headerName headerValue : String)
variable {profile : AuthProfile}

structure Policy where
  operationsOnly : Bool
  allowedHosts : List String
  allowPrivateNetworks : Bool
  (maxCallsPerExecution maxTimeoutMs maxRequestBodyBytes maxResponseBodyBytes maxRedirects : ℕ)
  authProfiles : List (String × AuthProfile)
variable {policy : Policy}

structure HttpFetchRequest where
  method : String := "GET"
  url : String
  headers : List (String × String) := []
  bodyText : Option String := none
  bodyBase64 : Option String := none
  timeoutMs : Option ℕ := none
  authProfile : Option String := none

structure Externals where
  parseUrl : String → Option Url
  joinUrl : Url → String → Option Url
  decodeBase64 : String → Option Bytes

/-! ## Addresses -/

def ipv4IsLocalOrPrivate (ip : Ipv4Addr) : Bool :=
  match ip.a.val with
  | 0 => true
  | 10 => true
  | 100 => (ip.b.val &&& 0xC0) == 64
  | 127 => true
  | 169 => ip.b.val == 254
  | 172 => (ip.b.val &&& 0xF0) == 16
  | 192 => match ip.b.val with
    | 0 => ip.c.val == 0 || ip.c.val == 2
    | 168 => true
    | _ => false
  | 198 => match ip.b.val with
    | 18 | 19 => true
    | 51 => ip.c.val == 100
    | _ => false
  | 203 => ip.b.val == 0 && ip.c.val == 113
  | first => decide (224 ≤ first)

def ipTargetsPrivateNetwork : IpAddr → Bool
  | .v4 ip => ipv4IsLocalOrPrivate ip
  | .v6 ip =>
    ip.isLoopback || ip.isUniqueLocal || ip.isUnicastLinkLocal || ip.isMulticast
      || ip.toIpv4Mapped.any ipv4IsLocalOrPrivate || ip.toIpv4.any ipv4IsLocalOrPrivate

def parseOctet (digits : List Char) : Option (Fin 256) :=
  if digits.isEmpty || !digits.all Char.isDigit || (digits.head? == some '0' && digits != ['0'])
  then none
  else
    let value := digits.foldl (fun n c => 10 * n + (c.toNat - '0'.toNat)) 0
    if h : value < 256 then some ⟨value, h⟩ else none

def parseIpAddr (host : String) : Option IpAddr :=
  match (splitChars '.' host.toList).mapM parseOctet with
  | some [a, b, c, d] => some (.v4 ⟨a, b, c, d⟩)
  | _ => none

def hostTargetsPrivateNetworkLiteral (host : String) : Bool :=
  host == "localhost" || host == "localhost.localdomain"
    || (parseIpAddr host).any ipTargetsPrivateNetwork

def resolveHttpHostAddresses (host : String) (lookup : Except String (List IpAddr)) :
    Except String (List IpAddr) := do
  let resolved ← (parseIpAddr host).elim lookup (fun address => .ok [address])
  rejectIf resolved.isEmpty s!"failed to resolve http host '{host}'"
  return resolved

def resolvePublicHttpHostAddresses (host : String) (lookup : Except String (List IpAddr)) :
    Except String (List IpAddr) := do
  rejectIf (hostTargetsPrivateNetworkLiteral host)
    s!"http host '{host}' is not allowed by provider private-network policy"
  let resolved ← resolveHttpHostAddresses host lookup
  rejectIf (resolved.any ipTargetsPrivateNetwork) <|
    "http host '" ++ host ++ "' resolved to a private-network address, "
    ++ "which is not allowed by provider policy"
  return resolved

/-! ## Headers -/

/-- The `HeaderMap` of the `http` crate as far as `insert` and `remove` build it: one value for
each name, and names in lower case. -/
abbrev HeaderMap := List (String × String)
variable {headers : HeaderMap}

def asciiLower (text : String) : String := String.ofList (text.toList.map Char.toLower)

def eqIgnoreCase (a b : String) : Bool := asciiLower a == asciiLower b

def HeaderMap.remove (headers : HeaderMap) (name : String) : HeaderMap :=
  headers.filter (·.1 != name)

def HeaderMap.insert (headers : HeaderMap) (name value : String) : HeaderMap :=
  headers.remove name ++ [(name, value)]

def isTokenChar (c : Char) : Bool :=
  c.isAlphanum || "!#$%&*+-.^_|~".toList.contains c || c.toNat == 0x27 || c.toNat == 0x60

/-- `HeaderName::from_bytes`: a nonempty token of RFC 9110, in lower case. -/
def headerName? (name : String) : Option String :=
  if name.isEmpty || !name.toList.all isTokenChar then none else some (asciiLower name)

/-- `HeaderValue::from_str`: visible ASCII characters, spaces and tabs. -/
def headerValue? (value : String) : Option String :=
  if value.toList.all fun c => (0x20 ≤ c.toNat && c.toNat < 0x7F) || c.toNat == 0x9 then
    some value
  else none

def buildHeaderMap (headers : List (String × String)) : Except String HeaderMap :=
  headers.foldlM (fun map (name, value) => do
    let headerName ← okOr (headerName? name) s!"invalid http header name '{name}'"
    let headerValue ← okOr (headerValue? value) s!"invalid http header value for '{name}'"
    return map.insert headerName headerValue) []

def headersWithoutAuth (headers : HeaderMap) (profile : AuthProfile) : HeaderMap :=
  let filtered := (headers.remove "authorization").remove "proxy-authorization"
  match headerName? profile.headerName with
  | some name => filtered.remove name
  | none => filtered

/-! ## URLs -/

def authProfilePathMatches (requestPath pathPrefix : String) : Bool :=
  pathPrefix == "/" || requestPath == pathPrefix
    || (stripText pathPrefix requestPath).any fun suffix =>
      pathPrefix.toList.getLast? == some '/' || suffix.toList.head? == some '/'

def validateAuthProfileEndpoint (profile : AuthProfile) (url : Url) (host : String) (port : ℕ) :
    Except String Unit := do
  rejectIf (profile.scheme != "https") "http auth profile scheme must be https"
  rejectIf (url.scheme != profile.scheme)
    ("http auth profile requires " ++ profile.scheme ++ " endpoints")
  rejectIf (!eqIgnoreCase host profile.host)
    "http auth profile host constraint does not match request"
  rejectIf (port != profile.port) "http auth profile port constraint does not match request"
  rejectIf (!authProfilePathMatches url.path profile.pathPrefix)
    "http auth profile path constraint does not match request"

def validateProfile (profile : Option AuthProfile) (url : Url) (host : String) (port : ℕ) :
    Except String Unit :=
  match profile with
  | none => .ok ()
  | some profile => validateAuthProfileEndpoint profile url host port

def validateHttpUrlForPolicy (allowedHosts : List String) (url : Url)
    (profile : Option AuthProfile) : Except String (String × ℕ) := do
  let scheme := url.scheme
  rejectIf (url.scheme != "http" && url.scheme != "https")
    s!"unsupported http url scheme '{scheme}'; allowed schemes are http and https"
  let hostText ← okOr url.host "http url must include a host"
  let host := asciiLower hostText
  rejectIf (!allowedHosts.any (eqIgnoreCase · (asciiLower hostText)))
    s!"http host '{host}' is not allowed by provider policy"
  let port ← okOr url.portOrKnownDefault "http url must include a known port"
  validateProfile profile url (asciiLower hostText) port
  return (asciiLower hostText, port)

/-! ## Hops -/

structure Response where
  status : ℕ
  headers : List (String × String)
  location : Option (Option String)
  chunks : List (Except String Bytes)

structure HopAnswer where
  lookup : Except String (List IpAddr)
  response : Except String Response

inductive Connection where
  | resolved
  | pinned (addresses : List IpAddr) (port : ℕ)
deriving DecidableEq

structure Emitted where
  method : String
  url : Url
  headers : HeaderMap
  body : Bytes
  timeoutMs : ℕ
  connection : Connection

structure Hop where
  method : String
  url : Url
  body : Bytes

structure FetchResponse where
  status : ℕ
  headers : List (String × String)
  body : Bytes

def isRedirectStatus (status : ℕ) : Bool := [301, 302, 303, 307, 308].contains status

def redirectSwitchesToGet (status : ℕ) (method : String) : Bool :=
  (301 ≤ status && status ≤ 303) && method != "GET" && method != "HEAD"

def readChunks (maxResponseBodyBytes : ℕ) : Bytes → List (Except String Bytes) →
    Except String Bytes
  | body, [] => .ok body
  | _, .error e :: _ => .error ("failed to read http response body: " ++ e)
  | body, .ok chunk :: rest =>
    if maxResponseBodyBytes < body.length + chunk.length then
      .error "http response body exceeds provider policy limit"
    else readChunks maxResponseBodyBytes (body ++ chunk) rest

def fetchStreamedResponse (maxResponseBodyBytes : ℕ) (response : Response) :
    Except String FetchResponse := do
  let body ← readChunks maxResponseBodyBytes [] response.chunks
  return { status := response.status, headers := response.headers, body }

structure FetchContext where
  ext : Externals
  policy : Policy
  profile : Option AuthProfile
  headers : HeaderMap
  timeoutMs : ℕ

namespace FetchContext

variable (ctx : FetchContext)

def connect (host : String) (port : ℕ) (lookup : Except String (List IpAddr)) :
    Except String Connection :=
  if ctx.policy.allowPrivateNetworks then .ok .resolved
  else do
    let vetted ← resolvePublicHttpHostAddresses host lookup
    return .pinned vetted port

def requestHeaders (redirectsUsed : ℕ) : HeaderMap :=
  if redirectsUsed = 0 then ctx.headers
  else match ctx.profile with
    | some profile => headersWithoutAuth ctx.headers profile
    | none => ctx.headers

def prepare (redirectsUsed : ℕ) (hop : Hop) (lookup : Except String (List IpAddr)) :
    Except String Emitted := do
  let (host, port) ← validateHttpUrlForPolicy ctx.policy.allowedHosts hop.url ctx.profile
  let connection ← ctx.connect host port lookup
  return { method := hop.method, url := hop.url, headers := ctx.requestHeaders redirectsUsed
           body := hop.body, timeoutMs := ctx.timeoutMs, connection }

def redirectedUrl (url : Url) (response : Response) : Except String Url := do
  let header ← okOr response.location "http redirect response missing Location header"
  let location ← okOr header "invalid http redirect Location header"
  okOr (ctx.ext.joinUrl url location) "invalid http redirect URL"

def nextHop (hop : Hop) (response : Response) : Except String Hop := do
  let url ← ctx.redirectedUrl hop.url response
  let _ ← validateHttpUrlForPolicy ctx.policy.allowedHosts url ctx.profile
  return if redirectSwitchesToGet response.status hop.method then
      { method := "GET", url, body := [] }
    else { hop with url }

def follow (net : ℕ → HopAnswer) : ℕ → ℕ → Hop → List Emitted × Except String FetchResponse
  | remaining, redirectsUsed, hop =>
    match ctx.prepare redirectsUsed hop (net redirectsUsed).lookup with
    | .error e => ([], .error e)
    | .ok emitted =>
      match (net redirectsUsed).response with
      | .error e => ([emitted], .error ("http request failed: " ++ e))
      | .ok response =>
        if isRedirectStatus response.status then
          match remaining with
          | 0 => ([emitted], .error "http redirect limit exceeded")
          | remaining + 1 =>
            match ctx.nextHop hop response with
            | .error e => ([emitted], .error e)
            | .ok next =>
              let (rest, result) := follow net remaining (redirectsUsed + 1) next
              (emitted :: rest, result)
        else ([emitted], fetchStreamedResponse ctx.policy.maxResponseBodyBytes response)

end FetchContext

/-! ## The call -/

def requireCapability (granted : List String) (capability : String) : Except String Unit :=
  rejectIf (!granted.contains capability) s!"missing granted capability '{capability}'"

def requestBodyBytes (ext : Externals) (request : HttpFetchRequest) : Except String Bytes :=
  match request.bodyText, request.bodyBase64 with
  | some _, some _ => .error "http request must not set both body_text and body_base64"
  | some text, none => .ok (textBytes text)
  | none, some text => okOr (ext.decodeBase64 text) "invalid http body_base64"
  | none, none => .ok []

def applyProfile (policy : Policy) (granted : List String) (url : Url) (headers : HeaderMap) :
    Option String → Except String (Option AuthProfile × HeaderMap)
  | none => .ok (none, headers)
  | some name => do
    requireCapability granted (wasmCapabilityHttpFetchAuth ++ name)
    let profile ← okOr (policy.authProfiles.lookup name)
      s!"http auth profile '{name}' is not configured on this provider"
    let _ ← validateHttpUrlForPolicy policy.allowedHosts url (some profile)
    let headerName ← okOr (headerName? profile.headerName)
      ("invalid http auth profile header name '" ++ profile.headerName ++ "'")
    let headerValue ← okOr (headerValue? profile.headerValue)
      ("invalid http auth profile header value for '" ++ profile.headerName ++ "'")
    return (some profile, headers.insert headerName headerValue)

def planFetch (ext : Externals) (policy : Policy) (granted : List String)
    (request : HttpFetchRequest) : Except String (FetchContext × Hop) := do
  let url ← okOr (ext.parseUrl request.url) "invalid http url"
  let _ ← validateHttpUrlForPolicy policy.allowedHosts url none
  rejectIf (min (request.timeoutMs.getD policy.maxTimeoutMs) policy.maxTimeoutMs == 0)
    "http timeout_ms must be greater than zero"
  rejectIf (request.method.isEmpty || !request.method.toList.all isTokenChar)
    "invalid http method"
  let userHeaders ← buildHeaderMap request.headers
  let (profile, headers) ← applyProfile policy granted url userHeaders request.authProfile
  let body ← requestBodyBytes ext request
  rejectIf (decide (policy.maxRequestBodyBytes < body.length))
    "http request body exceeds provider policy limit"
  return ({ ext, policy, profile, headers
            timeoutMs := min (request.timeoutMs.getD policy.maxTimeoutMs) policy.maxTimeoutMs },
          { method := request.method, url, body })

def admitCall (policy : Policy) (granted : List String) (httpCallsUsed : ℕ) :
    Except String Unit := do
  rejectIf policy.operationsOnly "raw HTTP fetch is disabled; use an approved operation"
  requireCapability granted wasmCapabilityHttpFetch
  rejectIf (decide (policy.maxCallsPerExecution ≤ httpCallsUsed)) "Wasm HTTP call limit exceeded"

structure FetchOutcome where
  httpCallsUsed : ℕ
  emitted : List Emitted
  result : Except String FetchResponse

def fetch (ext : Externals) (policy : Policy) (granted : List String) (httpCallsUsed : ℕ)
    (request : HttpFetchRequest) (deadlineExpired : Bool) (net : ℕ → HopAnswer) : FetchOutcome :=
  match admitCall policy granted httpCallsUsed with
  | .error e => ⟨httpCallsUsed, [], .error e⟩
  | .ok () =>
    match planFetch ext policy granted request with
    | .error e => ⟨httpCallsUsed + 1, [], .error e⟩
    | .ok (ctx, hop) =>
      if deadlineExpired then
        ⟨httpCallsUsed + 1, [], .error "http request deadline exceeded"⟩
      else
        let (emitted, result) := ctx.follow net policy.maxRedirects 0 hop
        ⟨httpCallsUsed + 1, emitted, result⟩

/-! ## What confinement is -/

structure AllowedTarget (policy : Policy) (url : Url) : Prop where
  scheme : url.scheme = "http" ∨ url.scheme = "https"
  host : ∃ host, url.host = some host
    ∧ ∃ allowed ∈ policy.allowedHosts, eqIgnoreCase allowed host = true

def AtOrBelow (scope path : String) : Prop :=
  scope = "/" ∨ path = scope ∨ ∃ suffix, path = scope ++ suffix
    ∧ (scope.toList.getLast? = some '/' ∨ suffix.toList.head? = some '/')

structure AtEndpoint (profile : AuthProfile) (url : Url) : Prop where
  scheme : url.scheme = "https"
  host : ∃ host, url.host = some host ∧ eqIgnoreCase host profile.host = true
  port : url.portOrKnownDefault = some profile.port
  path : AtOrBelow profile.pathPrefix url.path

def AuthProfile.credentialName (profile : AuthProfile) : String := asciiLower profile.headerName

def Connection.Public : Connection → Prop
  | resolved => False
  | pinned addresses _ => addresses ≠ [] ∧ ∀ address ∈ addresses, address.publiclyRoutable = true

/-- The requests of a call keep to their targets: they go to allowed hosts, under a
profile to its endpoint only and with the credential in the first request alone; and there
are not more of them than the redirects allow. -/
structure Targeted (policy : Policy) (profile : Option AuthProfile) (emitted : List Emitted) :
    Prop where
  allowed : ∀ request ∈ emitted, AllowedTarget policy request.url
  endpoint : ∀ used ∈ profile, ∀ request ∈ emitted, AtEndpoint used request.url
  credential : ∀ used ∈ profile,
    (∀ request ∈ emitted.head?, (used.credentialName, used.headerValue) ∈ request.headers)
    ∧ ∀ request ∈ emitted.tail, ∀ value, (used.credentialName, value) ∉ request.headers
  bounded : emitted.length ≤ policy.maxRedirects + 1

/-- The requests of a call are confined: where private networks are closed, their
connections are moreover to public addresses. -/
structure Confined (policy : Policy) (profile : Option AuthProfile) (emitted : List Emitted) :
    Prop extends Targeted policy profile emitted where
  pinned : policy.allowPrivateNetworks = false →
    ∀ request ∈ emitted, request.connection.Public

/-- No address that the connection is pinned to is of version six and in a special block. -/
def Connection.OutsideSpecialBlocks : Connection → Prop
  | resolved => True
  | pinned addresses _ => ∀ ip, IpAddr.v6 ip ∈ addresses → ip.inSpecialBlock = false

/-- No name resolves to an address of version six from a special block. -/
def AvoidsSpecialBlocks (net : ℕ → HopAnswer) : Prop :=
  ∀ hop addresses, (net hop).lookup = .ok addresses →
    ∀ ip, IpAddr.v6 ip ∈ addresses → ip.inSpecialBlock = false

/-! ## Addresses that pass the vetting -/

theorem octet_masks (octet : Fin 256) : ((octet.val &&& 0xC0) == 64) = decide (octet.val / 64 = 1)
    ∧ ((octet.val &&& 0xF0) == 16) = decide (octet.val / 16 = 1) := by
  revert octet
  decide +kernel

theorem octets_of_not_local {a b c d : Fin 256} (h : ipv4IsLocalOrPrivate ⟨a, b, c, d⟩ = false) :
    a.val ≠ 0 ∧ a.val ≠ 10 ∧ ¬(a.val = 100 ∧ b.val / 64 = 1) ∧ a.val ≠ 127
    ∧ ¬(a.val = 169 ∧ b.val = 254) ∧ ¬(a.val = 172 ∧ b.val / 16 = 1)
    ∧ ¬(a.val = 192 ∧ b.val = 0 ∧ (c.val = 0 ∨ c.val = 2)) ∧ ¬(a.val = 192 ∧ b.val = 168)
    ∧ ¬(a.val = 198 ∧ (b.val = 18 ∨ b.val = 19)) ∧ ¬(a.val = 198 ∧ b.val = 51 ∧ c.val = 100)
    ∧ ¬(a.val = 203 ∧ b.val = 0 ∧ c.val = 113) ∧ a.val < 224 := by
  simp only [ipv4IsLocalOrPrivate, octet_masks] at h
  split at h <;> first | (split at h) | skip
  all_goals simp only [Bool.true_eq_false, decide_eq_false_iff_not, beq_eq_false_iff_ne, ne_eq,
    Bool.or_eq_false_iff, Bool.and_eq_false_iff, imp_false] at *
  all_goals omega

theorem publiclyRoutable_of_not_local {ip : Ipv4Addr} (h : ipv4IsLocalOrPrivate ip = false) :
    ip.publiclyRoutable = true := by
  obtain ⟨a, b, c, d⟩ := ip
  obtain ⟨h0, h10, h100, h127, h169, h172, h192, h192', h198, h198', h203, h224⟩ :=
    octets_of_not_local h
  have hbcd := And.intro b.isLt (And.intro c.isLt d.isLt)
  rw [Ipv4Addr.publiclyRoutable, Bool.not_eq_true', List.any_eq_false]
  intro block hblock hcontains
  simp only [AddressBlock.contains, beq_iff_eq, Ipv4Addr.toNat] at hcontains
  simp only [Ipv4Addr.unroutableBlocks, Ipv4Addr.block, mem_cons, not_mem_nil, or_false] at hblock
  rcases hblock with rfl | rfl | rfl | rfl | rfl | rfl | rfl | rfl | rfl | rfl | rfl | rfl
    | rfl | rfl <;> simp only [Nat.reduceMul, Nat.reduceAdd, Nat.reduceSub, Nat.reducePow,
      Nat.reduceDiv] at hcontains
  · exact h0 (by clear * - hcontains hbcd; omega)
  · exact h10 (by clear * - hcontains hbcd; omega)
  · exact h100 (by clear * - hcontains hbcd; omega)
  · exact h127 (by clear * - hcontains hbcd; omega)
  · exact h169 (by clear * - hcontains hbcd; omega)
  · exact h172 (by clear * - hcontains hbcd; omega)
  · exact h192 (by clear * - hcontains hbcd; omega)
  · exact h192 (by clear * - hcontains hbcd; omega)
  · exact h192' (by clear * - hcontains hbcd; omega)
  · exact h198 (by clear * - hcontains hbcd; omega)
  · exact h198' (by clear * - hcontains hbcd; omega)
  · exact h203 (by clear * - hcontains hbcd; omega)
  · clear * - hcontains hbcd h224
    omega
  · clear * - hcontains hbcd h224
    omega

theorem inSpecialBlock_of_mapped {ip : Ipv6Addr} {carried : Ipv4Addr}
    (h : ip.toIpv4Mapped = some carried) : ip.inSpecialBlock = false := by
  have hblocks : ∀ block ∈ Ipv6Addr.specialBlocks,
      block.length ≤ 80 ∧ block.base / 2 ^ (128 - block.length) ≠ 0 := by decide +kernel
  have hlow : ip.value.val < 2 ^ 48 := by
    unfold Ipv6Addr.toIpv4Mapped at h
    split at h
    case isTrue hmapped => omega
    case isFalse => cases h
  refine Bool.and_eq_false_iff.mpr (.inl (any_eq_false.mpr fun block hblock hcontains => ?_))
  obtain ⟨hlength, hbase⟩ := hblocks block hblock
  have hpow : 2 ^ 48 ≤ 2 ^ (128 - block.length) := Nat.pow_le_pow_right (by decide) (by omega)
  rw [AddressBlock.contains, Nat.div_eq_of_lt (hlow.trans_le hpow), beq_iff_eq] at hcontains
  exact hbase hcontains.symm

/-- What passes the vetting is public, but for the special blocks of version six. -/
theorem publiclyRoutable_iff_of_not_private {address : IpAddr}
    (h : ipTargetsPrivateNetwork address = false) :
    address.publiclyRoutable = true ↔ ∀ ip, address = .v6 ip → ip.inSpecialBlock = false := by
  cases address with
  | v4 ip => exact iff_of_true (publiclyRoutable_of_not_local h) nofun
  | v6 ip =>
    simp only [ipTargetsPrivateNetwork, Bool.or_eq_false_iff] at h
    obtain ⟨⟨⟨⟨⟨hloopback, hunique⟩, hlink⟩, hmulticast⟩, hmapped⟩, hcarried⟩ := h
    have hzero : (ip.value.val == 0) = false := by
      refine beq_eq_false_iff_ne.mpr fun hzero => ?_
      rw [Ipv6Addr.toIpv4, hzero] at hcarried
      exact absurd hcarried (by decide)
    simp only [IpAddr.v6.injEq, forall_eq']
    rw [IpAddr.publiclyRoutable, Ipv6Addr.publiclyRoutable]
    split
    case h_1 carried hcase =>
      rw [hcase] at hmapped
      exact iff_of_true (publiclyRoutable_of_not_local hmapped) (inSpecialBlock_of_mapped hcase)
    case h_2 => simp [hzero, hloopback, hunique, hlink, hmulticast]

theorem resolvePublicHttpHostAddresses_ok {lookup : Except String (List IpAddr)}
    {addresses : List IpAddr} (h : resolvePublicHttpHostAddresses host lookup = .ok addresses) :
    addresses ≠ [] ∧ (∀ address ∈ addresses, ipTargetsPrivateNetwork address = false)
    ∧ (lookup = .ok addresses ∨ ∃ ip, addresses = [.v4 ip]) := by
  unfold resolvePublicHttpHostAddresses resolveHttpHostAddresses at h
  simp only [↓check_eq_ok, bind_eq_ok, rejectIf_eq_ok, pure_eq_ok] at h
  obtain ⟨-, resolved, ⟨answer, hanswer, hne, rfl⟩, hvetted, rfl⟩ := h
  refine ⟨by simpa using hne, by simpa using any_eq_false.mp hvetted, ?_⟩
  unfold parseIpAddr at hanswer
  split at hanswer
  case h_1 => exact .inr ⟨_, (Except.ok.inj hanswer).symm⟩
  case h_2 => exact .inl hanswer

/-! ## Texts -/

theorem toLower_toLower (c : Char) : c.toLower.toLower = c.toLower := by
  by_cases h : c.val ≥ 'A'.val ∧ c.val ≤ 'Z'.val
  · have hlower : c.toLower.val = c.val + ('a'.val - 'A'.val) := by
      exact congrArg Char.val (dif_pos h)
    have hnot : ¬(c.toLower.val ≥ 'A'.val ∧ c.toLower.val ≤ 'Z'.val) := by
      rw [hlower]
      simp only [ge_iff_le, UInt32.le_iff_toNat_le, UInt32.toNat_add] at h ⊢
      simp at h ⊢
      omega
    exact dif_neg hnot
  · have hsame : c.toLower = c := dif_neg h
    rw [hsame, hsame]

@[simp] theorem asciiLower_asciiLower (text : String) :
    asciiLower (asciiLower text) = asciiLower text := by
  unfold asciiLower
  rw [String.toList_ofList, List.map_map]
  exact congrArg String.ofList (map_congr_left fun c _ => toLower_toLower c)

theorem eqIgnoreCase_asciiLower_left : eqIgnoreCase (asciiLower a) b = eqIgnoreCase a b := by
  simp [eqIgnoreCase]

theorem eqIgnoreCase_asciiLower_right : eqIgnoreCase a (asciiLower b) = eqIgnoreCase a b := by
  simp [eqIgnoreCase]

theorem stripText_eq_some {start value suffix : String} :
    stripText start value = some suffix ↔ value = start ++ suffix := by
  unfold stripText
  rw [map_eq_some_iff]
  constructor
  · rintro ⟨rest, hrest, rfl⟩
    obtain ⟨start', hvalue, hstart⟩ := dropPrefix?_eq_some_iff.mp hrest
    obtain rfl := beq_iff_eq.mp hstart
    exact String.toList_inj.mp (by simpa using hvalue)
  · rintro rfl
    exact ⟨suffix.toList, dropPrefix?_eq_some_iff.mpr ⟨start.toList, by simp, by simp⟩,
      by simp⟩

theorem atOrBelow_of_matches {path scope : String} (h : authProfilePathMatches path scope = true) :
    AtOrBelow scope path := by
  simp only [authProfilePathMatches, Bool.or_eq_true, beq_iff_eq, Option.any_eq_true] at h
  obtain (h | h) | ⟨suffix, hsuffix, h⟩ := h
  · exact .inl h
  · exact .inr (.inl h)
  · exact .inr (.inr ⟨suffix, stripText_eq_some.mp hsuffix, h⟩)

/-! ## One hop -/

theorem atEndpoint_of_validate
    (hhost : url.host = some host) (hport : url.portOrKnownDefault = some port)
    (h : validateAuthProfileEndpoint profile url (asciiLower host) port = .ok ()) :
    AtEndpoint profile url := by
  unfold validateAuthProfileEndpoint at h
  simp only [↓check_eq_ok, rejectIf_eq_ok, bne_eq_false_iff_eq, Bool.not_eq_false',
    eqIgnoreCase_asciiLower_left] at h
  obtain ⟨hhttps, hscheme, hsame, rfl, hpath⟩ := h
  exact ⟨hscheme.trans hhttps, ⟨host, hhost, hsame⟩, hport, atOrBelow_of_matches hpath⟩

theorem validateHttpUrlForPolicy_ok {profile : Option AuthProfile}
    (h : validateHttpUrlForPolicy policy.allowedHosts url profile = .ok (host, port)) :
    AllowedTarget policy url ∧ ∀ used ∈ profile, AtEndpoint used url := by
  unfold validateHttpUrlForPolicy at h
  simp only [↓check_eq_ok, bind_eq_ok, rejectIf_eq_ok, okOr_eq_ok,
    Bool.not_eq_false', List.any_eq_true, pure_eq_ok, eqIgnoreCase_asciiLower_right] at h
  obtain ⟨hscheme, hostText, hhost, hallowed, port, hport, hprofile, -⟩ := h
  refine ⟨⟨?_, hostText, hhost, hallowed⟩, fun used hused => ?_⟩
  · simpa [Classical.or_iff_not_imp_left] using hscheme
  · obtain rfl : profile = some used := hused
    exact atEndpoint_of_validate hhost hport hprofile

namespace FetchContext

variable {ctx : FetchContext} {net : ℕ → HopAnswer}

structure Sent (ctx : FetchContext) (net : ℕ → HopAnswer) (request : Emitted) : Prop where
  allowed : AllowedTarget ctx.policy request.url
  endpoint : ∀ used ∈ ctx.profile, AtEndpoint used request.url
  pinned : ctx.policy.allowPrivateNetworks = false →
    (request.connection.Public ↔ request.connection.OutsideSpecialBlocks)
  avoids : AvoidsSpecialBlocks net → request.connection.OutsideSpecialBlocks

theorem connect_ok {hop : ℕ} {connection : Connection}
    (h : ctx.connect host port (net hop).lookup = .ok connection) :
    (ctx.policy.allowPrivateNetworks = false →
      (connection.Public ↔ connection.OutsideSpecialBlocks))
    ∧ (AvoidsSpecialBlocks net → connection.OutsideSpecialBlocks) := by
  unfold connect at h
  split at h
  case isTrue hopen =>
    obtain rfl := Except.ok.inj h
    exact ⟨fun hclosed => absurd (hclosed.symm.trans hopen) Bool.false_ne_true, fun _ => trivial⟩
  case isFalse =>
    simp only [bind_eq_ok, pure_eq_ok] at h
    obtain ⟨vetted, hvetted, rfl⟩ := h
    obtain ⟨hne, hpublic, hfrom⟩ := resolvePublicHttpHostAddresses_ok hvetted
    refine ⟨fun _ => ?_, fun hnet ip hip => ?_⟩
    · refine ⟨fun h ip hip => (publiclyRoutable_iff_of_not_private (hpublic _ hip)).mp
        (h.2 _ hip) ip rfl, fun h => ⟨hne, fun address haddress => ?_⟩⟩
      refine (publiclyRoutable_iff_of_not_private (hpublic address haddress)).mpr fun ip hip => ?_
      subst hip
      exact h ip haddress
    · obtain hlookup | ⟨literal, rfl⟩ := hfrom
      · exact hnet hop vetted hlookup ip hip
      · cases mem_singleton.mp hip

theorem prepare_ok {redirectsUsed : ℕ} {hop : Hop} {request : Emitted}
    (h : ctx.prepare redirectsUsed hop (net redirectsUsed).lookup = .ok request) :
    ctx.Sent net request ∧ request.headers = ctx.requestHeaders redirectsUsed := by
  unfold prepare at h
  obtain ⟨⟨host, port⟩, hvalid, h⟩ := bind_eq_ok.mp h
  obtain ⟨connection, hconnect, h⟩ := bind_eq_ok.mp h
  obtain rfl := pure_eq_ok.mp h
  obtain ⟨hallowed, hendpoint⟩ := validateHttpUrlForPolicy_ok hvalid
  obtain ⟨hpinned, havoids⟩ := connect_ok hconnect
  exact ⟨⟨hallowed, hendpoint, hpinned, havoids⟩, rfl⟩

variable (ctx) in
/-- What one hop does: it sends nothing, or it sends its request and either ends
the call or goes on with one redirect less. -/
theorem follow_cases (net : ℕ → HopAnswer) (remaining redirectsUsed : ℕ) (hop : Hop) :
    (ctx.follow net remaining redirectsUsed hop).1 = []
    ∨ ∃ request, ctx.prepare redirectsUsed hop (net redirectsUsed).lookup = .ok request
      ∧ ((ctx.follow net remaining redirectsUsed hop).1 = [request]
        ∨ ∃ left next, remaining = left + 1 ∧ (ctx.follow net remaining redirectsUsed hop).1
            = request :: (ctx.follow net left (redirectsUsed + 1) next).1) := by
  rw [follow.eq_def]
  cases hprepare : ctx.prepare redirectsUsed hop (net redirectsUsed).lookup with
  | error e => simp only [hprepare, true_or]
  | ok request =>
    refine .inr ⟨request, rfl, ?_⟩
    cases hresponse : (net redirectsUsed).response with
    | error e => simp only [hprepare, hresponse, true_or]
    | ok response =>
      by_cases hredirect : isRedirectStatus response.status = true
      · cases remaining with
        | zero => simp only [hprepare, hresponse, hredirect, if_true, true_or]
        | succ left =>
          cases hnext : ctx.nextHop hop response with
          | error e => simp only [hprepare, hresponse, hredirect, hnext, if_true, true_or]
          | ok next =>
            exact .inr ⟨left, next, rfl,
              by simp only [hprepare, hresponse, hredirect, hnext, if_true]⟩
      · simp only [hprepare, hresponse, hredirect, if_false, Bool.false_eq_true, true_or]

theorem follow_sent (remaining : ℕ) :
    ∀ (redirectsUsed : ℕ) (hop : Hop),
      (∀ request ∈ (ctx.follow net remaining redirectsUsed hop).1, ctx.Sent net request)
      ∧ (ctx.follow net remaining redirectsUsed hop).1.length ≤ remaining + 1 := by
  -- the redirects that are left go down with every hop
  induction remaining using Nat.strong_induction_on with
  | _ remaining ih =>
    intro redirectsUsed hop
    obtain hnone | ⟨request, hrequest, hone | ⟨left, next, rfl, hmore⟩⟩ :=
      follow_cases ctx net remaining redirectsUsed hop
    · rw [hnone]
      exact ⟨forall_mem_nil _, Nat.zero_le _⟩
    · rw [hone]
      exact ⟨forall_mem_singleton.mpr (prepare_ok hrequest).1, Nat.le_add_left 1 _⟩
    · obtain ⟨hsent, hlength⟩ := ih left (Nat.lt_succ_self left) (redirectsUsed + 1) next
      rw [hmore]
      exact ⟨forall_mem_cons.mpr ⟨(prepare_ok hrequest).1, hsent⟩, Nat.succ_le_succ hlength⟩

theorem follow_headers_of_pos (remaining : ℕ) :
    ∀ (redirectsUsed : ℕ) (hop : Hop), redirectsUsed ≠ 0 →
      ∀ request ∈ (ctx.follow net remaining redirectsUsed hop).1,
        request.headers = ctx.requestHeaders 1 := by
  induction remaining using Nat.strong_induction_on with
  | _ remaining ih =>
    intro redirectsUsed hop hpos
    have hheaders : ctx.requestHeaders redirectsUsed = ctx.requestHeaders 1 := by
      unfold requestHeaders
      rw [if_neg hpos, if_neg Nat.one_ne_zero]
    obtain hnone | ⟨request, hrequest, hone | ⟨left, next, rfl, hmore⟩⟩ :=
      follow_cases ctx net remaining redirectsUsed hop
    · rw [hnone]
      exact forall_mem_nil _
    · rw [hone]
      exact forall_mem_singleton.mpr ((prepare_ok hrequest).2.trans hheaders)
    · rw [hmore]
      exact forall_mem_cons.mpr ⟨(prepare_ok hrequest).2.trans hheaders,
        ih left (Nat.lt_succ_self left) (redirectsUsed + 1) next (Nat.succ_ne_zero _)⟩

theorem follow_headers (remaining : ℕ) (hop : Hop) :
    (∀ request ∈ (ctx.follow net remaining 0 hop).1.head?, request.headers = ctx.headers)
    ∧ ∀ request ∈ (ctx.follow net remaining 0 hop).1.tail,
      request.headers = ctx.requestHeaders 1 := by
  obtain hnone | ⟨request, hrequest, hone | ⟨left, next, rfl, hmore⟩⟩ :=
    follow_cases ctx net remaining 0 hop
  · rw [hnone]
    exact ⟨nofun, nofun⟩
  · rw [hone]
    refine ⟨fun first hfirst => ?_, nofun⟩
    obtain rfl : request = first := some.inj hfirst
    exact (prepare_ok hrequest).2
  · rw [hmore]
    refine ⟨fun first hfirst => ?_,
      follow_headers_of_pos left 1 next Nat.one_ne_zero⟩
    obtain rfl : request = first := some.inj hfirst
    exact (prepare_ok hrequest).2

end FetchContext

/-! ## The whole call -/

theorem not_mem_headersWithoutAuth
    (hname : headerName? profile.headerName = some profile.credentialName) (value : String) :
    (profile.credentialName, value) ∉ headersWithoutAuth headers profile := by
  unfold headersWithoutAuth
  rw [hname]
  simp [HeaderMap.remove]

theorem applyProfile_ok {headers' : HeaderMap} {name : Option String} {profile : Option AuthProfile}
    (h : applyProfile policy granted url headers name = .ok (profile, headers')) :
    profile = name.bind (policy.authProfiles.lookup ·)
    ∧ ∀ used ∈ profile, headerName? used.headerName = some used.credentialName
      ∧ (used.credentialName, used.headerValue) ∈ headers' := by
  cases name with
  | none =>
    cases h
    exact ⟨rfl, nofun⟩
  | some name =>
    unfold applyProfile at h
    simp only [↓check_eq_ok, bind_eq_ok, okOr_eq_ok, pure_eq_ok, Prod.mk.injEq] at h
    obtain ⟨-, used, hlookup, -, -, headerName, hname, headerValue, hvalue, rfl, rfl⟩ := h
    refine ⟨hlookup.symm, fun used' hused' => ?_⟩
    obtain rfl : used = used' := some.inj hused'
    have hcredential : headerName = used.credentialName := by
      unfold headerName? at hname
      split at hname
      case isTrue => cases hname
      case isFalse => exact (some.inj hname).symm
    have hsame : headerValue = used.headerValue := by
      unfold headerValue? at hvalue
      split at hvalue
      case isTrue => exact (some.inj hvalue).symm
      case isFalse => cases hvalue
    refine ⟨hcredential ▸ hname, ?_⟩
    simp [HeaderMap.insert, hcredential, hsame]

theorem planFetch_ok {ext : Externals} {request : HttpFetchRequest} {ctx : FetchContext} {hop : Hop}
    (h : planFetch ext policy granted request = .ok (ctx, hop)) :
    ctx.policy = policy ∧ ctx.profile = request.authProfile.bind (policy.authProfiles.lookup ·)
    ∧ ∀ used ∈ ctx.profile, headerName? used.headerName = some used.credentialName
      ∧ (used.credentialName, used.headerValue) ∈ ctx.headers := by
  unfold planFetch at h
  obtain ⟨url, -, h⟩ := bind_eq_ok.mp h
  obtain ⟨-, -, h⟩ := bind_eq_ok.mp h
  obtain ⟨-, h⟩ := check_eq_ok.mp h
  obtain ⟨-, h⟩ := check_eq_ok.mp h
  obtain ⟨userHeaders, -, h⟩ := bind_eq_ok.mp h
  obtain ⟨⟨profile, headers⟩, hprofile, h⟩ := bind_eq_ok.mp h
  obtain ⟨body, -, h⟩ := bind_eq_ok.mp h
  obtain ⟨-, h⟩ := check_eq_ok.mp h
  obtain ⟨rfl, rfl⟩ := Prod.mk.inj (pure_eq_ok.mp h)
  obtain ⟨hname, hcredential⟩ := applyProfile_ok hprofile
  exact ⟨rfl, hname, hcredential⟩

theorem confined_nil (policy : Policy) (profile : Option AuthProfile) :
    Confined policy profile [] :=
  { allowed := forall_mem_nil _
    endpoint := fun _ _ => forall_mem_nil _
    credential := fun _ _ => ⟨nofun, nofun⟩
    pinned := fun _ => forall_mem_nil _
    bounded := Nat.zero_le _ }

def sampleExternals (scheme : String) : Externals where
  parseUrl _ := some { scheme, host := some "h", port := none, path := "/v1/a" }
  joinUrl url location := some { url with path := location }
  decodeBase64 _ := none

def samplePolicy : Policy where
  operationsOnly := false
  allowedHosts := ["h"]
  allowPrivateNetworks := false
  maxCallsPerExecution := 1
  maxTimeoutMs := 1000
  maxRequestBodyBytes := 16
  maxResponseBodyBytes := 16
  maxRedirects := 1
  authProfiles := [("key", { scheme := "https", host := "h", port := 443, pathPrefix := "/v1"
                             headerName := "Authorization", headerValue := "secret" })]

def sampleGranted : List String := [wasmCapabilityHttpFetch, wasmCapabilityHttpFetchAuth ++ "key"]

def sampleRedirect (hop : ℕ) : HopAnswer where
  lookup := .ok [.v4 ⟨8, 8, 8, 8⟩]
  response := .ok { status := if hop = 0 then 302 else 200, headers := []
                    location := some (some "/v1/b"), chunks := [] }

theorem avoidsSpecialBlocks_sampleRedirect : AvoidsSpecialBlocks sampleRedirect := by
  intro hop addresses h ip hip
  obtain rfl := Except.ok.inj h
  cases mem_singleton.mp hip

def documentationAddress : Ipv6Addr := ⟨Fin.ofNat _ ((Ipv6Addr.block 0x2001 0xdb8 0 0 32).base + 1)⟩

def sampleDocumentation (_ : ℕ) : HopAnswer where
  lookup := .ok [.v6 documentationAddress]
  response := .ok { status := 200, headers := [], location := none, chunks := [] }

end Froglet.WasmHttp
