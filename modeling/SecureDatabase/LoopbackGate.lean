import SecureDatabase.BrokerClientConfig

/-!
# The loopback gate

The local and the disabled mode are for a broker on the same machine. The gate looks at the text
of the endpoint's host. A URL writes an address of the newer version between brackets, and the
reader of addresses knows no brackets, so the gate takes every loopback host for one except that
address.

How an address of the newer version is written between its brackets is a parameter.
-/

namespace SecureDatabase.BrokerClient

open Foundation

/-- A character of a host's name: printable ASCII other than what delimits hosts. -/
def isHostChar (char : Char) : Bool :=
  '!' ≤ char && char ≤ '~' &&
    char ∉ ['#', '/', ':', '<', '>', '?', '@', '[', '\\', ']', '^', '|']

/-- The name of a host in a parsed URL. -/
structure HostName where
  text : String
  plain : ∀ char ∈ text.toList, isHostChar char = true

/-- The host of a parsed URL. -/
inductive UrlHost where
  | domain (name : HostName)
  | ipv4 (first second third fourth : UInt8)
  | ipv6 (groups : Vector UInt16 8)

/-- The address `::1`. -/
def loopbackGroups : Vector UInt16 8 := #v[0, 0, 0, 0, 0, 0, 0, 1]

/-- Four octets in decimal with dots between them. -/
def dottedText (first second third fourth : UInt8) : String :=
  String.ofList (IpAddr.dotted first.toNat second.toNat third.toNat fourth.toNat)

namespace UrlHost

/-- `Url::host_str`. -/
def hostStr (writeIpv6 : Vector UInt16 8 → String) : UrlHost → String
  | domain name => name.text
  | ipv4 first second third fourth => dottedText first second third fourth
  | ipv6 groups => "[" ++ writeIpv6 groups ++ "]"

/-- The host is the machine itself: `localhost` or a name under it, or an address in 127.0.0.0/8
or equal to `::1`. The host of a URL whose scheme is not special keeps an address as its name. -/
def IsLoopback : UrlHost → Prop
  | domain name => asciiLowercase name.text = "localhost" ∨
      (∃ front, asciiLowercase name.text = front ++ ".localhost") ∨
      ∃ second third fourth, name.text = dottedText 127 second third fourth
  | ipv4 first _ _ _ => first = 127
  | ipv6 groups => groups = loopbackGroups

end UrlHost

section Texts

/-- Digits and dots have no case and no blanks. -/
theorem dottedText_char {first second third fourth : UInt8} {char : Char}
    (member : char ∈ (dottedText first second third fourth).toList) :
    char.isLower = false ∧ char.toLower = char ∧ isWhitespace char = false := by
  have plain : ∀ char : Char, char.toNat < 128 → char.isDigit = true →
      char.isLower = false ∧ char.toLower = char ∧ isWhitespace char = false :=
    forall_toNat_lt (by decide +kernel)
  have digits {octet : Nat} (written : char ∈ Nat.toDigits 10 octet) :
      char.isLower = false ∧ char.toLower = char ∧ isWhitespace char = false := by
    have digit := Nat.isDigit_of_mem_toDigits (by decide) (by decide) written
    exact plain char (toNat_lt_of_isDigit digit) digit
  have dot : ('.' : Char).isLower = false ∧ ('.' : Char).toLower = '.' ∧
      isWhitespace '.' = false := by decide
  simp only [dottedText, String.toList_ofList, IpAddr.dotted, List.mem_append,
    List.mem_cons] at member
  rcases member with written | rfl | written | rfl | written | rfl | written
  · exact digits written
  · exact dot
  · exact digits written
  · exact dot
  · exact digits written
  · exact dot
  · exact digits written

/-- A dotted address has no letters. -/
theorem asciiLowercase_dottedText (first second third fourth : UInt8) :
    asciiLowercase (dottedText first second third fourth) =
      dottedText first second third fourth := by
  have each : ∀ char ∈ (dottedText first second third fourth).toList,
      char.toLower = id char := fun char member => (dottedText_char member).2.1
  rw [asciiLowercase, List.map_congr_left each, List.map_id, String.ofList_toList]

/-- A dotted address is read as its four numbers. -/
theorem parse_dottedText (first second third fourth : UInt8) :
    IpAddr.parse (dottedText first second third fourth) =
      some (.v4 [first.toNat, second.toNat, third.toNat, fourth.toNat]) :=
  (IpAddr.parse_eq_v4_iff _ _).mpr ⟨_, _, _, _,
    ⟨first.toNat_lt, second.toNat_lt, third.toNat_lt, fourth.toNat_lt⟩, rfl,
    String.toList_ofList⟩

/-- A host name has no whitespace. -/
theorem HostName.trim_text (name : HostName) : trim name.text = name.text := by
  refine trim_of_no_whitespace ?_
  intro char member
  have solid : ∀ char : Char, char.toNat < 128 → isHostChar char = true →
      isWhitespace char = false := forall_toNat_lt (by decide +kernel)
  have host := name.plain char member
  have small : char.toNat < 128 := by
    simp only [isHostChar, Bool.and_eq_true, decide_eq_true_eq] at host
    exact Nat.lt_of_le_of_lt host.1.2 (by decide)
  exact solid char small host

/-- The name of a host has no colon, in either case. -/
theorem HostName.no_colon (name : HostName) : ':' ∉ (asciiLowercase name.text).toList := by
  refine not_mem_asciiLowercase (by decide) ?_
  intro member
  exact absurd (name.plain _ member) (by decide)

end Texts

section Gate

variable (writeIpv6 : Vector UInt16 8 → String)

/-- What the gate asks of a host's text that is already trimmed. -/
theorem isLoopback_iff_of_trimmed {scheme text : String} (trimmed : trim text = text) :
    secretBrokerEndpointIsLoopback ⟨scheme, some text⟩ = true ↔
      asciiLowercase text = "localhost" ∨
        (∃ front, asciiLowercase text = front ++ ".localhost") ∨
        ∃ address, IpAddr.parse (asciiLowercase text) = some address ∧
          address.isLoopback = true := by
  rw [loopbackEndpoint_iff, LoopbackEndpoint]
  simp only [Option.some.injEq, exists_eq_left', trimmed]

/-- Only the name of an address is read as one. -/
theorem HostName.parse_isLoopback_iff (name : HostName) :
    (∃ address, IpAddr.parse (asciiLowercase name.text) = some address ∧
      address.isLoopback = true) ↔
        ∃ second third fourth, name.text = dottedText 127 second third fourth := by
  constructor
  · rintro ⟨address, parsed, loopback⟩
    cases address with
    | v6 groups => exact absurd parsed (IpAddr.parse_ne_v6 name.no_colon groups)
    | v4 octets =>
      obtain ⟨first, second, third, fourth, ⟨-, secondSmall, thirdSmall, fourthSmall⟩, rfl,
        written⟩ := (IpAddr.parse_eq_v4_iff _ _).mp parsed
      obtain rfl : first = 127 := by simpa [IpAddr.isLoopback] using loopback
      refine ⟨UInt8.ofNat second, UInt8.ofNat third, UInt8.ofNat fourth, ?_⟩
      have dotted : IpAddr.dotted 127 second third fourth =
          (dottedText 127 (UInt8.ofNat second) (UInt8.ofNat third)
            (UInt8.ofNat fourth)).toList := by
        simp [dottedText, Nat.mod_eq_of_lt, secondSmall, thirdSmall, fourthSmall]
      rw [toList_asciiLowercase, dotted] at written
      refine String.toList_injective (eq_of_map_toLower ?_ written)
      intro char member
      exact (dottedText_char member).1
  · rintro ⟨second, third, fourth, written⟩
    rw [written, asciiLowercase_dottedText]
    exact ⟨_, parse_dottedText _ _ _ _, rfl⟩

/-- The gate reads a host name as it is written: only the local names pass. -/
theorem gate_domain (scheme : String) (name : HostName) :
    secretBrokerEndpointIsLoopback ⟨scheme, some name.text⟩ = true ↔
      (UrlHost.domain name).IsLoopback := by
  rw [isLoopback_iff_of_trimmed name.trim_text, name.parse_isLoopback_iff]
  rfl

/-- The gate reads an IPv4 address as its numbers: those that begin with 127 pass. -/
theorem gate_ipv4 (scheme : String) (first second third fourth : UInt8) :
    secretBrokerEndpointIsLoopback ⟨scheme, some (dottedText first second third fourth)⟩ = true ↔
      first = 127 := by
  have trimmed : trim (dottedText first second third fourth) =
      dottedText first second third fourth :=
    trim_of_no_whitespace fun char member => (dottedText_char member).2.2
  have letter {char : Char} (lower : char.isLower = true) :
      char ∉ (dottedText first second third fourth).toList := by
    intro member
    rw [(dottedText_char member).1] at lower
    cases lower
  rw [isLoopback_iff_of_trimmed trimmed, asciiLowercase_dottedText, parse_dottedText]
  constructor
  · rintro (same | ⟨front, same⟩ | ⟨address, parsed, loopback⟩)
    · exact absurd (show 'l' ∈ _ by rw [same]; decide) (letter (by decide))
    · exact absurd (show 'l' ∈ _ by rw [same, String.toList_append]; simp) (letter (by decide))
    · cases parsed
      simpa [IpAddr.isLoopback, ← UInt8.toNat_inj] using loopback
  · rintro rfl
    exact .inr (.inr ⟨_, rfl, rfl⟩)

/-- What stands between brackets is never taken for a loopback host. -/
theorem gate_ipv6 (scheme written : String) :
    secretBrokerEndpointIsLoopback ⟨scheme, some ("[" ++ written ++ "]")⟩ = false := by
  have chars : ("[" ++ written ++ "]").toList = '[' :: (written.toList ++ [']']) := by simp
  have trimmed : trim ("[" ++ written ++ "]") = "[" ++ written ++ "]" := by
    refine trim_eq_self ⟨?_, ?_⟩
    · intro char starts
      rw [chars] at starts
      cases starts
      decide
    · intro char ends
      rw [chars, ← List.cons_append, List.getLast?_concat] at ends
      cases ends
      decide
  have lowered : (asciiLowercase ("[" ++ written ++ "]")).toList =
      '[' :: (written.toList.map Char.toLower ++ [']']) := by
    rw [toList_asciiLowercase, chars]
    simp
  rw [Bool.eq_false_iff, ne_eq, isLoopback_iff_of_trimmed trimmed, IpAddr.parse_bracket lowered]
  rintro (same | ⟨front, same⟩ | ⟨address, parsed, -⟩)
  · rw [same] at lowered
    have first : some 'l' = some '[' := congrArg List.head? lowered
    exact absurd first (by decide)
  · rw [same] at lowered
    have last := congrArg List.getLast? lowered
    rw [String.toList_append, ← List.cons_append, List.getLast?_concat] at last
    have ends : (front.toList ++ ".localhost".toList).getLast? = some 't' := by
      rw [List.getLast?_append]
      rfl
    rw [ends] at last
    exact absurd last (by decide)
  · cases parsed

/-- The gate is right about every loopback host but the one it cannot read. -/
theorem gate_iff (scheme : String) (host : UrlHost) :
    (secretBrokerEndpointIsLoopback ⟨scheme, some (host.hostStr writeIpv6)⟩ = true ↔
      host.IsLoopback) ↔ host ≠ .ipv6 loopbackGroups := by
  cases host with
  | domain name =>
    refine iff_of_true (gate_domain scheme name) ?_
    rintro ⟨⟩
  | ipv4 first second third fourth =>
    refine iff_of_true (gate_ipv4 scheme first second third fourth) ?_
    rintro ⟨⟩
  | ipv6 groups => simp [UrlHost.hostStr, gate_ipv6, UrlHost.IsLoopback]

end Gate

section Configuration

/-- The endpoint and the mode that the environment of a process names. -/
structure Configured (parsers : Parsers) (process : HostProcess) (endpoint : Url)
    (mode : AttestationMode) : Prop where
  endpoint : ∃ raw, process.env "SECRET_BROKER_ENDPOINT" = .text raw ∧
    parsers.parseUrl raw = .ok endpoint
  mode : AttestationMode.fromEnvVar parsers.debug process.env "SECRET_BROKER_CLIENT_MODE"
    "enforced" = .ok mode

/-- Whatever else a configuration takes is in order. -/
structure Prepared (parsers : Parsers) (process : HostProcess) (scheme : String)
    (mode : AttestationMode) : Prop where
  https : mode ≠ .disabled → scheme = "https"
  allowed : ensureAttestationMode parsers process mode = .ok ()
  policy : ∃ policy, ClientPolicy.fromEnv parsers process mode = .ok policy
  identity : ∃ identity,
    SecretBrokerClientConfig.loadClientIdentity parsers process mode = .ok identity
  timeout : ∃ seconds, SecretBrokerClientConfig.timeoutFromEnv parsers process = .ok seconds ∧
    seconds ≠ 0

/-- The modes for a broker on the same machine. -/
def AttestationMode.Relaxed (mode : AttestationMode) : Prop :=
  mode = .localMode ∨ mode = .disabled

/-- The gate knows whether a host is a loopback host, and the configuration goes by it: a mode
for the same machine is admitted for a loopback host and refused for every other. -/
structure LoopbackExact (writeIpv6 : Vector UInt16 8 → String) (host : UrlHost) : Prop where
  gate : ∀ scheme, secretBrokerEndpointIsLoopback ⟨scheme, some (host.hostStr writeIpv6)⟩ = true ↔
    host.IsLoopback
  admits : ∀ parsers process scheme mode,
    Configured parsers process ⟨scheme, some (host.hostStr writeIpv6)⟩ mode → mode.Relaxed →
    Prepared parsers process scheme mode → host.IsLoopback →
      ∃ config, SecretBrokerClientConfig.fromEnv parsers process = .ok config ∧
        config.attestationMode = mode
  refuses : ∀ parsers process scheme mode,
    Configured parsers process ⟨scheme, some (host.hostStr writeIpv6)⟩ mode → mode.Relaxed →
    ¬ host.IsLoopback →
      SecretBrokerClientConfig.fromEnv parsers process =
        .error ("SECRET_BROKER_CLIENT_MODE=" ++ mode.debugName ++
          " requires a loopback SECRET_BROKER_ENDPOINT")

variable {parsers : Parsers} {process : HostProcess} {endpoint : Url} {mode : AttestationMode}

/-- Elsewhere than on the own host the relaxed modes are refused with this error. -/
theorem fromEnv_refuses (configured : Configured parsers process endpoint mode)
    (relaxed : mode.Relaxed) (elsewhere : secretBrokerEndpointIsLoopback endpoint = false) :
    SecretBrokerClientConfig.fromEnv parsers process =
      .error ("SECRET_BROKER_CLIENT_MODE=" ++ mode.debugName ++
        " requires a loopback SECRET_BROKER_ENDPOINT") := by
  obtain ⟨⟨raw, set, parsed⟩, named⟩ := configured
  have read := (process.env.var_eq_ok_iff _ _).mpr set
  unfold SecretBrokerClientConfig.fromEnv
  rcases relaxed with rfl | rfl <;>
    simp [read, parsed, named, elsewhere, require, Except.mapError, bind, Except.bind]

/-- On the own host a prepared client of a relaxed mode is configured, in that mode. -/
theorem fromEnv_admits (configured : Configured parsers process endpoint mode)
    (relaxed : mode.Relaxed) (prepared : Prepared parsers process endpoint.scheme mode)
    (loopback : secretBrokerEndpointIsLoopback endpoint = true) :
    ∃ config, SecretBrokerClientConfig.fromEnv parsers process = .ok config ∧
      config.attestationMode = mode := by
  obtain ⟨⟨raw, set, parsed⟩, named⟩ := configured
  have read := (process.env.var_eq_ok_iff _ _).mpr set
  obtain ⟨https, allowed, ⟨policy, policyLoaded⟩, ⟨identity, loaded⟩, seconds, timed, positive⟩ :=
    prepared
  unfold SecretBrokerClientConfig.fromEnv
  rcases relaxed with rfl | rfl <;>
    simp [read, parsed, named, loopback, https, allowed, policyLoaded, loaded, timed, positive,
      require, Except.mapError, bind, Except.bind, pure, Except.pure]

/-- The gate, and with it the configuration, is exact for a host unless that is the address
`::1`.

Proof: the gate parses the host as it is written in the address. A name and an IPv4 address
are written as they are read; an IPv6 address is written in brackets, which no parser of
addresses accepts, and among those only `::1` is loopback. -/
theorem loopbackExact_iff (writeIpv6 : Vector UInt16 8 → String) (host : UrlHost) :
    LoopbackExact writeIpv6 host ↔ host ≠ .ipv6 loopbackGroups := by
  constructor
  · intro known
    exact (gate_iff writeIpv6 "https" host).mp (known.gate "https")
  · intro readable
    have gate (scheme : String) := (gate_iff writeIpv6 scheme host).mpr readable
    refine ⟨gate, ?_, ?_⟩
    · intro parsers process scheme mode configured relaxed prepared loopback
      exact fromEnv_admits configured relaxed prepared ((gate scheme).mpr loopback)
    · intro parsers process scheme mode configured relaxed elsewhere
      refine fromEnv_refuses configured relaxed ?_
      rw [Bool.eq_false_iff, ne_eq, gate scheme]
      exact elsewhere

end Configuration

section Sample

/-- A host that talks to a broker of its own over the newer version of the protocol. -/
def newerHost : HostProcess where
  env key :=
    if key = "SECRET_BROKER_ENDPOINT" then .text "https://[::1]:50051"
    else if key = "SECRET_BROKER_CLIENT_MODE" then .text "local"
    else .absent
  debugAssertions := false
  read _ := .error "No such file or directory (os error 2)"
  readToString _ := .error "No such file or directory (os error 2)"

/-- Libraries that read what that host has. -/
def newerParsers : Parsers where
  debug := ⟨fun text => text, fun _ => ""⟩
  toLowercase := asciiLowercase
  parseUrl text :=
    if text = "https://[::1]:50051" then .ok ⟨"https", some "[::1]"⟩
    else .error "relative URL without a base"
  fromStr _ := .error "expected value at line 1 column 1"
  readAll _ := []

/-- The writing of the address `::1`. -/
def writeLoopback (groups : Vector UInt16 8) : String :=
  if groups = loopbackGroups then "::1" else "::"

/-- The address `::1` is a loopback host, everything else is in order, and it is refused. -/
theorem newer_loopback_refused :
    (UrlHost.ipv6 loopbackGroups).IsLoopback ∧
      Configured newerParsers newerHost
        ⟨"https", some ((UrlHost.ipv6 loopbackGroups).hostStr writeLoopback)⟩ .localMode ∧
      Prepared newerParsers newerHost "https" .localMode ∧
      secretBrokerEndpointIsLoopback
        ⟨"https", some ((UrlHost.ipv6 loopbackGroups).hostStr writeLoopback)⟩ = false ∧
      SecretBrokerClientConfig.fromEnv newerParsers newerHost =
        .error "SECRET_BROKER_CLIENT_MODE=Local requires a loopback SECRET_BROKER_ENDPOINT" := by
  have written : (UrlHost.ipv6 loopbackGroups).hostStr writeLoopback = "[::1]" := by
    decide +kernel
  have configured : Configured newerParsers newerHost ⟨"https", some "[::1]"⟩ .localMode :=
    ⟨⟨"https://[::1]:50051", rfl, rfl⟩, by rfl⟩
  have prepared : Prepared newerParsers newerHost "https" .localMode :=
    ⟨fun _ => rfl, rfl, ⟨.transportOnly, rfl⟩, ⟨(none, none, none), rfl⟩, 10, rfl, by decide⟩
  have elsewhere : secretBrokerEndpointIsLoopback ⟨"https", some "[::1]"⟩ = false :=
    gate_ipv6 "https" "::1"
  rw [written]
  exact ⟨rfl, configured, prepared, elsewhere, fromEnv_refuses configured (.inl rfl) elsewhere⟩

end Sample

end SecureDatabase.BrokerClient
