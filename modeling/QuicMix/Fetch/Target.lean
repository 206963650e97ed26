import QuicMix.Fetch.Url
import QuicMix.Foundations.Search
import QuicMix.Gateway.Carriage

namespace QuicMix
namespace Fetch

open Foundations Gateway

/-!
# From a URL to the target that is dialed

What a URL denotes is said here without `split_url`, after the general rules for URLs:
a scheme in any case, an authority that ends at the first slash, question mark or number
sign, in it a user before the last at sign and an address in brackets, and a path with
its query that ends at the number sign.  A URL without a scheme is taken for `https`, as
the code does.

The code finds less structure.  It is compared with the denotation at the other end of
the stream: what the gateway dials and what it hands on.
-/

/-! ## What a URL denotes -/

/-- A server and what is asked of it. -/
structure Denoted where
  scheme : Scheme
  host : Text
  port : Nat
  path : Text
  deriving DecidableEq, Repr

def Denoted.target (denoted : Denoted) : Text :=
  denoted.host ++ ':' :: Nat.toDigits 10 denoted.port

def schemeMark : Text := "://".toList

def isSchemeName : Text -> Bool
  | [] => false
  | first :: rest =>
      first.isAlpha && rest.all (fun char => char.isAlphanum || "+-.".toList.contains char)

/-- The scheme and what follows it; `none` for a scheme of another protocol. -/
def readScheme (url : Text) : Option (Scheme × Text) :=
  match position schemeMark url with
  | none => some (.https, url)
  | some start =>
      let name := url.take start
      let rest := url.drop (start + schemeMark.length)
      if isSchemeName name then
        if Text.lower name = Scheme.https.name then some (.https, rest)
        else if Text.lower name = Scheme.http.name then some (.http, rest)
        else none
      else some (.https, url)

def endsAuthority (char : Char) : Bool :=
  char == '/' || char == '?' || char == '#'

def readAuthority (rest : Text) : Text :=
  rest.takeWhile (fun char => !endsAuthority char)

/-- The path and the query, with a slash in front. -/
def readPath (rest : Text) : Text :=
  let kept := (rest.dropWhile (fun char => !endsAuthority char)).takeWhile (· != '#')
  if kept.head? = some '/' then kept else '/' :: kept

/-- A port that is left out is the default. -/
def readPort (scheme : Scheme) (text : Text) : Option Nat :=
  if text.isEmpty then some scheme.defaultPort
  else if text.all Char.isDigit && Text.digitsValue text < 2 ^ 16 then
    some (Text.digitsValue text)
  else none

def withoutUser (authority : Text) : Text :=
  match Text.rsplitOnce '@' authority with
  | some (_, server) => server
  | none => authority

/-- The host, with its brackets, and the port. -/
def readServer (scheme : Scheme) (server : Text) : Option (Text × Nat) :=
  if server.head? = some '[' then
    match Text.splitOnce ']' server with
    | some (address, []) => some (address ++ [']'], scheme.defaultPort)
    | some (address, ':' :: port) =>
        (readPort scheme port).map (fun number => (address ++ [']'], number))
    | _ => none
  else
    match Text.splitOnce ':' server with
    | some (host, port) => (readPort scheme port).map (fun number => (host, number))
    | none => some (server, scheme.defaultPort)

def denote (url : Text) : Option Denoted := do
  let (scheme, rest) <- readScheme url
  let (host, port) <- readServer scheme (withoutUser (readAuthority rest))
  return { scheme := scheme, host := host, port := port, path := readPath rest }

example : denote "http://u@[::1]:8080?q#f".toList =
    some ⟨.http, "[::1]".toList, 8080, "/?q".toList⟩ := by decide +kernel

theorem readServer_mem {scheme : Scheme} {server host : Text} {port : Nat}
    (read : readServer scheme server = some (host, port)) :
    forall char, char ∈ host -> char ∈ server := by
  intro char member
  unfold readServer at read
  split at read
  · split at read
    · rename_i address found
      rcases Text.splitOnce_eq_some.mp found with ⟨rfl, _⟩
      cases read
      exact member
    · rename_i address rest found
      rcases Text.splitOnce_eq_some.mp found with ⟨rfl, _⟩
      rcases Option.map_eq_some_iff.mp read with ⟨number, _, same⟩
      cases same
      rw [List.append_cons]
      exact List.mem_append_left _ member
    · cases read
  · split at read
    · rename_i before rest found
      rcases Text.splitOnce_eq_some.mp found with ⟨rfl, _⟩
      rcases Option.map_eq_some_iff.mp read with ⟨number, _, same⟩
      cases same
      exact List.mem_append_left _ member
    · cases read
      exact member

theorem withoutUser_spec (authority : Text) :
    '@' ∉ withoutUser authority ∧ forall char, char ∈ withoutUser authority -> char ∈ authority := by
  unfold withoutUser
  split
  · rename_i user server found
    rcases Text.rsplitOnce_eq_some.mp found with ⟨rfl, last⟩
    exact ⟨last, fun char member => List.mem_append_right _ (List.mem_cons_of_mem _ member)⟩
  · rename_i absent
    exact ⟨Text.rsplitOnce_eq_none.mp absent, fun _ member => member⟩

theorem head_readPath (rest : Text) : exists tail, readPath rest = '/' :: tail := by
  unfold readPath
  dsimp only
  split
  · rename_i slash
    exact ⟨_, List.head?_eq_some_iff.mp slash |>.choose_spec⟩
  · exact ⟨_, rfl⟩

theorem length_readPath (rest : Text) : (readPath rest).length <= rest.length + 1 := by
  have kept : ((rest.dropWhile (fun char => !endsAuthority char)).takeWhile
      (· != '#')).length <= rest.length :=
    ((List.takeWhile_sublist _).trans (List.dropWhile_sublist _)).length_le
  unfold readPath
  dsimp only
  split
  · exact Nat.le_succ_of_le kept
  · exact Nat.succ_le_succ kept

/-- What holds of a denotation: the host has no user in it and ends before the path. -/
theorem denote_eq_some {url : Text} {denoted : Denoted} (meaning : denote url = some denoted) :
    exists rest, readScheme url = some (denoted.scheme, rest) ∧
      denoted.path = readPath rest ∧ '@' ∉ denoted.host ∧ '/' ∉ denoted.host := by
  simp only [denote, Option.bind_eq_bind, Option.bind_eq_some_iff, Option.pure_def,
    Option.some.injEq] at meaning
  rcases meaning with ⟨⟨scheme, rest⟩, found, ⟨host, port⟩, server, rfl⟩
  have user := withoutUser_spec (readAuthority rest)
  refine ⟨rest, found, rfl, ?_, ?_⟩
  · exact fun member => user.1 (readServer_mem server _ member)
  · intro member
    have kept := List.mem_takeWhile_imp (user.2 _ (readServer_mem server _ member))
    cases kept

/-! ## Schemes -/

theorem splitScheme_other {url : Text}
    (other : forall scheme : Scheme, ¬ scheme.name ++ schemeMark <+: url) :
    splitScheme url = (.https, url) := by
  have first : url.stripStart "https://".toList = none :=
    if_neg (fun starts => other .https (List.isPrefixOf_iff_prefix.mp starts))
  have second : url.stripStart "http://".toList = none :=
    if_neg (fun starts => other .http (List.isPrefixOf_iff_prefix.mp starts))
  rw [splitScheme, first, second]

theorem Scheme.clearOf_name (scheme : Scheme) : ClearOf schemeMark scheme.name := by
  unfold ClearOf
  cases scheme <;> decide

theorem slash_not_mem_schemeName {name : Text} (proper : isSchemeName name = true) :
    '/' ∉ name := by
  cases name with
  | nil => exact List.not_mem_nil
  | cons first rest =>
      rw [isSchemeName, Bool.and_eq_true] at proper
      intro member
      rcases List.mem_cons.mp member with same | inside
      · rw [← same] at proper
        exact absurd proper.1 (by decide)
      · exact absurd (List.all_eq_true.mp proper.2 _ inside) (by decide)

theorem name_of_starts {name after : Text} {scheme : Scheme} (clear : ClearOf schemeMark name)
    (starts : scheme.name ++ schemeMark <+: name ++ schemeMark ++ after) : name = scheme.name := by
  rcases starts with ⟨behind, same⟩
  exact (position_split_unique (by decide) clear scheme.clearOf_name same.symm).1

/-- A name that is not written in lower case is not recognized. -/
theorem splitScheme_written {name : Text} {scheme : Scheme} (clear : ClearOf schemeMark name)
    (lowered : Text.lower name = scheme.name) (different : name ≠ scheme.name) (after : Text) :
    splitScheme (name ++ schemeMark ++ after) = (.https, name ++ schemeMark ++ after) := by
  apply splitScheme_other
  intro other starts
  have same := name_of_starts clear starts
  have fixed : Text.lower other.name = other.name := by cases other <;> rfl
  rw [same, fixed] at lowered
  exact different (same.trans lowered)

/-- The two readings of the scheme agree, or it is written with a letter in upper case
and the code takes it for a host. -/
theorem readScheme_cases {url rest : Text} {scheme : Scheme}
    (read : readScheme url = some (scheme, rest)) :
    splitScheme url = (scheme, rest) ∧ (url = scheme.name ++ schemeMark ++ rest ∨ url = rest) ∨
    splitScheme url = (.https, url) ∧ exists name, url = name ++ schemeMark ++ rest ∧
      '/' ∉ name ∧ name ≠ scheme.name := by
  unfold readScheme at read
  cases found : position schemeMark url with
  | none =>
      rw [found] at read
      cases read
      refine .inl ⟨splitScheme_other ?_, .inr rfl⟩
      rintro scheme ⟨after, rfl⟩
      rw [position_append (by decide) scheme.clearOf_name] at found
      cases found
  | some start =>
      rcases exists_of_position (by decide) found with ⟨name, after, rfl, rfl, clear⟩
      have front : (name ++ schemeMark ++ after).take name.length = name := by
        rw [List.append_assoc, List.take_left]
      have back : (name ++ schemeMark ++ after).drop (name.length + schemeMark.length) = after := by
        rw [← List.length_append, List.drop_left]
      rw [found] at read
      dsimp only at read
      rw [front, back] at read
      by_cases proper : isSchemeName name = true
      · rw [if_pos proper] at read
        have known : Text.lower name = scheme.name ∧ after = rest := by
          split at read
          · rename_i lowered
            cases read
            exact ⟨lowered, rfl⟩
          · split at read
            · rename_i lowered
              cases read
              exact ⟨lowered, rfl⟩
            · cases read
        rcases known with ⟨lowered, rfl⟩
        by_cases same : name = scheme.name
        · subst same
          exact .inl ⟨splitScheme_name scheme after, .inl rfl⟩
        · exact .inr ⟨splitScheme_written clear lowered same after, name, rfl,
            slash_not_mem_schemeName proper, same⟩
      · rw [if_neg proper] at read
        cases read
        refine .inl ⟨splitScheme_other ?_, .inr rfl⟩
        intro other starts
        rw [name_of_starts clear starts] at proper
        cases other <;> exact absurd rfl proper

/-! ## URLs that are read as they are meant -/

/-- The text of a port: nothing, or a colon and a text that reads as the port, or does not
read at all where the port is the default. -/
inductive PortText (denoted : Denoted) : Text -> Prop where
  | none (single : ':' ∉ denoted.host) (default : denoted.port = denoted.scheme.defaultPort) :
      PortText denoted []
  | read (port : Text) (last : ':' ∉ port) (clear : '/' ∉ port)
      (number : Text.parseU16 port = some denoted.port) : PortText denoted (':' :: port)
  | unread (port : Text) (last : ':' ∉ port) (clear : '/' ∉ port)
      (number : Text.parseU16 port = Option.none)
      (default : denoted.port = denoted.scheme.defaultPort) : PortText denoted (':' :: port)

/-- A URL that is made of what it denotes and nothing else: a scheme in lower case or
none, the host, the text of the port, and the path, which may be left out if it is a
slash. -/
def Plain (url : Text) (denoted : Denoted) : Prop :=
  exists rest port tail, readScheme url = some (denoted.scheme, rest) ∧
    (url = denoted.scheme.name ++ schemeMark ++ rest ∨ url = rest) ∧
    rest = denoted.host ++ port ++ tail ∧ PortText denoted port ∧
    (tail = denoted.path ∨ tail = [] ∧ denoted.path = ['/'])

theorem authority_of_portText {denoted : Denoted} {port : Text} (text : PortText denoted port) :
    Authority denoted.scheme denoted.host denoted.port (denoted.host ++ port) := by
  cases text with
  | none single default =>
      rw [List.append_nil, default]
      exact .bare _ single
  | read port last clear number =>
      have read := @Authority.ported denoted.scheme denoted.host port last
      rwa [number] at read
  | unread port last clear number default =>
      have read := @Authority.ported denoted.scheme denoted.host port last
      rw [number] at read
      rwa [default]

theorem PortText.slash_not_mem {denoted : Denoted} {port : Text} (text : PortText denoted port) :
    '/' ∉ port := by
  cases text with
  | none single default => exact List.not_mem_nil
  | read port last clear number =>
      exact fun member => clear (List.mem_of_ne_of_mem (by decide) member)
  | unread port last clear number default =>
      exact fun member => clear (List.mem_of_ne_of_mem (by decide) member)

theorem exists_portText {denoted : Denoted} {text : Text} (clear : '/' ∉ text)
    (authority : Authority denoted.scheme denoted.host denoted.port text) :
    exists port, text = denoted.host ++ port ∧ PortText denoted port := by
  rcases denoted with ⟨scheme, host, number, path⟩
  dsimp only at authority
  cases authority with
  | bare single => exact ⟨[], (List.append_nil _).symm, .none single rfl⟩
  | ported port last =>
      have clearPort : '/' ∉ port :=
        fun member => clear (List.mem_append_right _ (List.mem_cons_of_mem _ member))
      refine ⟨':' :: port, rfl, ?_⟩
      cases read : Text.parseU16 port with
      | none => exact .unread port last clearPort read rfl
      | some value => exact .read port last clearPort read

/-- The text behind the scheme is cut into the parts that it is made of. -/
theorem beforeSlash_plain {host port tail path rest : Text} (clear : '/' ∉ host ++ port)
    (slash : exists more, path = '/' :: more) (shape : tail = path ∨ tail = [] ∧ path = ['/'])
    (split : rest = host ++ port ++ tail) :
    beforeSlash rest = host ++ port ∧ fromSlash rest = path := by
  subst split
  rcases shape with rfl | ⟨rfl, rfl⟩
  · rcases slash with ⟨more, rfl⟩
    exact beforeSlash_append clear more
  · rw [List.append_nil]
    exact beforeSlash_of_not_mem clear

/-- The code finds the denotation exactly where the URL is plain. -/
theorem splitUrl_denoted_iff {url : Text} {split : SplitUrl} {denoted : Denoted}
    (accepted : splitUrl url = some split) (meaning : denote url = some denoted) :
    (split.host = denoted.host ∧ split.port = denoted.port ∧ split.path = denoted.path) <->
      Plain url denoted := by
  rcases denote_eq_some meaning with ⟨rest, scheme, path, _, clearHost⟩
  rcases splitUrl_eq_some.mp accepted with ⟨found, splitPath, _, authority⟩
  rcases readScheme_cases scheme with ⟨agreed, start⟩ | ⟨mistaken, name, text, clearName, other⟩
  · rw [agreed] at found splitPath authority
    dsimp only at found splitPath authority
    constructor
    · rintro ⟨sameHost, samePort, samePath⟩
      rw [found, sameHost, samePort] at authority
      rcases exists_portText (slash_not_mem_beforeSlash rest) authority with ⟨port, before, ported⟩
      rcases exists_fromSlash rest with ⟨tail, cut, shape⟩
      rw [before] at cut
      rw [← splitPath, samePath] at shape
      exact ⟨rest, port, tail, scheme, start, cut, ported, shape⟩
    · rintro ⟨again, port, tail, same, _, cut, ported, shape⟩
      cases scheme.symm.trans same
      have clear : '/' ∉ denoted.host ++ port := by
        rw [List.mem_append, not_or]
        exact ⟨clearHost, ported.slash_not_mem⟩
      have parts := beforeSlash_plain clear (path ▸ head_readPath rest) shape cut
      rw [parts.1, found] at authority
      have server := (authority_iff.mp authority).symm.trans
        (authority_iff.mp (authority_of_portText ported))
      exact ⟨congrArg Prod.fst server, congrArg Prod.snd server, splitPath.trans parts.2⟩
  · -- The code takes the name of the scheme for the host, and what follows for the path.
    apply iff_of_false
    · rintro ⟨_, _, samePath⟩
      have clear : '/' ∉ name ++ [':'] := by
        rw [List.mem_append, not_or]
        exact ⟨clearName, by decide⟩
      have shape : url = name ++ [':'] ++ '/' :: ('/' :: rest) := by
        rw [text, List.append_assoc, List.append_assoc]
        rfl
      rw [mistaken, samePath, path, shape, (beforeSlash_append clear _).2] at splitPath
      have lengths := congrArg List.length splitPath
      have bound := length_readPath rest
      rw [List.length_cons, List.length_cons] at lengths
      omega
    · rintro ⟨again, port, tail, same, start, _⟩
      cases scheme.symm.trans same
      rw [text] at start
      rcases start with plain | bare
      · exact other (List.append_cancel_right (List.append_cancel_right plain))
      · have lengths := congrArg List.length bare
        rw [List.length_append, List.length_append] at lengths
        have three : schemeMark.length = 3 := rfl
        omega

/-! ## What reaches the server -/

def asciiWhite (char : Char) : Bool :=
  char.toNat == 32 || (9 <= char.toNat && char.toNat <= 13)

/-- A request as the protocol knows it: one word as target, and headers of one line each. -/
structure GetRequest where
  target : Text
  headers : List Text
  word : forall char, char ∈ target -> asciiWhite char = false
  lines : forall line, line ∈ headers -> line ≠ [] ∧ '\r' ∉ line ∧ '\n' ∉ line

def GetRequest.text (request : GetRequest) : Text :=
  "GET ".toList ++ request.target ++ " HTTP/1.1\r\n".toList ++
    request.headers.flatMap (· ++ "\r\n".toList) ++ "\r\n".toList

def fixedHeaders : List Text :=
  ["User-Agent: quicmix-demo/0.1".toList, "Accept: text/html,*/*".toList,
    "Accept-Encoding: identity".toList, "Connection: close".toList]

/-- The headers of a request for a page. -/
def pageHeaders (host : Text) : List Text :=
  ("Host: ".toList ++ host) :: fixedHeaders

/-- What is written behind the line: the request, or whatever TLS makes of it. -/
def SplitUrl.Sends (split : SplitUrl) (payload : List UInt8) : Prop :=
  match split.scheme with
  | .http => payload = Text.encode split.request
  | .https => True

/-- The gateway dials the server that is denoted and nothing else, and the server is asked
for the path that is denoted and nothing else. -/
structure Faithful (split : SplitUrl) (denoted : Denoted) : Prop where
  dials : forall payload clientFinishes schedule stream, split.Sends payload ->
    run GatewayStream.step
      (GatewayStream.start (clientStream split.target payload) clientFinishes) schedule =
        some stream ->
    GatewayStream.Carried denoted.target payload schedule stream ∧
      forall left, stream.phase ≠ .measuring left
  asks : exists request : GetRequest, request.target = denoted.path ∧
    request.headers = pageHeaders denoted.host ∧ request.text = split.request

/-- Nothing in a host or a path ends a line or a word. -/
structure Clean (denoted : Denoted) : Prop where
  unbroken : '\r' ∉ denoted.host ∧ '\n' ∉ denoted.host
  head : forall char, denoted.host.head? = some char -> Text.isWhitespace char = false
  word : forall char, char ∈ denoted.path -> asciiWhite char = false

/-- What follows the host in a request. -/
def requestEnd : Text :=
  ("\r\nUser-Agent: quicmix-demo/0.1\r\nAccept: text/html,*/*\r\n" ++
    "Accept-Encoding: identity\r\nConnection: close\r\n\r\n").toList

def requestText (path host : Text) : Text :=
  "GET ".toList ++ path ++ " HTTP/1.1\r".toList ++ '\n' :: ("Host: ".toList ++ host ++ requestEnd)

theorem request_eq (split : SplitUrl) : split.request = requestText split.path split.host := by
  have regroup : forall front path back lead host rest : Text,
      front ++ path ++ (back ++ '\n' :: lead) ++ host ++ rest =
        front ++ path ++ back ++ '\n' :: (lead ++ host ++ rest) := by
    intro front path back lead host rest
    simp only [List.append_assoc, List.cons_append]
  exact regroup "GET ".toList split.path " HTTP/1.1\r".toList "Host: ".toList split.host requestEnd

theorem fixedHeaders_eq :
    "\r\n".toList ++ (fixedHeaders.flatMap (· ++ "\r\n".toList) ++ "\r\n".toList) =
      requestEnd := by
  decide +kernel

theorem GetRequest.text_eq {request : GetRequest} {path host : Text}
    (target : request.target = path) (headers : request.headers = pageHeaders host) :
    request.text = requestText path host := by
  have regroup : forall front back lead ends rest : Text,
      front ++ path ++ (back ++ ['\n']) ++ (lead ++ host ++ ends ++ rest) ++ ends =
        front ++ path ++ back ++ '\n' :: (lead ++ host ++ (ends ++ (rest ++ ends))) := by
    intro front back lead ends rest
    simp only [List.append_assoc, List.cons_append, List.nil_append]
  have whole := regroup "GET ".toList " HTTP/1.1\r".toList "Host: ".toList "\r\n".toList
    (fixedHeaders.flatMap (· ++ "\r\n".toList))
  rcases request with ⟨asked, lines, _, _⟩
  cases target
  cases headers
  exact whole.trans (congrArg (fun ending => "GET ".toList ++ asked ++ " HTTP/1.1\r".toList ++
    '\n' :: ("Host: ".toList ++ host ++ ending)) fixedHeaders_eq)

/-- Where the path and the host of one of two requests are unbroken, equal requests have
equal parts. -/
theorem requestText_inj {path host other name : Text} (clearPath : '\n' ∉ path)
    (clearHost : '\n' ∉ host) (same : requestText path host = requestText other name) :
    path = other ∧ host = name := by
  have clearFront : '\n' ∉ "GET ".toList := by decide
  have clearBack : '\n' ∉ " HTTP/1.1\r".toList := by decide
  unfold requestText at same
  generalize "GET ".toList = front at same clearFront
  generalize " HTTP/1.1\r".toList = back at same clearBack
  generalize "Host: ".toList = lead at same
  generalize requestEnd = rest at same
  have counts := congrArg (List.count '\n') same
  simp only [List.count_append, List.count_cons, List.count_eq_zero.mpr clearPath,
    List.count_eq_zero.mpr clearHost] at counts
  have clearOther : '\n' ∉ other := List.count_eq_zero.mp (by omega)
  have line : forall text : Text, '\n' ∉ text -> '\n' ∉ front ++ text ++ back := by
    intro text clear member
    rcases List.mem_append.mp member with early | late
    · rcases List.mem_append.mp early with early | inside
      · exact clearFront early
      · exact clear inside
    · exact clearBack late
  have cut := congrArg (Text.splitOnce '\n') same
  rw [Text.splitOnce_append (line path clearPath), Text.splitOnce_append (line other clearOther)]
    at cut
  have parts := Prod.mk.inj (Option.some.inj cut)
  constructor
  · exact List.append_cancel_left (List.append_cancel_right parts.1)
  · exact List.append_cancel_left (List.append_cancel_right parts.2)

theorem newline_not_mem_of_word {text : Text}
    (word : forall char, char ∈ text -> asciiWhite char = false) : '\n' ∉ text :=
  fun member => nomatch word _ member

theorem fixedHeaders_lines :
    forall line, line ∈ fixedHeaders -> line ≠ [] ∧ '\r' ∉ line ∧ '\n' ∉ line := by
  decide +kernel

/-- The server is asked for what is denoted. -/
theorem asks_iff {split : SplitUrl} {denoted : Denoted} :
    (exists request : GetRequest, request.target = denoted.path ∧
      request.headers = pageHeaders denoted.host ∧ request.text = split.request) <->
    (split.host = denoted.host ∧ split.path = denoted.path) ∧
      ('\r' ∉ denoted.host ∧ '\n' ∉ denoted.host) ∧
      forall char, char ∈ denoted.path -> asciiWhite char = false := by
  constructor
  · rintro ⟨request, target, headers, text⟩
    have word := request.word
    rw [target] at word
    have line := request.lines
    rw [headers] at line
    have host := (line _ List.mem_cons_self).2
    simp only [List.mem_append, not_or] at host
    rw [GetRequest.text_eq target headers, request_eq] at text
    have parts := requestText_inj (newline_not_mem_of_word word) host.2.2 text
    exact ⟨⟨parts.2.symm, parts.1.symm⟩, ⟨host.1.2, host.2.2⟩, word⟩
  · rintro ⟨⟨sameHost, samePath⟩, unbroken, word⟩
    have lines : forall line, line ∈ pageHeaders denoted.host ->
        line ≠ [] ∧ '\r' ∉ line ∧ '\n' ∉ line := by
      intro line member
      rcases List.mem_cons.mp member with rfl | fixed
      · simp only [List.mem_append, not_or]
        exact ⟨List.append_ne_nil_of_left_ne_nil (by decide) _, ⟨by decide, unbroken.1⟩,
          by decide, unbroken.2⟩
      · exact fixedHeaders_lines line fixed
    refine ⟨⟨denoted.path, pageHeaders denoted.host, word, lines⟩, rfl, rfl, ?_⟩
    rw [request_eq, sameHost, samePath]
    exact GetRequest.text_eq rfl rfl

section Dialing

variable {host : Text}

/-- A target is trimmed where its host begins, for it ends with a digit. -/
theorem trimmed_target (visible : host ≠ [])
    (head : forall char, host.head? = some char -> Text.isWhitespace char = false) (port : Nat) :
    Text.Trimmed (host ++ ':' :: Nat.toDigits 10 port) := by
  refine Text.trimmed_append visible head (List.cons_ne_nil _ _) ?_
  intro char last
  rw [List.getLast?_cons_of_ne_nil Nat.toDigits_ne_nil] at last
  exact Text.isWhitespace_of_mem_toDigits (List.mem_of_getLast? last)

theorem newline_not_mem_target (single : '\n' ∉ host) (port : Nat) :
    '\n' ∉ host ++ ':' :: Nat.toDigits 10 port := by
  intro member
  rcases List.mem_append.mp member with inside | behind
  · exact single inside
  · rcases List.mem_cons.mp behind with colon | digit
    · cases colon
    · exact Text.newline_not_mem_toDigits port digit

/-- A host without an at sign does not make a probe. -/
theorem not_measure (visible : host ≠ []) (absent : '@' ∉ host) (behind : Text) :
    ¬ measurePrefix <+: host ++ behind := by
  cases host with
  | nil => exact absurd rfl visible
  | cons first rest =>
      intro starts
      have same : '@' = first := (List.cons_prefix_cons.mp starts).1
      exact absent (same ▸ List.mem_cons_self)

/-- Trimming yields the target for another port only if the ports are the same and there
is nothing to trim. -/
theorem trim_target_eq (visible : host ≠ []) {port other : Nat}
    (same : Text.trim (host ++ ':' :: Nat.toDigits 10 port) =
      host ++ ':' :: Nat.toDigits 10 other) :
    port = other ∧ forall char, host.head? = some char -> Text.isWhitespace char = false := by
  have shown : exists char, char ∈ host ++ ':' :: Nat.toDigits 10 port ∧
      Text.isWhitespace char = false :=
    ⟨':', List.mem_append_right _ List.mem_cons_self, rfl⟩
  have head : forall char, host.head? = some char -> Text.isWhitespace char = false := by
    intro char first
    apply (Text.trimmed_trim shown).head
    rw [same, List.head?_append_of_ne_nil _ visible]
    exact first
  refine ⟨?_, head⟩
  have kept := @Text.Trimmed.trim_append _ [] (trimmed_target visible head port) nofun
  rw [List.append_nil, same] at kept
  exact (Text.toDigits_inj (List.cons.inj (List.append_cancel_left kept)).2).symm

end Dialing

/-- The server that is denoted is dialed. -/
theorem dials_iff {split : SplitUrl} {denoted : Denoted} (same : split.host = denoted.host)
    (visible : denoted.host ≠ []) (single : '\n' ∉ denoted.host) (absent : '@' ∉ denoted.host) :
    (forall payload clientFinishes schedule stream, split.Sends payload ->
      run GatewayStream.step
        (GatewayStream.start (clientStream split.target payload) clientFinishes) schedule =
          some stream ->
      GatewayStream.Carried denoted.target payload schedule stream ∧
        forall left, stream.phase ≠ .measuring left) <->
    split.port = denoted.port ∧
      forall char, denoted.host.head? = some char -> Text.isWhitespace char = false := by
  have target : split.target = denoted.host ++ ':' :: Nat.toDigits 10 split.port := by
    rw [SplitUrl.target, same]
  rw [target]
  constructor
  · intro dials
    have clear := GatewayStream.clear_encode (newline_not_mem_target single split.port)
    rcases GatewayStream.exists_lineRead clear (Text.encode split.request) true with
      ⟨stream, schedule, ran, phase, dialing⟩
    have sends : split.Sends (Text.encode split.request) := by
      rw [SplitUrl.Sends]
      split
      · rfl
      · trivial
    rw [← GatewayStream.clientStream_eq] at ran
    have carried := dials _ _ _ _ sends ran
    have shown : exists char, char ∈ denoted.host ++ ':' :: Nat.toDigits 10 split.port ∧
        Text.isWhitespace char = false :=
      ⟨':', List.mem_append_right _ List.mem_cons_self, rfl⟩
    rcases GatewayStream.accept_visible shown with ⟨left, measuring⟩ | dials
    · exact absurd (phase.trans measuring) (carried.2 left)
    · have dialed := carried.1.dialed
      rw [dialing _ (phase.trans dials)] at dialed
      exact trim_target_eq visible (List.cons_prefix_cons.mp dialed).1
  · rintro ⟨samePort, head⟩ payload clientFinishes schedule stream _ ran
    rw [samePort] at ran
    have trimmed := trimmed_target visible head denoted.port
    have clear := newline_not_mem_target single denoted.port
    have ordinary := not_measure visible absent (':' :: Nat.toDigits 10 denoted.port)
    refine ⟨GatewayStream.carried_of_run trimmed clear ordinary ran, ?_⟩
    intro left phase
    have carrying : stream.Carrying denoted.target payload false :=
      GatewayStream.carrying_of_run trimmed clear ordinary nofun ran
    rw [GatewayStream.Carrying, phase] at carrying
    exact carrying

/-- A URL is carried faithfully if and only if it is plain and clean. -/
theorem fetch_faithful_iff {url : Text} {split : SplitUrl} (accepted : splitUrl url = some split) :
    (exists denoted, denote url = some denoted ∧ Faithful split denoted) <->
      exists denoted, denote url = some denoted ∧ Plain url denoted ∧ Clean denoted := by
  have visible := (splitUrl_eq_some.mp accepted).2.2.1
  apply exists_congr
  intro denoted
  apply and_congr_right
  intro meaning
  rcases denote_eq_some meaning with ⟨_, _, _, absent, _⟩
  rw [← splitUrl_denoted_iff accepted meaning]
  constructor
  · rintro ⟨dials, asks⟩
    rcases asks_iff.mp asks with ⟨⟨sameHost, samePath⟩, unbroken, word⟩
    rw [sameHost] at visible
    rcases (dials_iff sameHost visible unbroken.2 absent).mp dials with ⟨samePort, head⟩
    exact ⟨⟨sameHost, samePort, samePath⟩, unbroken, head, word⟩
  · rintro ⟨⟨sameHost, samePort, samePath⟩, clean⟩
    rw [sameHost] at visible
    exact ⟨(dials_iff sameHost visible clean.unbroken.2 absent).mpr ⟨samePort, clean.head⟩,
      asks_iff.mpr ⟨⟨sameHost, samePath⟩, clean.unbroken, clean.word⟩⟩

theorem fetch_faithful_port :
    splitUrl "http://h:8080/a?b".toList =
        some ⟨.http, "h".toList, 8080, "/a?b".toList⟩ ∧
      exists denoted, denote "http://h:8080/a?b".toList = some denoted ∧
        Faithful ⟨.http, "h".toList, 8080, "/a?b".toList⟩ denoted := by
  have accepted : splitUrl "http://h:8080/a?b".toList =
      some ⟨.http, "h".toList, 8080, "/a?b".toList⟩ := by
    decide +kernel
  refine ⟨accepted, (fetch_faithful_iff accepted).mpr
    ⟨⟨.http, "h".toList, 8080, "/a?b".toList⟩, by decide +kernel, ?_, ?_⟩⟩
  · exact ⟨"h:8080/a?b".toList, ":8080".toList, "/a?b".toList, by decide +kernel, .inl rfl, rfl,
      .read "8080".toList (by decide) (by decide) (by decide), .inl rfl⟩
  · refine ⟨by decide, ?_, ?_⟩
    · intro char first
      cases first
      rfl
    · intro char member
      change char ∈ ['/', 'a', '?', 'b'] at member
      simp only [List.mem_cons, List.not_mem_nil, or_false] at member
      rcases member with rfl | rfl | rfl | rfl <;> rfl

/-- The parts of a URL with an address in brackets. -/
def bracketed : SplitUrl := ⟨.http, "[:".toList, 80, "/".toList⟩

/-- The parts of a URL with a host that asks for a probe. -/
def probing : SplitUrl := ⟨.http, "@measure 5".toList, 80, "/".toList⟩

/-- An address in brackets is cut at its last colon, and the gateway dials what is left; a
host may also make it measure. -/
theorem bracketed_address_not_dialed :
    splitUrl "http://[::1]/".toList = some bracketed ∧
    (exists schedule stream, run GatewayStream.step (GatewayStream.start
        (clientStream bracketed.target (Text.encode bracketed.request)) true) schedule =
          some stream ∧ stream.dialed = ["[::80".toList]) ∧
    (¬ exists denoted, denote "http://[::1]/".toList = some denoted ∧
      Faithful bracketed denoted) ∧
    splitUrl "http://@measure 5/".toList = some probing ∧
    exists schedule stream, run GatewayStream.step (GatewayStream.start
        (clientStream probing.target (Text.encode probing.request)) true) schedule =
          some stream ∧ stream.phase = .measuring 0 := by
  refine ⟨by decide +kernel, ?_, ?_, by decide +kernel, ?_⟩
  · have clear := GatewayStream.clear_encode (show '\n' ∉ bracketed.target by decide +kernel)
    rcases GatewayStream.exists_lineRead clear (Text.encode bracketed.request) true with
      ⟨stream, schedule, ran, phase, dialing⟩
    rw [← GatewayStream.clientStream_eq] at ran
    exact ⟨schedule, stream, ran, dialing _ phase⟩
  · rintro ⟨denoted, meaning, faithful⟩
    have known : denote "http://[::1]/".toList =
        some ⟨.http, "[::1]".toList, 80, "/".toList⟩ := by
      decide +kernel
    rw [known] at meaning
    cases meaning
    have host : "[:".toList = "[::1]".toList := (asks_iff.mp faithful.asks).1.1
    exact absurd host (by decide)
  · have clear := GatewayStream.clear_encode (show '\n' ∉ probing.target by decide +kernel)
    rcases GatewayStream.exists_lineRead clear (Text.encode probing.request) true with
      ⟨stream, schedule, ran, phase, _⟩
    rw [← GatewayStream.clientStream_eq] at ran
    exact ⟨schedule, stream, ran, phase⟩

end Fetch
end QuicMix
